import Triage.Clause.Host
import Triage.Proofs.Clauses
import Triage.Proofs.PathNames

/-!
# Clauses about services

A clause about services is asked of one unit, the first whose name starts as the clause says
(`services_congr`). It wants states of this unit, and the two operators that there are answer
contrary to each other, also where no state is wanted (`services_decide`).
-/

namespace Triage.Clause

open Host
open Condition (Selects)

/-- The name of the service starts so. -/
def Starts (unit : String) (service : Service) : Prop := unit.toList <+: service.unit.toList

instance (unit : String) : DecidablePred (Starts unit) := fun _ =>
  inferInstanceAs (Decidable (_ <+: _))

/-- The service is in each of the states that are wanted, the active state first, then the sub state
and the load state. A blank and a star want none. -/
def Meets (wanted : List String) (service : Service) : Prop :=
  ∀ p ∈ wanted.zip [service.active, service.sub, service.load], p.1 = "" ∨ p.1 = "*" ∨ p.1 = p.2

instance (wanted : List String) : DecidablePred (Meets wanted) := fun _ =>
  inferInstanceAs (Decidable (∀ p ∈ _, _))

section Services

variable {clause unit states : String} {op : Comparison} {wanted : List String}
  {units others before after : List Service} {first : Service}

theorem constraints_all_iff (hne : wanted ≠ []) (hcomma : ∀ state ∈ wanted, ',' ∉ state.toList)
    (service : Service) : ((constraints (",".intercalate wanted) service).all
      fun (wanted, actual) => wanted == actual) = true ↔ Meets wanted service := by
  rw [constraints, splitString_intercalate rfl hne hcomma, List.all_filter, Meets]
  rcases wanted with _ | ⟨active, _ | ⟨sub, _ | ⟨load, rest⟩⟩⟩
  · exact absurd rfl hne
  · simp [or_assoc]
  · simp [or_assoc]
  · simp [or_assoc]

/-- What a clause says of the first service whose name starts as it wants, if there is one. -/
theorem services_of_selects (h : Selects clause unit op states) (hop : op.isEquality = true) :
    services clause units = .ok (match units.find? fun service => Starts unit service with
      | none => false
      | some service => ((constraints states service).all fun (wanted, actual) => wanted == actual)
        == (op == .equal)) := by
  have hfind : (units.find? fun service => Starts unit service) =
      units.find? fun service => unit.toList.isPrefixOf service.unit.toList := by
    congr 1
    funext service
    rw [← Bool.coe_iff_coe, decide_eq_true_iff, Starts, List.isPrefixOf_iff_prefix]
  rw [services, Condition.parseSelected_eq_ok_iff.2 h, ok_bind, hfind]
  simp only [hop, Bool.not_true]
  cases units.find? fun service => unit.toList.isPrefixOf service.unit.toList <;> rfl

theorem find?_starts_eq_some (hbefore : ∀ service ∈ before, ¬ Starts unit service)
    (hfirst : Starts unit first) :
    (before ++ first :: after).find? (fun service => Starts unit service) = some first :=
  List.find?_eq_some_iff_append.2
    ⟨decide_eq_true hfirst, before, after, rfl, by simpa using hbefore⟩

theorem find?_starts_eq_none (hnone : ∀ service ∈ units, ¬ Starts unit service) :
    units.find? (fun service => Starts unit service) = none :=
  List.find?_eq_none.2 (by simpa using hnone)

/-- Only the first service whose name starts as the clause says has a part in the answer. -/
theorem services_congr (h : Selects clause unit op states)
    (hfind : units.find? (fun service => Starts unit service) =
      others.find? fun service => Starts unit service) :
    services clause units = services clause others := by
  cases hop : op.isEquality with
  | true => rw [services_of_selects h hop, services_of_selects h hop, hfind]
  | false =>
    have hrefused (units : List Service) :
        services clause units = .error (.unorderedServices op) := by
      rw [services, Condition.parseSelected_eq_ok_iff.2 h, ok_bind]
      simp only [hop]
      rfl
    rw [hrefused, hrefused]

/-- The clause is about the first service that it can be about. -/
theorem services_of_first (hop : op.isEquality = true) (hne : wanted ≠ [])
    (hcomma : ∀ state ∈ wanted, ',' ∉ state.toList)
    (h : Selects clause unit op (",".intercalate wanted))
    (hbefore : ∀ service ∈ before, ¬ Starts unit service) (hfirst : Starts unit first) :
    services clause (before ++ first :: after) =
      .ok (decide (Meets wanted first) == (op == .equal)) := by
  rw [services_of_selects h hop, find?_starts_eq_some hbefore hfirst]
  dsimp only
  congr 2
  rw [← Bool.coe_iff_coe, constraints_all_iff hne hcomma, decide_eq_true_iff]

theorem services_of_none (hop : op.isEquality = true) (h : Selects clause unit op states)
    (hnone : ∀ service ∈ units, ¬ Starts unit service) : services clause units = .ok false := by
  rw [services_of_selects h hop, find?_starts_eq_none hnone]

end Services

/-- A clause is asked of the first service whose name starts as it says, whatever stands before and
after this one. With equality it holds when the service is in all states that are wanted, with the
negation it holds when it is not; and both are answered with no when there is no such service. -/
theorem services_decide {unit same different : String} {wanted : List String} (hne : wanted ≠ [])
    (hcomma : ∀ state ∈ wanted, ',' ∉ state.toList)
    (hsame : Selects same unit .equal (",".intercalate wanted))
    (hdifferent : Selects different unit .notEqual (",".intercalate wanted)) :
    (∀ before first after, (∀ service ∈ before, ¬ Starts unit service) → Starts unit first →
      ∃ answer, services same (before ++ first :: after) = .ok answer
        ∧ services different (before ++ first :: after) = .ok (!answer)
        ∧ (answer = true ↔ Meets wanted first))
    ∧ (∀ units, (∀ service ∈ units, ¬ Starts unit service) →
      services same units = .ok false ∧ services different units = .ok false)
    ∧ ∀ clause op states, Selects clause unit op states →
      ∀ before first after, (∀ service ∈ before, ¬ Starts unit service) → Starts unit first →
        services clause (before ++ first :: after) = services clause [first] := by
  refine ⟨fun before first after hbefore hfirst => ?_, fun units hnone => ?_,
    fun clause op states h before first after hbefore hfirst => ?_⟩
  · refine ⟨decide (Meets wanted first), ?_, ?_, decide_eq_true_iff⟩
    · rw [services_of_first rfl hne hcomma hsame hbefore hfirst]
      simp
    · have hop : (Comparison.notEqual == Comparison.equal) = false := by decide
      rw [services_of_first rfl hne hcomma hdifferent hbefore hfirst, hop, beq_false]
  · exact ⟨services_of_none rfl hsame hnone, services_of_none rfl hdifferent hnone⟩
  · refine services_congr h ?_
    rw [find?_starts_eq_some hbefore hfirst]
    exact (@find?_starts_eq_some unit [] [] first nofun hfirst).symm

section Sample

def cron : Service := ⟨"cron.service", "loaded", "failed", "failed"⟩

def firewall : Service := ⟨"ufw.service", "loaded", "active", "running"⟩

/-- Its name starts as that of the firewall does. -/
def firewallSetup : Service := ⟨"ufw-init.service", "loaded", "inactive", "dead"⟩

/-- A star wants nothing of the sub state, and the answer stays that of the firewall when another
unit with such a name follows. Without a unit of the name neither clause holds. -/
theorem services_decide_of_firewall :
    services "ufw == active,*,loaded" [cron, firewall, firewallSetup] = .ok true
    ∧ services "ufw != active,*,loaded" [cron, firewall, firewallSetup] = .ok false
    ∧ services "ufw == active,*,loaded" [cron] = .ok false
    ∧ services "ufw != active,*,loaded" [cron] = .ok false := by
  have hsame : Selects "ufw == active,*,loaded" "ufw" .equal
      (",".intercalate ["active", "*", "loaded"]) :=
    Condition.parseSelected_eq_ok_iff.1 (by decide +kernel)
  have hdifferent : Selects "ufw != active,*,loaded" "ufw" .notEqual
      (",".intercalate ["active", "*", "loaded"]) :=
    Condition.parseSelected_eq_ok_iff.1 (by decide +kernel)
  have hcron : ∀ service ∈ [cron], ¬ Starts "ufw" service := by decide +kernel
  have hcomma : ∀ state ∈ ["active", "*", "loaded"], ',' ∉ state.toList := by decide +kernel
  obtain ⟨hfound, hnone, hfirst⟩ := services_decide (List.cons_ne_nil _ _) hcomma hsame hdifferent
  obtain ⟨answer, hequal, hnotEqual, hmeets⟩ :=
    hfound [cron] firewall [firewallSetup] hcron (by decide +kernel)
  obtain rfl : answer = true := hmeets.2 (by decide +kernel)
  exact ⟨hequal, hnotEqual, (hnone [cron] hcron).1, (hnone [cron] hcron).2⟩

end Sample

end Triage.Clause
