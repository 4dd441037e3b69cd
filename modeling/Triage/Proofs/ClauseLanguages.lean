import Triage.Clause.Cluster
import Triage.Clause.Host
import Triage.Proofs.FirstMatch
import Triage.Proofs.Quantities

/-!
# Clauses at fault

A clause belongs to a language, and the language says which clauses it admits (`Language.Admits`).
What a clause is asked of has no part in that: a clause that is not admitted fails with one error
whatever it is asked of, and one that is admitted is always answered (`Settles`). So a clause at
fault that a resolution comes to ends it with an error, on all evidence alike
(`fault_of_clause_alone`).
-/

namespace Triage

namespace Text

/-- An integer of 64 bits as it is written in decimal, perhaps after a sign. -/
inductive SpellsInteger : List Char → ℤ → Prop
  | plain {digits : List Char} (hne : digits ≠ []) (hdigits : ∀ c ∈ digits, c.isDigit = true)
    (hfits : digitsValue digits < 2 ^ 63) : SpellsInteger digits (digitsValue digits)
  | plus {digits : List Char} (hne : digits ≠ []) (hdigits : ∀ c ∈ digits, c.isDigit = true)
    (hfits : digitsValue digits < 2 ^ 63) : SpellsInteger ('+' :: digits) (digitsValue digits)
  | minus {digits : List Char} (hne : digits ≠ []) (hdigits : ∀ c ∈ digits, c.isDigit = true)
    (hfits : digitsValue digits ≤ 2 ^ 63) : SpellsInteger ('-' :: digits) (-digitsValue digits)

/-- A text that stands for an integer of 64 bits. -/
def IsInteger (s : List Char) : Prop := ∃ i, SpellsInteger s i

theorem signed64?_eq_some_iff {s : List Char} {i : ℤ} :
    signed64? s = some i ↔ SpellsInteger s i := by
  constructor
  · intro h
    unfold signed64? at h
    split at h
    · obtain ⟨n, hn, h⟩ := Option.bind_eq_some_iff.1 h
      obtain ⟨hne, hdigits, rfl⟩ := natural?_eq_some_iff.1 hn
      split_ifs at h with hfits
      cases h
      exact .minus hne hdigits hfits
    · obtain ⟨n, hn, h⟩ := Option.bind_eq_some_iff.1 h
      split_ifs at h with hfits
      cases h
      obtain ⟨hne, hdigits⟩ | ⟨hne, hdigits⟩ := unsigned?_eq_some_iff.1 hn
      · exact .plain hne hdigits hfits
      · exact .plus hne hdigits hfits
  · intro h
    rcases h with ⟨hne, hdigits, hfits⟩ | @⟨digits, hne, hdigits, hfits⟩ |
      @⟨digits, hne, hdigits, hfits⟩
    · have hunsigned := unsigned?_eq_some_iff.2 (.plain hne hdigits)
      have hfits : digitsValue s < powerOfTwo 63 := hfits
      -- a run of digits does not start with a sign
      obtain ⟨c, digits, rfl⟩ := List.exists_cons_of_ne_nil hne
      have hc : c ≠ '-' := by
        rintro rfl
        exact absurd (hdigits '-' List.mem_cons_self) (by decide)
      simp [signed64?, hc, hunsigned, hfits]
    · have hunsigned := unsigned?_eq_some_iff.2 (.plus hne hdigits)
      have hfits : digitsValue digits < powerOfTwo 63 := hfits
      simp [signed64?, hunsigned, hfits]
    · have hnatural := natural?_eq_some_iff.2 ⟨hne, hdigits, rfl⟩
      have hfits : digitsValue digits ≤ powerOfTwo 63 := hfits
      simp [signed64?, hnatural, hfits]

theorem signed64?_eq_none_iff {s : List Char} : signed64? s = none ↔ ¬ IsInteger s := by
  simp only [Option.eq_none_iff_forall_ne_some, Ne, signed64?_eq_some_iff, IsInteger, not_exists]

end Text

namespace Clause

open Condition (Puts Selects)

/-- Languages of clauses whose answer follows from one piece of evidence. -/
inductive Language where
  | quantity
  | processor
  | clock
  | services
  | disk
  | runtime
  | job
  | count
  | boolean
  deriving DecidableEq, Repr

namespace Language

/-- What the clauses of a language are asked of. -/
def Evidence : Language → Type
  | quantity => ℕ
  | processor => Host.Processor
  | clock => Host.Clock
  | services => List Host.Service
  | disk => Host.Disk
  | runtime => List String
  | job => Cluster.Job
  | count => ℤ
  | boolean => Bool

/-- The answer of a piece of evidence to a clause. -/
def ask : (language : Language) → String → language.Evidence → Answer
  | quantity => Clause.quantity
  | processor => Clause.processor
  | clock => Clause.clock
  | services => Clause.services
  | disk => Clause.disk
  | runtime => Clause.runtime
  | job => Clause.job
  | count => Clause.count
  | boolean => Clause.boolean

/-- A number of bytes that fits 64 bits. -/
def IsQuantity (operand : String) : Prop :=
  ∃ n : ℕ, Quantity.Spells operand.toList n ∧ n < 2 ^ 64

/-- The clauses of a language. -/
inductive Admits : Language → String → Prop
  | quantity {clause : String} {op : Comparison} {operand : String} (h : Puts clause op operand)
    (hoperand : IsQuantity operand) : Admits quantity clause
  | supports {clause verb level : String}
    (h : Text.Spaced clause.toList [verb.toList, level.toList])
    (hverb : sameToken verb "supports" = true)
    (hlevel : level ∈ ["x86-64", "x86-64-v2", "x86-64-v3", "x86-64-v4"]) : Admits processor clause
  | hasFlags {clause verb flags : String}
    (h : Text.Spaced clause.toList [verb.toList, flags.toList])
    (hverb : sameToken verb "hasFlags" = true) : Admits processor clause
  | processors {clause : String} {op : Comparison} {operand : String} (h : Puts clause op operand)
    (hoperand : Text.IsInteger operand.toList) : Admits processor clause
  | processorsOf {clause selector : String} {op : Comparison} {operand : String}
    (h : Selects clause selector op operand)
    (hselector : lowered selector ∈ ["logical", "physical", "count"])
    (hoperand : Text.IsInteger operand.toList) : Admits processor clause
  | architecture {clause selector : String} {op : Comparison} {name : String}
    (h : Selects clause selector op name) (hselector : lowered selector = "machinearch")
    (hop : op.isEquality = true) : Admits processor clause
  | timezone {clause : String} {op : Comparison} {name : String}
    (h : Selects clause "timezone" op name) (hop : op.isEquality = true) : Admits clock clause
  | ntp {clause : String} {op : Comparison} {state : String} (h : Selects clause "ntp" op state)
    (hstate : state ∈ ntpStates) (hop : op.isEquality = true) : Admits clock clause
  | services {clause unit : String} {op : Comparison} {states : String}
    (h : Selects clause unit op states) (hop : op.isEquality = true) : Admits services clause
  | space {clause statistic : String} {op : Comparison} {operand : String}
    (h : Selects clause statistic op operand)
    (hstatistic : lowered statistic ∈ ["total", "used", "available"])
    (hoperand : IsQuantity operand) : Admits disk clause
  | share {clause statistic : String} {op : Comparison} {operand : String} {ratio : Binary64}
    (h : Selects clause statistic op operand)
    (hstatistic : lowered statistic ∈ ["used/total", "available/total"])
    (hoperand : readRatio operand = .ok ratio) : Admits disk clause
  | runtime {clause : String} {op : Comparison} {name : String} (h : Puts clause op name)
    (hop : op.isEquality = true) : Admits runtime clause
  | job {clause selector : String} {op : Comparison} {operand : String}
    (h : Selects clause selector op operand) (hselector : selector ∈ ["succeeded", "failed"])
    (hoperand : Text.IsInteger operand.toList) : Admits job clause
  | count {clause : String} {op : Comparison} {operand : String} (h : Puts clause op operand)
    (hoperand : Text.IsInteger operand.toList) : Admits count clause
  | boolean {clause : String} {value : Bool} (h : boolOfText? (trimmed clause) = some value) :
    Admits boolean clause

end Language

section Settling

variable {α β ε γ : Type}

/-- If the condition holds there is an answer whatever is asked, and if not there is one error. -/
inductive Settles (ask : α → Except ε β) (p : Prop) : Prop
  | admitted (h : p) (hanswer : ∀ x, ∃ answer, ask x = .ok answer)
  | refused (h : ¬ p) (e : ε) (herror : ∀ x, ask x = .error e)

namespace Settles

variable {ask : α → Except ε β} {p q : Prop}

theorem congr (h : Settles ask p) (hiff : p ↔ q) : Settles ask q := by
  rwa [← hiff]

theorem comap (h : Settles ask p) (f : γ → α) : Settles (fun x => ask (f x)) p := by
  rcases h with ⟨h, hanswer⟩ | ⟨h, e, herror⟩
  · exact .admitted h fun x => hanswer (f x)
  · exact .refused h e fun x => herror (f x)

theorem answered (answer : α → β) (h : p) : Settles (fun x => (.ok (answer x) : Except ε β)) p :=
  .admitted h fun x => ⟨answer x, rfl⟩

theorem failed (e : ε) (h : ¬ p) : Settles (fun _ : α => (.error e : Except ε β)) p :=
  .refused h e fun _ => rfl

theorem ite {other : α → Except ε β} (c : Prop) [Decidable c] (h : Settles ask p)
    (h' : Settles other q) :
    Settles (fun x => if c then ask x else other x) (if c then p else q) := by
  by_cases hc : c
  · simpa only [if_pos hc] using h
  · simpa only [if_neg hc] using h'

/-- What is read of a clause comes before the question. -/
theorem bind {ask : γ → α → Except ε β} {p : γ → Prop} (read : Except ε γ)
    (h : ∀ c, read = .ok c → Settles (ask c) (p c)) :
    Settles (fun x => read >>= fun c => ask c x) (∃ c, read = .ok c ∧ p c) := by
  cases read with
  | error e => exact .refused (by simp) e fun _ => rfl
  | ok c => exact (h c rfl).congr (by simp)

end Settles

end Settling

section Operands

variable {op : Comparison} {operand : String}

theorem readInteger_eq_ok (h : Text.Solid operand.toList) {i : ℤ} :
    readInteger operand = .ok i ↔ Text.SpellsInteger operand.toList i := by
  unfold readInteger
  rw [Text.trim_of_solid h, ← Text.signed64?_eq_some_iff]
  cases Text.signed64? operand.toList <;> simp

theorem parse_eq_ok_of_solid (h : Text.Solid operand.toList) {n : ℕ} :
    Quantity.parse operand = .ok n ↔ Quantity.Spells operand.toList n ∧ n < 2 ^ 64 := by
  rw [Quantity.parse_eq_ok, Text.trim_of_solid h]

theorem settles_integer (h : Text.Solid operand.toList) :
    Settles (integer op operand) (Text.IsInteger operand.toList) := by
  refine (Settles.bind (p := fun _ => True) (readInteger operand) fun i _ =>
    .answered (fun actual => op.compare actual i) trivial).congr ?_
  simp only [and_true, readInteger_eq_ok h, Text.IsInteger]

theorem settles_bytes (h : Text.Solid operand.toList) :
    Settles (bytes op operand) (Language.IsQuantity operand) := by
  refine (Settles.bind (p := fun _ => True) (Quantity.parse operand) fun n _ =>
    .answered (fun actual => op.compare actual n) trivial).congr ?_
  simp only [and_true, parse_eq_ok_of_solid h, Language.IsQuantity]

theorem settles_ratio : Settles (fun p : ℕ × ℕ => ratio op operand p.1 p.2)
    (∃ expected, readRatio operand = .ok expected) := by
  refine (Settles.bind (p := fun _ => True) (readRatio operand) fun expected _ =>
    .answered (fun p : ℕ × ℕ => op.holds ((share p.1 p.2).order expected)) trivial).congr ?_
  simp only [and_true]

/-- Only the operators of equality apply to a fact. -/
theorem settles_ofEquality {α : Type} (op : Comparison) (e : ConditionError) (same : α → Bool) :
    Settles (fun x => match op.ofEquality? (same x) with
      | some answer => (.ok answer : Answer)
      | none => .error e) (op.isEquality = true) := by
  cases op with
  | equal => exact .answered (fun x => same x) rfl
  | notEqual => exact .answered (fun x => !same x) rfl
  | _ => exact .failed e nofun

end Operands

section Languages

variable {α : Type} (clause : String)

open Triage.Clause.Language (Admits)

/-- A clause without a selector is read first, and what it puts is asked then. -/
theorem settles_unselected (ask : Comparison → String → α → Answer)
    {p : Comparison → String → Prop}
    (h : ∀ op operand, Text.Solid operand.toList → Settles (ask op operand) (p op operand)) :
    Settles (fun x => Condition.parseUnselected clause >>= fun (op, operand) => ask op operand x)
      (∃ op operand, Puts clause op operand ∧ p op operand) := by
  refine (Settles.bind (p := fun c => p c.1 c.2) _ fun ⟨op, operand⟩ hread =>
    h op operand (Condition.parseUnselected_eq_ok_iff.1 hread).solid).congr ?_
  simp only [Prod.exists, Condition.parseUnselected_eq_ok_iff]

/-- A clause with a selector is read first too. If it cannot be read, that is the answer; if it can,
it is known what it selects. -/
theorem settles_selected {ask : α → Answer} {p : String → Comparison → String → Prop}
    (hrefused : ∀ e, Condition.parseSelected clause = .error e → ∀ x, ask x = .error e)
    (hread : ∀ selector op operand, Text.Solid operand.toList →
      Condition.parseSelected clause = .ok (selector, op, operand) →
      Settles ask (p selector op operand)) :
    Settles ask (∃ selector op operand, Selects clause selector op operand
      ∧ p selector op operand) := by
  cases hclause : Condition.parseSelected clause with
  | error e =>
    refine .refused ?_ e (hrefused e hclause)
    rintro ⟨selector, op, operand, h, -⟩
    rw [Condition.parseSelected_eq_ok_iff.2 h] at hclause
    cases hclause
  | ok c =>
    obtain ⟨selector, op, operand⟩ := c
    have h := Condition.parseSelected_eq_ok_iff.1 hclause
    refine (hread selector op operand h.solid hclause).congr ⟨fun hp => ⟨_, _, _, h, hp⟩, ?_⟩
    rintro ⟨selector', op', operand', h', hp⟩
    obtain ⟨rfl, rfl, rfl⟩ := h.unique h'
    exact hp

theorem settles_quantity : Settles (Clause.quantity clause) (Admits .quantity clause) := by
  have h := settles_unselected clause bytes fun op operand => settles_bytes
  refine Settles.congr h ⟨?_, ?_⟩
  · rintro ⟨op, operand, h, hoperand⟩
    exact .quantity h hoperand
  · intro h
    cases h with
    | quantity h hoperand => exact ⟨_, _, h, hoperand⟩

theorem settles_count : Settles (Clause.count clause) (Admits .count clause) := by
  have h := settles_unselected clause integer fun op operand => settles_integer
  refine Settles.congr h ⟨?_, ?_⟩
  · rintro ⟨op, operand, h, hoperand⟩
    exact .count h hoperand
  · intro h
    cases h with
    | count h hoperand => exact ⟨_, _, h, hoperand⟩

theorem settles_runtime : Settles (Clause.runtime clause) (Admits .runtime clause) := by
  have h := settles_unselected clause _ fun op expected _ =>
    settles_ofEquality op (.unorderedRuntimes op) fun runtimes : List String =>
      runtimes.any (sameToken · expected)
  refine Settles.congr h ⟨?_, ?_⟩
  · rintro ⟨op, name, h, hop⟩
    exact .runtime h hop
  · intro h
    cases h with
    | runtime h hop => exact ⟨_, _, h, hop⟩

theorem settles_boolean : Settles (Clause.boolean clause) (Admits .boolean clause) := by
  have hread (value : Bool) : readBool clause = .ok value ↔
      boolOfText? (trimmed clause) = some value := by
    unfold readBool
    cases boolOfText? (trimmed clause) <;> simp
  refine (Settles.bind (p := fun _ => True) (readBool clause) fun value _ =>
    .answered (fun actual => value == actual) trivial).congr ?_
  simp only [and_true, hread]
  constructor
  · rintro ⟨value, h⟩
    exact .boolean h
  · intro h
    cases h with
    | boolean h => exact ⟨_, h⟩

theorem settles_job : Settles (Clause.job clause) (Admits .job clause) := by
  refine (settles_selected clause (p := fun selector _ operand =>
    selector ∈ ["succeeded", "failed"] ∧ Text.IsInteger operand.toList)
    (fun e h job => by rw [Clause.job, h]; rfl) fun selector op operand hsolid h => ?_).congr
      ⟨?_, ?_⟩
  · unfold Clause.job
    simp only [h, ok_bind]
    have hinteger := @settles_integer op operand hsolid
    split
    · exact (hinteger.comap fun job : Cluster.Job => job.status.succeeded).congr (by simp)
    · exact (hinteger.comap fun job : Cluster.Job => job.status.failed).congr (by simp)
    · rename_i hsucceeded hfailed
      exact .failed _ fun h => (List.mem_pair.1 h.1).elim hsucceeded hfailed
  · rintro ⟨selector, op, operand, h, hselector, hoperand⟩
    exact .job h hselector hoperand
  · intro h
    cases h with
    | job h hselector hoperand => exact ⟨_, _, _, h, hselector, hoperand⟩

theorem settles_clock : Settles (Clause.clock clause) (Admits .clock clause) := by
  refine (settles_selected clause (p := fun selector op operand =>
    (selector = "timezone" ∨ selector = "ntp" ∧ operand ∈ ntpStates) ∧ op.isEquality = true)
    (fun e h c => by rw [Clause.clock, h]; rfl) fun selector op operand _ h => ?_).congr ⟨?_, ?_⟩
  · unfold Clause.clock
    simp only [h, ok_bind]
    split
    · exact (settles_ofEquality op _ fun c : Host.Clock => c.timezone == operand).congr (by simp)
    · by_cases hstate : operand ∈ ntpStates
      · simp only [List.contains_iff_mem, hstate, if_true]
        exact (settles_ofEquality op _ fun c : Host.Clock => ntpState c == operand).congr (by simp)
      · simp only [List.contains_iff_mem, hstate, if_false]
        exact .failed _ (by simp)
    · rename_i htimezone hntp
      exact .failed _ fun h => h.1.elim htimezone fun h => hntp h.1
  · rintro ⟨selector, op, operand, h, rfl | ⟨rfl, hstate⟩, hop⟩
    · exact .timezone h hop
    · exact .ntp h hstate hop
  · intro h
    cases h with
    | timezone h hop => exact ⟨_, _, _, h, .inl rfl, hop⟩
    | ntp h hstate hop => exact ⟨_, _, _, h, .inr ⟨rfl, hstate⟩, hop⟩

theorem settles_services : Settles (Clause.services clause) (Admits .services clause) := by
  refine (settles_selected clause (p := fun _ op _ => op.isEquality = true)
    (fun e h units => by rw [Clause.services, h]; rfl) fun unit op states _ h => ?_).congr ⟨?_, ?_⟩
  · unfold Clause.services
    simp only [h, ok_bind]
    cases hop : op.isEquality with
    | false => exact .failed _ nofun
    | true =>
      refine .admitted rfl fun units => ?_
      cases units.find? fun service => unit.toList.isPrefixOf service.unit.toList with
      | none => exact ⟨_, rfl⟩
      | some service => exact ⟨_, rfl⟩
  · rintro ⟨unit, op, states, h, hop⟩
    exact .services h hop
  · intro h
    cases h with
    | services h hop => exact ⟨_, _, _, h, hop⟩

theorem settles_disk : Settles (Clause.disk clause) (Admits .disk clause) := by
  refine (settles_selected clause (p := fun statistic _ operand =>
    lowered statistic ∈ ["total", "used", "available"] ∧ Language.IsQuantity operand
    ∨ lowered statistic ∈ ["used/total", "available/total"]
      ∧ ∃ ratio, readRatio operand = .ok ratio)
    (fun e h d => by rw [Clause.disk, h]; rfl) fun statistic op operand hsolid h => ?_).congr
      ⟨?_, ?_⟩
  · unfold Clause.disk
    simp only [h, ok_bind]
    have hbytes := @settles_bytes op operand hsolid
    have hratio := @settles_ratio op operand
    generalize lowered statistic = word
    split
    · exact (hbytes.comap Host.Disk.totalBytes).congr (by simp)
    · exact (hbytes.comap Host.Disk.usedBytes).congr (by simp)
    · exact (hbytes.comap fun d : Host.Disk => d.totalBytes - d.usedBytes).congr (by simp)
    · exact (hratio.comap fun d : Host.Disk => (d.usedBytes, d.totalBytes)).congr (by simp)
    · exact (hratio.comap fun d : Host.Disk =>
        (d.totalBytes - d.usedBytes, d.totalBytes)).congr (by simp)
    · rename_i htotal hused havailable husedShare havailableShare
      refine .failed _ ?_
      simp only [List.mem_cons, List.not_mem_nil, or_false]
      rintro (⟨h | h | h, -⟩ | ⟨h | h, -⟩)
      · exact htotal h
      · exact hused h
      · exact havailable h
      · exact husedShare h
      · exact havailableShare h
  · rintro ⟨statistic, op, operand, h, ⟨hstatistic, hoperand⟩ | ⟨hstatistic, ratio, hoperand⟩⟩
    · exact .space h hstatistic hoperand
    · exact .share h hstatistic hoperand
  · intro h
    cases h with
    | space h hstatistic hoperand => exact ⟨_, _, _, h, .inl ⟨hstatistic, hoperand⟩⟩
    | share h hstatistic hoperand => exact ⟨_, _, _, h, .inr ⟨hstatistic, _, hoperand⟩⟩

section Processor

variable {symbol verb selector operand : String}

theorem settles_processorCount (h : Text.Solid operand.toList) :
    Settles (processorCount symbol operand)
      (∃ op, Comparison.ofSymbol? symbol = some op ∧ Text.IsInteger operand.toList) := by
  have hcount := Settles.bind (Comparison.parse symbol) fun op _ =>
    (@settles_integer op operand h).comap fun actual : ℕ =>
      ((min actual (Text.powerOfTwo 63 - 1) : ℕ) : ℤ)
  refine Settles.congr hcount ?_
  simp only [Comparison.parse_eq_ok_iff]

theorem settles_supports (level : String) : Settles (supports level)
    (level ∈ ["x86-64", "x86-64-v2", "x86-64-v3", "x86-64-v4"]) := by
  unfold supports
  cases hflags : levelFlags? level with
  | some flags =>
    refine .answered (fun p : Host.Processor => hasFlags flags p.flags) ?_
    unfold levelFlags? at hflags
    split at hflags
    · simp
    · simp
    · simp
    · simp
    · cases hflags
  | none =>
    refine .failed _ ?_
    intro h
    simp only [List.mem_cons, List.not_mem_nil, or_false] at h
    rcases h with rfl | rfl | rfl | rfl <;> cases hflags

/-- No verb is an operator. -/
theorem not_sameToken_symbol {op : Comparison} (h : Comparison.ofSymbol? symbol = some op) :
    sameToken symbol "supports" = false ∧ sameToken symbol "hasFlags" = false := by
  unfold Comparison.ofSymbol? at h
  split at h
  all_goals first | decide | cases h

theorem not_supports_of_hasFlags (h : sameToken verb "hasFlags" = true) :
    sameToken verb "supports" = false := by
  simp only [sameToken, Text.sameIgnoringCase, beq_iff_eq] at h ⊢
  rw [h]
  decide

/-- The second of two words, after a verb or an operator. -/
def FitsVerb (verb operand : String) : Prop :=
  if sameToken verb "supports" = true then
    operand ∈ ["x86-64", "x86-64-v2", "x86-64-v3", "x86-64-v4"]
  else if sameToken verb "hasFlags" = true then True
  else ∃ op, Comparison.ofSymbol? verb = some op ∧ Text.IsInteger operand.toList

/-- An operator and an operand, after a selector. -/
def FitsSelector (word symbol operand : String) : Prop :=
  ∃ op, Comparison.ofSymbol? symbol = some op
    ∧ (word ∈ ["logical", "physical", "count"] ∧ Text.IsInteger operand.toList
      ∨ word = "machinearch" ∧ op.isEquality = true)

theorem admits_processor_iff : Admits .processor clause ↔
    (∃ verb operand, wordsOf clause = [verb, operand] ∧ FitsVerb verb operand)
    ∨ ∃ selector symbol operand, wordsOf clause = [selector, symbol, operand]
      ∧ FitsSelector (lowered selector) symbol operand := by
  constructor
  · intro h
    cases h with
    | supports h hverb hlevel =>
      refine .inl ⟨_, _, wordsOf_eq_iff.2 h, ?_⟩
      rwa [FitsVerb, if_pos hverb]
    | hasFlags h hverb =>
      refine .inl ⟨_, _, wordsOf_eq_iff.2 h, ?_⟩
      rw [FitsVerb, if_neg (by simp [not_supports_of_hasFlags hverb]), if_pos hverb]
      trivial
    | processors h hoperand =>
      obtain ⟨symbol, hop, h⟩ := h
      obtain ⟨hsupports, hflags⟩ := not_sameToken_symbol hop
      refine .inl ⟨_, _, wordsOf_eq_iff.2 h, ?_⟩
      rw [FitsVerb, if_neg (by simp [hsupports]), if_neg (by simp [hflags])]
      exact ⟨_, hop, hoperand⟩
    | processorsOf h hselector hoperand =>
      obtain ⟨symbol, hop, h⟩ := h
      exact .inr ⟨_, _, _, wordsOf_eq_iff.2 h, _, hop, .inl ⟨hselector, hoperand⟩⟩
    | architecture h hselector hequality =>
      obtain ⟨symbol, hop, h⟩ := h
      exact .inr ⟨_, _, _, wordsOf_eq_iff.2 h, _, hop, .inr ⟨hselector, hequality⟩⟩
  · rintro (⟨verb, operand, hclause, h⟩ | ⟨selector, symbol, operand, hclause, op, hop, h⟩)
    · have hspaced : Text.Spaced clause.toList [verb.toList, operand.toList] :=
        wordsOf_eq_iff.1 hclause
      unfold FitsVerb at h
      split_ifs at h with hsupports hflags
      · exact .supports hspaced hsupports h
      · exact .hasFlags hspaced hflags
      · obtain ⟨op, hop, hoperand⟩ := h
        exact .processors ⟨verb, hop, hspaced⟩ hoperand
    · have hselects : Selects clause selector op operand :=
        ⟨symbol, hop, wordsOf_eq_iff.1 hclause⟩
      rcases h with ⟨hselector, hoperand⟩ | ⟨hselector, hequality⟩
      · exact .processorsOf hselects hselector hoperand
      · exact .architecture hselects hselector hequality

theorem settles_verb (hsolid : Text.Solid operand.toList) : Settles (fun p : Host.Processor =>
      if sameToken verb "supports" then supports operand p
      else if sameToken verb "hasFlags" then .ok (hasFlags (splitString ',' operand) p.flags)
      else processorCount verb operand (max p.logicalCount p.physicalCount))
    (FitsVerb verb operand) :=
  (settles_supports operand).ite _
    ((Settles.answered (fun p : Host.Processor => hasFlags (splitString ',' operand) p.flags)
      trivial).ite _
      ((settles_processorCount hsolid).comap fun p : Host.Processor =>
        max p.logicalCount p.physicalCount))

theorem settles_selector (word : String) (hsolid : Text.Solid operand.toList) :
    Settles (fun p : Host.Processor => (match word with
        | "logical" => processorCount symbol operand p.logicalCount
        | "physical" => processorCount symbol operand p.physicalCount
        | "count" => processorCount symbol operand (max p.logicalCount p.physicalCount)
        | "machinearch" => do token (← Comparison.parse symbol) p.machineArch operand
        | _ => .error (.unknownCpuSelector selector) : Answer))
      (FitsSelector word symbol operand) := by
  have hcount := @settles_processorCount symbol operand hsolid
  unfold FitsSelector
  split
  · exact (hcount.comap Host.Processor.logicalCount).congr (by simp)
  · exact (hcount.comap Host.Processor.physicalCount).congr (by simp)
  · exact (hcount.comap fun p : Host.Processor =>
      max p.logicalCount p.physicalCount).congr (by simp)
  · refine (Settles.bind (Comparison.parse symbol) fun op _ =>
      settles_ofEquality op (.unordered op operand) fun p : Host.Processor =>
        sameToken p.machineArch operand).congr ?_
    simp [Comparison.parse_eq_ok_iff]
  · rename_i hlogical hphysical hcount harch
    refine .failed _ ?_
    simp only [List.mem_cons, List.not_mem_nil, or_false]
    rintro ⟨op, -, ⟨h | h | h, -⟩ | ⟨h, -⟩⟩
    · exact hlogical h
    · exact hphysical h
    · exact hcount h
    · exact harch h

theorem settles_processor : Settles (Clause.processor clause) (Admits .processor clause) := by
  have hspaced : Text.Spaced clause.toList ((wordsOf clause).map String.toList) :=
    wordsOf_eq_iff.1 rfl
  have hsolid (word : String) (h : word ∈ wordsOf clause) : Text.Solid word.toList :=
    (hspaced.solid _ (List.mem_map_of_mem h)).2
  unfold Clause.processor
  rw [admits_processor_iff]
  rcases hclause : wordsOf clause with _ | ⟨first, _ | ⟨second, _ | ⟨third, _ | ⟨fourth, rest⟩⟩⟩⟩
  · exact .failed _ (by simp)
  · exact .failed _ (by simp)
  · exact (settles_verb (hsolid second (by simp [hclause]))).congr (by simp)
  · exact (settles_selector _ (hsolid third (by simp [hclause]))).congr (by simp)
  · exact .failed _ (by simp)

end Processor

end Languages

namespace Language

theorem settles (language : Language) (clause : String) :
    Settles (language.ask clause) (language.Admits clause) := by
  cases language with
  | quantity => exact settles_quantity clause
  | processor => exact settles_processor clause
  | clock => exact settles_clock clause
  | services => exact settles_services clause
  | disk => exact settles_disk clause
  | runtime => exact settles_runtime clause
  | job => exact settles_job clause
  | count => exact settles_count clause
  | boolean => exact settles_boolean clause

end Language

end Clause

namespace Resolution

variable {σ ε : Type} {title : String} {blank : BlankClause} {check : Predicate σ ε}
  {verdict : Verdict} {clause : String} {e : ε}

/-- A clause that fails whenever it is asked about is the last one that is asked about. -/
theorem tryFrom_ending_of_asked (hfails : ∀ s, (check verdict clause s).1 = .error e) :
    ∀ (outcomes : List Outcome) (index : Nat) (s : σ),
      (verdict, clause) ∈ (tryFrom title blank check index s outcomes).asked →
      (tryFrom title blank check index s outcomes).ending = .error e
  | [], _, _, h => by cases h
  | o :: outcomes, index, s, h => by
    have hanswer {s s' : σ} {answer : Except ε Bool}
        (hasked : check verdict clause s = (answer, s')) : answer = .error e := by
      rw [← hfails s, hasked]
    rcases passedOver_or_decides title blank check o s with ⟨asked, s', hpassed⟩ |
      ⟨asked, s', ending, hdecides⟩
    · rw [tryFrom_of_passedOver hpassed] at h ⊢
      rcases List.mem_append.1 h with hfirst | hlater
      · cases hpassed with
        | empty => cases hfirst
        | refused _ _ hasked =>
          cases List.mem_singleton.1 hfirst
          cases hanswer hasked
      · exact tryFrom_ending_of_asked hfails outcomes _ _ hlater
    · rw [tryFrom_of_decides hdecides] at h ⊢
      cases hdecides with
      | unconditional => cases h
      | accepted _ _ hasked =>
        cases List.mem_singleton.1 h
        cases hanswer hasked
      | failed _ _ hasked =>
        cases List.mem_singleton.1 h
        cases hanswer hasked
        rfl

end Resolution

namespace Clause.Language

/-- A clause fails exactly when its language does not admit it, whatever it is asked of, with the
same error then, and with no error that is not one of a clause. When a resolution comes to such a
clause it ends with this error, whatever the evidence. -/
theorem fault_of_clause_alone (language : Language) (clause : String) :
    (∀ fact, (∃ fault, language.ask clause fact = .error fault) ↔ ¬ language.Admits clause)
    ∧ (∀ fact other fault, language.ask clause fact = .error fault ↔
      language.ask clause other = .error fault)
    ∧ (∀ fact error, (liftM (language.ask clause fact) : Except AnalysisError Bool) = .error error ↔
      ∃ fault, language.ask clause fact = .error fault ∧ error = .condition fault)
    ∧ ∀ title blank outcomes fact verdict,
      (verdict, clause) ∈ (Resolution.trace title blank outcomes fun _ clause =>
        language.ask clause fact).asked → ¬ language.Admits clause →
      ∃ fault, (Resolution.trace title blank outcomes fun _ clause =>
          language.ask clause fact).ending = .error fault
        ∧ ∀ other, language.ask clause other = .error fault := by
  have hlifted (x : Answer) (error : AnalysisError) :
      (liftM x : Except AnalysisError Bool) = .error error ↔
        ∃ fault, x = .error fault ∧ error = .condition fault := by
    cases x with
    | error fault =>
      show (.error (.condition fault) : Except AnalysisError Bool) = .error error ↔ _
      simp [eq_comm]
    | ok answer =>
      show (.ok answer : Except AnalysisError Bool) = .error error ↔ _
      simp
  rcases language.settles clause with ⟨hadmits, hanswer⟩ | ⟨hadmits, e, herror⟩
  · have hnone (fact : language.Evidence) (fault : ConditionError) :
        language.ask clause fact ≠ .error fault := by
      obtain ⟨answer, h⟩ := hanswer fact
      simp [h]
    exact ⟨fun fact => by simp [hnone, hadmits], fun fact other fault => by simp [hnone],
      fun fact error => hlifted _ _, fun _ _ _ _ _ _ h => absurd hadmits h⟩
  · refine ⟨fun fact => by simp [herror, hadmits], fun fact other fault => by simp [herror],
      fun fact error => hlifted _ _, fun title blank outcomes fact verdict h _ => ⟨e, ?_, herror⟩⟩
    exact Resolution.tryFrom_ending_of_asked (fun _ => herror fact) outcomes 0 () h

/-- States of units have no order, and no unit is needed to see it. -/
theorem fault_of_clause_alone_of_orderedServices :
    ¬ services.Admits "nginx > active"
    ∧ ∃ fault, (Resolution.trace "Services" .holds
          [{ fail := some { when := "nginx > active", message := "down" } }] fun _ clause =>
            services.ask clause []).ending = .error fault
        ∧ services.ask "nginx > active" [{ unit := "nginx.service", active := "active" }] =
          .error fault := by
  obtain ⟨hrefused, -, -, hended⟩ := fault_of_clause_alone services "nginx > active"
  have hfault : services.ask "nginx > active" [] = .error (.unorderedServices .greater) := by
    decide +kernel
  have hadmits := (hrefused []).1 ⟨_, hfault⟩
  obtain ⟨fault, hending, hsame⟩ := hended "Services" .holds
    [{ fail := some { when := "nginx > active", message := "down" } }] [] .fail
    (by decide +kernel) hadmits
  exact ⟨hadmits, fault, hending, hsame _⟩

end Clause.Language

end Triage
