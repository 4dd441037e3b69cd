import Triage.Analysis.Texts
import Triage.Proofs.ClauseLanguages

/-!
# Clauses about captured groups

A clause that names a group is read, and then its group is looked up. Only when the group has a
text, as it has on a file that the pattern matches (`lookup_captures_isSome`), is the operator held
against the operand. So a clause that orders a group against a text (`OrdersText`) is at fault on
such files and answers no on all others (`capture_fault_of_clause_alone_iff`). Every other clause
is at fault by itself.
-/

namespace Triage.Clause

open Condition (Selects)

/-- A clause that asks for an order and has no integer to compare with. -/
def OrdersText (clause group : String) (op : Comparison) (operand : String) : Prop :=
  Selects clause group op operand ∧ op.isEquality = false ∧ ¬ Text.IsInteger operand.toList

section Capture

variable {clause group operand : String} {op : Comparison} {captures : List (String × String)}

theorem capture_of_selects (h : Selects clause group op operand) :
    capture clause captures = match captures.lookup group with
      | none => .ok false
      | some found =>
        match Text.signed64? operand.toList with
        | some expected => .ok ((Text.signed64? (Text.trim found.toList)).any fun actual =>
            op.compare actual expected)
        | none =>
          if op.isEquality then exact op found operand
          else .error (.unorderedCapture op found operand) := by
  rw [capture, Condition.parseSelected_eq_ok_iff.2 h]
  rfl

theorem capture_eq_error_of_selects (h : Selects clause group op operand) {fault : ConditionError} :
    capture clause captures = .error fault ↔ ∃ found, OrdersText clause group op operand
      ∧ captures.lookup group = some found ∧ fault = .unorderedCapture op found operand := by
  rw [capture_of_selects h]
  cases hfound : captures.lookup group with
  | none => simp
  | some found =>
    cases hinteger : Text.signed64? operand.toList with
    | some expected =>
      have hoperand : Text.IsInteger operand.toList :=
        ⟨expected, Text.signed64?_eq_some_iff.1 hinteger⟩
      simp [OrdersText, hoperand]
    | none =>
      have hoperand := Text.signed64?_eq_none_iff.1 hinteger
      cases op <;>
        simp [OrdersText, h, hoperand, exact, Comparison.isEquality, Comparison.ofEquality?,
          eq_comm]

theorem capture_of_refused {fault : ConditionError}
    (h : Condition.parseSelected clause = .error fault) :
    capture clause captures = .error fault := by
  rw [capture, h]
  rfl

theorem capture_eq_error_iff {fault : ConditionError} : capture clause captures = .error fault ↔
    Condition.parseSelected clause = .error fault
    ∨ ∃ group op operand found, OrdersText clause group op operand
      ∧ captures.lookup group = some found ∧ fault = .unorderedCapture op found operand := by
  cases hread : Condition.parseSelected clause with
  | error refusal =>
    rw [capture_of_refused hread]
    constructor
    · intro h
      cases h
      exact .inl rfl
    · rintro (h | ⟨group, op, operand, -, ⟨hselects, -⟩, -⟩)
      · cases h
        rfl
      · rw [Condition.parseSelected_eq_ok_iff.2 hselects] at hread
        cases hread
  | ok c =>
    obtain ⟨group, op, operand⟩ := c
    have hselects := Condition.parseSelected_eq_ok_iff.1 hread
    rw [capture_eq_error_of_selects hselects]
    constructor
    · rintro ⟨found, horders, h⟩
      exact .inr ⟨_, _, _, found, horders, h⟩
    · rintro (h | ⟨group', op', operand', found, horders, h⟩)
      · cases h
      · obtain ⟨rfl, rfl, rfl⟩ := horders.1.unique hselects
        exact ⟨found, horders, h⟩

theorem OrdersText.fails_iff (h : OrdersText clause group op operand) :
    (∃ fault, capture clause captures = .error fault) ↔ (captures.lookup group).isSome = true := by
  simp only [capture_eq_error_of_selects h.1, Option.isSome_iff_exists]
  constructor
  · rintro ⟨-, found, -, hfound, -⟩
    exact ⟨found, hfound⟩
  · rintro ⟨found, hfound⟩
    exact ⟨_, found, h, hfound, rfl⟩

end Capture

/-- Every group of a pattern has a text once the pattern matches, and only then. -/
theorem lookup_captures_isSome (regex : Regex) (text group : String) :
    (((regex.captures? text).getD []).lookup group).isSome = true ↔
      group ∈ regex.names.map Prod.snd ∧ regex.isMatch text = true := by
  simp only [Regex.captures?, Regex.isMatch]
  cases regex.search text.toList with
  | none => simp
  | some slots =>
    simp only [Option.bind_eq_bind, Option.bind_some, Option.pure_def, Option.getD_some,
      Option.isSome_some, and_true]
    induction regex.names with
    | nil => simp
    | cons entry names ih =>
      obtain ⟨index, name⟩ := entry
      rw [List.map_cons, List.map_cons, List.lookup_cons, List.mem_cons]
      by_cases hname : group = name
      · simp [hname]
      · simpa only [beq_eq_false_iff_ne.2 hname, hname, false_or] using ih

/-- A clause is at fault on all captures alike unless it orders a group against a text. The fault
is one of its reading, or that of such a clause whose group has a text. So a file on which such a
clause is not at fault is one that the pattern does not match, unless the pattern has no group of
that name; the clause answers no then. -/
theorem capture_fault_of_clause_alone_iff (clause : String) :
    ((∀ captures others, (∃ fault, capture clause captures = .error fault) ↔
        ∃ fault, capture clause others = .error fault) ↔
      ∀ group op operand, ¬ OrdersText clause group op operand)
    ∧ (∀ captures fault, capture clause captures = .error fault ↔
      Condition.parseSelected clause = .error fault
      ∨ ∃ group op operand found, OrdersText clause group op operand
        ∧ captures.lookup group = some found ∧ fault = .unorderedCapture op found operand)
    ∧ ∀ group op operand, OrdersText clause group op operand → ∀ regex : Regex, ∀ text,
      if group ∈ regex.names.map Prod.snd ∧ regex.isMatch text = true then
        ∃ fault, capture clause ((regex.captures? text).getD []) = .error fault
      else capture clause ((regex.captures? text).getD []) = .ok false := by
  refine ⟨⟨fun halike group op operand horders => ?_, fun hnone captures others => ?_⟩,
    fun captures fault => capture_eq_error_iff, fun group op operand horders regex text => ?_⟩
  · have hcaptured := (halike [] [(group, "")]).2 (horders.fails_iff.2 (by simp))
    simpa using horders.fails_iff.1 hcaptured
  · simp only [capture_eq_error_iff, hnone, false_and, exists_false, or_false]
  · split_ifs with hfound
    · exact horders.fails_iff.2 ((lookup_captures_isSome regex text group).2 hfound)
    · rw [← lookup_captures_isSome, Bool.not_eq_true, Option.isSome_eq_false_iff,
        Option.isNone_iff_eq_none] at hfound
      rw [capture_of_selects horders.1, hfound]

/-- A file without a match is not told of a clause that a file with one is stopped by. -/
theorem capture_fault_depends_on_match :
    ¬ ∀ clause captures others, (∃ fault, capture clause captures = .error fault) ↔
      ∃ fault, capture clause others = .error fault := by
  intro halike
  have hanswer : capture "size < large" [] = .ok false := by decide +kernel
  have hfault : capture "size < large" [("size", "12")] =
    .error (.unorderedCapture .less "12" "large") := by decide +kernel
  obtain ⟨fault, h⟩ := (halike "size < large" [] [("size", "12")]).2 ⟨_, hfault⟩
  rw [hanswer] at h
  cases h

end Triage.Clause
