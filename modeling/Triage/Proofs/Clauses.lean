import Mathlib.Data.List.DropRight
import Mathlib.Order.Compare
import Mathlib.Order.Lattice
import Triage.Condition.Basic
import Triage.Proofs.Success

/-!
# Clauses as they are written

What is trimmed off a text are the blanks on its outside (`trim_around`). The words of a text are
the runs between its blanks, whatever blanks those are (`words_eq_iff`), so a clause without a
selector is an operator and an operand with blanks between and around them
(`parseUnselected_eq_ok_iff`), and a clause with one has it in front (`parseSelected_eq_ok_iff`).
On values in a linear order an operator asks for the relation that
its symbol says (`compare_iff`).
-/

namespace Triage

namespace Text

/-- A text with nothing but blanks in it. -/
def Blank (s : List Char) : Prop := ∀ c ∈ s, isBlank c = true

/-- A text without blanks. -/
def Solid (s : List Char) : Prop := ∀ c ∈ s, isBlank c = false

instance : DecidablePred Blank := List.decidableBAll fun c => isBlank c = true

instance : DecidablePred Solid := List.decidableBAll fun c => isBlank c = false

/-- A run of characters of one kind is taken off the front of a text. -/
theorem span_append {α : Type} {p : α → Bool} {run rest : List α} (hrun : ∀ c ∈ run, p c = true)
    (hrest : ∀ c ∈ rest.head?, p c = false) :
    (run ++ rest).takeWhile p = run ∧ (run ++ rest).dropWhile p = rest := by
  rw [List.takeWhile_append_of_pos hrun, List.dropWhile_append_of_pos hrun]
  rcases rest with _ | ⟨c, rest⟩
  · simp
  · have hc : p c = false := hrest c rfl
    simp [hc]

section Trim

variable {s front middle back : List Char}

theorem trimEnd_eq (s : List Char) : trimEnd s = s.rdropWhile isBlank := by
  induction s with
  | nil => rfl
  | cons c s ih =>
    simp only [trimEnd, ih, List.rdropWhile, List.reverse_cons, List.dropWhile_append]
    rcases s.reverse.dropWhile isBlank with _ | ⟨d, t⟩
    · by_cases hc : isBlank c = true <;> simp [hc]
    · simp

theorem trimEnd_prefix (s : List Char) : trimEnd s <+: s := by
  rw [trimEnd_eq]
  exact List.rdropWhile_prefix _ _

theorem trimEnd_append_of_last {c : Char} (hc : isBlank c = false) (s back : List Char) :
    trimEnd (s ++ c :: back) = s ++ c :: trimEnd back := by
  simp only [trimEnd_eq, List.rdropWhile, List.reverse_append, List.reverse_cons,
    List.append_assoc, List.singleton_append, List.dropWhile_append]
  split
  · rename_i hnil
    rw [List.isEmpty_iff] at hnil
    simp [hnil, hc]
  · simp

theorem trimStart_append_blank (hfront : Blank front) (s : List Char) :
    trimStart (front ++ s) = trimStart s :=
  List.dropWhile_append_of_pos hfront

theorem trimStart_cons {c : Char} (hc : isBlank c = false) (s : List Char) :
    trimStart (c :: s) = c :: s := by
  simp [trimStart, hc]

theorem trim_append_of_solid (hne : middle ≠ []) (hmiddle : Solid middle) (back : List Char) :
    trim (middle ++ back) = middle ++ trimEnd back := by
  obtain ⟨s, last, rfl⟩ := (List.eq_nil_or_concat' middle).resolve_left hne
  have hlast : isBlank last = false := hmiddle last (by simp)
  have hstart : trimStart (s ++ [last] ++ back) = s ++ [last] ++ back := by
    rcases s with _ | ⟨c, s⟩
    · exact trimStart_cons hlast back
    · exact trimStart_cons (hmiddle c (by simp)) _
  rw [trim, hstart, List.append_assoc, List.singleton_append, trimEnd_append_of_last hlast,
    List.append_assoc, List.singleton_append]

/-- Trimming takes away the blanks on both sides and no more. -/
theorem trim_around (hfront : Blank front) (hmiddle : Solid middle) (hback : Blank back) :
    trim (front ++ middle ++ back) = middle := by
  have hnil : trimEnd back = [] := by
    rw [trimEnd_eq, List.rdropWhile_eq_nil_iff]
    exact hback
  rw [trim, List.append_assoc, trimStart_append_blank hfront, ← trim]
  rcases eq_or_ne middle [] with rfl | hne
  · have hstart : trimStart back = [] := List.dropWhile_eq_nil_iff.2 hback
    rw [List.nil_append, trim, hstart]
    rfl
  · rw [trim_append_of_solid hne hmiddle, hnil, List.append_nil]

theorem trim_of_solid (h : Solid s) : trim s = s := by
  have htrim : trim ([] ++ s ++ []) = s := trim_around nofun h nofun
  simpa using htrim

/-- Nothing is trimmed off a text that neither starts nor ends with a blank, and off no other. -/
theorem trim_eq_self_iff : trim s = s ↔
    (∀ c ∈ s.head?, isBlank c = false) ∧ ∀ c ∈ s.getLast?, isBlank c = false := by
  have hboth : trim s = s ↔ trimStart s = s ∧ trimEnd s = s := by
    constructor
    · intro h
      have hprefix := trimEnd_prefix (trimStart s)
      rw [← trim, h] at hprefix
      have hstart : trimStart s = s :=
        (List.dropWhile_suffix isBlank).eq_of_length_le hprefix.length_le
      exact ⟨hstart, by rw [trim, hstart] at h; exact h⟩
    · rintro ⟨hstart, hend⟩
      rw [trim, hstart, hend]
  rw [hboth, trimStart, trimEnd_eq, List.rdropWhile_eq_self_iff]
  rcases s with _ | ⟨c, s⟩
  · simp
  · simp [List.getLast?_eq_getLast_of_ne_nil]

theorem trim_trim (s : List Char) : trim (trim s) = trim s := by
  have hfirst := List.head?_dropWhile_not isBlank s
  have htrim : trim s = trimEnd (trimStart s) := rfl
  cases hstart : trimStart s with
  | nil =>
    rw [htrim, hstart]
    rfl
  | cons c rest =>
    rw [← trimStart, hstart] at hfirst
    have hc : isBlank c = false := hfirst
    have hend : trimEnd (c :: rest) = c :: trimEnd rest := trimEnd_append_of_last hc [] rest
    rw [htrim, hstart, hend, trim, trimStart_cons hc, ← hend, trimEnd_eq, trimEnd_eq,
      List.rdropWhile_idempotent]

end Trim

/-- Words with blanks between and around them. -/
inductive Spaced : List Char → List (List Char) → Prop
  | none {s : List Char} (h : Blank s) : Spaced s []
  | word {front word rest : List Char} {words : List (List Char)} (hfront : Blank front)
    (hne : word ≠ []) (hword : Solid word) (hrest : ∀ c ∈ rest.head?, isBlank c = true)
    (h : Spaced rest words) : Spaced (front ++ word ++ rest) (word :: words)

section Words

variable {s front part word rest : List Char} {ws : List (List Char)}

theorem Spaced.solid {words : List (List Char)} (h : Spaced s words) :
    ∀ word ∈ words, word ≠ [] ∧ Solid word := by
  induction h with
  | none => exact nofun
  | word _ hne hword _ _ ih => exact List.forall_mem_cons.2 ⟨⟨hne, hword⟩, ih⟩

theorem Spaced.cons {c : Char} (hc : isBlank c = true) (h : Spaced s ws) : Spaced (c :: s) ws := by
  cases h with
  | none h => exact .none (List.forall_mem_cons.2 ⟨hc, h⟩)
  | @word front _ _ _ hfront hne hword hrest h =>
    have hfront' : Blank (c :: front) := List.forall_mem_cons.2 ⟨hc, hfront⟩
    exact .word hfront' hne hword hrest h

theorem Spaced.word_append (hne : word ≠ []) (hword : Solid word)
    (hrest : ∀ c ∈ rest.head?, isBlank c = true) (h : Spaced rest ws) :
    Spaced (word ++ rest) (word :: ws) := by
  have hspaced : Spaced ([] ++ word ++ rest) (word :: ws) := .word nofun hne hword hrest h
  simpa using hspaced

/-- Reading on from the middle of a word. -/
theorem spaced_wordsFrom (hpart : Solid part) : Spaced (part.reverse ++ s) (wordsFrom part s) := by
  have hword : Solid part.reverse := fun c hc => hpart c (List.mem_reverse.1 hc)
  induction s generalizing part with
  | nil =>
    unfold wordsFrom
    split
    · rename_i hnil
      rw [List.isEmpty_iff.1 hnil]
      exact .none nofun
    · rename_i hne
      exact .word_append (by simpa using hne) hword nofun (.none nofun)
  | cons c s ih =>
    unfold wordsFrom
    by_cases hc : isBlank c = true
    · have hnext : Spaced (c :: s) (wordsFrom [] s) := .cons hc (@ih [] nofun nofun)
      rw [if_pos hc]
      split
      · rename_i hnil
        rw [List.isEmpty_iff.1 hnil]
        exact hnext
      · rename_i hne
        exact .word_append (by simpa using hne) hword (by simpa using hc) hnext
    · have hpart' : Solid (c :: part) := List.forall_mem_cons.2 ⟨by simpa using hc, hpart⟩
      rw [if_neg hc]
      simpa using ih hpart' fun d hd => hpart' d (List.mem_reverse.1 hd)

theorem words_append_blank (hfront : Blank front) (s : List Char) :
    words (front ++ s) = words s := by
  induction front with
  | nil => rfl
  | cons c front ih =>
    obtain ⟨hc, hfront⟩ := List.forall_mem_cons.1 hfront
    rw [← ih hfront, words, List.cons_append, wordsFrom, if_pos hc]
    rfl

theorem wordsFrom_append (hword : Solid word) (part rest : List Char) :
    wordsFrom part (word ++ rest) = wordsFrom (word.reverse ++ part) rest := by
  induction word generalizing part with
  | nil => rfl
  | cons c word ih =>
    obtain ⟨hc, hword⟩ := List.forall_mem_cons.1 hword
    rw [List.cons_append, wordsFrom, if_neg (by simp [hc]), ih hword]
    simp

theorem words_word (hne : word ≠ []) (hword : Solid word)
    (hrest : ∀ c ∈ rest.head?, isBlank c = true) : words (word ++ rest) = word :: words rest := by
  rw [words, wordsFrom_append hword, List.append_nil]
  rcases rest with _ | ⟨c, rest⟩
  · simp [words, wordsFrom, hne]
  · have hc : isBlank c = true := hrest c rfl
    simp [words, wordsFrom, hne, hc]

/-- The words of a text are what is between its blanks. -/
theorem words_eq_iff : words s = ws ↔ Spaced s ws := by
  constructor
  · rintro rfl
    exact @spaced_wordsFrom s [] nofun
  · intro h
    induction h with
    | none h => simpa [words, wordsFrom] using words_append_blank h []
    | word hfront hne hword hrest _ ih =>
      rw [List.append_assoc, words_append_blank hfront, words_word hne hword hrest, ih]

end Words

end Text

theorem isBlankText_iff {s : String} : isBlankText s = true ↔ Text.Blank s.toList :=
  List.all_eq_true

theorem trimmed_trimmed (s : String) : trimmed (trimmed s) = trimmed s := by
  simp only [trimmed, String.toList_ofList, Text.trim_trim]

theorem wordsOf_eq_iff {s : String} {ws : List String} :
    wordsOf s = ws ↔ Text.Spaced s.toList (ws.map String.toList) := by
  rw [← Text.words_eq_iff, wordsOf]
  constructor
  · rintro rfl
    simp [Function.comp_def]
  · intro h
    simp [h, Function.comp_def]

theorem wordsOf_eq_nil_iff {s : String} : wordsOf s = [] ↔ Text.Blank s.toList := by
  rw [wordsOf_eq_iff, List.map_nil]
  generalize s.toList = text
  constructor
  · rintro ⟨h⟩
    exact h
  · exact .none

namespace Comparison

/-- The relation of the actual value to the expected one that an operator asks for. -/
def Relates {α : Type} [LinearOrder α] : Comparison → α → α → Prop
  | equal, a, b => a = b
  | notEqual, a, b => a ≠ b
  | less, a, b => a < b
  | lessOrEqual, a, b => a ≤ b
  | greater, a, b => b < a
  | greaterOrEqual, a, b => b ≤ a

theorem compare_iff {α : Type} [LinearOrder α] {op : Comparison} {a b : α} :
    op.compare a b = true ↔ op.Relates a b := by
  unfold Comparison.compare
  rcases lt_trichotomy a b with h | h | h
  · rw [compare_lt_iff_lt.2 h]
    cases op <;> simp [holds, Relates, h, h.ne, h.le, h.not_gt, h.not_ge]
  · rw [compare_eq_iff_eq.2 h]
    cases op <;> simp [holds, Relates, h]
  · rw [compare_gt_iff_gt.2 h]
    cases op <;> simp [holds, Relates, h, h.ne', h.le, h.not_gt, h.not_ge]

theorem parse_eq_ok_iff {op : Comparison} {symbol : String} :
    parse symbol = .ok op ↔ ofSymbol? symbol = some op := by
  unfold parse
  split <;> simp_all

end Comparison

namespace Condition

/-- A clause without a selector, as it is written: an operator in one of its spellings and an
operand, with blanks between and around them. -/
def Puts (clause : String) (op : Comparison) (operand : String) : Prop :=
  ∃ symbol, Comparison.ofSymbol? symbol = some op
    ∧ Text.Spaced clause.toList [symbol.toList, operand.toList]

/-- A clause with a selector, as it is written. -/
def Selects (clause selector : String) (op : Comparison) (operand : String) : Prop :=
  ∃ symbol, Comparison.ofSymbol? symbol = some op
    ∧ Text.Spaced clause.toList [selector.toList, symbol.toList, operand.toList]

theorem parse_eq_ok_iff {clause : String} {condition : Condition} :
    parse clause = .ok condition ↔ ∃ symbol, Comparison.ofSymbol? symbol = some condition.operator
      ∧ wordsOf clause = condition.selector.toList ++ [symbol, condition.operand] := by
  obtain ⟨selector, op, operand⟩ := condition
  unfold parse
  constructor
  · intro h
    split at h
    · rename_i symbol word hclause
      obtain ⟨op', hop, hcondition⟩ := bind_eq_ok.1 h
      cases hcondition
      exact ⟨symbol, Comparison.parse_eq_ok_iff.1 hop, hclause⟩
    · rename_i first symbol word hclause
      obtain ⟨op', hop, hcondition⟩ := bind_eq_ok.1 h
      cases hcondition
      exact ⟨symbol, Comparison.parse_eq_ok_iff.1 hop, hclause⟩
    · cases h
  · rintro ⟨symbol, hop, hclause⟩
    rw [hclause]
    cases selector with
    | none => exact bind_eq_ok.2 ⟨op, Comparison.parse_eq_ok_iff.2 hop, rfl⟩
    | some selector => exact bind_eq_ok.2 ⟨op, Comparison.parse_eq_ok_iff.2 hop, rfl⟩

/-- A clause read without a selector is one that was read, and had none. -/
theorem parseUnselected_eq_ok {clause : String} {op : Comparison} {operand : String} :
    parseUnselected clause = .ok (op, operand) ↔ parse clause = .ok ⟨none, op, operand⟩ := by
  unfold parseUnselected
  rw [bind_eq_ok]
  constructor
  · rintro ⟨⟨_ | selector, op', operand'⟩, hparse, h⟩
    · cases h
      exact hparse
    · cases h
  · exact fun hparse => ⟨_, hparse, rfl⟩

/-- A clause read with its selector is one that was read, and had one. -/
theorem parseSelected_eq_ok {clause selector : String} {op : Comparison} {operand : String} :
    parseSelected clause = .ok (selector, op, operand) ↔
      parse clause = .ok ⟨some selector, op, operand⟩ := by
  unfold parseSelected
  rw [bind_eq_ok]
  constructor
  · rintro ⟨⟨_ | selector', op', operand'⟩, hparse, h⟩
    · cases h
    · cases h
      exact hparse
  · exact fun hparse => ⟨_, hparse, rfl⟩

theorem parseUnselected_eq_ok_iff {clause : String} {op : Comparison} {operand : String} :
    parseUnselected clause = .ok (op, operand) ↔ Puts clause op operand := by
  rw [parseUnselected_eq_ok, parse_eq_ok_iff]
  simp only [Puts, Option.toList_none, List.nil_append, wordsOf_eq_iff, List.map_cons, List.map_nil]

theorem parseSelected_eq_ok_iff {clause selector : String} {op : Comparison} {operand : String} :
    parseSelected clause = .ok (selector, op, operand) ↔ Selects clause selector op operand := by
  rw [parseSelected_eq_ok, parse_eq_ok_iff]
  simp only [Selects, Option.toList_some, List.singleton_append, wordsOf_eq_iff, List.map_cons,
    List.map_nil]

theorem Puts.solid {clause : String} {op : Comparison} {operand : String}
    (h : Puts clause op operand) : Text.Solid operand.toList := by
  obtain ⟨symbol, -, hclause⟩ := h
  exact (hclause.solid _ (by simp)).2

theorem Selects.solid {clause selector : String} {op : Comparison} {operand : String}
    (h : Selects clause selector op operand) : Text.Solid operand.toList := by
  obtain ⟨symbol, -, hclause⟩ := h
  exact (hclause.solid _ (by simp)).2

theorem Puts.unique {clause : String} {op op' : Comparison} {operand operand' : String}
    (h : Puts clause op operand) (h' : Puts clause op' operand') :
    op = op' ∧ operand = operand' := by
  rw [← parseUnselected_eq_ok_iff] at h h'
  rw [h] at h'
  cases h'
  exact ⟨rfl, rfl⟩

theorem Selects.unique {clause selector selector' : String} {op op' : Comparison}
    {operand operand' : String} (h : Selects clause selector op operand)
    (h' : Selects clause selector' op' operand') :
    selector = selector' ∧ op = op' ∧ operand = operand' := by
  rw [← parseSelected_eq_ok_iff] at h h'
  rw [h] at h'
  cases h'
  exact ⟨rfl, rfl, rfl⟩

end Condition

end Triage
