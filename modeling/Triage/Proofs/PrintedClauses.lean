import Triage.Proofs.Clauses

/-!
# Clauses that are printed and read again

A condition can be written in many ways, with its operator in any of its spellings and any blanks
between its words and around them (`WrittenAs`). A text is read as a condition just when the
condition can be written so (`parse_eq_ok_iff_writtenAs`), even where its other words look like
operators. So a condition that was read is read again from its print, and nothing but the words of
a text counts (`parse_inverts_writing`).
-/

namespace Triage

/-- A text that can stand as a word. -/
def IsWord (s : String) : Prop := s ≠ "" ∧ Text.Solid s.toList

/-- A text that can stand between two words. -/
def IsGap (s : String) : Prop := s ≠ "" ∧ isBlankText s = true

instance : DecidablePred IsWord := fun s =>
  inferInstanceAs (Decidable (s ≠ "" ∧ Text.Solid s.toList))

instance : DecidablePred IsGap := fun s =>
  inferInstanceAs (Decidable (s ≠ "" ∧ isBlankText s = true))

section Words

variable {s front word rest : String} {ws : List String}

theorem isBlank_of_mem_head? (h : isBlankText s = true) :
    ∀ c ∈ s.toList.head?, Text.isBlank c = true :=
  fun c hc => isBlankText_iff.1 h c (List.mem_of_mem_head? hc)

/-- The first word of a text has nothing but blanks in front, and goes on to the next blank. -/
theorem wordsOf_eq_cons_iff : wordsOf s = word :: ws ↔ IsWord word
    ∧ ∃ front rest, s = front ++ word ++ rest ∧ isBlankText front = true
      ∧ (∀ c ∈ rest.toList.head?, Text.isBlank c = true) ∧ wordsOf rest = ws := by
  rw [wordsOf_eq_iff, List.map_cons]
  constructor
  · intro h
    generalize hs : s.toList = text at h
    generalize hw : word.toList = chars at h
    cases h with
    | @word front _ rest _ hfront hne hword hrest h =>
      subst hw
      refine ⟨⟨by simpa using hne, hword⟩, .ofList front, .ofList rest, ?_, ?_, ?_, ?_⟩
      · rw [← String.toList_inj, hs]
        simp
      · rwa [isBlankText_iff, String.toList_ofList]
      · rwa [String.toList_ofList]
      · rwa [wordsOf_eq_iff, String.toList_ofList]
  · rintro ⟨⟨hne, hword⟩, front, rest, rfl, hfront, hrest, hwords⟩
    rw [String.toList_append, String.toList_append]
    exact .word (isBlankText_iff.1 hfront) (by simpa using hne) hword hrest
      (wordsOf_eq_iff.1 hwords)

theorem IsGap.head?_append (h : IsGap front) (rest : String) :
    ∀ c ∈ (front ++ rest).toList.head?, Text.isBlank c = true := by
  have hne : front.toList ≠ [] := by simpa using h.1
  rw [String.toList_append, List.head?_append_of_ne_nil _ hne]
  exact isBlank_of_mem_head? h.2

/-- A text that begins with a blank has a gap before its first word. -/
theorem isGap_of_head? (hfront : isBlankText front = true) (hword : IsWord word)
    (hhead : ∀ c ∈ (front ++ (word ++ rest)).toList.head?, Text.isBlank c = true) :
    IsGap front := by
  refine ⟨?_, hfront⟩
  rintro rfl
  obtain ⟨c, tail, hc⟩ := List.exists_cons_of_ne_nil (show word.toList ≠ [] by simpa using hword.1)
  have hblank : Text.isBlank c = true := hhead c (by simp [hc])
  have hsolid : Text.isBlank c = false := hword.2 c (by simp [hc])
  rw [hblank] at hsolid
  cases hsolid

/-- Two words have a gap between them and blanks, or nothing, around them. -/
theorem wordsOf_eq_pair_iff {other : String} : wordsOf s = [word, other] ↔
    IsWord word ∧ IsWord other ∧ ∃ before gap after, s = before ++ word ++ gap ++ other ++ after
      ∧ isBlankText before = true ∧ IsGap gap ∧ isBlankText after = true := by
  simp only [wordsOf_eq_cons_iff, wordsOf_eq_nil_iff, ← isBlankText_iff]
  constructor
  · rintro ⟨hword, before, _, rfl, hbefore, hhead, hother, gap, after, rfl, hgap, -, hafter⟩
    rw [String.append_assoc] at hhead
    exact ⟨hword, hother, before, gap, after, by simp only [String.append_assoc], hbefore,
      isGap_of_head? hgap hother hhead, hafter⟩
  · rintro ⟨hword, hother, before, gap, after, rfl, hbefore, hgap, hafter⟩
    exact ⟨hword, before, gap ++ (other ++ after), by simp only [String.append_assoc], hbefore,
      hgap.head?_append _, hother, gap, after, by rw [String.append_assoc], hgap.2,
      isBlank_of_mem_head? hafter, hafter⟩

end Words

namespace Comparison

def spellings : Comparison → List String
  | equal => ["=", "==", "==="]
  | notEqual => ["!=", "!==", "<>"]
  | less => ["<"]
  | lessOrEqual => ["<="]
  | greater => [">"]
  | greaterOrEqual => [">="]

theorem ofSymbol?_eq_some_iff {op : Comparison} {symbol : String} :
    ofSymbol? symbol = some op ↔ symbol ∈ op.spellings := by
  constructor
  · intro h
    unfold ofSymbol? at h
    split at h <;> cases h <;> decide
  · have hall : ∀ symbol ∈ op.spellings, ofSymbol? symbol = some op := by
      cases op <;> decide
    exact hall symbol

theorem symbol_mem_spellings (op : Comparison) : op.symbol ∈ op.spellings := by
  cases op <;> decide

theorem isWord_of_mem_spellings {op : Comparison} : ∀ symbol ∈ op.spellings, IsWord symbol := by
  cases op <;> decide

end Comparison

namespace Condition

variable {condition : Condition} {text : String}

/-- A condition as it may be written: its words in turn, the operator in any of its spellings, with
blanks between them and perhaps around them. -/
inductive WrittenAs : Condition → String → Prop
  | unselected {op : Comparison} {symbol operand before gap after : String}
    (hsymbol : symbol ∈ op.spellings) (hoperand : IsWord operand)
    (hbefore : isBlankText before = true) (hgap : IsGap gap) (hafter : isBlankText after = true) :
    WrittenAs ⟨none, op, operand⟩ (before ++ symbol ++ gap ++ operand ++ after)
  | selected {op : Comparison} {selector symbol operand before first second after : String}
    (hselector : IsWord selector) (hsymbol : symbol ∈ op.spellings) (hoperand : IsWord operand)
    (hbefore : isBlankText before = true) (hfirst : IsGap first) (hsecond : IsGap second)
    (hafter : isBlankText after = true) :
    WrittenAs ⟨some selector, op, operand⟩
      (before ++ selector ++ first ++ symbol ++ second ++ operand ++ after)

theorem writtenAs_iff_wordsOf : condition.WrittenAs text ↔
    ∃ symbol ∈ condition.operator.spellings,
      wordsOf text = condition.selector.toList ++ [symbol, condition.operand] := by
  constructor
  · intro h
    cases h with
    | @unselected op symbol operand before gap after hsymbol hoperand hbefore hgap hafter =>
      have hword := Comparison.isWord_of_mem_spellings symbol hsymbol
      exact ⟨symbol, hsymbol,
        wordsOf_eq_pair_iff.2 ⟨hword, hoperand, _, _, _, rfl, hbefore, hgap, hafter⟩⟩
    | @selected op selector symbol operand before first second after hselector hsymbol hoperand
        hbefore hfirst hsecond hafter =>
      have hword := Comparison.isWord_of_mem_spellings symbol hsymbol
      have hpair : wordsOf (first ++ symbol ++ second ++ operand ++ after) = [symbol, operand] :=
        wordsOf_eq_pair_iff.2 ⟨hword, hoperand, _, _, _, rfl, hfirst.2, hsecond, hafter⟩
      refine ⟨symbol, hsymbol, wordsOf_eq_cons_iff.2 ⟨hselector, before, _, ?_, hbefore, ?_, hpair⟩⟩
      · simp only [String.append_assoc]
      · simp only [String.append_assoc]
        exact hfirst.head?_append _
  · obtain ⟨_ | selector, op, operand⟩ := condition
    · rintro ⟨symbol, hsymbol, hwords⟩
      obtain ⟨-, hoperand, before, gap, after, rfl, hbefore, hgap, hafter⟩ :=
        wordsOf_eq_pair_iff.1 hwords
      exact .unselected hsymbol hoperand hbefore hgap hafter
    · rintro ⟨symbol, hsymbol, hwords⟩
      obtain ⟨hselector, before, _, rfl, hbefore, hhead, hpair⟩ := wordsOf_eq_cons_iff.1 hwords
      obtain ⟨hword, hoperand, first, second, after, rfl, hfirst, hsecond, hafter⟩ :=
        wordsOf_eq_pair_iff.1 hpair
      simp only [String.append_assoc] at hhead
      have hgap : IsGap first := isGap_of_head? hfirst hword hhead
      simpa only [String.append_assoc] using
        WrittenAs.selected hselector hsymbol hoperand hbefore hgap hsecond hafter

theorem parse_eq_ok_iff_writtenAs : parse text = .ok condition ↔ condition.WrittenAs text := by
  rw [parse_eq_ok_iff, writtenAs_iff_wordsOf]
  simp only [Comparison.ofSymbol?_eq_some_iff]

theorem print_unselected (op : Comparison) (operand : String) :
    print ⟨none, op, operand⟩ = op.symbol ++ " " ++ operand := rfl

theorem print_selected (selector : String) (op : Comparison) (operand : String) :
    print ⟨some selector, op, operand⟩ = selector ++ " " ++ op.symbol ++ " " ++ operand := rfl

/-- What can be written at all can be printed. -/
theorem WrittenAs.print (h : condition.WrittenAs text) : condition.WrittenAs condition.print := by
  have hspace : IsGap " " := by decide
  have hnothing : isBlankText "" = true := rfl
  cases h with
  | @unselected op symbol operand _ _ _ _ hoperand =>
    rw [print_unselected]
    simpa using WrittenAs.unselected op.symbol_mem_spellings hoperand hnothing hspace hnothing
  | @selected op selector symbol operand _ _ _ _ hselector _ hoperand =>
    rw [print_selected]
    simpa using WrittenAs.selected hselector op.symbol_mem_spellings hoperand hnothing hspace
      hspace hnothing

/-- The ways in which the reading of a clause can end. -/
inductive Reading where
  | refused
  | unselected
  | selected
  deriving DecidableEq, Repr

/-- The reading of a text ends so. -/
def Reading.Of (text : String) : Reading → Prop
  | refused => ∃ error, parse text = .error error
  | unselected => ∃ read, parseUnselected text = .ok read
  | selected => ∃ read, parseSelected text = .ok read

/-- How the reading of a text ends that `parse` gives this for. -/
def Reading.ofParse : Except ConditionError Condition → Reading
  | .error _ => refused
  | .ok ⟨none, _, _⟩ => unselected
  | .ok ⟨some _, _, _⟩ => selected

theorem Reading.of_iff {reading : Reading} :
    reading.Of text ↔ ofParse (parse text) = reading := by
  cases reading with
  | refused =>
    simp only [Of]
    rcases parse text with e | ⟨_ | selector, op, operand⟩ <;> simp [ofParse]
  | unselected =>
    simp only [Of, Prod.exists, parseUnselected_eq_ok]
    rcases parse text with e | ⟨_ | selector, op, operand⟩ <;> simp [ofParse]
  | selected =>
    simp only [Of, Prod.exists, parseSelected_eq_ok]
    rcases parse text with e | ⟨_ | selector, op, operand⟩ <;> simp [ofParse]

/-- Reading inverts writing. A text is read as a condition just when the condition can be written
so; a condition that was read is read from its print; texts with the same words are read as the same
condition; and a text is refused, or read without a selector, or read with one. -/
theorem parse_inverts_writing :
    (∀ condition text, parse text = .ok condition ↔ condition.WrittenAs text)
    ∧ (∀ condition text, parse text = .ok condition → parse condition.print = .ok condition)
    ∧ (∀ text other, wordsOf text = wordsOf other →
      ∀ condition, parse text = .ok condition ↔ parse other = .ok condition)
    ∧ ∀ text, ∃! reading : Reading, reading.Of text := by
  refine ⟨fun condition text => parse_eq_ok_iff_writtenAs, fun condition text hparse => ?_,
    fun text other hwords condition => ?_, fun text => ?_⟩
  · have hwritten : condition.WrittenAs text := parse_eq_ok_iff_writtenAs.1 hparse
    exact parse_eq_ok_iff_writtenAs.2 hwritten.print
  · rw [parse_eq_ok_iff, parse_eq_ok_iff, hwords]
  · exact ⟨_, Reading.of_iff.2 rfl, fun reading h => (Reading.of_iff.1 h).symm⟩

/-- A clause whose words all look like operators is read by their places, whatever blanks there are,
and so is its print. -/
theorem parse_inverts_writing_of_operatorWords :
    WrittenAs ⟨some "==", .equal, "=="⟩ "\t== \u2003===\u00a0==\r\n"
    ∧ parse "\t== \u2003===\u00a0==\r\n" = .ok ⟨some "==", .equal, "=="⟩
    ∧ parse "== == ==" = .ok ⟨some "==", .equal, "=="⟩
    ∧ wordsOf "<>\u3000!==" = wordsOf " <>  !==\n"
    ∧ parse "<>\u3000!==" = .ok ⟨none, .notEqual, "!=="⟩
    ∧ parse " <>  !==\n" = .ok ⟨none, .notEqual, "!=="⟩ := by
  obtain ⟨hread, hprint, hsame, -⟩ := parse_inverts_writing
  have hwritten : WrittenAs ⟨some "==", .equal, "=="⟩ "\t== \u2003===\u00a0==\r\n" := by
    have hselected := @WrittenAs.selected .equal "==" "===" "==" "\t" " \u2003" "\u00a0" "\r\n"
      (by decide) (by decide) (by decide) (by decide) (by decide) (by decide) (by decide)
    simpa using hselected
  have hparse := (hread _ _).2 hwritten
  have hwords : wordsOf "<>\u3000!==" = wordsOf " <>  !==\n" := by decide
  have hpair : parse "<>\u3000!==" = .ok ⟨none, .notEqual, "!=="⟩ := by rfl
  exact ⟨hwritten, hparse, hprint _ _ hparse, hwords, hpair, (hsame _ _ hwords _).1 hpair⟩

end Condition

end Triage
