import Triage.Clause.Cluster
import Triage.Proofs.Clauses

/-!
# Clauses about pods beside clauses without a selector

A clause about a pod is read like a clause without a selector, an operator of equality and the
state it asks for, but only its first two words are looked at. So it goes astray just when more
words follow (`keepsGrammar_iff`): other clauses of this kind are refused then, and this one is
taken for what its first two words say.
-/

namespace Triage.Clause.PodTest

/-- Whether a pod is in the state that a word stands for, or is not. -/
def ofWord (negated : Bool) (word : String) : PodTest :=
  if sameToken word "Healthy" then healthy negated else state negated word

/-- What a test makes of an operator and a word. -/
inductive Reads : PodTest → Comparison → String → Prop
  | equal (word : String) : Reads (ofWord false word) .equal word
  | notEqual (word : String) : Reads (ofWord true word) .notEqual word

/-- The clause is accepted just when it is a clause without a selector that has an operator of
equality, and means the same then. -/
def KeepsGrammar (clause : String) : Prop :=
  ∀ test, parse clause = .ok test ↔ ∃ op operand,
    Condition.parseUnselected clause = .ok (op, operand) ∧ Reads test op operand

/-- The clause starts with an operator and a word, and some number of words follow. -/
def Starts (clause : String) (op : Comparison) (word : String) (more : List String) : Prop :=
  ∃ symbol, Comparison.ofSymbol? symbol = some op
    ∧ Text.Spaced clause.toList (symbol.toList :: word.toList :: more.map String.toList)

/-- The clause starts with an operator of equality, and more than one word follows. -/
def Overlong (clause : String) : Prop :=
  ∃ op word more, Starts clause op word more ∧ op.isEquality = true ∧ more ≠ []

variable {clause : String} {test : PodTest} {op : Comparison} {word : String}

theorem starts_iff {more : List String} : Starts clause op word more ↔
    ∃ symbol, Comparison.ofSymbol? symbol = some op
      ∧ wordsOf clause = symbol :: word :: more := by
  simp only [Starts, wordsOf_eq_iff, List.map_cons]

theorem starts_nil_iff : Starts clause op word [] ↔
    Condition.parseUnselected clause = .ok (op, word) :=
  Condition.parseUnselected_eq_ok_iff.symm

theorem Starts.unique {op' : Comparison} {word' : String} {more more' : List String}
    (h : Starts clause op word more) (h' : Starts clause op' word' more') :
    op = op' ∧ word = word' ∧ more = more' := by
  obtain ⟨symbol, hop, hwords⟩ := starts_iff.1 h
  obtain ⟨symbol', hop', hwords'⟩ := starts_iff.1 h'
  rw [hwords] at hwords'
  obtain ⟨rfl, htail⟩ := List.cons.inj hwords'
  obtain ⟨rfl, rfl⟩ := List.cons.inj htail
  exact ⟨Option.some.inj (hop.symm.trans hop'), rfl, rfl⟩

theorem Starts.not_blank {more : List String} (h : Starts clause op word more) :
    ¬ Text.Blank clause.toList := by
  obtain ⟨symbol, -, hwords⟩ := starts_iff.1 h
  rw [← wordsOf_eq_nil_iff, hwords]
  exact List.cons_ne_nil _ _

theorem Reads.isEquality (h : Reads test op word) : op.isEquality = true := by
  cases h <;> rfl

theorem exists_reads (h : op.isEquality = true) (word : String) : ∃ test, Reads test op word := by
  cases op with
  | equal => exact ⟨_, .equal word⟩
  | notEqual => exact ⟨_, .notEqual word⟩
  | _ => cases h

theorem parse_eq_ok_iff : parse clause = .ok test ↔
    Text.Blank clause.toList ∧ test = always
    ∨ ∃ op word more, Starts clause op word more ∧ Reads test op word := by
  unfold parse
  simp only [← wordsOf_eq_nil_iff, starts_iff]
  constructor
  · intro h
    split at h
    · rename_i hwords
      cases h
      exact .inl ⟨hwords, rfl⟩
    · cases h
    · rename_i symbol word more hwords
      obtain ⟨op, hop, h⟩ := bind_eq_ok.1 h
      have hsymbol := Comparison.parse_eq_ok_iff.1 (mapError_eq_ok.1 hop)
      refine .inr ⟨op, word, more, ⟨symbol, hsymbol, hwords⟩, ?_⟩
      cases op with
      | equal =>
        cases h
        exact .equal word
      | notEqual =>
        cases h
        exact .notEqual word
      | _ => cases h
  · rintro (⟨hwords, rfl⟩ | ⟨op, word, more, ⟨symbol, hsymbol, hwords⟩, hreads⟩)
    · rw [hwords]
    · have hop : (Comparison.parse symbol).mapError PodTestError.unreadable = .ok op :=
        mapError_eq_ok.2 (Comparison.parse_eq_ok_iff.2 hsymbol)
      simp only [hwords, hop]
      cases hreads <;> rfl

/-- A clause about pods keeps to the grammar of clauses without a selector unless it is blank or
goes on after its operand. Every clause but a blank one is read by its first two words. -/
theorem keepsGrammar_iff (clause : String) :
    (KeepsGrammar clause ↔ ¬ Text.Blank clause.toList ∧ ¬ Overlong clause)
    ∧ ∀ test, parse clause = .ok test ↔ Text.Blank clause.toList ∧ test = always
      ∨ ∃ op word more, Starts clause op word more ∧ Reads test op word := by
  refine ⟨?_, fun test => parse_eq_ok_iff⟩
  simp only [KeepsGrammar, ← starts_nil_iff]
  constructor
  · intro h
    constructor
    · intro hblank
      obtain ⟨op, word, hstarts, -⟩ := (h always).1 (parse_eq_ok_iff.2 (.inl ⟨hblank, rfl⟩))
      exact hstarts.not_blank hblank
    · rintro ⟨op, word, more, hstarts, hop, hmore⟩
      obtain ⟨test, hreads⟩ := exists_reads hop word
      obtain ⟨op', word', hstarts', -⟩ :=
        (h test).1 (parse_eq_ok_iff.2 (.inr ⟨op, word, more, hstarts, hreads⟩))
      exact hmore (hstarts.unique hstarts').2.2
  · rintro ⟨hblank, hshort⟩ test
    rw [parse_eq_ok_iff]
    constructor
    · rintro (⟨hblank', -⟩ | ⟨op, word, more, hstarts, hreads⟩)
      · exact absurd hblank' hblank
      · obtain rfl : more = [] := by
          by_contra hmore
          exact hshort ⟨op, word, more, hstarts, hreads.isEquality, hmore⟩
        exact ⟨op, word, hstarts, hreads⟩
    · rintro ⟨op, word, hstarts, hreads⟩
      exact .inr ⟨op, word, [], hstarts, hreads⟩

/-- A third word makes no difference. -/
theorem parse_passes_over_third_word :
    parse "== Running again" = .ok (.state false "Running")
    ∧ (∀ answer, Condition.parseUnselected "== Running again" ≠ .ok answer)
    ∧ ¬ Text.Blank "== Running again".toList ∧ ¬ KeepsGrammar "== Running again" := by
  have hparse : parse "== Running again" = .ok (.state false "Running") := by decide +kernel
  have hunselected : Condition.parseUnselected "== Running again" =
      .error (.unknownOperator "Running") := by decide +kernel
  refine ⟨hparse, by simp [hunselected], by decide +kernel, fun h => ?_⟩
  obtain ⟨op, operand, hread, -⟩ := (h _).1 hparse
  rw [hunselected] at hread
  cases hread

end Triage.Clause.PodTest
