import Triage.Error
import Triage.Json.Decode
import Triage.Text.Blank

/-!
# What all analyzers share

A title, and two flags that may be written as booleans or as texts.
-/

namespace Triage

/-- The words for true and false. -/
def boolOfText? : String → Option Bool
  | "1" | "t" | "T" | "true" | "TRUE" | "True" => some true
  | "0" | "f" | "F" | "false" | "FALSE" | "False" => some false
  | _ => none

/-- All words for a truth value. -/
def wordsOfBool : Bool → List String
  | true => ["1", "t", "T", "true", "TRUE", "True"]
  | false => ["0", "f", "F", "false", "FALSE", "False"]

theorem boolOfText?_eq_some_iff {s : String} {b : Bool} :
    boolOfText? s = some b ↔ s ∈ wordsOfBool b := by
  constructor
  · intro h
    unfold boolOfText? at h
    split at h <;> simp only [Option.some.injEq, reduceCtorEq] at h <;> subst h <;> decide
  · have hread : ∀ word ∈ wordsOfBool b, boolOfText? word = some b := by
      cases b <;> decide
    exact hread s

/-- A flag as it is written. -/
inductive Flag where
  | literal (value : Bool)
  | text (value : String)
  deriving DecidableEq, Repr

namespace Flag

def decode : Json.Decoder Flag
  | .bool b => some (literal b)
  | .string s => s.map text
  | _ => none

def toJson : Flag → Json
  | literal b => .bool b
  | text s => .string s

/-- What the flag says; a blank text says no. -/
def resolve : Flag → Except InvalidError Bool
  | literal b => .ok b
  | text s =>
    if isBlankText s then .ok false
    else match boolOfText? (trimmed s) with
      | some b => .ok b
      | none => .error (.notBoolean s)

/-- What a flag says: a text says it with a word, with or without blanks around it, or says no by
being blank. -/
inductive Says : Flag → Bool → Prop
  | literal (b : Bool) : Says (literal b) b
  | word {s : String} {b : Bool} (hword : trimmed s ∈ wordsOfBool b) : Says (text s) b
  | blank {s : String} (hblank : isBlankText s = true) : Says (text s) false

section

variable {flag : Flag} {s : String} {b : Bool} {e : InvalidError}

theorem says_text_iff : (text s).Says b ↔ isBlankText s = true ∧ b = false
    ∨ isBlankText s = false ∧ boolOfText? (trimmed s) = some b := by
  constructor
  · intro h
    cases h with
    | word hword =>
      have hread := boolOfText?_eq_some_iff.2 hword
      cases hblank : isBlankText s with
      | false => exact .inr ⟨rfl, hread⟩
      | true => simp [trimmed_eq_empty hblank, boolOfText?] at hread
    | blank hblank => exact .inl ⟨hblank, rfl⟩
  · rintro (⟨hblank, rfl⟩ | ⟨-, hread⟩)
    · exact .blank hblank
    · exact .word (boolOfText?_eq_some_iff.1 hread)

theorem resolve_eq_ok_iff : flag.resolve = .ok b ↔ flag.Says b := by
  cases flag with
  | literal value =>
    rw [resolve, Except.ok.injEq]
    constructor
    · rintro rfl
      exact .literal value
    · rintro ⟨⟩
      rfl
  | text s =>
    rw [says_text_iff, resolve]
    cases isBlankText s with
    | true => simp [eq_comm]
    | false => cases boolOfText? (trimmed s) <;> simp

/-- The one fault of a flag is a text that says nothing. -/
theorem resolve_eq_error_iff : flag.resolve = .error e ↔
    ∃ s, flag = .text s ∧ e = .notBoolean s ∧ ∀ b, ¬ flag.Says b := by
  simp only [← resolve_eq_ok_iff]
  cases flag with
  | literal value => simp [resolve]
  | text s =>
    simp only [text.injEq, exists_eq_left', resolve]
    split
    · simp
    · cases boolOfText? (trimmed s) <;> simp [eq_comm]

end

end Flag

structure Meta where
  checkName : String := ""
  exclude : Option Flag := none
  strict : Option Flag := none
  deriving DecidableEq, Repr

namespace Meta

/-- The fields, for a record that holds them through `modify`. -/
def fieldsIn {α : Type} (modify : (Meta → Meta) → α → α) : List (Json.Decode.Field α) :=
  open Json.Decode in
  [field "checkName" text fun x => modify fun m => { m with checkName := x },
   optionalField "exclude" Flag.decode fun x => modify fun m => { m with exclude := x },
   optionalField "strict" Flag.decode fun x => modify fun m => { m with strict := x }]

def decode : Json.Decoder Meta := Json.Decode.record (fieldsIn id) {}

/-- The members written for it; what is empty is left out. -/
def members (m : Meta) : List (String × Json) :=
  (if m.checkName.isEmpty then [] else [("checkName", .string m.checkName)]) ++
    (m.exclude.map fun flag => ("exclude", flag.toJson)).toList ++
    (m.strict.map fun flag => ("strict", flag.toJson)).toList

def toJson (m : Meta) : Json := .object m.members

/-- The title that is set, or a default one. -/
def title (m : Meta) (default : String) : String :=
  if m.checkName.isEmpty then default else m.checkName

def isExcluded (m : Meta) : Except InvalidError Bool :=
  match m.exclude with
  | some flag => flag.resolve
  | none => .ok false

def isStrict (m : Meta) : Except InvalidError Bool :=
  match m.strict with
  | some flag => flag.resolve
  | none => .ok false

/-- A flag that is left out says no. -/
theorem isExcluded_eq (m : Meta) : m.isExcluded = (m.exclude.getD (.literal false)).resolve := by
  unfold isExcluded
  cases m.exclude <;> rfl

theorem isStrict_eq (m : Meta) : m.isStrict = (m.strict.getD (.literal false)).resolve := by
  unfold isStrict
  cases m.strict <;> rfl

end Meta

end Triage
