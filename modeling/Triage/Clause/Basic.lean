import Triage.Condition.Basic
import Triage.Meta
import Triage.Quantity
import Triage.Version

/-!
# Clauses over single values

A clause is asked of a value of one kind and answers yes or no. A clause that cannot be read is an
error, never a no.
-/

namespace Triage.Clause

abbrev Answer := Except ConditionError Bool

/-- The flag that a clause asks for. -/
def readBool (clause : String) : Answer :=
  match boolOfText? (trimmed clause) with
  | some b => .ok b
  | none => .error (.notBoolean clause)

def boolean (clause : String) (actual : Bool) : Answer := do
  return (← readBool clause) == actual

def readInteger (operand : String) : Except ConditionError Int :=
  match Text.signed64? (Text.trim operand.toList) with
  | some i => .ok i
  | none => .error (.notInteger operand)

def integer (op : Comparison) (operand : String) (actual : Int) : Answer := do
  return op.compare actual (← readInteger operand)

/-- An integer asked by a clause without a selector. -/
def count (clause : String) (actual : Int) : Answer := do
  let (op, operand) ← Condition.parseUnselected clause
  integer op operand actual

def bytes (op : Comparison) (operand : String) (actual : Nat) : Answer := do
  return op.compare actual (← Quantity.parse operand)

/-- A number of bytes asked by a clause without a selector. -/
def quantity (clause : String) (actual : Nat) : Answer := do
  let (op, operand) ← Condition.parseUnselected clause
  bytes op operand actual

/-- Compares two versions; the actual one is read first. -/
def versions (op : Comparison) (actual expected : String) : Answer := do
  let actual ← Version.parse actual
  return op.compare actual (← Version.parse expected)

/-- A version asked by a clause without a selector. -/
def version (clause : String) (actual : String) : Answer := do
  let (op, operand) ← Condition.parseUnselected clause
  versions op actual operand

/-- Equality of texts, up to the case of ASCII letters. -/
def token (op : Comparison) (actual expected : String) : Answer :=
  match op.ofEquality? (sameToken actual expected) with
  | some b => .ok b
  | none => .error (.unordered op expected)

/-- Equality of texts. -/
def exact (op : Comparison) (actual expected : String) : Answer :=
  match op.ofEquality? (actual == expected) with
  | some b => .ok b
  | none => .error (.unordered op expected)

end Triage.Clause
