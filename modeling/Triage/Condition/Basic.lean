import Triage.Condition.Error
import Triage.Text.Blank

/-!
# Conditions

A clause is two or three words: an operator and an operand, perhaps after a selector that says what
is compared. Blanks only divide the words.
-/

namespace Triage

structure Condition where
  selector : Option String
  operator : Comparison
  operand : String
  deriving DecidableEq, Repr

def Comparison.parse (token : String) : Except ConditionError Comparison :=
  match Comparison.ofSymbol? token with
  | some op => .ok op
  | none => .error (.unknownOperator token)

namespace Condition

def parse (text : String) : Except ConditionError Condition :=
  match wordsOf text with
  | [op, operand] => return ⟨none, ← Comparison.parse op, operand⟩
  | [selector, op, operand] => return ⟨some selector, ← Comparison.parse op, operand⟩
  | words => .error (.wordCount text words.length)

/-- Reads a clause that must not have a selector. -/
def parseUnselected (text : String) : Except ConditionError (Comparison × String) := do
  let condition ← parse text
  match condition.selector with
  | none => return (condition.operator, condition.operand)
  | some _ => throw (.unexpectedSelector text)

/-- Reads a clause that must have a selector. -/
def parseSelected (text : String) : Except ConditionError (String × Comparison × String) := do
  let condition ← parse text
  match condition.selector with
  | some selector => return (selector, condition.operator, condition.operand)
  | none => throw (.missingSelector text)

/-- The clause written with single spaces. -/
def print (condition : Condition) : String :=
  match condition.selector with
  | some selector => s!"{selector} {condition.operator.symbol} {condition.operand}"
  | none => s!"{condition.operator.symbol} {condition.operand}"

end Condition

end Triage
