/-!
# Comparison operators

Six operators and their spellings. An operator holds of an ordering, so one definition serves every
kind of operand.
-/

namespace Triage

inductive Comparison where
  | equal
  | notEqual
  | less
  | lessOrEqual
  | greater
  | greaterOrEqual
  deriving DecidableEq, Repr

namespace Comparison

/-- Reads an operator; equality and its negation have several spellings. -/
def ofSymbol? : String → Option Comparison
  | "=" | "==" | "===" => some equal
  | "!=" | "!==" | "<>" => some notEqual
  | "<" => some less
  | "<=" => some lessOrEqual
  | ">" => some greater
  | ">=" => some greaterOrEqual
  | _ => none

/-- The spelling used in messages. -/
def symbol : Comparison → String
  | equal => "=="
  | notEqual => "!="
  | less => "<"
  | lessOrEqual => "<="
  | greater => ">"
  | greaterOrEqual => ">="

/-- Whether the operator holds when the actual value stands in this order to the expected one. -/
def holds : Comparison → Ordering → Bool
  | equal, o => o == .eq
  | notEqual, o => o != .eq
  | less, o => o == .lt
  | lessOrEqual, o => o != .gt
  | greater, o => o == .gt
  | greaterOrEqual, o => o != .lt

def isEquality : Comparison → Bool
  | equal | notEqual => true
  | _ => false

def compare {α : Type} [Ord α] (op : Comparison) (actual expected : α) : Bool :=
  op.holds (Ord.compare actual expected)

/-- Applies an equality operator to a fact; there is no answer for the ordering operators. -/
def ofEquality? : Comparison → Bool → Option Bool
  | equal, same => some same
  | notEqual, same => some !same
  | _, _ => none

end Comparison

end Triage
