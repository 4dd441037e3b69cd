import Triage.Binary64.Basic
import Triage.Comparison

/-!
# JSON paths

A path is a list of instructions for a machine that holds the values at hand. A step says first how
it goes on, then where to; a test gives its terms first, then what joins them. Names keep the quotes
they were written in.
-/

namespace Triage.JsonPath

/-- How a step goes on from the values at hand. -/
inductive Mode where
  | child
  | deep
  | bracket
  deriving DecidableEq, Repr

inductive Operator where
  | compare (op : Comparison)
  | both
  | either
  deriving DecidableEq, Repr

/-- A number in a test: it may be written too large for a double, or not be one at all. -/
inductive Operand where
  | finite (value : Binary64)
  | infinite (negative : Bool)
  | undefined
  deriving DecidableEq

inductive Instruction where
  /-- Begins a path at the document. -/
  | root
  /-- Begins a path at the values at hand. -/
  | here
  | go (mode : Mode)
  /-- Ends what a bracket began. -/
  | close
  | every
  | name (text : String)
  | names (texts : List String)
  | number (value : Operand)
  | flag (value : Bool)
  | indices (indices : List Int)
  | slice (first last : Option Int) (stride : Nat)
  /-- Joins the last two terms. -/
  | join (op : Operator)

def isQuote (c : Char) : Bool := c == '\'' || c == '"'

/-- What stands between the quotes of a text, if it begins with one. -/
def unquoted (text : String) : String :=
  match text.toList with
  | c :: rest => if isQuote c then .ofList rest.dropLast else text
  | [] => text

/-- What a text means: one that begins with a quote loses its quotes and all backslashes. -/
def plain (text : String) : String :=
  if text.toList.head?.any isQuote then .ofList ((unquoted text).toList.filter (· != '\\'))
  else text

end Triage.JsonPath
