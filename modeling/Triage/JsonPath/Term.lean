import Triage.Json.Equality
import Triage.JsonPath.Basic
import Triage.JsonPath.Node
import Triage.Text.Integer

/-!
# The terms of tests

A term is a constant, or the nodes that a path led to. Nodes come with their owners, the nodes at
hand that led to them, for it is these that a filter keeps. Comparing nodes keeps those for which
the comparison holds; where it holds for none, it is false.
-/

namespace Triage.JsonPath

namespace Operand

def ofNumber (m : Json.Number) : Operand := (m.toFloat?.map finite).getD undefined

/-- The order of two numbers, unless one of them is none. -/
def order? : Operand → Operand → Option Ordering
  | finite x, finite y => some (x.order y)
  | infinite a, infinite b => some (compare b a)
  | infinite a, finite _ => some (if a then .lt else .gt)
  | finite _, infinite b => some (if b then .gt else .lt)
  | _, _ => none

def isPositive : Operand → Bool
  | finite x => !x.negative && !x.isZero
  | infinite negative => !negative
  | undefined => false

/-- The whole part, brought into the range of 64 bits. -/
def toIndex : Operand → Int
  | finite x =>
    let whole := x.units.tdiv (Text.powerOfTwo 1074)
    max (-Text.powerOfTwo 63) (min whole (Text.powerOfTwo 63 - 1))
  | infinite negative => if negative then -Text.powerOfTwo 63 else Text.powerOfTwo 63 - 1
  | undefined => 0

end Operand

inductive Constant where
  | text (value : String)
  | number (value : Operand)
  | flag (value : Bool)

inductive Term where
  | constant (value : Constant)
  /-- Nodes, their owners if a path has led away from these, and the key that it went on by. -/
  | nodes (owners : Option (List Node)) (key : Option String) (items : List Node)

namespace Operator

/-- Decides by how two operands stand to each other, or by whether they count as true. -/
def decide (op : Operator) (a b : Bool) (order : Option Ordering) : Bool :=
  match op, order with
  | both, _ => a && b
  | either, _ => a || b
  | compare op, some order => op.holds order
  | compare op, none => op == .notEqual

/-- The operator for exchanged operands. -/
def exchanged : Operator → Operator
  | compare .less => compare .greater
  | compare .lessOrEqual => compare .greaterOrEqual
  | compare .greater => compare .less
  | compare .greaterOrEqual => compare .lessOrEqual
  | op => op

end Operator

namespace Constant

def plain : Constant → Constant
  | text s => text (JsonPath.plain s)
  | value => value

/-- The constant that a value is. -/
def ofJson? : Json → Option Constant
  | .string s => some (text s)
  | .number m => some (number (.ofNumber m))
  | .bool b => some (flag b)
  | _ => none

/-- The answer for two constants, if they are of one kind. -/
def meets? (op : Operator) : Constant → Constant → Option Bool
  | text s, text t => some (op.decide (!s.isEmpty) (!t.isEmpty) (some (compare s t)))
  | number x, number y => some (op.decide x.isPositive y.isPositive (x.order? y))
  | flag a, flag b => some (op.decide a b (some (compare a b)))
  | _, _ => none

/-- Whether a comparison holds of a value, or of what it has under the key. -/
def passes (op : Operator) (constant : Constant) (key : Option String) (node : Node) : Bool :=
  let meets (value : Json) : Option Bool := do (← ofJson? value).meets? op constant
  (meets node.value <|> (do meets (← node.member? (← key)).value)).getD false

end Constant

namespace Term

def flag (value : Bool) : Term := constant (.flag value)

/-- A single plain value stands for itself. -/
def ofNodes (items : List Node) : Term :=
  match items with
  | [node] => ((Constant.ofJson? node.value).map constant).getD (nodes none none items)
  | items => nodes none none items

/-- The owners that are objects, once for each of their members that passed. -/
def ownersOf (owners passed : List Node) : List Node :=
  (owners.filter Node.isObject).flatMap fun owner =>
    owner.children.filterMap fun child => if passed.any child.sameAs then some owner else none

/-- What is left of nodes and their owners when some nodes passed. -/
def ofPassed (owners : Option (List Node)) : List Node → Term
  | [] => flag false
  | passed => nodes (owners.map (ownersOf · passed)) none passed

/-- Drops the nodes whose values came before. -/
def distinctValues (items : List Node) : List Node :=
  (items.foldl
    (fun kept node => if kept.any fun other => node.value.same other.value then kept
      else node :: kept) []).reverse

/-- The nodes for which an operator holds with those of another term, once for each of these. -/
def joined (op : Operator) (items others : List Node) : List Node :=
  let pairs (p : Json → Json → Bool) : List Node :=
    items.flatMap fun node =>
      others.filterMap fun other => if p node.value other.value then some node else none
  match op with
  | .compare .equal | .both => pairs Json.same
  | .compare .notEqual => pairs fun a b => !a.same b
  | .either => distinctValues (items ++ others)
  | _ => []

/-- Joins the nodes of two terms. Owners stand for the nodes of the first term, and for those of the
second if the first has none; those of the first are kept, however few passed. -/
def joinNodes (op : Operator) (owners owners' : Option (List Node)) (items items' : List Node) :
    Term :=
  let passed := match owners with
    | some owners => joined op owners items'
    | none => joined op items (owners'.getD items')
  if passed.isEmpty then flag false else nodes owners none passed

/-- Joins two terms by an operator. -/
def join (op : Operator) : Term → Term → Term
  | nodes owners _ items, nodes owners' _ items' => joinNodes op owners owners' items items'
  | nodes owners key items, constant value =>
    ofPassed owners (items.filter (value.plain.passes op key))
  | constant value, nodes owners key items =>
    ofPassed owners (items.filter (value.plain.passes op.exchanged key))
  | constant value, constant other => flag ((value.plain.meets? op other.plain).getD false)

end Term

end Triage.JsonPath
