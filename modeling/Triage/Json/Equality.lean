import Triage.Json.Compact

/-!
# Equality of JSON values

Objects are compared as maps: the order of their members does not count. Numbers are compared
either within their kind (`same`) or by value (`equal`), so that `1` and `1.0` are equal.
`equalIgnoringOrder` compares two arrays as collections, by putting both into one order first.
-/

namespace Triage.Json

def Number.toFloat? : Number → Option Binary64
  | .int i => Binary64.ofInt? i
  | .float x => some x

/-- Equality within a kind; both zeros are the same double. -/
def Number.same : Number → Number → Bool
  | .int i, .int j => i == j
  | .float x, .float y => x.order y == .eq
  | _, _ => false

/-- Equality within a kind, or of the doubles that both numbers round to. -/
def Number.equal (m n : Number) : Bool :=
  m.same n || (m.toFloat?.isSome && m.toFloat? == n.toFloat?)

mutual
/-- Whether two values have the same shape, with numbers compared by `eq`. -/
def sameBy (eq : Number → Number → Bool) : Json → Json → Bool
  | null, null => true
  | bool a, bool b => a == b
  | number m, number n => eq m n
  | string s, string t => s == t
  | array xs, array ys => sameItemsBy eq xs ys
  | object members, object others =>
    members.length == others.length && sameMembersBy eq others members
  | _, _ => false

def sameItemsBy (eq : Number → Number → Bool) : List Json → List Json → Bool
  | [], [] => true
  | x :: xs, y :: ys => sameBy eq x y && sameItemsBy eq xs ys
  | _, _ => false

/-- Whether every member has its like among `others`. -/
def sameMembersBy (eq : Number → Number → Bool) (others : List (String × Json)) :
    List (String × Json) → Bool
  | [] => true
  | (key, x) :: members =>
    (match others.lookup key with
      | some y => sameBy eq x y
      | none => false) && sameMembersBy eq others members
end

def same : Json → Json → Bool := sameBy Number.same

def equal : Json → Json → Bool := sameBy Number.equal

/-- The values in the order of their texts. -/
def arranged (values : List Json) : List Json :=
  ((values.map fun value => (value.compact, value)).mergeSort fun x y => x.1 ≤ y.1).map (·.2)

/-- Equality that ignores the order of a top-level array. -/
def equalIgnoringOrder : Json → Json → Bool
  | array xs, array ys =>
    xs.length == ys.length && sameItemsBy Number.equal (arranged xs) (arranged ys)
  | x, y => equal x y

end Triage.Json
