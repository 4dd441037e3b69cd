import Triage.Json.Basic

/-!
# Values in their places

Values are kept with their places in the document, so that equal values at two places stay two.
-/

namespace Triage.JsonPath

/-- A value and the way back from it to the document, as positions of children. -/
structure Node where
  place : List Nat
  value : Json

namespace Node

def root (document : Json) : Node := ⟨[], document⟩

def sameAs (a b : Node) : Bool := a.place == b.place

def number (place : List Nat) (values : List Json) : List Node :=
  values.zipIdx.map fun (value, i) => ⟨i :: place, value⟩

def children (node : Node) : List Node :=
  match node.value with
  | .array items => number node.place items
  | .object members => number node.place (members.map (·.2))
  | _ => []

def isObject (node : Node) : Bool := node.value matches .object _

def isArray (node : Node) : Bool := node.value matches .array _

def member? (key : String) (node : Node) : Option Node :=
  match node.value with
  | .object members => do
    let i ← members.findIdx? (·.1 == key)
    return ⟨i :: node.place, (← members[i]?).2⟩
  | _ => none

def has (key : String) (node : Node) : Bool := (node.member? key).isSome

/-- The items of an array. -/
def items (node : Node) : List Node :=
  match node.value with
  | .array items => number node.place items
  | _ => []

/-- A position among so many; a negative one counts from the end, and none lies before the first or
beyond the end. -/
def position (length : Nat) (index : Int) : Nat :=
  if index < 0 then (index + length).toNat else min index.toNat length

def itemAt? (index : Int) (node : Node) : Option Node :=
  node.items[position node.items.length index]?

/-- The items from one position up to another, so far apart. -/
def slice (first last : Option Int) (stride : Nat) (node : Node) : List Node :=
  let items := node.items
  let first := (first.map (position items.length)).getD 0
  let last := (last.map (position items.length)).getD items.length
  (items.take last).zipIdx.filterMap fun (item, i) =>
    if first ≤ i ∧ (i - first) % stride = 0 then some item else none

mutual
/-- A value and everything below it, each before what it holds. -/
def walk (place : List Nat) : Json → List Node
  | .array items => ⟨place, .array items⟩ :: walkItems place 0 items
  | .object members => ⟨place, .object members⟩ :: walkMembers place 0 members
  | value => [⟨place, value⟩]

def walkItems (place : List Nat) (i : Nat) : List Json → List Node
  | [] => []
  | item :: items => walk (i :: place) item ++ walkItems place (i + 1) items

def walkMembers (place : List Nat) (i : Nat) : List (String × Json) → List Node
  | [] => []
  | (_, value) :: members => walk (i :: place) value ++ walkMembers place (i + 1) members
end

/-- A node and everything below it. -/
def all (node : Node) : List Node := walk node.place node.value

mutual
/-- The objects of a value that is an object, or in an array however deep in others. -/
def walkObjects (place : List Nat) : Json → List Node
  | .array items => walkObjectItems place 0 items
  | .object members => [⟨place, .object members⟩]
  | _ => []

def walkObjectItems (place : List Nat) (i : Nat) : List Json → List Node
  | [] => []
  | item :: items => walkObjects (i :: place) item ++ walkObjectItems place (i + 1) items
end

/-- The objects among which a test looks up a key. -/
def objects (node : Node) : List Node := walkObjects node.place node.value

/-- Drops the nodes that came before. -/
def distinct (nodes : List Node) : List Node :=
  (nodes.foldl (fun kept node => if kept.any node.sameAs then kept else node :: kept) []).reverse

end Node

end Triage.JsonPath
