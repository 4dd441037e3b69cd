import Triage.Binary64.Basic

/-!
# JSON values

Objects keep the order in which their members were first written. A number is an integer, which
readers keep between `-2 ^ 63` and `2 ^ 64 - 1`, or a double.
-/

namespace Triage

inductive Json.Number where
  | int (value : Int)
  | float (value : Binary64)
  deriving DecidableEq, Inhabited

inductive Json where
  | null
  | bool (value : Bool)
  | number (value : Json.Number)
  | string (value : String)
  | array (items : List Json)
  | object (members : List (String × Json))
  deriving Inhabited

namespace Json

abbrev Members := List (String × Json)

/-- Sets a member: a known key keeps its place, a new one goes to the end. -/
def Members.set (key : String) (value : Json) : Members → Members
  | [] => [(key, value)]
  | (k, v) :: rest => if k = key then (k, value) :: rest else (k, v) :: Members.set key value rest

/-- The members of an object as written, where a repeated key keeps its first place and takes its
last value. -/
def Members.ofList (written : List (String × Json)) : Members :=
  written.foldl (fun members (key, value) => Members.set key value members) []

def member? (key : String) : Json → Option Json
  | object members => members.lookup key
  | _ => none

def ofInt (i : Int) : Json := number (.int i)

def ofNat (n : Nat) : Json := number (.int n)

def ofStrings (texts : List String) : Json := array (texts.map string)

/-- How many containers enclose the deepest value, counting itself. -/
def depth : Json → Nat
  | array items => depths items + 1
  | object members => memberDepths members + 1
  | _ => 0
where
  depths : List Json → Nat
    | [] => 0
    | x :: xs => max (depth x) (depths xs)
  memberDepths : List (String × Json) → Nat
    | [] => 0
    | (_, x) :: xs => max (depth x) (memberDepths xs)

end Json

end Triage
