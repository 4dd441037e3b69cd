/-!
# TOML values

Tables remember how they came about, for this decides what may still be added to them. Floats and
moments in time are kept as kinds only.
-/

namespace Triage

/-- How a table came about. -/
inductive Toml.Origin where
  /-- On the way to a table that has a header. -/
  | implied
  /-- On the way to a value with a dotted key. -/
  | dotted
  /-- By a header of its own. -/
  | stated
  /-- As a value. -/
  | inline
  deriving DecidableEq, Repr

inductive Toml where
  | string (value : String)
  | integer (value : Int)
  | float
  | boolean (value : Bool)
  | moment
  | array (items : List Toml)
  /-- The tables under one doubled header. -/
  | tables (items : List Toml)
  | table (origin : Toml.Origin) (members : List (String × Toml))
  deriving Inhabited

namespace Toml

abbrev Members := List (String × Toml)

/-- Replaces the value of a key. -/
def replace (key : String) (value : Toml) (members : Members) : Members :=
  members.map fun (k, old) => (k, if k = key then value else old)

/-- Changes what a header leads to. Tables on the way are made; of several tables under one name the
last is meant. -/
def underHeader? (change : Members → Option Members) : List String → Members → Option Members
  | [], members => change members
  | key :: keys, members =>
    match members.lookup key with
    | none => do return members ++ [(key, table .implied (← underHeader? change keys []))]
    | some (table .inline _) => none
    | some (table origin inner) => do
      return replace key (table origin (← underHeader? change keys inner)) members
    | some (tables items) =>
      match items.getLast? with
      | some (table origin inner) => do
        let last := table origin (← underHeader? change keys inner)
        return replace key (tables (items.dropLast ++ [last])) members
      | _ => none
    | some _ => none

/-- Adds the table of a header; a table that was only implied may get its header later. -/
def addTable? (key : String) (members : Members) : Option Members :=
  match members.lookup key with
  | none => some (members ++ [(key, table .stated [])])
  | some (table .implied inner) => some (replace key (table .stated inner) members)
  | some _ => none

/-- Adds one more table under a doubled header. -/
def addToTables? (key : String) (members : Members) : Option Members :=
  match members.lookup key with
  | none => some (members ++ [(key, tables [table .stated []])])
  | some (tables items) => some (replace key (tables (items ++ [table .stated []])) members)
  | some _ => none

/-- Adds a value under a dotted key. A table that has a header, or that a header implied, cannot be
added to in this way. -/
def addValue? (value : Toml) (last : String) : List String → Members → Option Members
  | [], members =>
    if (members.lookup last).isSome then none else some (members ++ [(last, value)])
  | key :: keys, members =>
    match members.lookup key with
    | none => do return members ++ [(key, table .dotted (← addValue? value last keys []))]
    | some (table .dotted inner) => do
      return replace key (table .dotted (← addValue? value last keys inner)) members
    | some (table .implied inner) =>
      if keys.isEmpty then none
      else do return replace key (table .implied (← addValue? value last keys inner)) members
    | some _ => none

end Toml

end Triage
