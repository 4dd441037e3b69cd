import Triage.Json.Written

/-!
# Decoding records

Records are read from a document before its repeated keys are merged, so a field that is written
twice is an error. A record is written as an object, whose unknown members are skipped, or as an
array of its fields in their order. `record` fills fields that are left out from a default;
`complete` demands all of them, apart from those that may be null.
-/

namespace Triage.Json

/-- How the values of a type are read from a document. -/
abbrev Decoder (α : Type) := Written → Option α

namespace Decode

def text : Decoder String
  | .string s => s
  | _ => none

def flag : Decoder Bool
  | .bool b => some b
  | _ => none

/-- A non-negative integer below `2 ^ 64`. -/
def word64 : Decoder Nat
  | .number (some (.int i)) => if 0 ≤ i ∧ i < Text.powerOfTwo 64 then some i.toNat else none
  | _ => none

/-- An integer between `-2 ^ 31` and `2 ^ 31 - 1`. -/
def int32 : Decoder Int
  | .number (some (.int i)) =>
    if -Text.powerOfTwo 31 ≤ i ∧ i < Text.powerOfTwo 31 then some i else none
  | _ => none

def optional {α : Type} (decode : Decoder α) : Decoder (Option α)
  | .null => some none
  | value => (decode value).map some

def list {α : Type} (decode : Decoder α) : Decoder (List α)
  | .array items => items.mapM decode
  | _ => none

/-- An object as its entries, the last one first, so that a look-up finds the last value of a
key. -/
def entries {α : Type} (decode : Decoder α) : Decoder (List (String × α))
  | .object members => do
    let found ← members.mapM fun (key, value) => do return (← key, ← decode value)
    return found.reverse
  | _ => none

/-- A field of a record: its key, whether it may be left out, and what its value does. -/
structure Field (α : Type) where
  key : String
  optional : Bool
  store : Written → α → Option α

def field {α β : Type} (key : String) (decode : Decoder β) (set : β → α → α) : Field α :=
  ⟨key, false, fun value record => (decode value).map fun x => set x record⟩

/-- A field that is null when it is left out. -/
def optionalField {α β : Type} (key : String) (decode : Decoder β) (set : Option β → α → α) :
    Field α :=
  ⟨key, true, fun value record => (Decode.optional decode value).map fun x => set x record⟩

/-- Stores the members that are fields, and reports the keys of those. -/
def storeMembers {α : Type} (fields : List (Field α)) (seen : List String) :
    List (Option String × Written) → α → Option (List String × α)
  | [], record => some (seen, record)
  | (none, _) :: _, _ => none
  | (some key, value) :: members, record =>
    match fields.find? (·.key == key) with
    | none => storeMembers fields seen members record
    | some field =>
      if seen.contains key then none
      else (field.store value record).bind (storeMembers fields (key :: seen) members)

/-- Stores items in the order of the fields; the fields that are left over are reported too. -/
def storeItems {α : Type} : List (Field α) → List Written → α → Option (List (Field α) × α)
  | fields, [], record => some (fields, record)
  | [], _ :: _, _ => none
  | field :: fields, item :: items, record =>
    (field.store item record).bind (storeItems fields items)

/-- A record whose fields may all be left out. -/
def record {α : Type} (fields : List (Field α)) (start : α) : Decoder α
  | .object members => (storeMembers fields [] members start).map (·.2)
  | .array items => (storeItems fields items start).map (·.2)
  | _ => none

/-- A record that must be written in full. -/
def complete {α : Type} (fields : List (Field α)) (start : α) : Decoder α
  | .object members => do
    let (seen, result) ← storeMembers fields [] members start
    if fields.all fun field => field.optional || seen.contains field.key then return result
    else none
  | .array items => do
    let (missing, result) ← storeItems fields items start
    if missing.isEmpty then return result else none
  | _ => none

/-- Whether all members that are no fields hold values with at most `limit` containers inside each
other. -/
def otherMembersOk {α : Type} (limit : Nat) (fields : List (Field α))
    (members : List (Option String × Written)) : Bool :=
  members.all fun (key, value) =>
    fields.any (fun field => some field.key == key) || (value.toJson? limit).isSome

/-- A record that shares its object with others: it is written as an object, and members that are
no fields still must have values. -/
def shared {α : Type} (limit : Nat) (fields : List (Field α)) (start : α) : Decoder α
  | .object members =>
    if otherMembersOk limit fields members then
      (storeMembers fields [] members start).map (·.2)
    else none
  | _ => none

end Decode

/-- Decodes the document in a file. -/
def decodeBytes {α : Type} (decode : Decoder α) (bytes : Bytes) : Option α :=
  (Written.ofBytes? bytes).bind decode

/-- Decodes the document in a text. -/
def decodeText {α : Type} (decode : Decoder α) (text : String) : Option α :=
  (Written.ofText? text).bind decode

/-- Decodes a value that is already read. -/
def decodeValue {α : Type} (decode : Decoder α) (value : Json) : Option α := decode value.written

end Triage.Json
