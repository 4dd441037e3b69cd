import Triage.Error
import Triage.Json.Decode

/-!
# Lists of objects

A collected file holds its objects as an array, or as the `items` of a list object. Items that are
missing or null are no objects at all.
-/

namespace Triage.Cluster

/-- The items that a file lists. -/
def items (what : String) : Json → Except DecodeError (List Json)
  | .array items => .ok items
  | .object members =>
    match members.lookup "items" with
    | some (.array items) => .ok items
    | some .null | none => .ok []
    | some _ => .error (.itemsNotArray what)
  | _ => .error (.neitherListNorArray what)

/-- The objects that a file lists; `what` names them in errors. -/
def decodeList {α : Type} (decode : Json.Decoder α) (what : String) (bytes : Bytes) :
    Except DecodeError (List α) := do
  match Json.ofBytes? bytes with
  | none => throw (.malformed what)
  | some document =>
    match (← items what document).mapM (Json.decodeValue decode) with
    | none => throw (.malformed what)
    | some objects => return objects

/-- The record that a file holds. -/
def decodeRecord {α : Type} (decode : Json.Decoder α) (what : String) (bytes : Bytes) :
    Except DecodeError α :=
  match Json.decodeBytes decode bytes with
  | none => .error (.malformed what)
  | some value => .ok value

end Triage.Cluster
