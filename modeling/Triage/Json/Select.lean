import Triage.Json.Basic
import Triage.Text.Blank
import Triage.Text.Integer
import Triage.Text.Pieces

/-!
# Selection by a dotted path

A path is a list of segments with points between them. A segment names a member of an object, or
counts the items of an array from zero.
-/

namespace Triage.Json

/-- The value that one segment leads to. -/
def child? (segment : List Char) : Json → Option Json
  | object members => members.lookup (.ofList segment)
  | array items => (Text.unsigned? segment).bind fun index => items[index]?
  | _ => none

/-- Follows the segments; the error is the segment that leads nowhere. -/
def follow : List (List Char) → Json → Except (List Char) Json
  | [], value => .ok value
  | segment :: segments, value =>
    match child? segment value with
    | some next => follow segments next
    | none => .error segment

/-- A path that leads nowhere, and the segment at which it breaks off. -/
structure PathError where
  path : String
  segment : String
  deriving DecidableEq, Repr

def PathError.message (e : PathError) : String :=
  s!"path '{e.path}' does not resolve at '{e.segment}'"

/-- The value at the end of a path; a blank path selects the whole document. -/
def select (path : String) (document : Json) : Except PathError Json :=
  let path := Text.trim path.toList
  if path.isEmpty then .ok document
  else (follow (Text.splitAt '.' path) document).mapError fun segment =>
    ⟨.ofList path, .ofList segment⟩

end Triage.Json
