import Triage.Toml.Scalar

/-!
# Reading TOML

A text is a sequence of lines: headers, values under keys, comments. Arrays and inline tables may
run over several lines and end with a comma.
-/

namespace Triage.Toml

/-- A reader of values. -/
abbrev ReadValue := List Char → Option (Toml × List Char)

/-- Reads a key and its value. -/
def entry? (value : ReadValue) (n : Nat) (s : List Char) :
    Option (Key × Toml × List Char) := do
  let (key, s) ← key? n s []
  match s with
  | '=' :: s =>
    let (value, s) ← value (skipBlanks s)
    return (key, value, s)
  | _ => none

/-- Reads the items of an array behind its bracket, the last one first. -/
def items (value : ReadValue) : Nat → List Char → List Toml → Option (List Toml × List Char)
  | 0, _, _ => none
  | n + 1, s, read =>
    match skipGaps n s with
    | ']' :: s => some (read, s)
    | s =>
      match value s with
      | none => none
      | some (item, s) =>
        match skipGaps n s with
        | ',' :: s => items value n s (item :: read)
        | ']' :: s => some (item :: read, s)
        | _ => none

/-- Reads the members of an inline table behind its brace. -/
def inlineMembers (value : ReadValue) : Nat → List Char → Members → Option (Members × List Char)
  | 0, _, _ => none
  | n + 1, s, read =>
    match skipGaps n s with
    | '\x7d' :: s => some (read, s)
    | s =>
      match entry? value n s with
      | none => none
      | some (key, item, s) =>
        match addValue? item key.last key.parents read with
        | none => none
        | some read =>
          match skipGaps n s with
          | ',' :: s => inlineMembers value n s read
          | '\x7d' :: s => some (read, s)
          | _ => none

/-- Reads a value in which at most so many others are nested. -/
def value (n : Nat) : Nat → ReadValue
  | 0, _ => none
  | depth + 1, s =>
    match s with
    | '[' :: s => (items (value n depth) n s []).map fun (items, s) => (.array items.reverse, s)
    | '\x7b' :: s =>
      (inlineMembers (value n depth) n s []).map fun (members, s) => (.table .inline members, s)
    | '"' :: _ | '\'' :: _ => (string? n s).map fun (text, s) => (.string text, s)
    | s => readScalar s
termination_by structural depth => depth

/-- How deep values may be nested. -/
def nestingLimit : Nat := 81

/-- A text read so far: its members, and the table that values belong to. -/
structure Draft where
  members : Members := []
  header : List String := []

namespace Draft

def open? (draft : Draft) (add : String → Members → Option Members) (key : Key) : Option Draft := do
  let members ← underHeader? (add key.last) key.parents draft.members
  return ⟨members, key.parents ++ [key.last]⟩

/-- Reads one line up to its comment. -/
def line? (draft : Draft) (n : Nat) (s : List Char) : Option (Draft × List Char) :=
  match s with
  | [] | '#' :: _ | '\n' :: _ | '\r' :: _ => some (draft, s)
  | '[' :: '[' :: s => do
    let (key, s) ← key? n s []
    match s with
    | ']' :: ']' :: s => return (← draft.open? addToTables? key, s)
    | _ => none
  | '[' :: s => do
    let (key, s) ← key? n s []
    match s with
    | ']' :: s => return (← draft.open? addTable? key, s)
    | _ => none
  | s => do
    let (key, value, s) ← entry? (value n nestingLimit) n s
    let members ← underHeader? (addValue? value key.last key.parents) draft.header draft.members
    return ({ draft with members := members }, s)

/-- Reads all lines. -/
def lines? : Nat → Draft → List Char → Option Draft
  | 0, _, _ => none
  | n + 1, draft, s =>
    match draft.line? n (skipBlanks s) with
    | none => none
    | some (draft, s) =>
      match skipComment (skipBlanks s) with
      | [] => some draft
      | s =>
        match newline? s with
        | some s => lines? n draft s
        | none => none

end Draft

/-- Reads a text; a byte order mark may stand before it. -/
def ofText? (text : List Char) : Option Toml :=
  let text := match text with
    | '\uFEFF' :: text => text
    | text => text
  (Draft.lines? (text.length + 1) {} text).map fun draft => .table .stated draft.members

end Triage.Toml
