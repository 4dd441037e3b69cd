import Triage.Text.Utf8
import Triage.Yaml.Cursor

/-!
# Tokens of YAML

What a YAML text is made of, and the readers of directives, anchors and tags. Blocks, which a text
shows by its indentation, have tokens of their own at both ends.
-/

namespace Triage.Yaml

inductive Token where
  | version (major minor : Nat)
  | tagHandle (handle stem : List Char)
  | documentStart
  | documentEnd
  | blockSequence
  | blockMapping
  | blockEnd
  | flowSequence
  | flowSequenceEnd
  | flowMapping
  | flowMappingEnd
  | blockEntry
  | flowEntry
  | key
  | value
  | alias (name : List Char)
  | anchor (name : List Char)
  | tag (handle suffix : List Char)
  | scalar (text : List Char) (plain : Bool)
  deriving DecidableEq, Inhabited

namespace Tag

/-- Reads one character of a tag that is written as octets in hexadecimal. -/
def octets? (n : Nat) (cursor : Cursor) : Option (List UInt8 × Cursor) :=
  match n with
  | 0 => some ([], cursor)
  | n + 1 => do
    let high ← (← cursor.peek? 1) |> hexValue?
    let low ← (← cursor.peek? 2) |> hexValue?
    if !cursor.isAt 0 '%' then none
    else
      let (octets, cursor) ← octets? n (cursor.skip 3)
      return (UInt8.ofNat (16 * high + low) :: octets, cursor)

def escaped? (cursor : Cursor) : Option (Char × Cursor) := do
  let high ← (← cursor.peek? 1) |> hexValue?
  let width := if high < 8 then 1 else if high < 14 then 2 else if high < 15 then 3 else 4
  let (octets, cursor) ← octets? width cursor
  match Utf8.decode? octets with
  | some [c] => return (c, cursor)
  | _ => none

/-- The characters of a tag; within angle brackets there are three more. -/
def isTagChar (verbatim : Bool) (c : Char) : Bool :=
  isNameChar c || ";/?:@&=+$.!~*'()%".toList.contains c ||
    verbatim && ",[]".toList.contains c

/-- Reads the characters of a tag. -/
def readChars (verbatim : Bool) : Nat → Cursor → List Char → Option (List Char × Cursor)
  | 0, _, _ => none
  | n + 1, cursor, text =>
    match cursor.peek? 0 with
    | none => some (text.reverse, cursor)
    | some c =>
      if !isTagChar verbatim c then some (text.reverse, cursor)
      else if c == '%' then
        match escaped? cursor with
        | some (c, cursor) => readChars verbatim n cursor (c :: text)
        | none => none
      else readChars verbatim n (cursor.skip 1) (c :: text)

/-- Reads a handle: an exclamation mark, a name, and perhaps another mark. -/
def readHandle (cursor : Cursor) : Option (List Char × Cursor) :=
  if !cursor.isAt 0 '!' then none
  else
    let (name, cursor) := (cursor.skip 1).takeWhile isNameChar
    if cursor.isAt 0 '!' then some ('!' :: name ++ ['!'], cursor.skip 1)
    else some ('!' :: name, cursor)

/-- Whether a handle ends with a mark of its own. -/
def isWhole (handle : List Char) : Bool := 2 ≤ handle.length && handle.getLast? == some '!'

/-- Reads a tag: in angle brackets, with a handle, or with a single mark. -/
def read (inFlow : Bool) (n : Nat) (cursor : Cursor) : Option (Token × Cursor) := do
  let (token, cursor) ←
    if cursor.isAt 1 '<' then do
      let (suffix, cursor) ← readChars true n (cursor.skip 2) []
      if suffix.isEmpty || !cursor.isAt 0 '>' then none
      else pure (Token.tag [] suffix, cursor.skip 1)
    else do
      let (handle, after) ← readHandle cursor
      if isWhole handle then do
        let (suffix, after) ← readChars false n after []
        if suffix.isEmpty then none else pure (.tag handle suffix, after)
      else do
        let (rest, after) ← readChars false n after []
        let suffix := handle.drop 1 ++ rest
        pure (if suffix.isEmpty then .tag [] ['!'] else .tag ['!'] suffix, after)
  if cursor.gapAt 0 || inFlow && cursor.isAt 0 ',' then return (token, cursor) else none

end Tag

namespace Directive

/-- Reads a part of a version, of at most nine digits. -/
def readPart (cursor : Cursor) : Option (Nat × Cursor) :=
  let (digits, cursor) := cursor.takeWhile Char.isDigit
  if digits.isEmpty || 9 < digits.length then none
  else some (digits.foldl (fun n c => 10 * n + (c.toNat - '0'.toNat)) 0, cursor)

def readVersion (cursor : Cursor) : Option (Token × Cursor) := do
  let (major, cursor) ← readPart cursor.skipBlanks
  if !cursor.isAt 0 '.' then none
  else
    let (minor, cursor) ← readPart (cursor.skip 1)
    return (.version major minor, cursor)

def readTagHandle (n : Nat) (cursor : Cursor) : Option (Token × Cursor) := do
  let (handle, cursor) ← Tag.readHandle cursor.skipBlanks
  if !(handle == ['!'] || Tag.isWhole handle) || !cursor.blankAt 0 then none
  else
    let (stem, cursor) ← Tag.readChars true n cursor.skipBlanks []
    if stem.isEmpty || !cursor.gapAt 0 then none
    else return (.tagHandle handle stem, cursor)

/-- Reads a directive, up to the end of its line. -/
def read (n : Nat) (cursor : Cursor) : Option (Token × Cursor) := do
  let (name, cursor) := (cursor.skip 1).takeWhile isNameChar
  if !cursor.gapAt 0 then none
  else
    let (token, cursor) ←
      if name == "YAML".toList then readVersion cursor
      else if name == "TAG".toList then readTagHandle n cursor
      else none
    let cursor := cursor.skipBlanks.skipComment
    if cursor.lineEnds then return (token, cursor.skipNewline) else none

end Directive

/-- Reads the name behind an ampersand or an asterisk. -/
def readName (cursor : Cursor) : Option (List Char × Cursor) :=
  let (name, cursor) := (cursor.skip 1).takeWhile isNameChar
  if name.isEmpty then none
  else if cursor.gapAt 0 || (cursor.peek? 0).any fun c => "?:,]\x7d%@\x60".toList.contains c then
    some (name, cursor)
  else none

end Triage.Yaml
