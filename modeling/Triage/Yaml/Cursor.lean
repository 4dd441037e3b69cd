/-!
# Places in a YAML text

A cursor holds what is left of a text and how far it has come. Lines end at a line feed, a carriage
return, both together, or one of the three further line breaks of Unicode. The end of the text
counts as a break where a rule asks for one.
-/

namespace Triage.Yaml

def isBlank (c : Char) : Bool := c == ' ' || c == '\t'

def isBreak (c : Char) : Bool :=
  c == '\n' || c == '\r' || c == '\u0085' || c == '\u2028' || c == '\u2029'

def isBlankOrBreak (c : Char) : Bool := isBlank c || isBreak c

/-- The characters of names: of anchors, directives and tag handles. -/
def isNameChar (c : Char) : Bool := c.isAlphanum || c == '_' || c == '-'

def hexValue? (c : Char) : Option Nat :=
  if c.isDigit then some (c.toNat - '0'.toNat)
  else if 'a' ≤ c && c ≤ 'f' then some (c.toNat - 'a'.toNat + 10)
  else if 'A' ≤ c && c ≤ 'F' then some (c.toNat - 'A'.toNat + 10)
  else none

/-- A column is a character, but the index counts octets. -/
structure Cursor where
  rest : List Char
  index : Nat
  line : Nat
  column : Nat

namespace Cursor

def start (text : List Char) : Cursor := ⟨text, 0, 0, 0⟩

def peek? (cursor : Cursor) (n : Nat) : Option Char := cursor.rest[n]?

def atEnd (cursor : Cursor) : Bool := cursor.rest.isEmpty

def isAt (cursor : Cursor) (n : Nat) (c : Char) : Bool := cursor.peek? n == some c

def blankAt (cursor : Cursor) (n : Nat) : Bool := (cursor.peek? n).any isBlank

/-- Whether a break or the end of the text comes next. -/
def lineEnds (cursor : Cursor) : Bool := (cursor.peek? 0).all isBreak

/-- Whether a blank, a break or the end of the text comes `n` characters later. -/
def gapAt (cursor : Cursor) (n : Nat) : Bool := (cursor.peek? n).all isBlankOrBreak

/-- Goes on by `n` characters, none of them a break. -/
def skip (cursor : Cursor) (n : Nat) : Cursor :=
  { cursor with
    rest := cursor.rest.drop n
    index := (cursor.rest.take n).foldl (fun index c => index + c.utf8Size) cursor.index
    column := cursor.column + n }

/-- Goes over a byte order mark at the beginning of a line, where it counts as a column. -/
def skipMark (cursor : Cursor) : Cursor :=
  if cursor.column == 0 && cursor.isAt 0 '\uFEFF' then cursor.skip 1 else cursor

/-- Goes on as long as a property holds that no break has. -/
def takeWhile (cursor : Cursor) (p : Char → Bool) : List Char × Cursor :=
  let taken := cursor.rest.takeWhile p
  (taken, cursor.skip taken.length)

def skipWhile (cursor : Cursor) (p : Char → Bool) : Cursor := (cursor.takeWhile p).2

def skipBlanks (cursor : Cursor) : Cursor := cursor.skipWhile isBlank

/-- Skips a comment, up to the end of its line. -/
def skipComment (cursor : Cursor) : Cursor :=
  if cursor.isAt 0 '#' then cursor.skipWhile fun c => !isBreak c else cursor

/-- Goes over a line break, and says what it reads as. -/
def newline? (cursor : Cursor) : Option (Char × Cursor) :=
  match cursor.rest with
  | '\r' :: '\n' :: rest => some ('\n', ⟨rest, cursor.index + 2, cursor.line + 1, 0⟩)
  | c :: rest =>
    if isBreak c then
      let reads := if c == '\u2028' || c == '\u2029' then c else '\n'
      some (reads, ⟨rest, cursor.index + c.utf8Size, cursor.line + 1, 0⟩)
    else none
  | [] => none

def skipNewline (cursor : Cursor) : Cursor :=
  match cursor.newline? with
  | some (_, cursor) => cursor
  | none => cursor

/-- Whether a line begins here with three times the mark and a gap. -/
def markedBy (cursor : Cursor) (mark : Char) : Bool :=
  cursor.column == 0 && cursor.isAt 0 mark && cursor.isAt 1 mark && cursor.isAt 2 mark &&
    cursor.gapAt 3

/-- Whether a document begins or ends here. -/
def atDocumentMark (cursor : Cursor) : Bool := cursor.markedBy '-' || cursor.markedBy '.'

end Cursor

end Triage.Yaml
