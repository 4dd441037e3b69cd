import Triage.Yaml.Cursor

/-!
# Texts of scalars

The three ways to write a scalar: between quotes, as a block, and plain. Lines are folded: a single
break reads as a blank, further ones stay. Every reader takes the number of steps it may take,
which the length of the rest of the text bounds.
-/

namespace Triage.Yaml

/-- Line breaks after the first; a first break that is a line feed is folded away. -/
def foldedBreaks (first : Option Char) (others : List Char) : List Char :=
  match first with
  | some '\n' => if others.isEmpty then [' '] else others
  | first => first.toList ++ others

/-- The blanks and breaks between two pieces of a scalar, the lists in reverse. -/
structure Gap where
  blanks : List Char := []
  broken : Bool := false
  first : Option Char := none
  others : List Char := []

namespace Gap

def text (gap : Gap) : List Char :=
  if gap.broken then foldedBreaks gap.first gap.others.reverse else gap.blanks.reverse

/-- Reads a gap. A tab must not stand among the blanks that indent a line up to `indent`. -/
def read (indent : Nat) : Nat → Cursor → Gap → Option (Gap × Cursor)
  | 0, _, _ => none
  | n + 1, cursor, gap =>
    match cursor.newline? with
    | some (c, cursor) =>
      if gap.broken then read indent n cursor { gap with others := c :: gap.others }
      else read indent n cursor { gap with blanks := [], broken := true, first := some c }
    | none =>
      match cursor.peek? 0 with
      | some c =>
        if !isBlank c then some (gap, cursor)
        else if !gap.broken then
          read indent n (cursor.skip 1) { gap with blanks := c :: gap.blanks }
        else if c == '\t' && cursor.column < indent then none
        else read indent n (cursor.skip 1) gap
      | none => some (gap, cursor)

end Gap

namespace Quoted

/-- What a backslash and a letter stand for. -/
def simpleEscape? : Char → Option Char
  | '0' => some '\x00'
  | 'a' => some '\x07'
  | 'b' => some '\x08'
  | 't' => some '\t'
  | '\t' => some '\t'
  | 'n' => some '\n'
  | 'v' => some '\x0b'
  | 'f' => some '\x0c'
  | 'r' => some '\r'
  | 'e' => some '\x1b'
  | ' ' => some ' '
  | '"' => some '"'
  | '/' => some '/'
  | '\\' => some '\\'
  | 'N' => some '\u0085'
  | '_' => some '\u00a0'
  | 'L' => some '\u2028'
  | 'P' => some '\u2029'
  | _ => none

/-- How many digits follow a letter that introduces a code. -/
def codeLength? : Char → Option Nat
  | 'x' => some 2
  | 'u' => some 4
  | 'U' => some 8
  | _ => none

/-- The character with a code in hexadecimal digits. -/
def charOfHex? (digits : List Char) : Option Char := do
  let code := (← digits.mapM hexValue?).foldl (fun n d => 16 * n + d) 0
  if h : code.isValidChar then some (Char.ofNatAux code h) else none

/-- Reads an escape sequence behind its backslash. -/
def escape? (cursor : Cursor) : Option (Char × Cursor) := do
  let letter ← cursor.peek? 0
  match codeLength? letter with
  | none => return (← simpleEscape? letter, cursor.skip 1)
  | some length =>
    let digits := (cursor.rest.drop 1).take length
    if digits.length < length then none
    else return (← charOfHex? digits, cursor.skip (length + 1))

/-- Reads up to a blank, a break or the closing quote; says too whether an escaped break ended
the piece. The text is in reverse. -/
def piece (single : Bool) : Nat → Cursor → List Char → Option (List Char × Bool × Cursor)
  | 0, _, _ => none
  | n + 1, cursor, text =>
    match cursor.peek? 0 with
    | none => some (text, false, cursor)
    | some c =>
      if isBlankOrBreak c then some (text, false, cursor)
      else if single then
        if c != '\'' then piece single n (cursor.skip 1) (c :: text)
        else if cursor.isAt 1 '\'' then piece single n (cursor.skip 2) ('\'' :: text)
        else some (text, false, cursor)
      else if c == '"' then some (text, false, cursor)
      else if c == '\\' then
        match (cursor.skip 1).newline? with
        | some (_, cursor) => some (text, true, cursor)
        | none =>
          match escape? (cursor.skip 1) with
          | some (c, cursor) => piece single n cursor (c :: text)
          | none => none
      else piece single n (cursor.skip 1) (c :: text)

/-- Reads a quoted scalar behind its opening quote. -/
def read (single : Bool) : Nat → Cursor → List Char → Option (List Char × Cursor)
  | 0, _, _ => none
  | n + 1, cursor, text =>
    if cursor.atDocumentMark || cursor.atEnd then none
    else
      match piece single n cursor text with
      | none => none
      | some (text, broken, cursor) =>
        if cursor.isAt 0 (if single then '\'' else '"') then some (text.reverse, cursor.skip 1)
        else
          match Gap.read 0 n cursor { broken := broken } with
          | none => none
          | some (gap, cursor) => read single n cursor (gap.text.reverse ++ text)

end Quoted

namespace Plain

/-- Whether a plain scalar ends at the character at hand. In a flow collection the marks of such
collections end it too. -/
def endsAt (inFlow : Bool) (cursor : Cursor) : Bool :=
  cursor.isAt 0 ':' && cursor.gapAt 1 ||
    inFlow && (cursor.peek? 0).any fun c => ",[]\x7b\x7d".toList.contains c

/-- Whether a colon stands before a mark of a flow collection, which is an error. -/
def colonMisplaced (inFlow : Bool) (cursor : Cursor) : Bool :=
  inFlow && cursor.isAt 0 ':' && (cursor.peek? 1).any fun c => ",?[]\x7b\x7d".toList.contains c

/-- Reads up to a blank, a break or what ends the scalar. -/
def piece (inFlow : Bool) : Nat → Cursor → List Char → Option (List Char × Cursor)
  | 0, _, _ => none
  | n + 1, cursor, text =>
    match cursor.peek? 0 with
    | none => some (text, cursor)
    | some c =>
      if isBlankOrBreak c then some (text, cursor)
      else if colonMisplaced inFlow cursor then none
      else if endsAt inFlow cursor then some (text, cursor)
      else piece inFlow n (cursor.skip 1) (c :: text)

/-- A plain scalar, whether a line break follows it, and the rest. -/
structure Scalar where
  text : List Char
  broken : Bool
  cursor : Cursor

/-- Reads a plain scalar after a gap; on a new line, it goes on only behind `indent` columns,
unless in a flow collection. -/
def read (inFlow : Bool) (indent : Nat) : Nat → Cursor → List Char → Gap → Option Scalar
  | 0, _, _, _ => none
  | n + 1, cursor, text, gap =>
    let here : Scalar := ⟨text.reverse, gap.broken, cursor⟩
    if cursor.atDocumentMark || cursor.isAt 0 '#' then some here
    else
      match piece inFlow n cursor [] with
      | none => none
      | some ([], _) => some here
      | some (word, cursor) =>
        let text := word ++ gap.text.reverse ++ text
        match Gap.read indent n cursor {} with
        | none => none
        | some (gap, cursor) =>
          if !gap.broken && gap.blanks.isEmpty || !inFlow && cursor.column < indent then
            some ⟨text.reverse, gap.broken, cursor⟩
          else read inFlow indent n cursor text gap

end Plain

namespace Block

inductive Chomping where
  | strip
  | clip
  | keep
  deriving DecidableEq

def chomping? : Char → Option Chomping
  | '+' => some .keep
  | '-' => some .strip
  | _ => none

def increment? (c : Char) : Option Nat := if c.isDigit then some (c.toNat - '0'.toNat) else none

/-- What the first line of a block scalar asks for. -/
structure Header where
  chomping : Chomping := .clip
  increment : Option Nat := none

/-- Reads the two indicators, in either order. -/
def header (cursor : Cursor) : Header × Cursor :=
  match (cursor.peek? 0).bind chomping?, (cursor.peek? 0).bind increment? with
  | some chomping, _ =>
    match (cursor.peek? 1).bind increment? with
    | some increment => (⟨chomping, some increment⟩, cursor.skip 2)
    | none => (⟨chomping, none⟩, cursor.skip 1)
  | none, some increment =>
    match (cursor.peek? 1).bind chomping? with
    | some chomping => (⟨chomping, some increment⟩, cursor.skip 2)
    | none => (⟨.clip, some increment⟩, cursor.skip 1)
  | none, none => ({}, cursor)

/-- The empty lines at hand: their breaks, the deepest column they reach, and the rest. While the
indentation is not known, all blanks indent. -/
def emptyLines (indent : Option Nat) :
    Nat → Cursor → Nat → List Char → Option (List Char × Nat × Cursor)
  | 0, _, _, _ => none
  | n + 1, cursor, deepest, breaks =>
    let indents (column : Nat) : Bool := indent.all (column < ·)
    let room := match indent with
      | some indent => cursor.rest.take (indent - cursor.column)
      | none => cursor.rest
    let cursor := cursor.skip (room.takeWhile (· == ' ')).length
    let deepest := Nat.max deepest cursor.column
    if indents cursor.column && cursor.isAt 0 '\t' then none
    else
      match cursor.newline? with
      | some (c, cursor) => emptyLines indent n cursor deepest (c :: breaks)
      | none => some (breaks.reverse, deepest, cursor)

/-- Where a block scalar stands: its text in reverse, the break after its last line, the empty
lines after that, and whether that line began with a blank. -/
structure Lines where
  text : List Char := []
  last : Option Char := none
  empty : List Char := []
  blank : Bool := false

/-- The breaks before a line; in a folded block, a single break between two lines that do not
begin with a blank reads as a blank. -/
def breaksBefore (literal : Bool) (lines : Lines) (blank : Bool) : List Char :=
  if !literal && lines.last == some '\n' && !lines.blank && !blank then
    foldedBreaks lines.last lines.empty
  else lines.last.toList ++ lines.empty

/-- Reads the lines that are indented by `indent`. -/
def lines (literal : Bool) (indent : Nat) : Nat → Cursor → Lines → Option (Lines × Cursor)
  | 0, _, _ => none
  | n + 1, cursor, before =>
    if cursor.column != indent || cursor.atEnd then some (before, cursor)
    else
      let blank := cursor.blankAt 0
      let (line, cursor) := cursor.takeWhile fun c => !isBreak c
      let text := line.reverse ++ (breaksBefore literal before blank).reverse ++ before.text
      let (last, cursor) := match cursor.newline? with
        | some (c, cursor) => (some c, cursor)
        | none => (none, cursor)
      match emptyLines (some indent) n cursor 0 [] with
      | none => none
      | some (empty, _, cursor) => lines literal indent n cursor ⟨text, last, empty, blank⟩

def chomped (chomping : Chomping) (lines : Lines) : List Char :=
  lines.text.reverse ++
    match chomping with
    | .strip => []
    | .clip => lines.last.toList
    | .keep => lines.last.toList ++ lines.empty

/-- Reads a block scalar behind its indicator, inside a collection indented by `outer`, or by -1
at the top. -/
def read (literal : Bool) (outer : Int) (n : Nat) (cursor : Cursor) :
    Option (List Char × Cursor) := do
  let (header, cursor) := header cursor
  let cursor := cursor.skipBlanks.skipComment
  if header.increment = some 0 || !cursor.lineEnds then none
  else
    let cursor := cursor.skipNewline
    let indent? := header.increment.map fun increment => outer.toNat + increment
    let (empty, deepest, cursor) ← emptyLines indent? n cursor 0 []
    let indent := indent?.getD (Nat.max (Nat.max deepest (outer + 1).toNat) 1)
    let (lines, cursor) ← lines literal indent n cursor { empty := empty }
    return (chomped header.chomping lines, cursor)

end Block

end Triage.Yaml
