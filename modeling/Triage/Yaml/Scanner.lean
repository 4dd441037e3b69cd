import Triage.Yaml.ScalarText
import Triage.Yaml.Token

/-!
# From text to tokens

A key need not be marked as one: where a key could begin, its place is kept, and a colon on the same
line, not more than 1024 octets later, makes it one. In a block, a key at a new column opens a
mapping, and what begins further left closes it.
-/

namespace Triage.Yaml

/-- A place where a key could begin, as the number of its first token. -/
structure KeyPlace where
  required : Bool
  token : Nat
  index : Nat
  line : Nat
  column : Nat

namespace KeyPlace

def isNear (place : KeyPlace) (cursor : Cursor) : Bool :=
  place.line == cursor.line && cursor.index ≤ place.index + 1024

end KeyPlace

/-- How far a text has been cut into tokens; the last token is the first of the list. Outside of
all blocks the indentation is -1. The places of keys are kept for each flow collection around, and
for the block around these. -/
structure Scan where
  cursor : Cursor
  tokens : List Token := []
  count : Nat := 0
  indent : Int := -1
  outer : List Int := []
  keyAllowed : Bool := true
  place : Option KeyPlace := none
  outerPlaces : List (Option KeyPlace) := []

namespace Scan

def inFlow (scan : Scan) : Bool := !scan.outerPlaces.isEmpty

def push (scan : Scan) (token : Token) : Scan :=
  { scan with tokens := token :: scan.tokens, count := scan.count + 1 }

def goTo (scan : Scan) (cursor : Cursor) : Scan := { scan with cursor := cursor }

/-- Adds a token and goes on by its characters. -/
def take (scan : Scan) (length : Nat) (token : Token) : Scan :=
  (scan.push token).goTo (scan.cursor.skip length)

/-- Puts a token before the one with a number. -/
def insert (scan : Scan) (number : Nat) (token : Token) : Scan :=
  { scan with
    tokens := scan.tokens.insertIdx (scan.count - number) token
    count := scan.count + 1 }

/-- Closes the blocks that begin further right. -/
def closeBlocks (column : Int) (scan : Scan) : Scan :=
  if scan.inFlow then scan else go scan.outer scan.indent scan
where
  go : List Int → Int → Scan → Scan
    | outer, indent, scan =>
      match outer with
      | [] => { scan with outer := [], indent := indent }
      | next :: rest =>
        if column < indent then go rest next (scan.push .blockEnd)
        else { scan with outer := next :: rest, indent := indent }

/-- Opens a block at a column that is further right than the block around it. -/
def openBlock (column : Nat) (token : Token) (number : Nat) (scan : Scan) : Scan :=
  if scan.inFlow || (column : Int) ≤ scan.indent then scan
  else { scan.insert number token with indent := column, outer := scan.indent :: scan.outer }

def openBlockHere (token : Token) (scan : Scan) : Scan :=
  scan.openBlock scan.cursor.column token scan.count

/-- Gives up the place of a key; it is an error if there had to be one. -/
def dropPlace (scan : Scan) : Option Scan :=
  if scan.place.any (·.required) then none else some { scan with place := none }

/-- Keeps the place at hand, if a key may begin there. -/
def keepPlace (scan : Scan) : Option Scan :=
  if !scan.keyAllowed then some scan
  else
    scan.dropPlace.map fun scan =>
      let cursor := scan.cursor
      { scan with
        place := some {
          required := !scan.inFlow && scan.indent == cursor.column
          token := scan.count
          index := cursor.index
          line := cursor.line
          column := cursor.column } }

def openFlow (token : Token) (scan : Scan) : Option Scan := do
  let scan ← scan.keepPlace
  return { scan.take 1 token with
    keyAllowed := true, place := none, outerPlaces := scan.place :: scan.outerPlaces }

def closeFlow (token : Token) (scan : Scan) : Option Scan := do
  let scan ← scan.dropPlace
  let scan := { scan.take 1 token with keyAllowed := false }
  match scan.outerPlaces with
  | [] => return scan
  | place :: places => return { scan with place := place, outerPlaces := places }

def flowEntry (scan : Scan) : Option Scan := do
  return { (← scan.dropPlace).take 1 .flowEntry with keyAllowed := true }

def blockEntry (scan : Scan) : Option Scan := do
  if !scan.inFlow && !scan.keyAllowed then none
  else
    let scan ← (scan.openBlockHere .blockSequence).dropPlace
    return { scan.take 1 .blockEntry with keyAllowed := true }

def explicitKey (scan : Scan) : Option Scan := do
  if !scan.inFlow && !scan.keyAllowed then none
  else
    let scan ← (scan.openBlockHere .blockMapping).dropPlace
    return { scan.take 1 .key with keyAllowed := !scan.inFlow }

def value (scan : Scan) : Option Scan :=
  let afterNoKey (scan : Scan) : Option Scan :=
    if !scan.inFlow && !scan.keyAllowed then none
    else some { (scan.openBlockHere .blockMapping).take 1 .value with keyAllowed := !scan.inFlow }
  match scan.place with
  | none => afterNoKey scan
  | some place =>
    if place.isNear scan.cursor then
      let scan := (scan.insert place.token .key).openBlock place.column .blockMapping place.token
      some { scan.take 1 .value with place := none, keyAllowed := false }
    else if place.required then none
    else afterNoKey { scan with place := none }

/-- Adds a token that may be a key or a part of one. -/
def keyPart (scan : Scan) (read : Cursor → Option (Token × Cursor)) : Option Scan := do
  let scan ← scan.keepPlace
  let (token, cursor) ← read scan.cursor
  return { (scan.push token).goTo cursor with keyAllowed := false }

def quoted (single : Bool) (n : Nat) (scan : Scan) : Option Scan :=
  scan.keyPart fun cursor =>
    (Quoted.read single n (cursor.skip 1) []).map fun (text, cursor) => (.scalar text false, cursor)

def plain (n : Nat) (scan : Scan) : Option Scan := do
  let scan ← scan.keepPlace
  let scalar ← Plain.read scan.inFlow (scan.indent + 1).toNat n scan.cursor [] {}
  return { (scan.push (.scalar scalar.text true)).goTo scalar.cursor with
    keyAllowed := scalar.broken }

def block (literal : Bool) (n : Nat) (scan : Scan) : Option Scan := do
  let scan ← scan.dropPlace
  let (text, cursor) ← Block.read literal scan.indent n (scan.cursor.skip 1)
  return { (scan.push (.scalar text false)).goTo cursor with keyAllowed := true }

/-- Leaves all blocks, as at the ends of documents. -/
def leave (scan : Scan) : Option Scan := do
  return { ← (scan.closeBlocks (-1)).dropPlace with keyAllowed := false }

def directive (n : Nat) (scan : Scan) : Option Scan := do
  let scan ← scan.leave
  let (token, cursor) ← Directive.read n scan.cursor
  return (scan.push token).goTo cursor

def documentMark (token : Token) (scan : Scan) : Option Scan := do
  return (← scan.leave).take 3 token

/-- Skips blanks, comments and line breaks, and the byte order marks that begin lines. A tab is no
blank where a key may begin in a block. -/
def skipGaps : Nat → Scan → Scan
  | 0, scan => scan
  | n + 1, scan =>
    let tabs := scan.inFlow || !scan.keyAllowed
    let cursor :=
      (scan.cursor.skipMark.skipWhile fun c => c == ' ' || tabs && c == '\t').skipComment
    match cursor.newline? with
    | none => { scan with cursor := cursor }
    | some (_, cursor) =>
      skipGaps n { scan with cursor := cursor, keyAllowed := scan.keyAllowed || !scan.inFlow }

/-- Whether a plain scalar may begin here. -/
def startsPlain (scan : Scan) : Bool :=
  let cursor := scan.cursor
  cursor.isAt 0 '-' && !cursor.blankAt 1 ||
    !scan.inFlow && (cursor.isAt 0 '?' || cursor.isAt 0 ':') && !cursor.gapAt 1 ||
    (cursor.peek? 0).any fun c =>
      !isBlankOrBreak c && !"-?:,[]\x7b\x7d#&*!|>'\"%@\x60".toList.contains c

/-- Reads the next token. -/
def next (n : Nat) (scan : Scan) : Option Scan :=
  let cursor := scan.cursor
  let name (token : List Char → Token) : Cursor → Option (Token × Cursor) := fun cursor =>
    (readName cursor).map fun (name, cursor) => (token name, cursor)
  if cursor.column == 0 && cursor.isAt 0 '%' then scan.directive n
  else if cursor.markedBy '-' then scan.documentMark .documentStart
  else if cursor.markedBy '.' then scan.documentMark .documentEnd
  else
    match cursor.peek? 0 with
    | some '[' => scan.openFlow .flowSequence
    | some '\x7b' => scan.openFlow .flowMapping
    | some ']' => scan.closeFlow .flowSequenceEnd
    | some '\x7d' => scan.closeFlow .flowMappingEnd
    | some ',' => scan.flowEntry
    | some '*' => scan.keyPart (name .alias)
    | some '&' => scan.keyPart (name .anchor)
    | some '!' => scan.keyPart (Tag.read scan.inFlow n)
    | some '\'' => scan.quoted true n
    | some '"' => scan.quoted false n
    | c =>
      if c == some '-' && cursor.gapAt 1 then scan.blockEntry
      else if c == some '?' && (scan.inFlow || cursor.gapAt 1) then scan.explicitKey
      else if c == some ':' && (scan.inFlow || cursor.gapAt 1) then scan.value
      else if c == some '|' && !scan.inFlow then scan.block true n
      else if c == some '>' && !scan.inFlow then scan.block false n
      else if scan.startsPlain then scan.plain n
      else none

/-- Cuts the rest of a text into tokens. -/
def run : Nat → Scan → Option (List Token)
  | 0, _ => none
  | n + 1, scan =>
    let scan := scan.skipGaps n
    let scan := scan.closeBlocks scan.cursor.column
    if scan.cursor.atEnd then scan.leave.map (·.tokens.reverse)
    else
      match scan.next n with
      | none => none
      | some scan => run n scan

end Scan

namespace Token

/-- The tokens of a text. -/
def ofText? (text : List Char) : Option (List Token) :=
  Scan.run (text.length + 8) { cursor := .start text }

end Token

end Triage.Yaml
