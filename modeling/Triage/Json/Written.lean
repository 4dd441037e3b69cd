import Triage.Json.Number
import Triage.Text.Utf8

/-!
# JSON as written

`Written` is a document with nothing decided yet: repeated keys are kept, and a number or a string
that has no value (too large, broken UTF-8, half a surrogate pair) is kept as such, because a
reader may skip it. `Written.toJson?` decides: it keeps the last value of a repeated key, refuses
what has no value, and refuses containers nested too deep.
-/

namespace Triage.Json

inductive Written where
  | null
  | bool (value : Bool)
  | number (value : Option Number)
  | string (value : Option String)
  | array (items : List Written)
  | object (members : List (Option String × Written))
  deriving Inhabited

/-- A document to read; `none` stands for bytes that are no character. -/
abbrev Source := List (Option Char)

namespace Written

def skipBlanks (s : Source) : Source :=
  s.dropWhile fun c => c == some ' ' || c == some '\n' || c == some '\t' || c == some '\r'

/-- A part of a string: a character, half of a surrogate pair, or bytes that are no character. -/
inductive Piece where
  | char (c : Char)
  | half (code : Nat)
  | broken

def isHighHalf (n : Nat) : Bool := 0xd800 ≤ n && n ≤ 0xdbff

def isLowHalf (n : Nat) : Bool := 0xdc00 ≤ n && n ≤ 0xdfff

/-- The characters that the pieces make up; a half must be followed by its other half. -/
def join? : List Piece → Option (List Char)
  | [] => some []
  | .char c :: rest => (join? rest).map (c :: ·)
  | .half h :: .half l :: rest =>
    if isHighHalf h && isLowHalf l then
      (join? rest).map (Char.ofNat (0x10000 + (h - 0xd800) * 0x400 + (l - 0xdc00)) :: ·)
    else none
  | _ => none

def hexValue? (c : Char) : Option Nat :=
  if c.isDigit then some (c.toNat - '0'.toNat)
  else if 'a' ≤ c ∧ c ≤ 'f' then some (c.toNat - 'a'.toNat + 10)
  else if 'A' ≤ c ∧ c ≤ 'F' then some (c.toNat - 'A'.toNat + 10)
  else none

/-- The code that four hexadecimal digits stand for. -/
def hexCode? (a b c d : Char) : Option Nat := do
  return ((← hexValue? a) * 0x1000 + (← hexValue? b) * 0x100 + (← hexValue? c) * 0x10 +
    (← hexValue? d))

def codePiece (code : Nat) : Piece :=
  if isHighHalf code || isLowHalf code then .half code else .char (Char.ofNat code)

def shortEscape? : Char → Option Char
  | '"' => some '"'
  | '\\' => some '\\'
  | '/' => some '/'
  | 'b' => some '\x08'
  | 'f' => some '\x0c'
  | 'n' => some '\n'
  | 'r' => some '\r'
  | 't' => some '\t'
  | _ => none

/-- The pieces of a string up to its closing quote, and what follows. -/
def readPieces? : Source → Option (List Piece × Source)
  | some '"' :: rest => some ([], rest)
  | some '\\' :: some 'u' :: some a :: some b :: some c :: some d :: rest => do
    let code ← hexCode? a b c d
    let (pieces, rest) ← readPieces? rest
    return (codePiece code :: pieces, rest)
  | some '\\' :: some c :: rest => do
    let c ← shortEscape? c
    let (pieces, rest) ← readPieces? rest
    return (.char c :: pieces, rest)
  | some c :: rest =>
    if c == '\\' || c.toNat < 0x20 then none
    else (readPieces? rest).map fun (pieces, rest) => (.char c :: pieces, rest)
  | none :: rest => (readPieces? rest).map fun (pieces, rest) => (.broken :: pieces, rest)
  | [] => none

/-- A string after its opening quote. -/
def readString? (s : Source) : Option (Option String × Source) :=
  (readPieces? s).map fun (pieces, rest) => ((join? pieces).map .ofList, rest)

def isDigitUnit (c : Option Char) : Bool := c.any Char.isDigit

/-- The digits at the front, and what follows them. -/
def takeDigits (s : Source) : List Char × Source :=
  ((s.takeWhile isDigitUnit).filterMap id, s.dropWhile isDigitUnit)

/-- Digits, of which there must be one. -/
def digits? (s : Source) : Option (List Char × Source) :=
  let (digits, rest) := takeDigits s
  if digits.isEmpty then none else some (digits, rest)

/-- The digits before the point: a zero stands alone. -/
def whole? (s : Source) : Option (List Char × Source) := do
  let (digits, rest) ← digits? s
  if digits.head? == some '0' && 1 < digits.length then none else return (digits, rest)

def fraction? : Source → Option (Option (List Char) × Source)
  | some '.' :: s => (digits? s).map fun (digits, rest) => (some digits, rest)
  | s => some (none, s)

def signedDigits? : Source → Option ((Bool × List Char) × Source)
  | some '-' :: s => (digits? s).map fun (digits, rest) => ((true, digits), rest)
  | some '+' :: s => (digits? s).map fun (digits, rest) => ((false, digits), rest)
  | s => (digits? s).map fun (digits, rest) => ((false, digits), rest)

def exponent? : Source → Option (Option (Bool × List Char) × Source)
  | some 'e' :: s => (signedDigits? s).map fun (e, rest) => (some e, rest)
  | some 'E' :: s => (signedDigits? s).map fun (e, rest) => (some e, rest)
  | s => some (none, s)

/-- A number after its sign. -/
def readNumber? (negative : Bool) (s : Source) : Option (Written × Source) := do
  let (whole, s) ← whole? s
  let (fraction, s) ← fraction? s
  let (exponent, s) ← exponent? s
  return (number (Number.Lexeme.value? ⟨negative, whole, fraction, exponent⟩), s)

/-- What follows a known word. -/
def word? (w : String) (s : Source) : Option Source := (w.toList.map some).isPrefixOf? s

mutual
/-- A value and what follows it; `fuel` bounds the number of nested calls. -/
def readValue? : Nat → Source → Option (Written × Source)
  | 0, _ => none
  | fuel + 1, s =>
    match skipBlanks s with
    | some '[' :: rest =>
      match skipBlanks rest with
      | some ']' :: rest => some (array [], rest)
      | rest => (readItems? fuel rest).map fun (items, rest) => (array items, rest)
    | some '{' :: rest =>
      match skipBlanks rest with
      | some '}' :: rest => some (object [], rest)
      | rest => (readMembers? fuel rest).map fun (members, rest) => (object members, rest)
    | some '"' :: rest => (readString? rest).map fun (text, rest) => (string text, rest)
    | some '-' :: rest => readNumber? true rest
    | some 'n' :: rest => (word? "ull" rest).map fun rest => (null, rest)
    | some 't' :: rest => (word? "rue" rest).map fun rest => (bool true, rest)
    | some 'f' :: rest => (word? "alse" rest).map fun rest => (bool false, rest)
    | rest => readNumber? false rest

/-- The items of an array up to its closing bracket. -/
def readItems? : Nat → Source → Option (List Written × Source)
  | 0, _ => none
  | fuel + 1, s => do
    let (item, rest) ← readValue? fuel s
    match skipBlanks rest with
    | some ',' :: rest =>
      let (items, rest) ← readItems? fuel rest
      return (item :: items, rest)
    | some ']' :: rest => return ([item], rest)
    | _ => none

/-- The members of an object up to its closing brace. -/
def readMembers? : Nat → Source → Option (List (Option String × Written) × Source)
  | 0, _ => none
  | fuel + 1, s =>
    match skipBlanks s with
    | some '"' :: rest => do
      let (key, rest) ← readString? rest
      match skipBlanks rest with
      | some ':' :: rest =>
        let (value, rest) ← readValue? fuel rest
        match skipBlanks rest with
        | some ',' :: rest =>
          let (members, rest) ← readMembers? fuel rest
          return ((key, value) :: members, rest)
        | some '}' :: rest => return ([(key, value)], rest)
        | _ => none
      | _ => none
    | _ => none
end

/-- The document that a source holds, with nothing but blanks around it. -/
def read? (s : Source) : Option Written := do
  let (value, rest) ← readValue? (2 * s.length + 2) s
  if (skipBlanks rest).isEmpty then return value else none

def ofBytes? (bytes : Bytes) : Option Written := read? (Utf8.units bytes)

def ofText? (s : String) : Option Written := read? (s.toList.map some)

mutual
/-- The value of a document with at most `limit` containers inside each other. -/
def toJson? (limit : Nat) : Written → Option Json
  | null => some .null
  | bool b => some (.bool b)
  | number n => n.map .number
  | string s => s.map .string
  | array items =>
    if limit = 0 then none else (itemsToJson? (limit - 1) items).map .array
  | object members =>
    if limit = 0 then none
    else (membersToJson? (limit - 1) members).map fun written => .object (Members.ofList written)

def itemsToJson? (limit : Nat) : List Written → Option (List Json)
  | [] => some []
  | item :: items => do return (← toJson? limit item) :: (← itemsToJson? limit items)

def membersToJson? (limit : Nat) : List (Option String × Written) → Option (List (String × Json))
  | [] => some []
  | (key, value) :: members => do
    return (← key, ← toJson? limit value) :: (← membersToJson? limit members)
end

end Written

/-- How many containers may enclose each other in a document. -/
def nestingLimit : Nat := 127

/-- The JSON document in a file. -/
def ofBytes? (bytes : Bytes) : Option Json := (Written.ofBytes? bytes).bind (·.toJson? nestingLimit)

/-- The JSON document in a text. -/
def ofText? (s : String) : Option Json := (Written.ofText? s).bind (·.toJson? nestingLimit)

mutual
/-- A value, as a document that reads as it. -/
def written : Json → Written
  | null => .null
  | bool b => .bool b
  | number n => .number (some n)
  | string s => .string (some s)
  | array items => .array (writtenItems items)
  | object members => .object (writtenMembers members)

def writtenItems : List Json → List Written
  | [] => []
  | item :: items => written item :: writtenItems items

def writtenMembers : List (String × Json) → List (Option String × Written)
  | [] => []
  | (key, value) :: members => (some key, written value) :: writtenMembers members
end

end Triage.Json
