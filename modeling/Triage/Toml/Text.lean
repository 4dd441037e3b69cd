/-!
# Texts in TOML

Strings between quotes, on one line or on several, and keys. A reader gives what it read and the
rest of the text.
-/

namespace Triage.Toml

def isBlank (c : Char) : Bool := c == ' ' || c == '\t'

/-- The characters that comments and strings may hold as they are, breaks apart. -/
def isPrintable (c : Char) : Bool := c == '\t' || (' ' ≤ c && c != '\x7f')

def skipBlanks (s : List Char) : List Char := s.dropWhile isBlank

/-- Goes over a line break. -/
def newline? : List Char → Option (List Char)
  | '\n' :: s => some s
  | '\r' :: '\n' :: s => some s
  | _ => none

/-- Goes over a comment, if there is one, up to the end of its line. -/
def skipComment : List Char → List Char
  | '#' :: s => s.dropWhile isPrintable
  | s => s

/-- Goes over blanks, comments and line breaks. -/
def skipGaps : Nat → List Char → List Char
  | 0, s => s
  | n + 1, s =>
    let s := skipComment (skipBlanks s)
    match newline? s with
    | some s => skipGaps n s
    | none => s

/-- What a letter behind a backslash stands for. -/
def simpleEscape? : Char → Option Char
  | 'b' => some '\x08'
  | 't' => some '\t'
  | 'n' => some '\n'
  | 'f' => some '\x0c'
  | 'r' => some '\r'
  | 'e' => some '\x1b'
  | '"' => some '"'
  | '\\' => some '\\'
  | _ => none

def codeLength? : Char → Option Nat
  | 'x' => some 2
  | 'u' => some 4
  | 'U' => some 8
  | _ => none

def hexValue? (c : Char) : Option Nat :=
  if c.isDigit then some (c.toNat - '0'.toNat)
  else if 'a' ≤ c && c ≤ 'f' then some (c.toNat - 'a'.toNat + 10)
  else if 'A' ≤ c && c ≤ 'F' then some (c.toNat - 'A'.toNat + 10)
  else none

def charOfHex? (digits : List Char) : Option Char := do
  let code := (← digits.mapM hexValue?).foldl (fun n d => 16 * n + d) 0
  if h : code.isValidChar then some (Char.ofNatAux code h) else none

/-- Reads an escape sequence behind its backslash. -/
def escape? : List Char → Option (Char × List Char)
  | [] => none
  | letter :: s =>
    match codeLength? letter with
    | none => (simpleEscape? letter).map fun c => (c, s)
    | some length =>
      if (s.take length).length < length then none
      else (charOfHex? (s.take length)).map fun c => (c, s.drop length)

/-- Reads a string behind its opening quote; only between double quotes are there escapes. -/
def lineString (quote : Char) : Nat → List Char → List Char → Option (List Char × List Char)
  | 0, _, _ => none
  | _ + 1, [], _ => none
  | n + 1, c :: s, text =>
    if c == quote then some (text.reverse, s)
    else if c == '\\' && quote == '"' then
      match escape? s with
      | some (c, s) => lineString quote n s (c :: text)
      | none => none
    else if isPrintable c then lineString quote n s (c :: text)
    else none

/-- Goes over blanks and line breaks. -/
def skipLines : Nat → List Char → List Char
  | 0, s => s
  | n + 1, s =>
    let s := skipBlanks s
    match newline? s with
    | some s => skipLines n s
    | none => s

/-- Reads a string over several lines behind its opening quotes and the break after them. Two quotes
may stand before the closing ones. A backslash at the end of a line joins it to what follows. -/
def linesString (quote : Char) : Nat → List Char → List Char → Option (List Char × List Char)
  | 0, _, _ => none
  | _ + 1, [], _ => none
  | n + 1, c :: s, text =>
    let quotes := ((c :: s).take 5).takeWhile (· == quote)
    if 3 ≤ quotes.length then
      some (text.reverse ++ quotes.drop 3, (c :: s).drop quotes.length)
    else if c == '\\' && quote == '"' then
      match newline? (skipBlanks s) with
      | some s => linesString quote n (skipLines n s) text
      | none =>
        match escape? s with
        | some (c, s) => linesString quote n s (c :: text)
        | none => none
    else
      match newline? (c :: s) with
      | some s => linesString quote n s ('\n' :: text)
      | none => if isPrintable c then linesString quote n s (c :: text) else none

/-- Reads a string of any of the four kinds. -/
def string? (n : Nat) (s : List Char) : Option (String × List Char) :=
  let afterBreak (s : List Char) : List Char := (newline? s).getD s
  let read? := match s with
    | '"' :: '"' :: '"' :: s => linesString '"' n (afterBreak s) []
    | '\'' :: '\'' :: '\'' :: s => linesString '\'' n (afterBreak s) []
    | '"' :: s => lineString '"' n s []
    | '\'' :: s => lineString '\'' n s []
    | _ => none
  read?.map fun (text, s) => (.ofList text, s)

def isKeyChar (c : Char) : Bool := c.isAlphanum || c == '_' || c == '-'

/-- Reads one part of a key: a word, or a string on one line. -/
def keyPart? (n : Nat) (s : List Char) : Option (String × List Char) :=
  match s with
  | '"' :: s => (lineString '"' n s []).map fun (text, s) => (.ofList text, s)
  | '\'' :: s => (lineString '\'' n s []).map fun (text, s) => (.ofList text, s)
  | s =>
    match s.takeWhile isKeyChar with
    | [] => none
    | word => some (.ofList word, s.dropWhile isKeyChar)

/-- A key: the names that lead to it, and its own. -/
structure Key where
  parents : List String
  last : String

/-- How many names a key may have. -/
def keyLimit : Nat := 80

/-- Reads a dotted key; blanks may stand around its dots. -/
def key? : Nat → List Char → List String → Option (Key × List Char)
  | 0, _, _ => none
  | n + 1, s, parents => do
    let (part, s) ← keyPart? n (skipBlanks s)
    match skipBlanks s with
    | '.' :: s => key? n s (part :: parents)
    | s => if parents.length < keyLimit then return (⟨parents.reverse, part⟩, s) else none

end Triage.Toml
