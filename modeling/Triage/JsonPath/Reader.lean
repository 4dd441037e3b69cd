import Triage.Binary64.Reading
import Triage.JsonPath.Basic
import Triage.JsonPath.Token
import Triage.Text.Integer

/-!
# Reading JSON paths

A path ends where no further step begins, and what follows is ignored. Tests group to the right:
neither of their connectives binds tighter than the other. A term alone is a test only if it begins
at the values at hand.
-/

namespace Triage.JsonPath

/-- What was read, and the tokens that are left. -/
abbrev Reading (α : Type) := α × List Token

def readClosing (closing : Token) (tokens : List Token) : Option (List Token) :=
  match Token.skipBlanks tokens with
  | token :: tokens => if token = closing then some tokens else none
  | [] => none

/-- The quoted names after the first one; blanks may follow each of them. -/
def readNames : Nat → List Token → Option (Reading (List String))
  | 0, _ => none
  | n + 1, tokens =>
    match tokens with
    | .comma :: tokens =>
      match Token.skipBlanks tokens with
      | .quoted name :: tokens => do
        let (names, tokens) ← readNames n (Token.skipBlanks tokens)
        return (.ofList name :: names, tokens)
      | _ => none
    | tokens => some ([], tokens)

/-- The numbers after the first one. -/
def readIndices : Nat → List Token → Option (Reading (List Int))
  | 0, _ => none
  | n + 1, tokens =>
    match tokens with
    | .comma :: tokens =>
      match Token.skipBlanks tokens with
      | .word digits :: tokens => do
        let index ← Text.signed64? digits
        let (indices, tokens) ← readIndices n tokens
        return (index :: indices, tokens)
      | _ => none
    | tokens => some ([], tokens)

/-- The stride of a slice, if there is one. -/
def readStride (tokens : List Token) : Option (Reading (Option Nat)) :=
  match Token.skipBlanks tokens with
  | .colon :: tokens =>
    match Token.skipBlanks tokens with
    | .word digits :: tokens => do
      let stride ← Text.unsigned? digits
      if stride < Text.powerOfTwo 64 then return (some stride, tokens) else none
    | tokens => some (none, tokens)
  | tokens => some (none, tokens)

/-- The end and the stride of a slice that begins at `first`. -/
def readSliceFrom (first : Int) (tokens : List Token) : Option (Reading Instruction) :=
  match Token.skipBlanks tokens with
  | .word digits :: tokens => do
    let last ← Text.signed64? digits
    let (stride, tokens) ← readStride tokens
    return (.slice (some first) (some last) (stride.getD 1), tokens)
  | .colon :: tokens => do
    let (stride, tokens) ← readStride (.colon :: tokens)
    return (.slice (some first) none (stride.getD 1), tokens)
  | tokens => some (.slice (some first) none 1, tokens)

/-- The end and the stride of a slice from the beginning. -/
def readSlice (tokens : List Token) : Option (Reading Instruction) := do
  match ← readStride tokens with
  | (some stride, tokens) => return (.slice none none stride, tokens)
  | (none, .closeBracket :: tokens) => return (.slice none none 1, .closeBracket :: tokens)
  | (none, .word digits :: tokens) =>
    let last ← Text.signed64? digits
    let (stride, tokens) ← readStride tokens
    return (.slice none (some last) (stride.getD 1), tokens)
  | _ => none

/-- What begins with a number in brackets. -/
def readIndexed (index : Int) (tokens : List Token) : Option (Reading Instruction) :=
  match Token.skipBlanks tokens with
  | .comma :: tokens => do
    let (indices, tokens) ← readIndices (tokens.length + 2) (.comma :: tokens)
    return (.indices (index :: indices), tokens)
  | .colon :: tokens => readSliceFrom index tokens
  | tokens => some (.number (((Binary64.ofInt? index).map .finite).getD .undefined), tokens)

/-- What begins with a quoted text: several of them only if a comma follows at once. -/
def readQuoted (text : List Char) (tokens : List Token) : Option (Reading Instruction) :=
  match tokens with
  | .comma :: _ => do
    let (names, tokens) ← readNames (tokens.length + 1) tokens
    return (.names (.ofList text :: names), tokens)
  | tokens => some (.name (.ofList text), tokens)

namespace Operand

/-- Whether a text is one of the words for numbers that are not finite. -/
def ofWord? (negative : Bool) (word : List Char) : Option Operand :=
  let lower := word.map Char.toLower
  if lower = "inf".toList ∨ lower = "infinity".toList then some (infinite negative)
  else if lower = "nan".toList then some undefined
  else none

/-- Whether a text has the form of a number: digits around a point, and perhaps a power of ten. -/
def isDecimal (s : List Char) : Bool :=
  let whole := s.takeWhile Char.isDigit
  let rest := s.drop whole.length
  let fraction := match rest with
    | '.' :: t => t.takeWhile Char.isDigit
    | _ => []
  let rest := match rest with
    | '.' :: t => t.dropWhile Char.isDigit
    | t => t
  !(whole.isEmpty && fraction.isEmpty) &&
    match rest with
    | [] => true
    | e :: t => (e == 'e' || e == 'E') && (Binary64.readPower? t).isSome

/-- Reads a number; one that is too large is infinite. -/
def read? (s : List Char) : Option Operand :=
  let (negative, magnitude) := match s with
    | '-' :: s => (true, s)
    | '+' :: s => (false, s)
    | s => (false, s)
  match Binary64.readUnsigned? negative magnitude with
  | some x => some (finite x)
  | none => if isDecimal magnitude then some (infinite negative) else ofWord? negative magnitude

end Operand

def readNumber (digits : List Char) : List Token → Option (Reading Instruction)
  | .dot :: .word fraction :: tokens =>
    (Operand.read? (digits ++ '.' :: fraction)).map fun x => (.number x, tokens)
  | .dot :: _ => none
  | tokens => (Operand.read? digits).map fun x => (.number x, tokens)

/-- A word that begins like a truth value is one, true only if it says so. -/
def readFlag (word : List Char) (tokens : List Token) : Option (Reading Instruction) :=
  match word.head?.map Char.toLower with
  | some 't' | some 'f' => some (.flag (word.map Char.toLower == "true".toList), tokens)
  | _ => none

abbrev Instructions := List Instruction

mutual

/-- Reads the steps of a path. -/
def readSteps : Nat → List Token → Option (Reading Instructions)
  | 0, _ => none
  | n + 1, tokens =>
    match tokens with
    | .here :: tokens => readSteps n tokens
    | .openBracket :: tokens => readBracket n (Token.skipBlanks tokens)
    | .dot :: .openBracket :: tokens => readBracket n tokens
    | .dot :: .star :: tokens => readAfter n [.go .child, .every] tokens
    | .dot :: .word name :: tokens => readAfter n [.go .child, .name (.ofList name)] tokens
    | .dot :: .dot :: .openBracket :: tokens =>
      readAfter n [.go .deep] (.openBracket :: tokens)
    | .dot :: .dot :: .star :: tokens => readAfter n [.go .deep, .every] tokens
    | .dot :: .dot :: .word name :: tokens =>
      readAfter n [.go .deep, .name (.ofList name)] tokens
    | .dot :: _ => none
    | tokens => some ([], tokens)

/-- Reads the steps that come after those given. -/
def readAfter : Nat → Instructions → List Token → Option (Reading Instructions)
  | 0, _, _ => none
  | n + 1, steps, tokens => do
    let (more, tokens) ← readSteps n tokens
    return (steps ++ more, tokens)

/-- Reads a step in brackets, and the steps after it. -/
def readBracket : Nat → List Token → Option (Reading Instructions)
  | 0, _ => none
  | n + 1, tokens => do
    let (pick, tokens) ← readPick n tokens
    readAfter n (.go .bracket :: pick ++ [.close]) (← readClosing .closeBracket tokens)

def readPick : Nat → List Token → Option (Reading Instructions)
  | 0, _ => none
  | n + 1, tokens => do
    match tokens with
    | .question :: .openParen :: tokens =>
      let (test, tokens) ← readTests n tokens
      return (test, ← readClosing .closeParen tokens)
    | .star :: tokens => return ([.every], tokens)
    | .word digits :: tokens =>
      let (pick, tokens) ← readIndexed (← Text.signed64? digits) tokens
      return ([pick], tokens)
    | .colon :: tokens =>
      let (pick, tokens) ← readSlice tokens
      return ([pick], tokens)
    | .quoted text :: tokens =>
      let (pick, tokens) ← readQuoted text tokens
      return ([pick], tokens)
    | _ => none

/-- Reads a test and those joined to it. -/
def readTests : Nat → List Token → Option (Reading Instructions)
  | 0, _ => none
  | n + 1, tokens => do
    let (test, tokens) ← match Token.skipBlanks tokens with
      | .openParen :: tokens => do
        let (test, tokens) ← readTests n tokens
        pure (test, ← readClosing .closeParen tokens)
      | tokens => readTest n tokens
    match Token.skipBlanks tokens with
    | .both :: tokens =>
      let (others, tokens) ← readTests n tokens
      return (test ++ others ++ [.join .both], tokens)
    | .either :: tokens =>
      let (others, tokens) ← readTests n tokens
      return (test ++ others ++ [.join .either], tokens)
    | tokens => return (test, tokens)

def readTest : Nat → List Token → Option (Reading Instructions)
  | 0, _ => none
  | n + 1, tokens => do
    let (left, rest) ← readTerm n tokens
    match Token.skipBlanks rest with
    | .compare op :: rest =>
      let (right, rest) ← readTerm n (Token.skipBlanks rest)
      return (left ++ right ++ [.join (.compare op)], rest)
    | rest => if tokens.head? = some .here then return (left, rest) else none

def readTerm : Nat → List Token → Option (Reading Instructions)
  | 0, _ => none
  | n + 1, tokens => do
    match tokens with
    | .here :: .blank :: tokens => return ([.here], Token.skipBlanks tokens)
    | .here :: tokens => readAfter n [.here] tokens
    | .root :: tokens => readAfter n [.root] tokens
    | .quoted text :: tokens =>
      let (term, tokens) ← readQuoted text tokens
      return ([term], tokens)
    | .word word :: tokens =>
      let (term, tokens) ←
        if word.head?.any fun c => c == '-' || c.isDigit then readNumber word tokens
        else readFlag word tokens
      return ([term], tokens)
    | _ => none

end

/-- Reads a path that begins at the document. Between two tokens that are used up there are at most
eight calls. -/
def readPath? (text : List Char) : Option Instructions :=
  match Token.ofText text with
  | .root :: tokens => (readAfter (8 * tokens.length + 8) [.root] tokens).map (·.1)
  | _ => none

/-- A path as it may be written in an analyzer: perhaps in braces, perhaps without its root. -/
def normalise (expression : List Char) : List Char :=
  let trimmed := Text.trim expression
  let inner :=
    match trimmed with
    | '\x7b' :: rest => if rest.getLast? = some '\x7d' then Text.trim rest.dropLast else trimmed
    | trimmed => trimmed
  match inner with
  | '$' :: _ => inner
  | '.' :: _ | '[' :: _ => '$' :: inner
  | inner => '$' :: '.' :: inner

def ofText? (expression : String) : Option Instructions := readPath? (normalise expression.toList)

end Triage.JsonPath
