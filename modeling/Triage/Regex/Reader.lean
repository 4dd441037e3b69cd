import Triage.Regex.CharClass
import Triage.Regex.Pattern
import Triage.Text.Integer
import Triage.Text.Pieces
import Triage.Unicode.Name

/-!
# Reading patterns

Patterns have the constructions of the common dialect without look-around and back-references.
While the mode for ignoring blanks is on, blanks and comments may stand between the constructions.
A reader either takes something off the front of the text or refuses the whole pattern.
-/

namespace Triage.Regex

/-- What is left of a pattern, and what its front has settled. -/
structure Cursor where
  rest : List Char
  ignoreBlanks : Bool := false
  groups : Nat := 0
  names : List String := []

abbrev Reader := StateT Cursor Option

namespace Reader

def peek : Reader (Option Char) := return (← get).rest.head?

def second : Reader (Option Char) := return ((← get).rest.drop 1).head?

def skip (count : Nat) : Reader Unit := modify fun s => { s with rest := s.rest.drop count }

/-- The text after blanks and comments. -/
def dropBlanks (inComment : Bool) : List Char → List Char
  | [] => []
  | c :: s =>
    if inComment then dropBlanks (c != '\n') s
    else if Text.isBlank c then dropBlanks false s
    else if c == '#' then dropBlanks true s
    else c :: s

def skipBlanks : Reader Unit := modify fun s =>
  if s.ignoreBlanks then { s with rest := dropBlanks false s.rest } else s

/-- Skips one character and the blanks after it. -/
def skipSpaced : Reader Unit := do
  skip 1
  skipBlanks

/-- The next character, which must be there. -/
def char : Reader Char := do
  match ← peek with
  | some c => return c
  | none => failure

def expect (c : Char) : Reader Unit := do
  if (← char) == c then skip 1 else failure

/-- Skips a piece of text if it comes next. -/
def skipText? (piece : String) : Reader Bool := do
  match piece.toList.isPrefixOf? (← get).rest with
  | some rest =>
    modify fun s => { s with rest }
    return true
  | none => return false

/-- Takes characters while they satisfy `p`, skipping blanks after each. -/
def takeSpaced (p : Char → Bool) : Nat → Reader (List Char)
  | 0 => return []
  | fuel + 1 => do
    match ← peek with
    | some c =>
      if p c then
        skipSpaced
        return c :: (← takeSpaced p fuel)
      else return []
    | none => return []

/-- The number of characters that are left. -/
def remaining : Reader Nat := return (← get).rest.length

def skipWhile (p : Char → Bool) : Reader Unit :=
  modify fun s => { s with rest := s.rest.dropWhile p }

/-- A decimal number below `2 ^ 32`, with blanks around it. -/
def decimal : Reader Nat := do
  skipWhile Text.isBlank
  let digits ← takeSpaced Char.isDigit (← remaining)
  skipWhile Text.isBlank
  skipBlanks
  if digits.isEmpty then failure
  let n := Text.digitsValue digits
  if n < Text.powerOfTwo 32 then return n else failure

def hexDigit? (c : Char) : Option Nat :=
  if c.isDigit then some (c.toNat - '0'.toNat)
  else if 'a' ≤ c ∧ c ≤ 'f' then some (c.toNat - 'a'.toNat + 10)
  else if 'A' ≤ c ∧ c ≤ 'F' then some (c.toNat - 'A'.toNat + 10)
  else none

/-- The character with a code of hexadecimal digits. -/
def ofHex (digits : List Char) : Reader Char := do
  let code := digits.foldl (fun n c => 16 * n + (hexDigit? c).getD 0) 0
  if h : code.isValidChar then return Char.ofNatAux code h else failure

/-- Exactly so many hexadecimal digits. -/
def hexDigits : Nat → Reader (List Char)
  | 0 => return []
  | count + 1 => do
    let c ← char
    if (hexDigit? c).isNone then failure
    skipSpaced
    return c :: (← hexDigits count)

/-- A character written as a number, either of so many digits or in braces. -/
def hexChar (digits : Nat) : Reader Pattern := do
  skipBlanks
  if (← char) == '\x7b' then
    skipSpaced
    let code ← takeSpaced (fun c => (hexDigit? c).isSome) (← remaining)
    if (← char) != '\x7d' || code.isEmpty then failure
    skipSpaced
    return .char (← ofHex code) false
  else return .char (← ofHex (← hexDigits digits)) (digits == 2)

/-- A class that goes by a name, after `\p` or `\P`. -/
def namedClass (negated : Bool) : Reader ClassItem := do
  skipBlanks
  let c ← char
  if c == '\x7b' then
    skipSpaced
    let name ← takeSpaced (· != '\x7d') (← remaining)
    expect '\x7d'
    match Text.cutAt? ['!', '='] name with
    | some (property, value) => return .valued property value (!negated)
    | none =>
      match Text.cutAt? [':'] name <|> Text.cutAt? ['='] name with
      | some (property, value) => return .valued property value negated
      | none => return .named name negated
  else if c == '\\' then failure
  else
    skipSpaced
    return .named [c] negated

def isMeta (c : Char) : Bool := "\\.+*?()|[]\x7b\x7d^$#&-~".toList.contains c

/-- Characters that may be escaped without need. -/
def isEscapable (c : Char) : Bool :=
  isMeta c || (c.toNat < 128 && !c.isAlphanum && c != '<' && c != '>')

/-- The edge of words that a name in braces after `\b` selects; other braces are left alone. -/
def wordEdge : Reader WordEdge := do
  let isNameChar (c : Char) : Bool := c.isAlpha || c == '-'
  if (← peek) != some '\x7b' then return .border
  let before ← get
  skipSpaced
  let c ← char
  if !isNameChar c then
    set before
    return .border
  let name ← takeSpaced isNameChar (← remaining)
  expect '\x7d'
  match String.ofList name with
  | "start" => return .start
  | "end" => return .finish
  | "start-half" => return .startHalf
  | "end-half" => return .finishHalf
  | _ => failure

/-- What an escaped character means, after the backslash. -/
def escaped : Reader Pattern := do
  let c ← char
  skip 1
  match c with
  | 'x' => hexChar 2
  | 'u' => hexChar 4
  | 'U' => hexChar 8
  | 'p' => return .set (← namedClass false)
  | 'P' => return .set (← namedClass true)
  | 'd' => return .set (.kind .digit false)
  | 'D' => return .set (.kind .digit true)
  | 's' => return .set (.kind .blank false)
  | 'S' => return .set (.kind .blank true)
  | 'w' => return .set (.kind .word false)
  | 'W' => return .set (.kind .word true)
  | 'a' => return .char '\x07' false
  | 'f' => return .char '\x0c' false
  | 't' => return .char '\t' false
  | 'n' => return .char '\n' false
  | 'r' => return .char '\r' false
  | 'v' => return .char '\x0b' false
  | 'A' => return .anchor .textStart
  | 'z' => return .anchor .textEnd
  | 'b' => return .anchor (.word (← wordEdge))
  | 'B' => return .anchor (.word .noEdge)
  | '<' => return .anchor (.word .start)
  | '>' => return .anchor (.word .finish)
  | c => if isEscapable c then return .char c false else failure

/-- A construction of one character or one escape. -/
def primitive : Reader Pattern := do
  let c ← char
  skip 1
  match c with
  | '\\' => escaped
  | '.' => return .dot
  | '^' => return .anchor .lineStart
  | '$' => return .anchor .lineEnd
  | c => return .char c false

/-- A class such as `[:alpha:]` at the front of a text. -/
def posixClass? : List Char → Option (ClassItem × List Char)
  | '[' :: ':' :: s => do
    let (negated, s) := match s with
      | '^' :: rest => (true, rest)
      | s => (false, s)
    let (name, rest) ← Text.cutAt? [':'] s
    let rest ← Text.dropFront? [']'] rest
    let name := String.ofList name
    if (CharClass.posix? name).isSome then return (.posix name negated, rest) else none
  | _ => none

/-- An escape or a character inside brackets. -/
def classPrimitive : Reader Pattern := do
  let c ← char
  skip 1
  if c == '\\' then escaped else return .char c false

def classItemOf? : Pattern → Option ClassItem
  | .char c _ => some (.char c)
  | .set item => some item
  | _ => none

/-- Whether a dash that comes next stands for itself, or begins an operator. -/
def isPlainDash : Reader Bool := do
  let s ← get
  let rest := s.rest.drop 1
  let rest := if s.ignoreBlanks then dropBlanks false rest else rest
  return rest.head? == some ']' || rest.head? == some '-'

/-- One character, one escape or a range inside brackets. -/
def classRange : Reader ClassItem := do
  let first ← classPrimitive
  skipBlanks
  if (← char) != '-' || (← isPlainDash) then
    match classItemOf? first with
    | some item => return item
    | none => failure
  else
    skipSpaced
    match first, ← classPrimitive with
    | .char a _, .char b _ => if a ≤ b then return .range a b else failure
    | _, _ => failure

def classOp? : Char → Option ClassOp
  | '&' => some .intersection
  | '-' => some .difference
  | '~' => some .symmetricDifference
  | _ => none

/-- The items read since the last operator, newest first, joined to what stands before it. -/
def joined (before : Option (ClassItem × ClassOp)) (items : List ClassItem) : ClassItem :=
  let item := match items with
    | [item] => item
    | items => .union items.reverse
  match before with
  | some (left, op) => .combined op left item
  | none => item

/-- The dashes that stand for themselves after an opening bracket. -/
def leadingDashes : Nat → Reader (List ClassItem)
  | 0 => return []
  | fuel + 1 => do
    if (← peek) == some '-' then
      skipSpaced
      return .char '-' :: (← leadingDashes fuel)
    else return []

mutual
/-- A class in brackets. -/
def classBody : Nat → Reader ClassItem
  | 0 => failure
  | fuel + 1 => do
    skipSpaced
    let negated := (← char) == '^'
    if negated then skipSpaced
    let dashes ← leadingDashes (← remaining)
    if dashes.isEmpty && (← char) == ']' then
      skipSpaced
      return .nested negated (← classItems fuel none [.char ']'])
    else return .nested negated (← classItems fuel none dashes)

/-- The items of a class up to its closing bracket. -/
def classItems : Nat → Option (ClassItem × ClassOp) → List ClassItem → Reader ClassItem
  | 0, _, _ => failure
  | fuel + 1, before, items => do
    skipBlanks
    let c ← char
    if c == ']' then
      skip 1
      return joined before items
    else if c == '[' then
      match posixClass? (← get).rest with
      | some (item, rest) =>
        modify fun s => { s with rest }
        classItems fuel before (item :: items)
      | none =>
        let item ← classBody fuel
        classItems fuel before (item :: items)
    else
      match classOp? c, (← second) == some c with
      | some op, true =>
        skip 2
        classItems fuel (some (joined before items, op)) []
      | _, _ =>
        let item ← classRange
        classItems fuel before (item :: items)
end

def mode? : Char → Option Mode
  | 'i' => some .ignoreCase
  | 'm' => some .multiLine
  | 's' => some .dotMatchesAll
  | 'U' => some .swapGreed
  | 'u' => some .unicode
  | 'R' => some .crlf
  | 'x' => some .ignoreBlanks
  | _ => none

/-- The letters of modes up to a colon or a parenthesis: each at most once, and at most one dash,
after which the modes are switched off and which must not be the last. -/
def modeChanges : Nat → Bool → ModeChanges → Reader ModeChanges
  | 0, _, _ => failure
  | fuel + 1, on, changes => do
    let c ← char
    if c == ':' || c == ')' then return changes.reverse
    skip 1
    if c == '-' then
      let next ← char
      if !on || next == ':' || next == ')' then failure else modeChanges fuel false changes
    else
      match mode? c with
      | some mode =>
        if changes.any (·.1 == mode) then failure
        else modeChanges fuel on ((mode, on) :: changes)
      | none => failure

/-- Applies what is said about blanks. -/
def applyBlanks (changes : ModeChanges) : Reader Unit := modify fun s =>
  { s with ignoreBlanks := (changes.lookup .ignoreBlanks).getD s.ignoreBlanks }

def isNameStart (c : Char) : Bool := c == '_' || Unicode.nameLetters.contains c

def isNameChar (c : Char) : Bool :=
  isNameStart c || c == '.' || c == '[' || c == ']' || Unicode.nameNumbers.contains c

/-- The name of a group up to the closing angle; no two groups have the same name. -/
def groupName : Reader String := do
  let s ← get
  match Text.cutAt? ['>'] s.rest with
  | some (c :: rest, after) =>
    let name := String.ofList (c :: rest)
    if !isNameStart c || !rest.all isNameChar || s.names.contains name then failure
    set { s with rest := after, names := name :: s.names }
    return name
  | _ => failure

/-- The number of the next group. -/
def nextGroup : Reader Nat := do
  let s ← get
  set { s with groups := s.groups + 1 }
  return s.groups + 1

def isLookAround : List Char → Bool
  | '?' :: '=' :: _ | '?' :: '!' :: _ | '?' :: '<' :: '=' :: _ | '?' :: '<' :: '!' :: _ => true
  | _ => false

def isUncounted (c : Char) : Bool := c == '?' || c == '*' || c == '+'

/-- How often an operator repeats. -/
def uncounted : Char → Nat × Option Nat
  | '?' => (0, some 1)
  | '*' => (0, none)
  | _ => (1, none)

/-- The bounds in braces. -/
def counted : Reader (Nat × Option Nat) := do
  skipSpaced
  let min ← decimal
  if (← char) == ',' then
    skipSpaced
    if (← char) == '\x7d' then
      skip 1
      return (min, none)
    let max ← decimal
    expect '\x7d'
    if min ≤ max then return (min, some max) else failure
  else
    expect '\x7d'
    return (min, some min)

/-- Whether a question mark makes a repetition lazy. -/
def lazy? : Reader Bool := do
  if (← peek) == some '?' then
    skip 1
    return true
  else return false

/-- Skips a closing parenthesis and restores what was said about blanks outside. -/
def closeGroup (ignoreBlanks : Bool) : Reader Unit := do
  expect ')'
  modify fun s => { s with ignoreBlanks }

/-- Skips what stands before the name of a group. -/
def skipNameMark? : Reader Bool := do
  if ← skipText? "?P<" then return true else skipText? "?<"

mutual
/-- Alternatives up to the end of their group. -/
def alternatives : Nat → List Pattern → Reader Pattern
  | 0, _ => failure
  | fuel + 1, before => do
    let item ← items fuel []
    if (← peek) == some '|' then
      skip 1
      alternatives fuel (item :: before)
    else return .ofChoices (item :: before).reverse

/-- Items one after the other, newest first, up to the end of their alternative. -/
def items : Nat → List Pattern → Reader Pattern
  | 0, _ => failure
  | fuel + 1, before => do
    skipBlanks
    match ← peek with
    | none | some ')' | some '|' => return .ofItems before.reverse
    | some '(' =>
      let item ← group fuel
      items fuel (item :: before)
    | some '[' =>
      let item ← classBody fuel
      items fuel (.set item :: before)
    | some c =>
      if isUncounted c then
        skip 1
        let greedy := !(← lazy?)
        repeatLast fuel before (uncounted c) greedy
      else if c == '\x7b' then
        let bounds ← counted
        skipBlanks
        let greedy := !(← lazy?)
        repeatLast fuel before bounds greedy
      else
        let item ← primitive
        items fuel (item :: before)

/-- Puts a repetition in the place of the last item. -/
def repeatLast : Nat → List Pattern → Nat × Option Nat → Bool → Reader Pattern
  | 0, _, _, _ => failure
  | fuel + 1, before, (min, max), greedy =>
    match before with
    | [] => failure
    | body :: before =>
      if body.isRepeatable then items fuel (.repeated min max greedy body :: before) else failure

/-- A group, or modes for the rest of the one around it. -/
def group : Nat → Reader Pattern
  | 0 => failure
  | fuel + 1 => do
    skip 1
    skipBlanks
    if isLookAround (← get).rest then failure
    let outer := (← get).ignoreBlanks
    if ← skipNameMark? then
      let index ← nextGroup
      let name ← groupName
      let body ← alternatives fuel []
      closeGroup outer
      return .group index (some name) body
    else if ← skipText? "?" then
      let changes ← modeChanges (← remaining) true []
      applyBlanks changes
      if (← char) == ')' then
        skip 1
        if changes.isEmpty then failure else return .modes changes
      else
        skip 1
        let body ← alternatives fuel []
        closeGroup outer
        return .moded changes body
    else
      let index ← nextGroup
      let body ← alternatives fuel []
      closeGroup outer
      return .group index none body
end

end Reader

/-- How deep constructions may be nested. -/
def nestingLimit : Nat := 250

/-- Reads a whole pattern. -/
def Pattern.ofText? (text : List Char) : Option Pattern := do
  let (pattern, rest) ← (Reader.alternatives (4 * text.length + 4) []).run { rest := text }
  if rest.rest.isEmpty && pattern.depth ≤ nestingLimit then return pattern else none

end Triage.Regex
