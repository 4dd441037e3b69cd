import Triage.Comparison
import Triage.Text.Blank

/-!
# Tokens of JSON paths

Tokens end where the text ends, or where it goes wrong: what follows is not looked at unless the
path needs it. A quoted text goes on over quotes that have a backslash before them.
-/

namespace Triage.JsonPath

inductive Token where
  | root
  | here
  | dot
  | star
  | question
  | comma
  | colon
  | openBracket
  | closeBracket
  | openParen
  | closeParen
  | word (text : List Char)
  /-- A text with its quotes. -/
  | quoted (text : List Char)
  | compare (op : Comparison)
  | both
  | either
  | blank
  deriving DecidableEq

namespace Token

/-- The characters that end a word. -/
def isMark (c : Char) : Bool := "$.*[]()@?,:<>=&|!".toList.contains c

def isInWord (c : Char) : Bool := !isMark c && !Text.isBlank c

/-- The text up to a quote with this quote, and what follows. The flag says whether a backslash came
just before. -/
def quotedBy? (quote : Char) : Bool → List Char → Option (List Char × List Char)
  | _, [] => none
  | escaped, c :: s =>
    if c == quote && !escaped then some ([c], s)
    else (quotedBy? quote (c == '\\') s).map fun (text, rest) => (c :: text, rest)

/-- The first token of a text, and what follows it. -/
def first? : List Char → Option (Token × List Char)
  | [] => none
  | c :: s =>
    match c, s with
    | '$', s =>
      match s.takeWhile fun c => c == '$' || isInWord c with
      | [] => some (root, s)
      | text => some (word ('$' :: text), s.drop text.length)
    | '@', s => some (here, s)
    | '.', s => some (dot, s)
    | '*', s => some (star, s)
    | '?', s => some (question, s)
    | ',', s => some (comma, s)
    | ':', s => some (colon, s)
    | '[', s => some (openBracket, s)
    | ']', s => some (closeBracket, s)
    | '(', s => some (openParen, s)
    | ')', s => some (closeParen, s)
    | '\'', s | '"', s =>
      (quotedBy? c false s).map fun (text, rest) => (quoted (c :: text), rest)
    | '=', '=' :: s => some (compare .equal, s)
    | '!', '=' :: s => some (compare .notEqual, s)
    | '<', '=' :: s => some (compare .lessOrEqual, s)
    | '>', '=' :: s => some (compare .greaterOrEqual, s)
    | '<', _ :: _ => some (compare .less, s)
    | '>', _ :: _ => some (compare .greater, s)
    | '&', '&' :: s => some (both, s)
    | '|', '|' :: s => some (either, s)
    | c, s =>
      if isMark c then none
      else if Text.isBlank c then some (blank, s.dropWhile Text.isBlank)
      else some (word (c :: s.takeWhile isInWord), s.dropWhile isInWord)

/-- The tokens of a text, at most as many as given. -/
def scan : Nat → List Char → List Token
  | 0, _ => []
  | n + 1, s =>
    match first? s with
    | none => []
    | some (token, rest) => token :: scan n rest

/-- The tokens of a text; each takes at least a character. -/
def ofText (s : List Char) : List Token := scan s.length s

def skipBlanks : List Token → List Token
  | blank :: tokens => skipBlanks tokens
  | tokens => tokens

end Token

end Triage.JsonPath
