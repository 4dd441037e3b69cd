import Triage.Error
import Triage.Text.Blank

/-!
# Globs

`?` stands for one character of a file name, `*` for any number of them, `**` for any characters but
line ends, and `**/` for any directories, or none. A glob must match a whole path.

`accepts` works through the tokens of a glob and keeps, for every position of the path, whether the
tokens so far can end there; so it takes time proportional to both lengths.

A glob is refused, like any regular expression, when a machine for it that reads octets, forwards or
backwards, takes more than ten mebibytes. What a token adds to such a machine is known beforehand.
These sizes do not follow from what globs mean. They are what one regular expression engine, `regex`
1.11, puts down for the expression of a token (`[^/]`, `[^/]*`, `.*` or `(?:.*/)?`): thirty-two
octets for each state and a few for its links, as they are counted for any expression in
`Triage.Regex.Budget`. Another engine would change `Token.octets`, `octetLimit` and `machineOctets`,
and nothing else here.
-/

namespace Triage

namespace Glob

inductive Token where
  | literal (c : Char)
  /-- One character of a name. -/
  | one
  /-- Characters of a name. -/
  | name
  /-- Any characters of a line. -/
  | any
  /-- Directories, each with its slash. -/
  | dirs
  deriving DecidableEq, Repr

def tokens : List Char → List Token
  | '*' :: '*' :: '/' :: s => .dirs :: tokens s
  | '*' :: '*' :: s => .any :: tokens s
  | '*' :: s => .name :: tokens s
  | '?' :: s => .one :: tokens s
  | c :: s => .literal c :: tokens s
  | [] => []

/-- The octets that a token adds to the machine for a glob, as the engine counts them. -/
def Token.octets (backwards : Bool) : Token → Nat
  | literal c => 32 * c.utf8Size
  | one => if backwards then 1000 else 424
  | name | any => if backwards then 1040 else 464
  | dirs => if backwards then 1144 else 568

/-- The octets that a machine may take. -/
def octetLimit : Nat := 10 * 1024 * 1024

/-- The octets of the machine for a glob; the ends of the path take some too. -/
def machineOctets (backwards : Bool) (tokens : List Token) : Nat :=
  tokens.foldl (fun octets token => octets + token.octets backwards)
    (if backwards then 128 else 192)

def isAffordable (pattern : String) : Bool :=
  let tokens := tokens pattern.toList
  machineOctets false tokens ≤ octetLimit && machineOctets true tokens ≤ octetLimit

end Glob

/-- A pattern that is neither blank nor too large. -/
structure Glob where
  pattern : String
  notBlank : isBlankText pattern = false
  affordable : Glob.isAffordable pattern = true

namespace Glob

def inName (c : Char) : Bool := c != '/'

def inLine (c : Char) : Bool := c != '\n'

/-- Moves the positions over one character each, where it satisfies `p`. -/
def shift (p : Char → Bool) (path : List Char) (ends : List Bool) : List Bool :=
  false :: List.zipWith (fun c here => p c && here) path ends

/-- Moves the positions over any number of characters that satisfy `p`; `carry` is whether one
comes from before. -/
def spread (p : Char → Bool) (carry : Bool) : List Char → List Bool → List Bool
  | _, [] => []
  | [], here :: _ => [carry || here]
  | c :: path, here :: ends => (carry || here) :: spread p ((carry || here) && p c) path ends

/-- The positions where a token can end that starts at the given ones. -/
def Token.ends (path : List Char) (starts : List Bool) : Token → List Bool
  | literal c => shift (· == c) path starts
  | one => shift inName path starts
  | name => spread inName false path starts
  | any => spread inLine false path starts
  | dirs =>
    List.zipWith (· || ·) starts (shift (· == '/') path (spread inLine false path starts))

/-- Only the position before the first character. -/
def atStart (path : List Char) : List Bool := true :: path.map fun _ => false

def tokensMatch (tokens : List Token) (path : List Char) : Bool :=
  (tokens.foldl (fun starts token => token.ends path starts) (atStart path)).getLastD false

def ofPattern (pattern : String) : Except StoreError Glob :=
  if hblank : isBlankText pattern = false then
    if hsize : isAffordable pattern = true then .ok ⟨pattern, hblank, hsize⟩
    else .error (.invalid (.oversizedGlob pattern octetLimit))
  else .error (.invalid .blankGlob)

def accepts (glob : Glob) (path : String) : Bool :=
  tokensMatch (tokens glob.pattern.toList) path.toList

def isWildcard (c : Char) : Bool := c == '*' || c == '?'

/-- What stands before the last slash, if there is one. -/
def beforeLastSlash (s : List Char) : List Char :=
  ((s.reverse.dropWhile (· != '/')).drop 1).reverse

/-- The directory that all matches lie in, as far as the pattern spells it out. -/
def literalDir (glob : Glob) : String :=
  .ofList (beforeLastSlash (glob.pattern.toList.takeWhile fun c => !isWildcard c))

/-- What to look for and what to leave out. -/
structure Filter where
  wanted : Glob
  unwanted : List Glob

def Filter.ofPatterns (pattern : String) (exclude : List String) : Except StoreError Filter := do
  return ⟨← ofPattern pattern, ← exclude.mapM ofPattern⟩

def Filter.accepts (filter : Filter) (path : String) : Bool :=
  filter.wanted.accepts path && !filter.unwanted.any (·.accepts path)

end Glob

end Triage
