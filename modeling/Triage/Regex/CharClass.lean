import Triage.Unicode.Age
import Triage.Unicode.Property
import Triage.Unicode.Script

/-!
# Named classes of characters

The sets that patterns name: words, digits and blanks, with or without the letters beyond ASCII,
the POSIX classes, and the classes of the Unicode character database. Names are looked up without
regard to case, blanks, dashes and underscores.
-/

namespace Triage.Regex

export Unicode (CharSet)

namespace CharClass

def digit : CharSet := .range '0' '9'

def lower : CharSet := .range 'a' 'z'

def upper : CharSet := .range 'A' 'Z'

def alpha : CharSet := lower ∪ upper

def alnum : CharSet := alpha ∪ digit

def asciiWord : CharSet := alnum ∪ .ofChar '_'

def asciiBlank : CharSet := .range '\t' '\r' ∪ .ofChar ' '

/-- Letters, marks, digits and the like. -/
def word : CharSet :=
  .unions [Unicode.alphabetic, Unicode.inCategory ["M", "Nd", "Pc"], Unicode.joinControl]

def unicodeDigit : CharSet := Unicode.inCategory ["Nd"]

/-- The POSIX classes. -/
def posix? : String → Option CharSet
  | "alnum" => some alnum
  | "alpha" => some alpha
  | "ascii" => some (.ofCodes [(0, 127)])
  | "blank" => some (.ofChar ' ' ∪ .ofChar '\t')
  | "cntrl" => some (.ofCodes [(0, 31), (127, 127)])
  | "digit" => some digit
  | "graph" => some (.range '!' '~')
  | "lower" => some lower
  | "print" => some (.range ' ' '~')
  | "punct" => some (.range '!' '~' \ alnum)
  | "space" => some asciiBlank
  | "upper" => some upper
  | "word" => some asciiWord
  | "xdigit" => some (.unions [digit, .range 'a' 'f', .range 'A' 'F'])
  | _ => none

/-- A name without its case and its separators; an `is` before it does not count. -/
def plainName (name : List Char) : String :=
  let letters (s : List Char) : List Char :=
    (s.filter fun c => c.toNat < 128 && !(c == ' ' || c == '_' || c == '-')).map Char.toLower
  match name with
  | i :: s :: rest =>
    if i.toLower == 'i' && s.toLower == 's' then
      match letters rest with
      | ['c'] => "isc"
      | plain => .ofList plain
    else .ofList (letters name)
  | _ => .ofList (letters name)

/-- The class that goes by a name: a property, a general category or a script. -/
def named? (name : List Char) : Option CharSet :=
  let plain := plainName name
  let property? :=
    if plain == "cf" || plain == "sc" || plain == "lc" then none else Unicode.propertyNamed? plain
  property? <|> Unicode.categoryNamed? plain <|> Unicode.scriptNamed? plain

/-- The class of the characters for which a property has a value. -/
def valued? (property value : List Char) : Option CharSet :=
  let value := plainName value
  match plainName property with
  | "gc" | "generalcategory" => Unicode.categoryNamed? value
  | "sc" | "script" => Unicode.scriptNamed? value
  | "scx" | "scriptextensions" => Unicode.scriptExtensionNamed? value
  | "age" => Unicode.ageNamed? value
  | "gcb" | "graphemeclusterbreak" => Unicode.clusterBreakNamed? value
  | "wb" | "wordbreak" => Unicode.wordBreakNamed? value
  | "sb" | "sentencebreak" => Unicode.sentenceBreakNamed? value
  | _ => none

/-- The set with the ASCII variants of its characters in case. -/
def asciiFolded (s : CharSet) : CharSet :=
  let moved (letters : CharSet) (first target : Nat) : CharSet :=
    .ofCodes ((s ∩ letters).pairs.map fun (a, b) => (a - first + target, b - first + target))
  .unions [s, moved lower 97 65, moved upper 65 97]

end CharClass

end Triage.Regex
