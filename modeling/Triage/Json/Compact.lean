import Triage.Binary64.Shortest
import Triage.Json.Basic

/-!
# Compact JSON text

No blanks, members in their order, and only quotes, backslashes and control characters escaped.
A double is written with the fewest digits that read back, and always with a point or an exponent.
-/

namespace Triage.Json

/-- Where the positional form of a double ends: a leading digit between these powers of ten is
written without an exponent. -/
def leastPositional : Int := -5

@[inherit_doc leastPositional]
def greatestPositional : Int := 15

def natText (n : Nat) : List Char := Nat.toDigits 10 n

def intText (i : Int) : List Char := if i < 0 then '-' :: natText i.natAbs else natText i.natAbs

/-- An exponent always has a sign. -/
def exponentText (e : Int) : List Char :=
  'e' :: (if e < 0 then '-' else '+') :: natText e.natAbs

/-- The digits `0.ddd`, `d.ddd` or `ddd.0` of a number whose first digit stands for
`10 ^ leading`. -/
def positionalText (digits : List Char) (leading : Int) : List Char :=
  if leading < 0 then
    '0' :: '.' :: (List.replicate ((-leading).toNat - 1) '0' ++ digits)
  else
    let whole := leading.toNat + 1
    let fraction := digits.drop whole
    digits.take whole ++ List.replicate (whole - digits.length) '0' ++
      '.' :: (if fraction.isEmpty then ['0'] else fraction)

def scientificText (digits : List Char) (leading : Int) : List Char :=
  match digits with
  | [] => []
  | [d] => d :: exponentText leading
  | d :: rest => d :: '.' :: (rest ++ exponentText leading)

/-- The digits without the zeros at their end; the first digit always stays. -/
def significant (digits : List Char) : List Char :=
  match (digits.reverse.dropWhile (· == '0')).reverse with
  | [] => ['0']
  | kept => kept

def floatText (x : Binary64) : List Char :=
  let decimal := x.shortest
  let written := natText decimal.digits
  let leading := decimal.power + written.length - 1
  let digits := significant written
  let magnitude :=
    if leastPositional ≤ leading ∧ leading ≤ greatestPositional then positionalText digits leading
    else scientificText digits leading
  if x.negative then '-' :: magnitude else magnitude

def Number.text : Number → List Char
  | .int i => intText i
  | .float x => floatText x

def hexDigit (n : Nat) : Char := Nat.digitChar (n % 16)

def escapeChar (c : Char) : List Char :=
  match c with
  | '"' => ['\\', '"']
  | '\\' => ['\\', '\\']
  | '\n' => ['\\', 'n']
  | '\r' => ['\\', 'r']
  | '\t' => ['\\', 't']
  | '\x08' => ['\\', 'b']
  | '\x0c' => ['\\', 'f']
  | c =>
    if c.toNat < 0x20 then ['\\', 'u', '0', '0', hexDigit (c.toNat / 16), hexDigit c.toNat]
    else [c]

def stringText (s : String) : List Char := '"' :: (s.toList.flatMap escapeChar ++ ['"'])

mutual
/-- The text of a value. -/
def text : Json → List Char
  | null => "null".toList
  | bool true => "true".toList
  | bool false => "false".toList
  | number n => n.text
  | string s => stringText s
  | array [] => ['[', ']']
  | array (x :: xs) => '[' :: (text x ++ itemsText xs)
  | object [] => ['{', '}']
  | object ((k, v) :: members) => '{' :: (stringText k ++ ':' :: (text v ++ membersText members))

/-- The rest of an array after its first item. -/
def itemsText : List Json → List Char
  | [] => [']']
  | x :: xs => ',' :: (text x ++ itemsText xs)

/-- The rest of an object after its first member. -/
def membersText : List (String × Json) → List Char
  | [] => ['}']
  | (k, v) :: members => ',' :: (stringText k ++ ':' :: (text v ++ membersText members))
end

def compact (value : Json) : String := .ofList value.text

end Triage.Json
