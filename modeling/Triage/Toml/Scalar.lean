import Triage.Binary64.Reading
import Triage.Toml.Basic
import Triage.Toml.Text

/-!
# Numbers and the like in TOML

Integers in four bases, floats, truth values, and moments: dates, times of day, and both together.
Single underscores may stand between digits.
-/

namespace Triage.Toml

/-- The characters that make up a value without quotes. -/
def isScalarChar (c : Char) : Bool := isKeyChar c || c == '+' || c == '.' || c == ':'

/-- The value of digits in a base, with underscores between them. -/
def digits? (base : Nat) (s : List Char) : Option Nat :=
  go false 0 s
where
  /-- Goes on from `n`; the flag says whether a digit came just before. -/
  go (afterDigit : Bool) (n : Nat) : List Char → Option Nat
    | [] => if afterDigit then some n else none
    | '_' :: s => if afterDigit then go false n s else none
    | c :: s => do
      let d ← hexValue? c
      if d < base then go true (base * n + d) s else none

/-- Digits in base ten without a needless zero in front. -/
def decimal? (s : List Char) : Option Nat :=
  match s with
  | '0' :: _ :: _ => none
  | s => digits? 10 s

def integer? : List Char → Option Int
  | '0' :: 'x' :: s => (digits? 16 s).map fun n => (n : Int)
  | '0' :: 'o' :: s => (digits? 8 s).map fun n => (n : Int)
  | '0' :: 'b' :: s => (digits? 2 s).map fun n => (n : Int)
  | '-' :: s => (decimal? s).map fun n => -(n : Int)
  | '+' :: s => (decimal? s).map fun n => (n : Int)
  | s => (decimal? s).map fun n => (n : Int)

def withoutSign : List Char → List Char
  | '+' :: s | '-' :: s => s
  | s => s

/-- Whether a text is a float: a decimal with a fraction or an exponent that is not too large to be
finite, or one of two words. -/
def isFloat (s : List Char) : Bool :=
  let isFinite := (Binary64.read? (s.filter (· != '_'))).isSome
  let s := withoutSign s
  let isE (c : Char) : Bool := c == 'e' || c == 'E'
  let mantissa := s.takeWhile fun c => !isE c
  let exponent := s.drop mantissa.length
  let whole := mantissa.takeWhile (· != '.')
  let fraction := mantissa.drop whole.length
  s == "inf".toList || s == "nan".toList ||
    (isFinite && !(fraction.isEmpty && exponent.isEmpty) && (decimal? whole).isSome &&
      (fraction.isEmpty || (digits? 10 (fraction.drop 1)).isSome) &&
      (exponent.isEmpty || (digits? 10 (withoutSign (exponent.drop 1))).isSome))

/-- Reads two digits whose value lies within bounds. -/
def pair? (first last : Nat) : List Char → Option (Nat × List Char)
  | a :: b :: s =>
    if a.isDigit && b.isDigit then
      let n := 10 * (a.toNat - '0'.toNat) + (b.toNat - '0'.toNat)
      if first ≤ n && n ≤ last then some (n, s) else none
    else none
  | _ => none

def isLeapYear (year : Nat) : Bool := year % 4 == 0 && (year % 100 != 0 || year % 400 == 0)

def daysIn (year month : Nat) : Nat :=
  if month = 2 then (if isLeapYear year then 29 else 28)
  else if month = 4 ∨ month = 6 ∨ month = 9 ∨ month = 11 then 30
  else 31

/-- Goes over a date. -/
def date? (s : List Char) : Option (List Char) := do
  let (century, s) ← pair? 0 99 s
  let (year, s) ← pair? 0 99 s
  match s with
  | '-' :: s =>
    let (month, s) ← pair? 1 12 s
    match s with
    | '-' :: s => return (← pair? 1 (daysIn (100 * century + year) month) s).2
    | _ => none
  | _ => none

/-- Goes over a time of day; the seconds may be left out. -/
def time? (s : List Char) : Option (List Char) := do
  let (_, s) ← pair? 0 23 s
  match s with
  | ':' :: s =>
    let (_, s) ← pair? 0 59 s
    match s with
    | ':' :: s =>
      let (_, s) ← pair? 0 60 s
      match s with
      | '.' :: s =>
        if s.head?.any Char.isDigit then return s.dropWhile Char.isDigit else none
      | s => return s
    | s => return s
  | _ => none

/-- Whether a text is an offset from universal time. -/
def isOffset : List Char → Bool
  | [] | ['Z'] | ['z'] => true
  | '+' :: s | '-' :: s =>
    match pair? 0 23 s with
    | some (_, ':' :: s) => (pair? 0 59 s).any (·.2.isEmpty)
    | _ => false
  | _ => false

def isMoment (s : List Char) : Bool :=
  match date? s with
  | some [] => true
  | some (mark :: s) =>
    (mark == 'T' || mark == 't' || mark == ' ') && (time? s).any isOffset
  | none => time? s == some []

/-- The value of a text without quotes. -/
def scalar? (s : List Char) : Option Toml :=
  if s == "true".toList then some (.boolean true)
  else if s == "false".toList then some (.boolean false)
  else
    match integer? s with
    | some i =>
      if -Text.powerOfTwo 127 ≤ i ∧ i < Text.powerOfTwo 128 then some (.integer i) else none
    | none => if isFloat s then some .float else if isMoment s then some .moment else none

/-- Reads a value without quotes; a time may follow a date after a blank. -/
def readScalar (s : List Char) : Option (Toml × List Char) :=
  let word := s.takeWhile isScalarChar
  let rest := s.dropWhile isScalarChar
  match date? word, rest with
  | some [], ' ' :: d :: more =>
    if d.isDigit then
      (scalar? (word ++ ' ' :: (d :: more).takeWhile isScalarChar)).map fun value =>
        (value, (d :: more).dropWhile isScalarChar)
    else (scalar? word).map fun value => (value, rest)
  | _, _ => (scalar? word).map fun value => (value, rest)

end Triage.Toml
