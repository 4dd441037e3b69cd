import Triage.Binary64.Basic
import Triage.Text.Integer

/-!
# Reading a decimal number

The usual written form: a sign, digits with a point among or around them, and a power of ten. The
result is correctly rounded; a number too large to be finite is refused.
-/

namespace Triage.Binary64

/-- A power of ten after its letter: digits, perhaps after a sign, and nothing else. -/
def readPower? : List Char → Option Int
  | '-' :: s => (Text.natural? s).map fun n => -(n : Int)
  | s => (Text.unsigned? s).map fun n => (n : Int)

/-- An unsigned number: at least one digit before or after the point. -/
def readUnsigned? (negative : Bool) (s : List Char) : Option Binary64 :=
  let whole := s.takeWhile Char.isDigit
  let rest := s.dropWhile Char.isDigit
  let (fraction, rest) :=
    match rest with
    | '.' :: t => (t.takeWhile Char.isDigit, t.dropWhile Char.isDigit)
    | t => ([], t)
  if whole.isEmpty && fraction.isEmpty then none
  else
    let number (power : Int) : Option Binary64 :=
      ofDecimal? negative (Text.digitsValue (whole ++ fraction)) (power - fraction.length)
    match rest with
    | [] => number 0
    | 'e' :: t => (readPower? t).bind number
    | 'E' :: t => (readPower? t).bind number
    | _ => none

/-- A number with an optional sign. -/
def read? : List Char → Option Binary64
  | '-' :: s => readUnsigned? true s
  | '+' :: s => readUnsigned? false s
  | s => readUnsigned? false s

end Triage.Binary64
