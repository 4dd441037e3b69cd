import Triage.Condition.Error
import Triage.Text.Blank
import Triage.Text.Integer
import Triage.Text.Pieces

/-!
# Quantities of bytes

A decimal number with a unit: `Ki` to `Ei` are powers of 1024, `k` or `K` to `E` are powers of 1000.
Reading is exact, and only whole numbers of bytes below `2 ^ 64` are quantities.
-/

namespace Triage.Quantity

-- Powers are those of the core library, whatever else is imported.
attribute [local instance (high)] instPowNat

/-- The longest fraction that is read. -/
def maxFractionDigits : Nat := 18

/-- The greatest intermediate value. -/
def scaledLimit : Nat := Text.powerOfTwo 128

/-- A power of 1024. -/
def kibi (n : Nat) : Nat := 1024 ^ n

/-- A power of 1000. -/
def kilo (n : Nat) : Nat := 1000 ^ n

def unit? : String → Option Nat
  | "" => some 1
  | "Ki" => some (kibi 1)
  | "Mi" => some (kibi 2)
  | "Gi" => some (kibi 3)
  | "Ti" => some (kibi 4)
  | "Pi" => some (kibi 5)
  | "Ei" => some (kibi 6)
  | "k" | "K" => some (kilo 1)
  | "M" => some (kilo 2)
  | "G" => some (kilo 3)
  | "T" => some (kilo 4)
  | "P" => some (kilo 5)
  | "E" => some (kilo 6)
  | _ => none

def isNumberChar (c : Char) : Bool := c.isDigit || c == '.'

/-- The bytes that the digits before and after the point stand for. -/
def scale (unit : Nat) (whole fraction : List Char) : Except QuantityError Nat := do
  if whole.isEmpty && fraction.isEmpty then throw .missingNumber
  if fraction.contains '.' || maxFractionDigits < fraction.length then throw .malformedFraction
  let wholes := Text.digitsValue whole
  if scaledLimit ≤ wholes then throw .numberOutOfRange
  if scaledLimit ≤ wholes * unit then throw .overflow
  let parts := Text.digitsValue fraction * unit
  if scaledLimit ≤ parts then throw .overflow
  let denominator := 10 ^ fraction.length
  if parts % denominator ≠ 0 then throw .notWhole
  let bytes := wholes * unit + parts / denominator
  if scaledLimit ≤ bytes then throw .overflow
  if Text.powerOfTwo 64 ≤ bytes then throw .beyond64Bits
  return bytes

/-- Reads a quantity that has no blanks around it. -/
def read (text : List Char) : Except QuantityError Nat :=
  let suffix := String.ofList (text.dropWhile isNumberChar)
  let number := text.takeWhile isNumberChar
  match unit? suffix with
  | none => .error (.unknownSuffix suffix)
  | some unit =>
    let (whole, fraction) := (Text.cutAt? ['.'] number).getD (number, [])
    scale unit whole fraction

def parse (text : String) : Except ConditionError Nat :=
  let text := trimmed text
  (read text.toList).mapError (.quantity text)

end Triage.Quantity
