import Triage.Json.Basic
import Triage.Text.Integer

/-!
# Reading JSON numbers

A number without point and exponent is an integer when it fits into 64 bits, and a double
otherwise; minus zero is a double. Doubles are made from the first digits that fit into 64 bits and
one multiplication or division by a power of ten, so they may be an ulp away from the nearest one.
-/

namespace Triage.Json.Number

/-- A number as it is written. -/
structure Lexeme where
  negative : Bool
  whole : List Char
  fraction : Option (List Char)
  /-- The sign and the digits of the exponent; the sign is true when it is a minus. -/
  exponent : Option (Bool × List Char)

/-- The significant digits taken so far and the power of ten they are multiplied by. -/
structure Significand where
  digits : Nat
  power : Int

def Significand.fits (s : Significand) (c : Char) : Bool :=
  10 * s.digits + Text.digitValue c < Text.powerOfTwo 64

/-- Takes digits before the point; once one does not fit, it and all later ones are zeros. -/
def Significand.addWhole (s : Significand) : List Char → Significand
  | [] => s
  | c :: rest =>
    if s.fits c then Significand.addWhole ⟨10 * s.digits + Text.digitValue c, s.power⟩ rest
    else ⟨s.digits, s.power + (rest.length + 1)⟩

/-- Takes digits after the point; once one does not fit, it and all later ones are dropped. -/
def Significand.addFraction (s : Significand) : List Char → Significand
  | [] => s
  | c :: rest =>
    if s.fits c then Significand.addFraction ⟨10 * s.digits + Text.digitValue c, s.power - 1⟩ rest
    else s

/-- Multiplies by a power of ten in one rounded step, or divides in steps of at most `10 ^ 308`. -/
def scaleBy? : Nat → Binary64 → Int → Option Binary64
  | 0, x, _ => some x
  | steps + 1, x, power =>
    let tens (n : Nat) : Binary64 := (Binary64.ofDecimal? false 1 n).getD default
    if power.natAbs ≤ 308 then
      if 0 ≤ power then x.mul? (tens power.natAbs) else x.div? (tens power.natAbs)
    else if x.isZero then some x
    else if 0 ≤ power then none
    else (x.div? (tens 308)).bind fun y => scaleBy? steps y (power + 308)

/-- The double of a significand; none when it is too large. -/
def Significand.toFloat? (s : Significand) (negative : Bool) : Option Number := do
  let x ← scaleBy? 4 (← Binary64.ofInt? s.digits) s.power
  return .float (if negative then x.neg else x)

/-- The exponent's value; those beyond 32 bits are cut back to the edge. -/
def exponentValue (minus : Bool) (digits : List Char) : Int :=
  let n : Int := min (Text.digitsValue digits) (Text.powerOfTwo 31 - 1)
  if minus then -n else n

/-- The value of a number; none when it is too large for a double. -/
def Lexeme.value? (l : Lexeme) : Option Number :=
  let whole := Significand.addWhole ⟨0, 0⟩ l.whole
  match l.fraction, l.exponent with
  | none, none =>
    if whole.power ≠ 0 then whole.toFloat? l.negative
    else if !l.negative then some (.int whole.digits)
    else if 0 < whole.digits ∧ whole.digits ≤ Text.powerOfTwo 63 then some (.int (-whole.digits))
    else whole.toFloat? true
  | fraction, exponent =>
    let s := whole.addFraction (fraction.getD [])
    let power := match exponent with
      | some (minus, digits) => exponentValue minus digits
      | none => 0
    Significand.toFloat? ⟨s.digits, s.power + power⟩ l.negative

end Triage.Json.Number
