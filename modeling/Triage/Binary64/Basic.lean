/-!
# Finite binary64 numbers

A finite double is `± mantissa * 2 ^ exponent` in its one canonical form, so two of them are equal
exactly when their bits are. Everything is exact integer arithmetic followed by one correct
rounding, `nearest?`, which answers `none` where the result would be infinite.
-/

namespace Triage

-- Powers are those of the core library, whatever else is imported.
attribute [local instance (high)] instPowNat

/-- The form of a stored double: 53 bits, all of them used unless the exponent is the least one. -/
def Binary64.Canonical (mantissa : Nat) (exponent : Int) : Prop :=
  mantissa < 2 ^ (53 : Nat) ∧ -1074 ≤ exponent ∧ exponent ≤ 971
  ∧ (exponent = -1074 ∨ 2 ^ (52 : Nat) ≤ mantissa)

instance (m : Nat) (e : Int) : Decidable (Binary64.Canonical m e) :=
  inferInstanceAs (Decidable (_ ∧ _))

structure Binary64 where
  negative : Bool
  mantissa : Nat
  exponent : Int
  canonical : Binary64.Canonical mantissa exponent
  deriving DecidableEq

namespace Binary64

def zero (negative : Bool) : Binary64 := ⟨negative, 0, -1074, by decide⟩

instance : Inhabited Binary64 := ⟨zero false⟩

/-- The largest `l` with `2 ^ l ≤ num / den`, for positive numbers. -/
def binaryLog (num den : Nat) : Int :=
  let l : Int := (num.log2 : Int) - den.log2
  if den * 2 ^ l.toNat ≤ num * 2 ^ (-l).toNat then l else l - 1

/-- The nearest integer to `num / den`; a half goes to the even neighbour. -/
def roundQuotient (num den : Nat) : Nat :=
  let q := num / den
  let r := num % den
  if den < 2 * r ∨ (2 * r = den ∧ q % 2 = 1) then q + 1 else q

/-- The double `± mantissa * 2 ^ exponent`, where rounding may have used a 54th bit. -/
def ofRounded? (negative : Bool) (mantissa : Nat) (exponent : Int) : Option Binary64 :=
  let (m, e) :=
    if mantissa = 2 ^ (53 : Nat) then (2 ^ (52 : Nat), exponent + 1) else (mantissa, exponent)
  if h : Canonical m e then some ⟨negative, m, e, h⟩ else none

/-- The double nearest to `± num / den`, or `none` when that is beyond the largest one. -/
def nearest? (negative : Bool) (num den : Nat) : Option Binary64 :=
  if num = 0 ∨ den = 0 then some (zero negative)
  else
    let e := max (binaryLog num den - 52) (-1074)
    ofRounded? negative (roundQuotient (num * 2 ^ (-e).toNat) (den * 2 ^ e.toNat)) e

/-- The double nearest to `± num / den * 2 ^ e`. -/
def nearestScaled? (negative : Bool) (num den : Nat) (e : Int) : Option Binary64 :=
  nearest? negative (num * 2 ^ e.toNat) (den * 2 ^ (-e).toNat)

def ofInt? (i : Int) : Option Binary64 := nearest? (i < 0) i.natAbs 1

/-- The rounded product. -/
def mul? (x y : Binary64) : Option Binary64 :=
  nearestScaled? (x.negative != y.negative) (x.mantissa * y.mantissa) 1 (x.exponent + y.exponent)

/-- The rounded quotient by a number that is not zero. -/
def div? (x y : Binary64) : Option Binary64 :=
  nearestScaled? (x.negative != y.negative) x.mantissa y.mantissa (x.exponent - y.exponent)

def neg (x : Binary64) : Binary64 := { x with negative := !x.negative }

/-- The exact value, counted in units of `2 ^ -1074`. -/
def units (x : Binary64) : Int :=
  let n : Int := (x.mantissa * 2 ^ (x.exponent + 1074).toNat : Nat)
  if x.negative then -n else n

/-- The order of the exact values; both zeros are the same value. -/
def order (x y : Binary64) : Ordering := compare x.units y.units

def isZero (x : Binary64) : Bool := x.mantissa == 0

/-- The double nearest to `± digits * 10 ^ exponent`. Exponents far outside the range are settled
without computing the power. -/
def ofDecimal? (negative : Bool) (digits : Nat) (exponent : Int) : Option Binary64 :=
  if digits = 0 then some (zero negative)
  else if 400 < exponent then none
  else if exponent < -(400 + (digits.log2 : Int)) then some (zero negative)
  else nearest? negative (digits * 10 ^ exponent.toNat) (10 ^ (-exponent).toNat)

end Binary64

end Triage
