import Triage.Binary64.Basic

/-!
# The shortest decimal that reads back

Every double is the nearest one to all numbers in an interval around it. `shortest` takes the
coarsest decimal grid that has a point in that interval, and on it the point nearest to the double.
-/

namespace Triage.Binary64

-- Powers are those of the core library, whatever else is imported.
attribute [local instance (high)] instPowNat

/-- A decimal number `digits * 10 ^ power`. -/
structure Decimal where
  digits : Nat
  power : Int
  deriving DecidableEq

/-- The numbers that round to a double, as a closed or open interval around it. All three are in
quarter units of the double's last place, that is, multiples of `2 ^ (exponent - 2)`. -/
structure Neighbourhood where
  low : Nat
  value : Nat
  high : Nat
  closed : Bool

def neighbourhood (x : Binary64) : Neighbourhood :=
  let m := x.mantissa
  { low := if m = 2 ^ (52 : Nat) ∧ x.exponent ≠ -1074 then 4 * m - 1 else 4 * m - 2
    value := 4 * m
    high := 4 * m + 2
    closed := m % 2 == 0 }

/-- The largest `p` with `10 ^ p ≤ num / den`, looked for upwards from `p` in `fuel` steps. -/
def decimalLogFrom (num den : Nat) : Nat → Int → Int
  | 0, p => p
  | fuel + 1, p =>
    if den * 10 ^ (p + 1).toNat ≤ num * 10 ^ (-(p + 1)).toNat then
      decimalLogFrom num den fuel (p + 1)
    else p

/-- The largest `p` with `10 ^ p ≤ num / den`: a lower bound comes from the binary logarithm. -/
def decimalLog (num den : Nat) : Int :=
  decimalLogFrom num den 4 (binaryLog num den * 30103 / 100000 - 2)

/-- The point of the grid `10 ^ power` that lies in the neighbourhood and nearest to the double;
of two equally near ones the even one. `num / den` is the length of the neighbourhood's unit. -/
def onGrid? (n : Neighbourhood) (num den : Nat) (power : Int) : Option Nat :=
  let scale := den * 10 ^ power.toNat
  let unit := num * 10 ^ (-power).toNat
  let within (d : Nat) : Bool :=
    if n.closed then n.low * unit ≤ d * scale && d * scale ≤ n.high * unit
    else n.low * unit < d * scale && d * scale < n.high * unit
  let below := n.value * unit / scale
  let fromBelow := n.value * unit - below * scale
  let fromAbove := (below + 1) * scale - n.value * unit
  match within below, within (below + 1) with
  | true, true =>
    if fromBelow < fromAbove ∨ (fromBelow = fromAbove ∧ below % 2 = 0) then some below
    else some (below + 1)
  | true, false => some below
  | false, true => some (below + 1)
  | false, false => none

/-- The first grid that has a point, `count` further ones being allowed. -/
def shortestFrom (n : Neighbourhood) (num den : Nat) : Nat → Int → Decimal
  | 0, power => ⟨n.value * num / den, power⟩
  | count + 1, power =>
    match onGrid? n num den power with
    | some digits => ⟨digits, power⟩
    | none => shortestFrom n num den count (power - 1)

/-- The digits of the shortest decimal that reads back as the magnitude of `x`. -/
def shortest (x : Binary64) : Decimal :=
  if x.mantissa = 0 then ⟨0, 0⟩
  else
    let e := x.exponent - 2
    let num := 2 ^ e.toNat
    let den := 2 ^ (-e).toNat
    let n := x.neighbourhood
    shortestFrom n num den 18 (decimalLog (n.value * num) den)

end Triage.Binary64
