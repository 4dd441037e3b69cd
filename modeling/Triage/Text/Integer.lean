/-!
# Integers in decimal

Runs of ASCII digits and what they denote, and the three kinds of integer operands: plain runs
(`natural?`), unsigned ones that may carry a plus (`unsigned?`) and signed 64-bit ones
(`signed64?`). Reading is exact; what does not fit is refused, never wrapped.
-/

namespace Triage.Text

-- Powers are those of the core library, whatever else is imported.
attribute [local instance (high)] instPowNat

/-- A power of two: what a machine word holds is bounded by them. -/
def powerOfTwo (n : Nat) : Nat := 2 ^ n

def digitValue (c : Char) : Nat := c.toNat - '0'.toNat

/-- The number that a run of digits denotes, continuing from `n`. -/
def digitsValueFrom (n : Nat) (s : List Char) : Nat := s.foldl (fun n c => 10 * n + digitValue c) n

def digitsValue (s : List Char) : Nat := digitsValueFrom 0 s

/-- A run of at least one digit. -/
def natural? (s : List Char) : Option Nat :=
  if !s.isEmpty && s.all Char.isDigit then some (digitsValue s) else none

/-- A run of digits, perhaps after a plus. -/
def unsigned? : List Char → Option Nat
  | '+' :: s => natural? s
  | s => natural? s

/-- A run of digits, perhaps after a sign, whose value lies between `-2 ^ 63` and `2 ^ 63 - 1`. -/
def signed64? : List Char → Option Int
  | '-' :: s => (natural? s).bind fun n => if n ≤ powerOfTwo 63 then some (-(n : Int)) else none
  | s => (unsigned? s).bind fun n => if n < powerOfTwo 63 then some (n : Int) else none

end Triage.Text
