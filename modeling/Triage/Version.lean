import Triage.Condition.Error
import Triage.Text.Blank
import Triage.Text.Integer
import Triage.Text.Pieces

/-!
# Dotted versions

A version is read off the front of a text: up to three numbers with points between them. Missing
numbers are zero, and whatever follows the last number that counts is ignored.
-/

namespace Triage

structure Version where
  major : Nat
  minor : Nat
  patch : Nat
  deriving DecidableEq, Repr

namespace Version

/-- The order of the numbers, the first that differs decides. -/
protected def compare (v w : Version) : Ordering :=
  (Ord.compare v.major w.major).then
    ((Ord.compare v.minor w.minor).then (Ord.compare v.patch w.patch))

instance : Ord Version := ⟨Version.compare⟩

def text (v : Version) : String := s!"{v.major}.{v.minor}.{v.patch}"

/-- The numbers at the fronts of the pieces; a piece that goes on after its number is the last
one, and none after a piece without a number counts. None at all when a number is too large. -/
def numbers? : List (List Char) → Option (List Nat)
  | [] => some []
  | piece :: pieces =>
    let digits := piece.takeWhile Char.isDigit
    if digits.isEmpty then some []
    else
      let n := Text.digitsValue digits
      if Text.powerOfTwo 64 ≤ n then none
      else if digits.length < piece.length then some [n]
      else (numbers? pieces).map (n :: ·)

def ofNumbers? : List Nat → Option Version
  | [] => none
  | numbers => some ⟨numbers.getD 0 0, numbers.getD 1 0, numbers.getD 2 0⟩

/-- Reads a version; blanks around it and a `v` before it are skipped. -/
def parse (text : String) : Except ConditionError Version :=
  let trimmed := Text.trim text.toList
  let pieces := Text.splitAt '.' ((Text.dropFront? ['v'] trimmed).getD trimmed)
  match numbers? (pieces.take 3) with
  | none => .error (.versionOutOfRange text)
  | some numbers =>
    match ofNumbers? numbers with
    | some version => .ok version
    | none => .error (.notVersion text)

end Version

end Triage
