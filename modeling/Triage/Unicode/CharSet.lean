/-!
# Sets of characters

Characters are counted by rank, the number of characters before them, so that the codes that are no
characters leave no hole. A set is written as the ranks where it begins and ends, in order: a
character belongs to it if an odd number of these bounds are at most its rank. Every set has one
such list.
-/

namespace Triage.Unicode

/-- The number of characters. -/
def charCount : Nat := 0x10f800

/-- The number of characters before a code. -/
def rankOf (code : Nat) : Nat := if code < 0xd800 then code else max 0xd800 (code - 0x800)

/-- The code of the character with a rank. -/
def codeOf (rank : Nat) : Nat := if rank < 0xd800 then rank else rank + 0x800

/-- How many of the sorted `bounds`, counted from `low`, are at most `n`, when they are known to be
at most `high`; each step halves the distance. -/
def countBelowFrom (bounds : Array Nat) (n : Nat) : Nat → Nat → Nat → Nat
  | 0, low, _ => low
  | steps + 1, low, high =>
    if low < high then
      let middle := (low + high) / 2
      if bounds.getD middle 0 ≤ n then countBelowFrom bounds n steps (middle + 1) high
      else countBelowFrom bounds n steps low middle
    else low

/-- How many of the sorted `bounds` are at most `n`. -/
def countBelow (bounds : Array Nat) (n : Nat) : Nat :=
  countBelowFrom bounds n (bounds.size + 1) 0 bounds.size

structure CharSet where
  bounds : Array Nat
  deriving DecidableEq, Inhabited

namespace CharSet

def hasCode (s : CharSet) (code : Nat) : Bool := countBelow s.bounds (rankOf code) % 2 == 1

def contains (s : CharSet) (c : Char) : Bool := s.hasCode c.toNat

def empty : CharSet := ⟨#[]⟩

def all : CharSet := ⟨#[0, charCount]⟩

def isEmpty (s : CharSet) : Bool := s.bounds.isEmpty

/-- Goes over the bounds of two sets in order. The flags say whether the place reached lies within
the first and the second set; where the answer of `keep` changes there is a bound. -/
def sweep (keep : Bool → Bool → Bool) (inFirst inSecond : Bool) (bounds : Array Nat) :
    List Nat → List Nat → Array Nat
  | [], [] => bounds
  | x :: xs, [] =>
    sweep keep (!inFirst) inSecond (add (keep inFirst inSecond != keep (!inFirst) inSecond) x) xs []
  | [], y :: ys =>
    sweep keep inFirst (!inSecond) (add (keep inFirst inSecond != keep inFirst (!inSecond)) y) [] ys
  | x :: xs, y :: ys =>
    if x < y then
      sweep keep (!inFirst) inSecond (add (keep inFirst inSecond != keep (!inFirst) inSecond) x)
        xs (y :: ys)
    else if y < x then
      sweep keep inFirst (!inSecond) (add (keep inFirst inSecond != keep inFirst (!inSecond)) y)
        (x :: xs) ys
    else
      sweep keep (!inFirst) (!inSecond)
        (add (keep inFirst inSecond != keep (!inFirst) (!inSecond)) x) xs ys
termination_by xs ys => xs.length + ys.length
where
  add (changes : Bool) (bound : Nat) : Array Nat := if changes then bounds.push bound else bounds

/-- The characters for which `keep` says yes, given whether they belong to either set. It must say
no for those in neither. -/
def combine (keep : Bool → Bool → Bool) (s t : CharSet) : CharSet :=
  ⟨sweep keep false false #[] s.bounds.toList t.bounds.toList⟩

def union : CharSet → CharSet → CharSet := combine (· || ·)

def inter : CharSet → CharSet → CharSet := combine (· && ·)

def diff : CharSet → CharSet → CharSet := combine fun a b => a && !b

def symmDiff : CharSet → CharSet → CharSet := combine (· != ·)

def compl (s : CharSet) : CharSet := all.diff s

instance : Union CharSet := ⟨union⟩

instance : Inter CharSet := ⟨inter⟩

instance : SDiff CharSet := ⟨diff⟩

def unions (sets : List CharSet) : CharSet := sets.foldl union empty

/-- Joins stretches of ranks that meet or overlap, in the order of their beginnings; each ends
before its second number. -/
def joined (first last : Nat) : List (Nat × Nat) → List Nat
  | [] => [first, last]
  | (a, b) :: rest =>
    if a ≤ last then joined first (max last b) rest else first :: last :: joined a b rest

/-- The characters whose codes lie between the numbers of a pair, these included. -/
def ofCodes (pairs : List (Nat × Nat)) : CharSet :=
  let stretches := pairs.map fun (a, b) => (rankOf a, rankOf (b + 1))
  match (stretches.filter fun (a, b) => a < b).mergeSort fun x y => x.1 ≤ y.1 with
  | [] => empty
  | (a, b) :: rest => ⟨(joined a b rest).toArray⟩

def ofCodeList (codes : List Nat) : CharSet := ofCodes (codes.map fun code => (code, code))

def ofChar (c : Char) : CharSet := ofCodes [(c.toNat, c.toNat)]

def range (first last : Char) : CharSet := ofCodes [(first.toNat, last.toNat)]

/-- The stretches of a set, as the codes of their first and last characters. -/
def pairs (s : CharSet) : List (Nat × Nat) := go s.bounds.toList
where
  go : List Nat → List (Nat × Nat)
    | a :: b :: rest => (codeOf a, codeOf (b - 1)) :: go rest
    | _ => []

/-- The only character of a set. -/
def only? (s : CharSet) : Option Char :=
  match s.pairs with
  | [(a, b)] => if a = b then some (Char.ofNat a) else none
  | _ => none

/-- Whether all characters have codes below 128. -/
def isAscii (s : CharSet) : Bool := (s.bounds.back?).all (· ≤ 128)

end CharSet

end Triage.Unicode
