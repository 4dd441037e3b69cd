import Triage.Text.Blank
import Triage.Text.Integer
import Triage.Unicode.CharSet

/-!
# Tables of runs

A property of characters is written as the lengths of the runs of consecutive characters that lack
it or have it, in the order of the characters. A classification is written as the name of a class
and the length of its run, again and again.
-/

namespace Triage.Unicode

/-- The ends of runs of the given lengths. -/
def endsOf (lengths : List Nat) : Array Nat :=
  (lengths.foldl (fun (ends, last) length => (ends.push (last + length), last + length))
    (#[], 0)).1

/-- The characters of every second run, the first one not among them. -/
def CharSet.ofRuns (lengths : String) : CharSet :=
  ⟨endsOf ((wordsOf lengths).map fun word => Text.digitsValue word.toList)⟩

/-- The runs of a classification: the class of each, and its length. -/
structure Classes where
  runs : List (String × Nat)

/-- A class and a length, such as `Lu26`. -/
def readRun (word : String) : String × Nat :=
  let name := word.toList.takeWhile fun c => !c.isDigit
  (.ofList name, Text.digitsValue (word.toList.drop name.length))

namespace Classes

def ofText (written : String) : Classes := ⟨(wordsOf written).map readRun⟩

/-- The bounds where `p` begins or ceases to hold. The flag says whether it holds before `rank`. -/
def boundsOf (p : String → Bool) (holds : Bool) (rank : Nat) :
    List (String × Nat) → Array Nat → Array Nat
  | [], bounds => if holds then bounds.push rank else bounds
  | (name, length) :: runs, bounds =>
    boundsOf p (p name) (rank + length) runs (if p name == holds then bounds else bounds.push rank)

/-- The characters whose class has a property. -/
def select (classes : Classes) (p : String → Bool) : CharSet :=
  ⟨boundsOf p false 0 classes.runs #[]⟩

end Classes

end Triage.Unicode
