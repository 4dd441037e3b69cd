import Triage.Unicode.CharSet

/-!
# Runs of case mappings

Letters with a case mapping come in runs that move by one distance, where every character or every
second one takes part.
-/

namespace Triage.Unicode

/-- The characters from `first` to `last`, in steps of `step`, that are mapped to the ones
`distance` further on. -/
structure CaseRun where
  first : Nat
  last : Nat
  step : Nat
  distance : Int

namespace CaseRun

def contains (run : CaseRun) (n : Nat) : Bool :=
  run.first ≤ n && n ≤ run.last && (n - run.first) % run.step == 0

/-- What a character of the run is mapped to. -/
def map (run : CaseRun) (n : Nat) : Nat := (n + run.distance).toNat

/-- The characters of the run. -/
def sources (run : CaseRun) : List Nat :=
  (List.range ((run.last - run.first) / run.step + 1)).map fun i => run.first + i * run.step

end CaseRun

/-- Maps a character by the first run that has it; the others stay. -/
def mapCase (runs : List CaseRun) (c : Char) : Char :=
  match runs.find? (·.contains c.toNat) with
  | some run => Char.ofNat (run.map c.toNat)
  | none => c

end Triage.Unicode
