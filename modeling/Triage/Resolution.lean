import Triage.Result
import Triage.Text.Blank

/-!
# Resolution of outcomes

Outcomes are tried in their order and the first one whose clause holds is taken. A clause is put to
a predicate that may fail, and the first failure ends the resolution. A predicate may also change
what it answers from, so it matters which clauses it is asked about, and how often.
-/

namespace Triage

/-- What a blank clause means: it always holds, or the predicate decides. -/
inductive BlankClause where
  | holds
  | asked
  deriving DecidableEq, Repr

/-- How an outcome list ends. -/
inductive Resolution where
  | matched (result : Result)
  | exhausted (title : String)
  deriving DecidableEq, Repr

namespace Resolution

def matched? : Resolution → Option Result
  | matched result => some result
  | exhausted _ => none

/-- The result that was reached, or a neutral one. -/
def toResult : Resolution → Result
  | matched result => result
  | exhausted title => .neutral title

end Resolution

/-- What is wrong with the places of an outcome, if anything is. -/
def Outcome.flaw? (index : Nat) (outcome : Outcome) : Option String :=
  match outcome.chosen? with
  | none => some s!"outcome {index} has no verdict populated; skipped"
  | some (verdict, _) =>
    let count := outcome.filled.length
    if 1 < count then some s!"outcome {index} populates {count} verdicts; using {verdict.label}"
    else none

def Outcome.warnings (title : String) (index : Nat) (outcome : Outcome) : List Warning :=
  ((outcome.flaw? index).map fun message => ⟨title, message⟩).toList

/-- A predicate that is asked whether a clause holds, for a verdict. It answers from a state and
leaves another one. -/
abbrev Predicate (σ ε : Type) := Verdict → String → σ → Except ε Bool × σ

/-- A predicate that has no state. -/
def Predicate.ofCheck {ε : Type} (check : Verdict → String → Except ε Bool) : Predicate Unit ε :=
  fun verdict clause _ => (check verdict clause, ())

/-- How a resolution went: the warnings about the outcomes that were reached, the clauses that were
put to the predicate, the state it was left in, and how it ended. -/
structure Trace (σ ε : Type) where
  warnings : List Warning
  asked : List (Verdict × String)
  state : σ
  ending : Except ε Resolution

/-- Puts the first step of a resolution in front of the others. -/
def Trace.cons {σ ε : Type} (warnings : List Warning) (asked : List (Verdict × String))
    (later : Trace σ ε) : Trace σ ε :=
  ⟨warnings ++ later.warnings, asked ++ later.asked, later.state, later.ending⟩

namespace Resolution

variable {σ ε : Type}

/-- Tries the outcomes, which are counted from `index`. -/
def tryFrom (title : String) (blank : BlankClause) (check : Predicate σ ε) (index : Nat)
    (state : σ) : List Outcome → Trace σ ε
  | [] => ⟨[], [], state, .ok (.exhausted title)⟩
  | outcome :: outcomes =>
    let warnings := outcome.warnings title index
    match outcome.chosen? with
    | none => Trace.cons warnings [] (tryFrom title blank check (index + 1) state outcomes)
    | some (verdict, candidate) =>
      let clause := trimmed candidate.when
      let found := Resolution.matched (.ofCandidate title verdict candidate)
      if clause.isEmpty && blank == .holds then ⟨warnings, [], state, .ok found⟩
      else
        let asked := [(verdict, clause)]
        match check verdict clause state with
        | (.error e, state) => ⟨warnings, asked, state, .error e⟩
        | (.ok true, state) => ⟨warnings, asked, state, .ok found⟩
        | (.ok false, state) =>
          Trace.cons warnings asked (tryFrom title blank check (index + 1) state outcomes)

/-- Tries the outcomes under a title, with a predicate in some state. -/
def traceFrom (title : String) (blank : BlankClause) (outcomes : List Outcome)
    (check : Predicate σ ε) (state : σ) : Trace σ ε :=
  tryFrom title blank check 0 state outcomes

/-- Tries the outcomes under a title. -/
def trace (title : String) (blank : BlankClause) (outcomes : List Outcome)
    (check : Verdict → String → Except ε Bool) : Trace Unit ε :=
  traceFrom title blank outcomes (.ofCheck check) ()

/-- Resolves an outcome list under a title, or fails with the predicate. -/
def resolve (title : String) (outcomes : List Outcome) (check : String → Except ε Bool) :
    Except ε (List Warning × Resolution) :=
  let t := trace title .holds outcomes fun _ clause => check clause
  t.ending.map fun resolution => (t.warnings, resolution)

end Resolution

/-- Adds what a resolution matched. -/
def Output.push (o : Output) (resolution : Resolution) : Output :=
  match resolution.matched? with
  | some result => o.addResult result
  | none => o

end Triage
