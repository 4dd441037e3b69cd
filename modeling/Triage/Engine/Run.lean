import Triage.Analysis.Basic
import Triage.Engine.Log

/-!
# Runs

A manifest is run one analyzer after another. Each adds to the report and to the log; none can stop
the run. Repeats may be left out: analyzers that are written like one that was run. Evidence may
depend on the log so far, because the log may be written into the bundle.
-/

namespace Triage

/-- An analyzer that gave no output. -/
structure Failure where
  title : String
  error : AnalysisError
  deriving DecidableEq, Repr

structure Report where
  results : List Result := []
  failures : List Failure := []
  warnings : List Warning := []
  deriving DecidableEq, Repr

namespace Report

/-- One report after another. -/
def append (r s : Report) : Report :=
  ⟨r.results ++ s.results, r.failures ++ s.failures, r.warnings ++ s.warnings⟩

/-- Whether some result counts as a failure of the bundle. -/
def hasFailures (r : Report) : Bool := r.results.any Result.isFailure

end Report

/-- What a run comes to. -/
structure Run where
  report : Report := {}
  log : List LogEntry := []
  deriving DecidableEq, Repr

namespace Run

/-- One run after another. -/
def append (r s : Run) : Run := ⟨r.report.append s.report, r.log ++ s.log⟩

def ofFailure (title : String) (error : AnalysisError) : Run :=
  { report := { failures := [⟨title, error⟩] }, log := [⟨.failed, title, error.message⟩] }

def ofExclusion (title : String) : Run :=
  { log := [⟨.excluded, title, "analyzer excluded"⟩] }

def ofOutput (title : String) (output : Output) : Run where
  report := { results := output.results, warnings := output.warnings }
  log :=
    (output.warnings.map fun warning => ⟨.warning, warning.subject, warning.message⟩) ++
      if output.results.isEmpty then [⟨.noResults, title, "analyzer produced no results"⟩] else []

/-- Runs one analyzer; an exclusion is looked at before any evidence. -/
def ofAnalyzer (store : EvidenceStore) (analyzer : Analyzer) : Run :=
  match analyzer.isExcluded with
  | .error e => ofFailure analyzer.title (.invalid e)
  | .ok true => ofExclusion analyzer.title
  | .ok false =>
    match analyzer.analyze store with
    | .error e => ofFailure analyzer.title e
    | .ok output => ofOutput analyzer.title output

/-- Whether an analyzer is written like one that was seen; nothing is when repeats are kept. -/
def isRepeat (seen : Option (List String)) (analyzer : Analyzer) : Bool :=
  seen.any fun texts => texts.contains analyzer.toJson.compact

/-- The texts seen once an analyzer was looked at. -/
def noted (seen : Option (List String)) (analyzer : Analyzer) : Option (List String) :=
  seen.map fun texts => analyzer.toJson.compact :: texts

/-- Runs the analyzers but for repeats, when these texts were already seen and this log was already
recorded. -/
def after (storeAt : List LogEntry → EvidenceStore) (seen : Option (List String))
    (log : List LogEntry) : List Analyzer → Run
  | [] => {}
  | analyzer :: analyzers =>
    if isRepeat seen analyzer then after storeAt seen log analyzers
    else
      let first := ofAnalyzer (storeAt log) analyzer
      first.append (after storeAt (noted seen analyzer) (log ++ first.log) analyzers)

/-- Runs a manifest with evidence that may depend on the log; with `dedup`, repeats are left out. -/
def ofManifestWith (storeAt : List LogEntry → EvidenceStore) (dedup : Bool)
    (analyzers : List Analyzer) : Run :=
  after storeAt (if dedup then some [] else none) [] analyzers

/-- Runs a manifest. -/
def ofManifest (store : EvidenceStore) (dedup : Bool) (analyzers : List Analyzer) : Run :=
  ofManifestWith (fun _ => store) dedup analyzers

end Run

end Triage
