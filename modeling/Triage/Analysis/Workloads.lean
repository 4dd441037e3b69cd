import Triage.Analyzer.Basic
import Triage.Clause.Cluster
import Triage.Cluster.Listing
import Triage.Evidence.Layout
import Triage.Evidence.Store
import Triage.Resolution

/-!
# Checks of workloads and jobs

A check that names an object resolves its outcomes for that object. A check without a name scans
whole files and reports every object that is not as it should be.
-/

namespace Triage

open Cluster

namespace WorkloadCheck

/-- The globs of the files to scan: those of the namespaces that are mentioned, each once, or those
of all namespaces. -/
def scanPatterns (check : WorkloadCheck) (directory : String) : List String :=
  let mentioned :=
    (if check.nspace.isEmpty then [] else [check.nspace]) ++ check.namespaces
  let paths := mentioned.map (Layout.clusterResourcePath directory)
  let once := paths.foldl (fun seen path => if seen.contains path then seen else seen ++ [path]) []
  if once.isEmpty then [Layout.clusterResourceGlob directory] else once

/-- The path of the file with the named object. -/
def namedPath (check : WorkloadCheck) (directory : String) : String :=
  Layout.clusterResourcePath directory
    (if check.nspace.isEmpty then Layout.defaultNamespace else check.nspace)

/-- The objects of a file. -/
def objectsOf {α : Type} (decode : Json.Decoder α) (what : String) (file : FoundFile) :
    Except AnalysisError (List α) :=
  liftM (decodeList decode what file.2)

/-- What is found about the objects in the files of one glob. -/
def scanFiles {α : Type} (store : EvidenceStore) (decode : Json.Decoder α) (what : String)
    (finding : α → Option Result) (pattern : String) : Except AnalysisError (List Result) := do
  let files ← store.find pattern []
  let objects ← files.mapM (objectsOf decode what)
  return objects.flatten.filterMap finding

/-- What is found about all objects in the files to scan. -/
def scan {α : Type} (check : WorkloadCheck) (store : EvidenceStore) (directory what : String)
    (decode : Json.Decoder α) (finding : α → Option Result) : Except AnalysisError Output := do
  let results ← (check.scanPatterns directory).mapM (scanFiles store decode what finding)
  return { results := results.flatten }

/-- The outputs about the files that may hold the named object. -/
def perFile {α : Type} (check : WorkloadCheck) (store : EvidenceStore) (directory what : String)
    (decode : Json.Decoder α) (report : List α → Except AnalysisError Output) :
    Except AnalysisError Output := do
  let files ← store.find (check.namedPath directory) []
  let outputs ← files.mapM fun file => do report (← objectsOf decode what file)
  return Output.concat outputs

end WorkloadCheck

/-- What is found about a workload that lacks replicas. -/
def WorkloadKind.shortage (kind : WorkloadKind) (workload : Workload) : Option Result :=
  let ready := workload.status.readyReplicas
  let desired := workload.desiredReplicas
  let object := workload.metadata.qualifiedName
  if desired ≤ ready then none
  else some (.ofMessage s!"{object} {kind.label} Status" .fail
    s!"The {kind.noun} {object} has {ready}/{desired} replicas")

namespace WorkloadCheck

/-- How the outcomes are resolved for a workload that is not there: the first outcome that is filled
decides. -/
def resolveMissing (check : WorkloadCheck) (kind : WorkloadKind) : Resolution :=
  let title := check.title kind.label
  match check.outcomes.findSome? Outcome.chosen? with
  | none => .exhausted title
  | some (verdict, candidate) =>
    if trimmed candidate.when == Clause.absent then
      .matched (.ofCandidate title verdict candidate)
    else
      let message := s!"The {kind.noun} \"{check.name}\" was not found"
      .matched { Result.ofMessage title .fail message with uri := candidate.uri }

/-- The output about the named workload among those of a file. -/
def reportWorkload (check : WorkloadCheck) (kind : WorkloadKind) (workloads : List Workload) :
    Except AnalysisError Output := do
  match workloads.find? fun workload => workload.metadata.name == check.name with
  | none => return .ofResult (check.resolveMissing kind).toResult
  | some workload =>
    let (warnings, resolution) ←
      Resolution.resolve (check.title kind.label) check.outcomes fun clause =>
        Clause.replicas clause workload.status.readyReplicas
    return { results := [resolution.toResult], warnings }

def analyze (store : EvidenceStore) (kind : WorkloadKind) (check : WorkloadCheck) :
    Except AnalysisError Output := do
  let strict ← check.shared.isStrict
  let what := s!"{kind.noun} list"
  let output ←
    if check.name.isEmpty then
      check.scan store kind.directory what Workload.decode kind.shortage
    else check.perFile store kind.directory what Workload.decode (check.reportWorkload kind)
  return output.stamp strict

end WorkloadCheck

namespace Cluster.Job

/-- Whether a job is done. -/
def isComplete (job : Job) : Bool :=
  match job.spec.completions with
  | none => 1 < job.status.succeeded
  | some completions => completions == job.status.succeeded

/-- What is found about a job that failed and is not done. -/
def failure (job : Job) : Option Result :=
  let object := job.metadata.qualifiedName
  if job.isComplete || job.status.failed == 0 then none
  else some (.ofMessage s!"{object} Job Status" .fail s!"The job {object} is not complete")

end Cluster.Job

namespace WorkloadCheck

/-- The output about the named job among those of a file. -/
def reportJob (check : WorkloadCheck) (jobs : List Job) : Except AnalysisError Output := do
  match jobs.find? fun job => job.metadata.name == check.name with
  | none =>
    return .ofResult (.ofMessage s!"{check.name} Job Status" .fail
      s!"The job \"{check.name}\" was not found")
  | some job =>
    if check.outcomes.isEmpty then return { results := job.failure.toList }
    else
      let (warnings, resolution) ←
        Resolution.resolve (check.title "Job") check.outcomes fun clause => Clause.job clause job
      return { results := [resolution.toResult], warnings }

def analyzeJob (store : EvidenceStore) (check : WorkloadCheck) : Except AnalysisError Output := do
  let strict ← check.shared.isStrict
  let output ←
    if check.name.isEmpty then check.scan store "jobs" "job list" Job.decode Job.failure
    else check.perFile store "jobs" "job list" Job.decode check.reportJob
  return output.stamp strict

end WorkloadCheck

end Triage
