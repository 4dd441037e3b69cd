import Triage.Analyzer.Basic
import Triage.Clause.Cluster
import Triage.Cluster.Listing
import Triage.Evidence.Layout
import Triage.Evidence.Store
import Triage.Template

/-!
# Checks of pods

Each outcome is a rule, and a pod is reported by the first rule that applies to it. A pod without a
reason of its own gets the one its containers give, and one without a message gets the warnings that
were recorded about it. The events of a namespace are read when they are first needed, and kept.
-/

namespace Triage

open Cluster

/-- An outcome with its clause read. -/
structure PodRule where
  verdict : Verdict
  candidate : Candidate
  test : Clause.PodTest
  deriving DecidableEq, Repr

namespace PodRule

/-- The rule of an outcome, or why there is none. -/
def ofOutcome (index : Nat) (outcome : Outcome) : Except String PodRule :=
  match outcome.chosen? with
  | none => .error s!"outcome {index} has no verdict populated; skipped"
  | some (verdict, candidate) =>
    match Clause.PodTest.parse candidate.when with
    | .ok test => .ok ⟨verdict, candidate, test⟩
    | .error reason => .error s!"outcome {index} skipped: {reason.message}"

/-- The rules of outcomes, and why others have none. -/
def ofOutcomes (outcomes : List Outcome) : List PodRule × List String :=
  (outcomes.zipIdx.map fun (outcome, index) => ofOutcome index outcome).foldr
    (fun rule? (rules, reasons) =>
      match rule? with
      | .ok rule => (rule :: rules, reasons)
      | .error reason => (rules, reason :: reasons))
    ([], [])

end PodRule

namespace Cluster.Pod

/-- The pod with a reason: its own, or the one that its containers give. -/
def explained (pod : Pod) : Pod :=
  if !pod.status.reason.isEmpty then pod
  else
    let summary := pod.summary
    { pod with status := { pod.status with reason := summary.reason, message := summary.message } }

/-- Whether an event is a warning about a pod. -/
def isWarnedBy (pod : Pod) (event : Event) : Bool :=
  event.involvedObject.kind == "Pod" && event.involvedObject.name == pod.metadata.name &&
    event.involvedObject.nspace == pod.metadata.nspace && event.kind == "Warning" &&
    !event.message.isEmpty

/-- The messages of the warnings about a pod. -/
def warningText (pod : Pod) (events : List Event) : String :=
  ". ".intercalate ((events.filter pod.isWarnedBy).map Event.message)

/-- What templates about a pod can mention: the pod itself, and its namespace and name. -/
def context (pod : Pod) : Json :=
  match pod.toJson with
  | .object members =>
    .object (members ++
      [("namespace", .string pod.metadata.nspace), ("name", .string pod.metadata.name)])
  | json => json

def reference (pod : Pod) : ObjectReference :=
  { apiVersion := "v1", kind := "Pod", nspace := pod.metadata.nspace, name := pod.metadata.name }

end Cluster.Pod

/-- The events that files list. -/
def eventsIn (files : List FoundFile) : Except AnalysisError (List Event) := do
  let lists ← files.mapM fun (_, content) =>
    (liftM (decodeList Event.decode "events" content) : Except AnalysisError (List Event))
  return lists.flatten

/-- The events of a namespace. -/
def EvidenceStore.eventsOf (store : EvidenceStore) (nspace : String) :
    Except AnalysisError (List Event) := do
  let files ← store.find (Layout.clusterResourcePath "events" nspace) []
  eventsIn files

/-- The events of the namespaces that were read so far. -/
abbrev EventCache := List (String × List Event)

/-- A step that may read events, or take those that were read before. -/
abbrev WithEvents := StateT EventCache (Except AnalysisError)

namespace WithEvents

/-- The events of a namespace, which are read at most once. -/
def eventsOf (store : EvidenceStore) (nspace : String) : WithEvents (List Event) := do
  match (← get).lookup nspace with
  | some events => return events
  | none =>
    let events ← store.eventsOf nspace
    modify ((nspace, events) :: ·)
    return events

/-- The pod with a message: its own, or the warnings about it. -/
def withMessage (store : EvidenceStore) (pod : Pod) : WithEvents Pod :=
  if !pod.status.message.isEmpty then return pod
  else do
    let events ← eventsOf store pod.metadata.nspace
    return { pod with status := { pod.status with message := pod.warningText events } }

end WithEvents

namespace PodCheck

def defaultTitle : String := "Pod \x7b\x7b .Namespace \x7d\x7d/\x7b\x7b .Name \x7d\x7d status"

def defaultMessage : String :=
  "Pod \x7b\x7b .Namespace \x7d\x7d/\x7b\x7b .Name \x7d\x7d status is " ++
    "\x7b\x7b .Status.Reason \x7d\x7d. \x7b\x7b .Status.Message \x7d\x7d"

/-- The result of a rule that applies to a pod. -/
def result (check : PodCheck) (rule : PodRule) (pod : Pod) : Except TemplateError Result := do
  let context := pod.context
  let message := rule.candidate.message
  let title ← Template.render (check.shared.title defaultTitle) context
  let message ← Template.render (if message.isEmpty then defaultMessage else message) context
  return { Result.ofCandidate title rule.verdict rule.candidate with
    message := trimmed message, involvedObject := some pod.reference }

/-- The result of the first rule that applies to a pod with a reason and a message. -/
def resolve (check : PodCheck) (rules : List PodRule) (pod : Pod) :
    Except TemplateError (Option Result) :=
  match rules.find? fun rule => rule.test.holds pod with
  | none => return none
  | some rule => return some (← check.result rule pod)

/-- The result about one pod, if a rule applies to it. -/
def reportPod (check : PodCheck) (store : EvidenceStore) (rules : List PodRule) (pod : Pod) :
    WithEvents (Option Result) := do
  let pod ← WithEvents.withMessage store pod.explained
  (liftM (check.resolve rules pod) : Except AnalysisError (Option Result))

/-- Whether the pods of a file are checked. -/
def covers (check : PodCheck) (path : String) : Bool :=
  check.namespaces.isEmpty || check.namespaces.contains (Layout.namespaceOf path)

/-- The pods that a file lists. -/
def podsIn (file : FoundFile) : Except DecodeError (List Pod) :=
  decodeList Pod.decode s!"pods list for namespace {Layout.namespaceOf file.1}" file.2

/-- The results about the pods in one file. -/
def reportFile (check : PodCheck) (store : EvidenceStore) (rules : List PodRule)
    (file : FoundFile) : WithEvents (List Result) := do
  let pods ← (liftM (podsIn file) : Except AnalysisError (List Pod))
  return (← pods.mapM (check.reportPod store rules)).filterMap id

def analyze (store : EvidenceStore) (check : PodCheck) : Except AnalysisError Output := do
  let strict ← check.shared.isStrict
  let subject := check.shared.title "Cluster Pod Status"
  let (rules, reasons) := PodRule.ofOutcomes check.outcomes
  let files ← store.find (Layout.clusterResourceGlob "pods") []
  let (results, _) ← ((files.filter fun file => check.covers file.1).mapM
    (check.reportFile store rules)).run []
  return (Output.mk results.flatten (reasons.map fun reason => ⟨subject, reason⟩)).stamp strict

end PodCheck

end Triage
