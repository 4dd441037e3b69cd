import Triage.Analyzer.Check

/-!
# Analyzers

An analyzer is a check of some kind. In a manifest it is an object with the kind as its only key
and the settings as the value.
-/

namespace Triage

/-- A kind of fact about hosts. -/
inductive HostFact where
  | memory
  | system
  | processor
  | clock
  | sysctl
  | services
  | disk
  deriving DecidableEq, Repr

namespace HostFact

def tag : HostFact → String
  | memory => "hostMemory"
  | system => "hostOS"
  | processor => "hostCPU"
  | clock => "hostTime"
  | sysctl => "hostSysctl"
  | services => "hostServices"
  | disk => "hostDiskUsage"

/-- The title of a check that has none of its own. -/
def defaultTitle (check : HostCheck) : HostFact → String
  | memory => "Amount of Memory"
  | system => "Host OS Info"
  | processor => "Number of CPUs"
  | clock => "Time"
  | sysctl => "Sysctl"
  | services => "Host Services"
  | disk =>
    if check.collectorName.isEmpty then "Disk Usage" else s!"Disk Usage {check.collectorName}"

end HostFact

/-- A kind of replicated workload. -/
inductive WorkloadKind where
  | deployment
  | statefulSet
  deriving DecidableEq, Repr

namespace WorkloadKind

def tag : WorkloadKind → String
  | deployment => "deploymentStatus"
  | statefulSet => "statefulsetStatus"

def label : WorkloadKind → String
  | deployment => "Deployment"
  | statefulSet => "StatefulSet"

/-- The name of one such object in messages. -/
def noun : WorkloadKind → String
  | deployment => "deployment"
  | statefulSet => "statefulset"

/-- The directory of the collected objects. -/
def directory : WorkloadKind → String
  | deployment => "deployments"
  | statefulSet => "statefulsets"

end WorkloadKind

inductive Analyzer where
  | host (fact : HostFact) (check : HostCheck)
  | pods (check : PodCheck)
  | runtime (check : RuntimeCheck)
  | workload (kind : WorkloadKind) (check : WorkloadCheck)
  | job (check : WorkloadCheck)
  | event (check : EventCheck)
  | yaml (check : DocumentCheck)
  | json (check : JsonCheck)
  | text (check : TextCheck)
  deriving DecidableEq, Repr

namespace Analyzer

def tag : Analyzer → String
  | host fact _ => fact.tag
  | pods _ => "clusterPodStatuses"
  | runtime _ => "containerRuntime"
  | workload kind _ => kind.tag
  | job _ => "jobStatus"
  | event _ => "event"
  | yaml _ => "yamlCompare"
  | json _ => "jsonCompare"
  | text _ => "textAnalyze"

/-- The settings of a kind, with values of unknown settings nested at most `limit` deep. -/
def decodeCheck (limit : Nat) (tag : String) (value : Json.Written) : Option Analyzer :=
  let ofHost (fact : HostFact) : Option Analyzer := (HostCheck.decode limit value).map (host fact)
  let ofWorkload (kind : WorkloadKind) : Option Analyzer :=
    (WorkloadCheck.decode limit value).map (workload kind)
  match tag with
  | "hostMemory" => ofHost .memory
  | "hostOS" => ofHost .system
  | "hostCPU" => ofHost .processor
  | "hostTime" => ofHost .clock
  | "hostSysctl" => ofHost .sysctl
  | "hostServices" => ofHost .services
  | "hostDiskUsage" => ofHost .disk
  | "clusterPodStatuses" => (PodCheck.decode limit value).map pods
  | "containerRuntime" => (RuntimeCheck.decode limit value).map runtime
  | "deploymentStatus" => ofWorkload .deployment
  | "statefulsetStatus" => ofWorkload .statefulSet
  | "jobStatus" => (WorkloadCheck.decode limit value).map job
  | "event" => (EventCheck.decode limit value).map event
  | "yamlCompare" => (DocumentCheck.decode limit value).map yaml
  | "jsonCompare" => (JsonCheck.decode limit value).map json
  | "textAnalyze" => (TextCheck.decode limit value).map text
  | _ => none

/-- An analyzer that stands inside so many containers. -/
def decodeWithin (enclosing : Nat) : Json.Decoder Analyzer
  | .object [(some tag, value)] => decodeCheck (Json.nestingLimit - 2 - enclosing) tag value
  | _ => none

def decode : Json.Decoder Analyzer := decodeWithin 0

/-- A manifest is a list of analyzers. -/
def decodeManifest : Json.Decoder (List Analyzer) := Json.Decode.list (decodeWithin 1)

def checkJson : Analyzer → Json
  | host _ check => check.toJson
  | pods check => check.toJson
  | runtime check => check.toJson
  | workload _ check => check.toJson
  | job check => check.toJson
  | event check => check.toJson
  | yaml check => check.toJson
  | json check => check.toJson
  | text check => check.toJson

def toJson (analyzer : Analyzer) : Json := .object [(analyzer.tag, analyzer.checkJson)]

def shared : Analyzer → Meta
  | host _ check => check.shared
  | pods check => check.shared
  | runtime check => check.shared
  | workload _ check => check.shared
  | job check => check.shared
  | event check => check.shared
  | yaml check => check.shared
  | json check => check.document.shared
  | text check => check.shared

/-- The title that is set, or one that the settings suggest. -/
def title : Analyzer → String
  | host fact check => check.shared.title (fact.defaultTitle check)
  | pods check => check.shared.title "Cluster Pod Status"
  | runtime check => check.shared.title "Container Runtime"
  | workload kind check => check.title kind.label
  | job check => check.title "Job"
  | event check =>
    check.shared.title (if check.collectorName.isEmpty then "Event" else check.collectorName)
  | yaml check => check.title "YAML Compare"
  | json check => check.document.title "JSON Compare"
  | text check =>
    check.shared.title
      (if check.collectorName.isEmpty then "Text Analyze" else check.collectorName)

def isExcluded (analyzer : Analyzer) : Except InvalidError Bool := analyzer.shared.isExcluded

/-- Only a flag that says yes excludes an analyzer. -/
theorem isExcluded_eq_ok_iff {analyzer : Analyzer} {b : Bool} : analyzer.isExcluded = .ok b ↔
    (analyzer.shared.exclude.getD (.literal false)).Says b := by
  rw [isExcluded, Meta.isExcluded_eq, Flag.resolve_eq_ok_iff]

def isStrict (analyzer : Analyzer) : Except InvalidError Bool := analyzer.shared.isStrict

end Analyzer

end Triage
