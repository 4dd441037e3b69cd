import Triage.Result

/-!
# Objects of a cluster

The parts of collected resources that analyzers read. Every field may be left out; what is absent
is not written back.
-/

namespace Triage.Cluster

structure Metadata where
  name : String := ""
  nspace : String := ""
  deletionTimestamp : Option String := none
  deriving DecidableEq, Repr

namespace Metadata

def fields : List (Json.Decode.Field Metadata) :=
  open Json.Decode in
  [field "name" text fun x m => { m with name := x },
   field "namespace" text fun x m => { m with nspace := x },
   optionalField "deletionTimestamp" text fun x m => { m with deletionTimestamp := x }]

def decode : Json.Decoder Metadata := Json.Decode.record fields {}

def toJson (m : Metadata) : Json :=
  .object ([("name", .string m.name), ("namespace", .string m.nspace)] ++
    (m.deletionTimestamp.map fun t => ("deletionTimestamp", Json.string t)).toList)

/-- The object's name within the cluster. -/
def qualifiedName (m : Metadata) : String := s!"{m.nspace}/{m.name}"

end Metadata

structure Event where
  metadata : Metadata := {}
  involvedObject : ObjectReference := {}
  reason : String := ""
  message : String := ""
  kind : String := ""
  deriving DecidableEq, Repr

namespace Event

def fields : List (Json.Decode.Field Event) :=
  open Json.Decode in
  [field "metadata" Metadata.decode fun x e => { e with metadata := x },
   field "involvedObject" ObjectReference.decode fun x e => { e with involvedObject := x },
   field "reason" text fun x e => { e with reason := x },
   field "message" text fun x e => { e with message := x },
   field "type" text fun x e => { e with kind := x }]

def decode : Json.Decoder Event := Json.Decode.record fields {}

def toJson (e : Event) : Json :=
  .object [("metadata", e.metadata.toJson), ("involvedObject", e.involvedObject.toJson),
    ("reason", .string e.reason), ("message", .string e.message), ("type", .string e.kind)]

end Event

structure NodeInfo where
  containerRuntimeVersion : String := ""
  deriving DecidableEq, Repr

namespace NodeInfo

def fields : List (Json.Decode.Field NodeInfo) :=
  open Json.Decode in
  [field "containerRuntimeVersion" text fun x n => { n with containerRuntimeVersion := x }]

def decode : Json.Decoder NodeInfo := Json.Decode.record fields {}

def toJson (n : NodeInfo) : Json :=
  .object [("containerRuntimeVersion", .string n.containerRuntimeVersion)]

end NodeInfo

structure NodeStatus where
  nodeInfo : NodeInfo := {}
  deriving DecidableEq, Repr

namespace NodeStatus

def fields : List (Json.Decode.Field NodeStatus) :=
  open Json.Decode in [field "nodeInfo" NodeInfo.decode fun x s => { s with nodeInfo := x }]

def decode : Json.Decoder NodeStatus := Json.Decode.record fields {}

def toJson (s : NodeStatus) : Json := .object [("nodeInfo", s.nodeInfo.toJson)]

end NodeStatus

structure Node where
  metadata : Metadata := {}
  status : NodeStatus := {}
  deriving DecidableEq, Repr

namespace Node

def fields : List (Json.Decode.Field Node) :=
  open Json.Decode in
  [field "metadata" Metadata.decode fun x n => { n with metadata := x },
   field "status" NodeStatus.decode fun x n => { n with status := x }]

def decode : Json.Decoder Node := Json.Decode.record fields {}

def toJson (n : Node) : Json :=
  .object [("metadata", n.metadata.toJson), ("status", n.status.toJson)]

end Node

structure WorkloadSpec where
  replicas : Option Int := none
  deriving DecidableEq, Repr

namespace WorkloadSpec

def fields : List (Json.Decode.Field WorkloadSpec) :=
  open Json.Decode in [optionalField "replicas" int32 fun x s => { s with replicas := x }]

def decode : Json.Decoder WorkloadSpec := Json.Decode.record fields {}

def toJson (s : WorkloadSpec) : Json :=
  .object (s.replicas.map fun n => ("replicas", Json.ofInt n)).toList

end WorkloadSpec

structure WorkloadStatus where
  replicas : Int := 0
  readyReplicas : Int := 0
  deriving DecidableEq, Repr

namespace WorkloadStatus

def fields : List (Json.Decode.Field WorkloadStatus) :=
  open Json.Decode in
  [field "replicas" int32 fun x s => { s with replicas := x },
   field "readyReplicas" int32 fun x s => { s with readyReplicas := x }]

def decode : Json.Decoder WorkloadStatus := Json.Decode.record fields {}

def toJson (s : WorkloadStatus) : Json :=
  .object [("replicas", .ofInt s.replicas), ("readyReplicas", .ofInt s.readyReplicas)]

end WorkloadStatus

/-- A deployment or a stateful set. -/
structure Workload where
  metadata : Metadata := {}
  spec : WorkloadSpec := {}
  status : WorkloadStatus := {}
  deriving DecidableEq, Repr

namespace Workload

def fields : List (Json.Decode.Field Workload) :=
  open Json.Decode in
  [field "metadata" Metadata.decode fun x w => { w with metadata := x },
   field "spec" WorkloadSpec.decode fun x w => { w with spec := x },
   field "status" WorkloadStatus.decode fun x w => { w with status := x }]

def decode : Json.Decoder Workload := Json.Decode.record fields {}

def toJson (w : Workload) : Json :=
  .object [("metadata", w.metadata.toJson), ("spec", w.spec.toJson), ("status", w.status.toJson)]

/-- How many replicas are wanted; one when nothing is said. -/
def desiredReplicas (w : Workload) : Int := w.spec.replicas.getD 1

end Workload

structure JobSpec where
  completions : Option Int := none
  deriving DecidableEq, Repr

namespace JobSpec

def fields : List (Json.Decode.Field JobSpec) :=
  open Json.Decode in [optionalField "completions" int32 fun x s => { s with completions := x }]

def decode : Json.Decoder JobSpec := Json.Decode.record fields {}

def toJson (s : JobSpec) : Json :=
  .object (s.completions.map fun n => ("completions", Json.ofInt n)).toList

end JobSpec

structure JobStatus where
  succeeded : Int := 0
  failed : Int := 0
  deriving DecidableEq, Repr

namespace JobStatus

def fields : List (Json.Decode.Field JobStatus) :=
  open Json.Decode in
  [field "succeeded" int32 fun x s => { s with succeeded := x },
   field "failed" int32 fun x s => { s with failed := x }]

def decode : Json.Decoder JobStatus := Json.Decode.record fields {}

def toJson (s : JobStatus) : Json :=
  .object [("succeeded", .ofInt s.succeeded), ("failed", .ofInt s.failed)]

end JobStatus

structure Job where
  metadata : Metadata := {}
  spec : JobSpec := {}
  status : JobStatus := {}
  deriving DecidableEq, Repr

namespace Job

def fields : List (Json.Decode.Field Job) :=
  open Json.Decode in
  [field "metadata" Metadata.decode fun x j => { j with metadata := x },
   field "spec" JobSpec.decode fun x j => { j with spec := x },
   field "status" JobStatus.decode fun x j => { j with status := x }]

def decode : Json.Decoder Job := Json.Decode.record fields {}

def toJson (j : Job) : Json :=
  .object [("metadata", j.metadata.toJson), ("spec", j.spec.toJson), ("status", j.status.toJson)]

end Job

end Triage.Cluster
