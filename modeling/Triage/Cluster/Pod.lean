import Triage.Cluster.Objects

/-!
# Pods

A pod as it was collected: its init containers, and what is known about the state of each
container.
-/

namespace Triage.Cluster

structure Container where
  name : String := ""
  restartPolicy : Option String := none
  deriving DecidableEq, Repr

namespace Container

def fields : List (Json.Decode.Field Container) :=
  open Json.Decode in
  [field "name" text fun x c => { c with name := x },
   optionalField "restartPolicy" text fun x c => { c with restartPolicy := x }]

def decode : Json.Decoder Container := Json.Decode.record fields {}

def toJson (c : Container) : Json :=
  .object ([("name", .string c.name)] ++
    (c.restartPolicy.map fun p => ("restartPolicy", Json.string p)).toList)

end Container

structure PodSpec where
  initContainers : List Container := []
  deriving DecidableEq, Repr

namespace PodSpec

def fields : List (Json.Decode.Field PodSpec) :=
  open Json.Decode in
  [field "initContainers" (list Container.decode) fun x s => { s with initContainers := x }]

def decode : Json.Decoder PodSpec := Json.Decode.record fields {}

def toJson (s : PodSpec) : Json :=
  .object [("initContainers", .array (s.initContainers.map Container.toJson))]

end PodSpec

structure PodCondition where
  kind : String := ""
  status : String := ""
  message : String := ""
  deriving DecidableEq, Repr

namespace PodCondition

def fields : List (Json.Decode.Field PodCondition) :=
  open Json.Decode in
  [field "type" text fun x c => { c with kind := x },
   field "status" text fun x c => { c with status := x },
   field "message" text fun x c => { c with message := x }]

def decode : Json.Decoder PodCondition := Json.Decode.record fields {}

def toJson (c : PodCondition) : Json :=
  .object [("type", .string c.kind), ("status", .string c.status), ("message", .string c.message)]

end PodCondition

structure WaitingState where
  reason : String := ""
  message : String := ""
  deriving DecidableEq, Repr

namespace WaitingState

def fields : List (Json.Decode.Field WaitingState) :=
  open Json.Decode in
  [field "reason" text fun x s => { s with reason := x },
   field "message" text fun x s => { s with message := x }]

def decode : Json.Decoder WaitingState := Json.Decode.record fields {}

def toJson (s : WaitingState) : Json :=
  .object [("reason", .string s.reason), ("message", .string s.message)]

end WaitingState

structure RunningState where
  startedAt : String := ""
  deriving DecidableEq, Repr

namespace RunningState

def fields : List (Json.Decode.Field RunningState) :=
  open Json.Decode in [field "startedAt" text fun x s => { s with startedAt := x }]

def decode : Json.Decoder RunningState := Json.Decode.record fields {}

def toJson (s : RunningState) : Json := .object [("startedAt", .string s.startedAt)]

end RunningState

structure TerminatedState where
  reason : String := ""
  message : String := ""
  exitCode : Int := 0
  signal : Int := 0
  deriving DecidableEq, Repr

namespace TerminatedState

def fields : List (Json.Decode.Field TerminatedState) :=
  open Json.Decode in
  [field "reason" text fun x s => { s with reason := x },
   field "message" text fun x s => { s with message := x },
   field "exitCode" int32 fun x s => { s with exitCode := x },
   field "signal" int32 fun x s => { s with signal := x }]

def decode : Json.Decoder TerminatedState := Json.Decode.record fields {}

def toJson (s : TerminatedState) : Json :=
  .object [("reason", .string s.reason), ("message", .string s.message),
    ("exitCode", .ofInt s.exitCode), ("signal", .ofInt s.signal)]

end TerminatedState

structure ContainerState where
  waiting : Option WaitingState := none
  running : Option RunningState := none
  terminated : Option TerminatedState := none
  deriving DecidableEq, Repr

namespace ContainerState

def fields : List (Json.Decode.Field ContainerState) :=
  open Json.Decode in
  [optionalField "waiting" WaitingState.decode fun x s => { s with waiting := x },
   optionalField "running" RunningState.decode fun x s => { s with running := x },
   optionalField "terminated" TerminatedState.decode fun x s => { s with terminated := x }]

def decode : Json.Decoder ContainerState := Json.Decode.record fields {}

def toJson (s : ContainerState) : Json :=
  .object ((s.waiting.map fun w => ("waiting", w.toJson)).toList ++
    (s.running.map fun r => ("running", r.toJson)).toList ++
    (s.terminated.map fun t => ("terminated", t.toJson)).toList)

end ContainerState

structure ContainerStatus where
  name : String := ""
  ready : Bool := false
  state : ContainerState := {}
  lastState : ContainerState := {}
  deriving DecidableEq, Repr

namespace ContainerStatus

def fields : List (Json.Decode.Field ContainerStatus) :=
  open Json.Decode in
  [field "name" text fun x s => { s with name := x },
   field "ready" flag fun x s => { s with ready := x },
   field "state" ContainerState.decode fun x s => { s with state := x },
   field "lastState" ContainerState.decode fun x s => { s with lastState := x }]

def decode : Json.Decoder ContainerStatus := Json.Decode.record fields {}

def toJson (s : ContainerStatus) : Json :=
  .object [("name", .string s.name), ("ready", .bool s.ready), ("state", s.state.toJson),
    ("lastState", s.lastState.toJson)]

end ContainerStatus

structure PodStatus where
  phase : String := ""
  reason : String := ""
  message : String := ""
  conditions : List PodCondition := []
  initContainerStatuses : List ContainerStatus := []
  containerStatuses : List ContainerStatus := []
  deriving DecidableEq, Repr

namespace PodStatus

def fields : List (Json.Decode.Field PodStatus) :=
  open Json.Decode in
  [field "phase" text fun x s => { s with phase := x },
   field "reason" text fun x s => { s with reason := x },
   field "message" text fun x s => { s with message := x },
   field "conditions" (list PodCondition.decode) fun x s => { s with conditions := x },
   field "initContainerStatuses" (list ContainerStatus.decode)
     fun x s => { s with initContainerStatuses := x },
   field "containerStatuses" (list ContainerStatus.decode)
     fun x s => { s with containerStatuses := x }]

def decode : Json.Decoder PodStatus := Json.Decode.record fields {}

def toJson (s : PodStatus) : Json :=
  .object [("phase", .string s.phase), ("reason", .string s.reason),
    ("message", .string s.message),
    ("conditions", .array (s.conditions.map PodCondition.toJson)),
    ("initContainerStatuses", .array (s.initContainerStatuses.map ContainerStatus.toJson)),
    ("containerStatuses", .array (s.containerStatuses.map ContainerStatus.toJson))]

end PodStatus

structure Pod where
  metadata : Metadata := {}
  spec : PodSpec := {}
  status : PodStatus := {}
  deriving DecidableEq, Repr

namespace Pod

def fields : List (Json.Decode.Field Pod) :=
  open Json.Decode in
  [field "metadata" Metadata.decode fun x p => { p with metadata := x },
   field "spec" PodSpec.decode fun x p => { p with spec := x },
   field "status" PodStatus.decode fun x p => { p with status := x }]

def decode : Json.Decoder Pod := Json.Decode.record fields {}

def toJson (p : Pod) : Json :=
  .object [("metadata", p.metadata.toJson), ("spec", p.spec.toJson), ("status", p.status.toJson)]

end Pod

end Triage.Cluster
