import Triage.Cluster.Pod

/-!
# The one-word state of a pod

A pod's `summary` is the reason and the message that a status column shows: the first init
container that is not finished decides, otherwise the containers do, the first of them last. A pod
is unhealthy when its phase or this reason says so, or when a container of a running pod is not
ready.
-/

namespace Triage.Cluster

structure PodSummary where
  reason : String
  message : String
  deriving DecidableEq, Repr

namespace Pod

/-- An init container that restarts always does not have to finish. -/
def isSidecar (pod : Pod) (index : Nat) : Bool :=
  (pod.spec.initContainers[index]?.bind (·.restartPolicy)) == some "Always"

/-- Why a terminated container stopped, without a reason of its own. -/
def exitReason (t : TerminatedState) : String :=
  if t.signal ≠ 0 then s!"Signal:{t.signal}" else s!"ExitCode:{t.exitCode}"

/-- The reason that an init container gives, unless the pod has passed it. -/
def initReason? (pod : Pod) (index : Nat) (container : ContainerStatus) : Option String :=
  let state := container.state
  let waits :=
    if pod.isSidecar index && state.running.isSome then none
    else some s!"Init:{index}/{pod.spec.initContainers.length}"
  match state.terminated, state.waiting with
  | some t, _ =>
    if t.exitCode = 0 then none
    else some (if t.reason.isEmpty then s!"Init:{exitReason t}" else s!"Init:{t.reason}")
  | none, some w =>
    if w.reason.isEmpty || w.reason == "PodInitializing" then waits else some s!"Init:{w.reason}"
  | none, none => waits

/-- The first init container, counting from `index`, that the pod has not passed. -/
def initSummary? (pod : Pod) (index : Nat) : List ContainerStatus → Option PodSummary
  | [] => none
  | container :: rest =>
    match pod.initReason? index container with
    | some reason =>
      some ⟨reason, (container.lastState.terminated.map (·.message)).getD ""⟩
    | none => pod.initSummary? (index + 1) rest

/-- What the containers seen so far say, and whether one of them runs. -/
structure Seen where
  reason : String
  message : String
  running : Bool

/-- How the container ended before it was restarted. -/
def lastExit (container : ContainerStatus) : String :=
  match container.lastState.terminated with
  | none => ""
  | some t => if t.message.isEmpty then s!"ExitCode:{t.exitCode}" else t.message

def Seen.add (seen : Seen) (container : ContainerStatus) : Seen :=
  let state := container.state
  match state.waiting.filter fun w => !w.reason.isEmpty, state.terminated with
  | some w, _ => { seen with reason := w.reason, message := seen.message ++ lastExit container }
  | none, some t =>
    if t.reason.isEmpty then { seen with reason := exitReason t }
    else { seen with reason := t.reason, message := seen.message ++ s!"ExitCode:{t.exitCode}" }
  | none, none =>
    if container.ready && state.running.isSome then { seen with running := true } else seen

def hasCondition (pod : Pod) (kind status : String) : Bool :=
  pod.status.conditions.any fun c => c.kind == kind && c.status == status

/-- What the containers say once the pod is initialized. -/
def containerSummary (pod : Pod) (reason : String) : PodSummary :=
  let seen := pod.status.containerStatuses.reverse.foldl Seen.add ⟨reason, "", false⟩
  let reason :=
    if seen.reason == "Completed" && seen.running then
      if pod.hasCondition "Ready" "True" then "Running" else "NotReady"
    else seen.reason
  let unscheduled := pod.status.conditions.filter fun c =>
    c.kind == "PodScheduled" && c.status == "False"
  ⟨reason, seen.message ++ String.join (unscheduled.map (·.message))⟩

def summary (pod : Pod) : PodSummary :=
  let status := pod.status
  let collected := if status.reason.isEmpty then status.phase else status.reason
  let found :=
    (pod.initSummary? 0 status.initContainerStatuses).getD (pod.containerSummary collected)
  if pod.metadata.deletionTimestamp.isSome then
    ⟨if status.reason == "NodeLost" then "Unknown" else "Terminating", found.message⟩
  else found

def isUnhealthy (pod : Pod) : Bool :=
  let phase := pod.status.phase
  if phase == "Failed" || phase == "Pending" || phase == "Unknown" then true
  else
    let reason := pod.summary.reason
    if reason == "Completed" then false
    else if reason != "Running" then true
    else pod.status.containerStatuses.any fun c => !c.ready

end Pod

end Triage.Cluster
