import Triage.Proofs.StoppedContainers

/-!
# Why a pod is in the state it is in

The summary of a pod comes out of two loops over its containers. Here it is said without them
(`Pod.Reports`): the first init container that the pod has not passed decides alone, and without one
the first container that waits for a reason or has ended does. A pod that is being deleted keeps
nothing but the message. The summary of every pod is what this says of it
(`summary_eq_iff_reports`).
-/

namespace Triage.Cluster

/-- An element of which something holds, and of none before it. -/
def FirstOf {α : Type} (p : α → Prop) (xs : List α) (x : α) : Prop :=
  p x ∧ ∃ before after, xs = before ++ x :: after ∧ ∀ y ∈ before, ¬ p y

theorem findSome?_eq_some_iff_firstOf {α β : Type} {f : α → Option β} {p : α → Prop}
    (hp : ∀ x, f x = none ↔ ¬ p x) {xs : List α} {b : β} :
    xs.findSome? f = some b ↔ ∃ x, FirstOf p xs x ∧ f x = some b := by
  rw [List.findSome?_eq_some_iff]
  constructor
  · rintro ⟨before, x, after, heq, hx, hbefore⟩
    have hpx : p x := by
      by_contra hn
      rw [(hp x).2 hn] at hx
      cases hx
    exact ⟨x, ⟨hpx, before, after, heq, fun y hy => (hp y).1 (hbefore y hy)⟩, hx⟩
  · rintro ⟨x, ⟨-, before, after, heq, hbefore⟩, hx⟩
    exact ⟨before, x, after, heq, hx, fun y hy => (hp y).2 (hbefore y hy)⟩

namespace Pod

/-- The pod has passed an init container: it ended well, or it is a sidecar that runs freely. -/
inductive Passed (pod : Pod) (c : ContainerStatus) (index : Nat) : Prop
  | ended {t : TerminatedState} (hended : c.state.terminated = some t) (hcode : t.exitCode = 0)
  | sidecar {spec : Container} (hspec : pod.spec.initContainers[index]? = some spec)
    (hpolicy : spec.restartPolicy = some "Always") (hended : c.state.terminated = none)
    (hruns : c.state.running ≠ none) (hfree : ¬ c.state.Blocked)

/-- The first init container that the pod has not passed, with its place. -/
def HeldUpBy (pod : Pod) (c : ContainerStatus) (index : Nat) : Prop :=
  FirstOf (fun p => ¬ pod.Passed p.1 p.2) pod.status.initContainerStatuses.zipIdx (c, index)

def Initialized (pod : Pod) : Prop :=
  ∀ p ∈ pod.status.initContainerStatuses.zipIdx, pod.Passed p.1 p.2

def HasRunning (pod : Pod) : Prop := ∃ c ∈ pod.status.containerStatuses, c.Runs

def IsReady (pod : Pod) : Prop :=
  ∃ c ∈ pod.status.conditions, c.kind = "Ready" ∧ c.status = "True"

/-- The reason found for an initialized pod: what its first stopped container says, else its own,
else its phase. -/
inductive Finds (pod : Pod) : String → Prop
  | container {c : ContainerStatus} {reason : String}
    (hfirst : FirstOf (fun c => c.state.Stopped) pod.status.containerStatuses c)
    (hstops : c.state.StopsFor reason) : pod.Finds reason
  | own (hnone : ∀ c ∈ pod.status.containerStatuses, ¬ c.state.Stopped)
    (hreason : pod.status.reason ≠ "") : pod.Finds pod.status.reason
  | phase (hnone : ∀ c ∈ pod.status.containerStatuses, ¬ c.state.Stopped)
    (hreason : pod.status.reason = "") : pod.Finds pod.status.phase

/-- A pod does not count as completed while one of its containers runs. -/
inductive Corrects (pod : Pod) : String → String → Prop
  | running (hruns : pod.HasRunning) (hready : pod.IsReady) : pod.Corrects "Completed" "Running"
  | notReady (hruns : pod.HasRunning) (hready : ¬ pod.IsReady) :
    pod.Corrects "Completed" "NotReady"
  | kept {reason : String} (h : reason = "Completed" → ¬ pod.HasRunning) :
    pod.Corrects reason reason

/-- The summary of a pod that is not being deleted. -/
inductive Shows (pod : Pod) : PodSummary → Prop
  | heldUp {c : ContainerStatus} {index : Nat} {reason : String} (hfirst : pod.HeldUpBy c index)
    (hreason : c.state.HoldsUp s!"{index}/{pod.spec.initContainers.length}" reason) :
    pod.Shows ⟨reason, c.lastMessage⟩
  | initialized {found reason : String} {remarks : List String} (hpassed : pod.Initialized)
    (hfound : pod.Finds found) (hreason : pod.Corrects found reason)
    (hremarks : List.Forall₂ ContainerStatus.Remarks pod.status.containerStatuses remarks) :
    pod.Shows ⟨reason, String.join remarks.reverse ++ String.join
      ((pod.status.conditions.filter fun c => c.kind = "PodScheduled" ∧ c.status = "False").map
        PodCondition.message)⟩

/-- The summary of a pod, deleted or not. -/
inductive Reports (pod : Pod) : PodSummary → Prop
  | kept {s : PodSummary} (hdeleted : pod.metadata.deletionTimestamp = none) (h : pod.Shows s) :
    pod.Reports s
  | terminating {s : PodSummary} (hdeleted : pod.metadata.deletionTimestamp ≠ none)
    (hreason : pod.status.reason ≠ "NodeLost") (h : pod.Shows s) :
    pod.Reports ⟨"Terminating", s.message⟩
  | lost {s : PodSummary} (hdeleted : pod.metadata.deletionTimestamp ≠ none)
    (hreason : pod.status.reason = "NodeLost") (h : pod.Shows s) :
    pod.Reports ⟨"Unknown", s.message⟩

section Init

variable {pod : Pod} {c : ContainerStatus} {index : Nat} {t : TerminatedState} {reason : String}

theorem isSidecar_and_isSome_iff :
    (pod.isSidecar index && c.state.running.isSome) = true ↔
      (∃ spec, pod.spec.initContainers[index]? = some spec ∧ spec.restartPolicy = some "Always")
      ∧ c.state.running ≠ none := by
  simp [isSidecar, Option.bind_eq_some_iff, Option.isSome_iff_ne_none]

theorem initReason?_of_ended (hended : c.state.terminated = some t) :
    pod.initReason? index c = if t.exitCode = 0 then none else some s!"Init:{t.told}" := by
  simp only [initReason?, hended, TerminatedState.told]
  split_ifs <;> rfl

theorem initReason?_of_blocked (hended : c.state.terminated = none)
    (hwaits : c.state.WaitsFor reason) (hblocks : reason ≠ "PodInitializing") :
    pod.initReason? index c = some s!"Init:{reason}" := by
  obtain ⟨hne, w, hw, rfl⟩ := hwaits
  simp [initReason?, hended, hw, hne, hblocks]

theorem initReason?_of_free (hended : c.state.terminated = none) (hfree : ¬ c.state.Blocked) :
    pod.initReason? index c = if pod.isSidecar index && c.state.running.isSome then none
      else some s!"Init:{index}/{pod.spec.initContainers.length}" := by
  simp only [initReason?, hended]
  rcases hw : c.state.waiting with _ | w
  · rfl
  · have hidle : (w.reason.isEmpty || w.reason == "PodInitializing") = true := by
      by_contra hn
      simp only [Bool.or_eq_true, String.isEmpty_iff, beq_iff_eq, not_or] at hn
      exact hfree ⟨w.reason, ⟨hn.1, w, hw, rfl⟩, hn.2⟩
    simp only [hidle, if_true]

theorem initReason?_eq_none_iff : pod.initReason? index c = none ↔ pod.Passed c index := by
  constructor
  · intro h
    rcases hended : c.state.terminated with _ | t
    · by_cases hblocked : c.state.Blocked
      · have ⟨reason, hwaits, hblocks⟩ := hblocked
        rw [initReason?_of_blocked hended hwaits hblocks] at h
        cases h
      · rw [initReason?_of_free hended hblocked, ite_eq_left_iff] at h
        have hruns := not_not.1 fun hn => Option.some_ne_none _ (h hn)
        obtain ⟨⟨spec, hspec, hpolicy⟩, hrunning⟩ := isSidecar_and_isSome_iff.1 hruns
        exact .sidecar hspec hpolicy hended hrunning hblocked
    · rw [initReason?_of_ended hended, ite_eq_left_iff] at h
      exact .ended hended (not_not.1 fun hn => Option.some_ne_none _ (h hn))
  · rintro (⟨hended, hcode⟩ | ⟨hspec, hpolicy, hended, hruns, hfree⟩)
    · rw [initReason?_of_ended hended, if_pos hcode]
    · rw [initReason?_of_free hended hfree,
        if_pos (isSidecar_and_isSome_iff.2 ⟨⟨_, hspec, hpolicy⟩, hruns⟩)]

theorem initReason?_eq_some_iff (hheld : ¬ pod.Passed c index) :
    pod.initReason? index c = some reason ↔
      c.state.HoldsUp s!"{index}/{pod.spec.initContainers.length}" reason := by
  constructor
  · intro h
    rcases hended : c.state.terminated with _ | t
    · by_cases hblocked : c.state.Blocked
      · have ⟨found, hwaits, hblocks⟩ := hblocked
        rw [initReason?_of_blocked hended hwaits hblocks] at h
        exact Option.some.inj h ▸ .waits hended hwaits hblocks
      · rw [initReason?_of_free hended hblocked, Option.ite_none_left_eq_some] at h
        exact Option.some.inj h.2 ▸ .unfinished hended hblocked
    · rw [initReason?_of_ended hended, Option.ite_none_left_eq_some] at h
      exact Option.some.inj h.2 ▸ .ended hended (TerminatedState.told_eq_iff.1 rfl)
  · rintro (⟨hended, htells⟩ | ⟨hended, hwaits, hblocks⟩ | ⟨hended, hfree⟩)
    · rw [initReason?_of_ended hended, if_neg fun hcode => hheld (.ended hended hcode),
        TerminatedState.told_eq_iff.2 htells]
    · exact initReason?_of_blocked hended hwaits hblocks
    · have hwaits : ¬ (pod.isSidecar index && c.state.running.isSome) = true := by
        intro hruns
        obtain ⟨⟨spec, hspec, hpolicy⟩, hrunning⟩ := isSidecar_and_isSome_iff.1 hruns
        exact hheld (.sidecar hspec hpolicy hended hrunning hfree)
      rw [initReason?_of_free hended hfree, if_neg hwaits]
      rfl

theorem initSummary?_eq (index : Nat) (cs : List ContainerStatus) :
    pod.initSummary? index cs = (cs.zipIdx index).findSome? fun p =>
      (pod.initReason? p.2 p.1).map fun reason => ⟨reason, p.1.lastMessage⟩ := by
  induction cs generalizing index with
  | nil => rfl
  | cons c cs ih =>
    rw [initSummary?, List.zipIdx_cons, List.findSome?_cons, ih]
    cases pod.initReason? index c <;> rfl

theorem initSummary?_eq_none_iff :
    pod.initSummary? 0 pod.status.initContainerStatuses = none ↔ pod.Initialized := by
  simp only [initSummary?_eq, List.findSome?_eq_none_iff, Option.map_eq_none_iff,
    initReason?_eq_none_iff, Initialized]

theorem initSummary?_eq_some_iff {s : PodSummary} :
    pod.initSummary? 0 pod.status.initContainerStatuses = some s ↔
      ∃ c index, pod.HeldUpBy c index ∧ ∃ reason,
        c.state.HoldsUp s!"{index}/{pod.spec.initContainers.length}" reason
        ∧ ⟨reason, c.lastMessage⟩ = s := by
  have hpassed (p : ContainerStatus × Nat) :
      ((pod.initReason? p.2 p.1).map fun reason => (⟨reason, p.1.lastMessage⟩ : PodSummary)) =
        none ↔ ¬ ¬ pod.Passed p.1 p.2 := by
    rw [Option.map_eq_none_iff, initReason?_eq_none_iff, not_not]
  rw [initSummary?_eq, findSome?_eq_some_iff_firstOf hpassed, Prod.exists]
  refine exists_congr fun c => exists_congr fun index => and_congr_right fun hfirst => ?_
  simp only [Option.map_eq_some_iff, initReason?_eq_some_iff hfirst.1]

/-- Of the pod itself only the init containers that it declares count. -/
theorem initSummary?_with_status (pod : Pod) (status : PodStatus) (index : Nat)
    (cs : List ContainerStatus) :
    { pod with status }.initSummary? index cs = pod.initSummary? index cs := by
  rw [initSummary?_eq, initSummary?_eq]
  rfl

end Init

section Containers

variable {pod : Pod} {reason : String}

/-- What one container does to what was seen of the containers after it. -/
theorem Seen.add_eq (seen : Seen) (c : ContainerStatus) : seen.add c =
    ⟨c.state.stop?.getD seen.reason, seen.message ++ c.remark, seen.running || c.runs⟩ := by
  unfold Seen.add ContainerStatus.remark ContainerStatus.runs ContainerState.stop?
  rcases hw : c.state.waiting.filter (fun w => !w.reason.isEmpty) with _ | w
  · rcases hended : c.state.terminated with _ | t
    · cases hruns : c.ready && c.state.running.isSome <;> simp [hw, hended, hruns]
    · by_cases hreason : t.reason = "" <;> simp [hw, hended, TerminatedState.told, hreason]
  · simp [hw]

/-- The containers are seen from the last to the first, so the first one has the last word. -/
theorem foldl_add_eq (cs : List ContainerStatus) (reason : String) :
    cs.reverse.foldl Seen.add ⟨reason, "", false⟩ =
      ⟨(cs.findSome? fun c => c.state.stop?).getD reason,
        String.join (cs.map ContainerStatus.remark).reverse, cs.any ContainerStatus.runs⟩ := by
  rw [List.foldl_reverse]
  induction cs with
  | nil => rfl
  | cons c cs ih =>
    rw [List.foldr_cons, ih, Seen.add_eq, List.findSome?_cons, List.map_cons, List.reverse_cons,
      String.join_append, List.any_cons, Bool.or_comm]
    cases c.state.stop? <;> simp

theorem any_runs_iff : pod.status.containerStatuses.any ContainerStatus.runs = true ↔
    pod.HasRunning := by
  simp only [List.any_eq_true, ContainerStatus.runs_iff, HasRunning]

theorem hasCondition_ready_iff : pod.hasCondition "Ready" "True" = true ↔ pod.IsReady := by
  simp only [hasCondition, List.any_eq_true, Bool.and_eq_true, beq_iff_eq, IsReady]

/-- The reason that the pod has, or else its phase. -/
def collected (pod : Pod) : String :=
  if pod.status.reason.isEmpty then pod.status.phase else pod.status.reason

/-- What the first stopped container says, or else the given reason. -/
def stopReason (pod : Pod) (reason : String) : String :=
  (pod.status.containerStatuses.findSome? fun c => c.state.stop?).getD reason

/-- The reason, unless the pod only seems to be completed. -/
def corrected (pod : Pod) (reason : String) : String :=
  if reason == "Completed" && pod.status.containerStatuses.any ContainerStatus.runs then
    if pod.hasCondition "Ready" "True" then "Running" else "NotReady"
  else reason

theorem findSome?_stop?_eq_some_iff :
    (pod.status.containerStatuses.findSome? fun c => c.state.stop?) = some reason ↔
      ∃ c, FirstOf (fun c => c.state.Stopped) pod.status.containerStatuses c
        ∧ c.state.StopsFor reason := by
  rw [findSome?_eq_some_iff_firstOf fun c : ContainerStatus => c.state.stop?_eq_none_iff]
  simp only [ContainerState.stop?_eq_some_iff]

theorem stopReason_of_none (hnone : ∀ c ∈ pod.status.containerStatuses, ¬ c.state.Stopped)
    (reason : String) : pod.stopReason reason = reason := by
  have hfind : (pod.status.containerStatuses.findSome? fun c => c.state.stop?) = none :=
    List.findSome?_eq_none_iff.2 fun c hc => ContainerState.stop?_eq_none_iff.2 (hnone c hc)
  rw [stopReason, hfind, Option.getD_none]

theorem stopReason_collected_eq_iff : pod.stopReason pod.collected = reason ↔ pod.Finds reason := by
  constructor
  · rintro rfl
    rcases hfind : pod.status.containerStatuses.findSome? fun c => c.state.stop? with _ | found
    · have hnone : ∀ c ∈ pod.status.containerStatuses, ¬ c.state.Stopped := fun c hc =>
        ContainerState.stop?_eq_none_iff.1 (List.findSome?_eq_none_iff.1 hfind c hc)
      rw [stopReason_of_none hnone]
      unfold collected
      split_ifs with hreason
      · exact .phase hnone (String.isEmpty_iff.1 hreason)
      · exact .own hnone (by simpa using hreason)
    · obtain ⟨c, hfirst, hstops⟩ := findSome?_stop?_eq_some_iff.1 hfind
      rw [stopReason, hfind, Option.getD_some]
      exact .container hfirst hstops
  · rintro (⟨hfirst, hstops⟩ | ⟨hnone, hreason⟩ | ⟨hnone, hreason⟩)
    · rw [stopReason, findSome?_stop?_eq_some_iff.2 ⟨_, hfirst, hstops⟩, Option.getD_some]
    · rw [stopReason_of_none hnone, collected, if_neg (by simpa using hreason)]
    · rw [stopReason_of_none hnone, collected, if_pos (String.isEmpty_iff.2 hreason)]

theorem corrected_eq_iff {found : String} :
    pod.corrected found = reason ↔ pod.Corrects found reason := by
  have hcorrect : (found == "Completed" &&
      pod.status.containerStatuses.any ContainerStatus.runs) = true ↔
        found = "Completed" ∧ pod.HasRunning := by
    rw [Bool.and_eq_true, beq_iff_eq, any_runs_iff]
  unfold corrected
  constructor
  · rintro rfl
    split_ifs with hcompleted hready
    · obtain ⟨rfl, hruns⟩ := hcorrect.1 hcompleted
      exact .running hruns (hasCondition_ready_iff.1 hready)
    · obtain ⟨rfl, hruns⟩ := hcorrect.1 hcompleted
      exact .notReady hruns fun h => hready (hasCondition_ready_iff.2 h)
    · exact .kept fun h hruns => hcompleted (hcorrect.2 ⟨h, hruns⟩)
  · rintro (⟨hruns, hready⟩ | ⟨hruns, hready⟩ | hkept)
    · rw [if_pos (hcorrect.2 ⟨rfl, hruns⟩), if_pos (hasCondition_ready_iff.2 hready)]
    · rw [if_pos (hcorrect.2 ⟨rfl, hruns⟩),
        if_neg fun h => hready (hasCondition_ready_iff.1 h)]
    · rw [if_neg fun h => hkept (hcorrect.1 h).1 (hcorrect.1 h).2]

theorem containerSummary_eq (pod : Pod) (reason : String) : pod.containerSummary reason =
    ⟨pod.corrected (pod.stopReason reason),
      String.join (pod.status.containerStatuses.map ContainerStatus.remark).reverse ++
        String.join ((pod.status.conditions.filter fun c => c.kind = "PodScheduled" ∧
          c.status = "False").map PodCondition.message)⟩ := by
  have hunscheduled : (fun c : PodCondition => decide (c.kind = "PodScheduled" ∧
      c.status = "False")) = fun c => c.kind == "PodScheduled" && c.status == "False" := by
    funext c
    rw [Bool.decide_and]
    rfl
  rw [hunscheduled]
  simp only [containerSummary, foldl_add_eq]
  rfl

end Containers

section Summary

variable {pod : Pod} {s : PodSummary}

/-- The summary before deletion is looked at. -/
def shown (pod : Pod) : PodSummary :=
  (pod.initSummary? 0 pod.status.initContainerStatuses).getD (pod.containerSummary pod.collected)

theorem summary_eq (pod : Pod) : pod.summary =
    if pod.metadata.deletionTimestamp.isSome then
      ⟨if pod.status.reason == "NodeLost" then "Unknown" else "Terminating", pod.shown.message⟩
    else pod.shown := rfl

theorem shown_eq_iff_shows : pod.shown = s ↔ pod.Shows s := by
  constructor
  · rintro rfl
    unfold shown
    rcases hinit : pod.initSummary? 0 pod.status.initContainerStatuses with _ | found
    · rw [Option.getD_none, containerSummary_eq]
      exact .initialized (initSummary?_eq_none_iff.1 hinit) (stopReason_collected_eq_iff.1 rfl)
        (corrected_eq_iff.1 rfl) (ContainerStatus.forall₂_remarks_iff.2 rfl)
    · obtain ⟨c, index, hfirst, reason, hreason, rfl⟩ := initSummary?_eq_some_iff.1 hinit
      exact .heldUp hfirst hreason
  · rintro (⟨hfirst, hreason⟩ | ⟨hpassed, hfound, hreason, hremarks⟩)
    · rw [shown, initSummary?_eq_some_iff.2 ⟨_, _, hfirst, _, hreason, rfl⟩, Option.getD_some]
    · rw [shown, initSummary?_eq_none_iff.2 hpassed, Option.getD_none, containerSummary_eq,
        stopReason_collected_eq_iff.2 hfound, corrected_eq_iff.2 hreason,
        ContainerStatus.forall₂_remarks_iff.1 hremarks]

theorem summary_eq_iff : pod.summary = s ↔ pod.Reports s := by
  rw [summary_eq]
  constructor
  · rintro rfl
    have hshown : pod.Shows pod.shown := shown_eq_iff_shows.1 rfl
    split_ifs with hdeleted hreason
    · exact .lost (Option.isSome_iff_ne_none.1 hdeleted) (eq_of_beq hreason) hshown
    · exact .terminating (Option.isSome_iff_ne_none.1 hdeleted) (by simpa using hreason) hshown
    · exact .kept (by simpa using hdeleted) hshown
  · rintro (⟨hdeleted, h⟩ | ⟨hdeleted, hreason, h⟩ | ⟨hdeleted, hreason, h⟩)
    · rw [if_neg (by simp [hdeleted]), shown_eq_iff_shows.2 h]
    · rw [if_pos (Option.isSome_iff_ne_none.2 hdeleted), if_neg (by simpa using hreason),
        shown_eq_iff_shows.2 h]
    · rw [if_pos (Option.isSome_iff_ne_none.2 hdeleted), if_pos (by simpa using hreason),
        shown_eq_iff_shows.2 h]

end Summary

/-- The summary of a pod is what the first container says that holds it up, or else what its first
stopped container says. What holds a pod up says it alone: nothing else about the state of the pod
but its deletion and its own reason makes a difference. -/
theorem summary_eq_iff_reports (pod : Pod) : (∀ s, pod.summary = s ↔ pod.Reports s)
    ∧ ∀ c index, pod.HeldUpBy c index → ∀ status : PodStatus,
      status.initContainerStatuses = pod.status.initContainerStatuses →
      status.reason = pod.status.reason → { pod with status }.summary = pod.summary := by
  refine ⟨fun s => summary_eq_iff, fun c index hfirst status hinit hreason => ?_⟩
  -- of a pod that is held up only what its init containers tell is shown
  rcases hheld : pod.initSummary? 0 pod.status.initContainerStatuses with _ | found
  · have hpassed := initSummary?_eq_none_iff.1 hheld
    obtain ⟨hnot, before, after, heq, -⟩ := hfirst
    exact absurd (hpassed (c, index) (by simp [heq])) hnot
  · have hheld' : { pod with status }.initSummary? 0 status.initContainerStatuses = some found := by
      rw [hinit, initSummary?_with_status, hheld]
    have hshown : { pod with status }.shown = pod.shown := by
      rw [shown, shown, hheld, hheld', Option.getD_some, Option.getD_some]
    simp only [summary_eq, hshown, hreason]

section Sample

/-- An init container that was killed after it had failed before. -/
def killedMigration : ContainerStatus where
  name := "migrate"
  state := { terminated := some { exitCode := 137, signal := 9 } }
  lastState := { terminated := some { exitCode := 1, message := "no schema" } }

/-- A pod with an init container that ended well, a sidecar, and one that was killed. -/
def migratingPod : Pod where
  spec := { initContainers := [{ name := "setup" },
    { name := "proxy", restartPolicy := some "Always" }, { name := "migrate" }] }
  status :=
    { phase := "Pending"
      initContainerStatuses := [{ state := { terminated := some {} } },
        { state := { running := some {} } }, killedMigration]
      containerStatuses := [{ state := { waiting := some { reason := "PodInitializing" } } }] }

/-- What the same pod could tell if its containers had come up. -/
def migratingStatus : PodStatus :=
  { migratingPod.status with
    phase := "Succeeded"
    conditions := [{ kind := "PodScheduled", status := "False", message := "no node" }]
    containerStatuses := [{ ready := true, state := { running := some {} } }] }

theorem heldUpBy_killedMigration : migratingPod.HeldUpBy killedMigration 2 := by
  refine ⟨?_, migratingPod.status.initContainerStatuses.zipIdx.take 2, [], rfl, ?_⟩
  · rintro (⟨hended, hcode⟩ | ⟨-, -, hended, -, -⟩)
    · cases hended
      cases hcode
    · cases hended
  · rintro ⟨c, index⟩ hc
    rw [not_not]
    simp only [migratingPod, List.zipIdx_cons, List.take_succ_cons, List.take_zero, List.mem_cons,
      Prod.mk.injEq, List.not_mem_nil, or_false] at hc
    obtain ⟨rfl, rfl⟩ | ⟨rfl, rfl⟩ := hc
    · exact .ended rfl rfl
    · refine .sidecar rfl rfl rfl nofun ?_
      rintro ⟨reason, ⟨-, w, hw, -⟩, -⟩
      cases hw

theorem summary_of_migratingPod :
    migratingPod.Reports ⟨"Init:Signal:9", "no schema"⟩
    ∧ migratingPod.HeldUpBy killedMigration 2
    ∧ { migratingPod with status := migratingStatus }.summary =
      ⟨"Init:Signal:9", "no schema"⟩ := by
  have hsummary : migratingPod.summary = ⟨"Init:Signal:9", "no schema"⟩ := by decide +kernel
  have ⟨hreports, hheld⟩ := summary_eq_iff_reports migratingPod
  refine ⟨(hreports _).1 hsummary, heldUpBy_killedMigration, ?_⟩
  rw [← hsummary]
  exact hheld killedMigration 2 heldUpBy_killedMigration migratingStatus rfl rfl

end Sample

end Pod

end Triage.Cluster
