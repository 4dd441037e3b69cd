import Triage.Cluster.PodSummary
import Triage.Proofs.Success

/-!
# What stopped containers say

A container is stopped when it waits for a reason or has ended. What it says then, and what it adds
to the message of its pod, is said here by rules (`ContainerState.StopsFor`,
`ContainerStatus.Remarks`), each with the function that follows them.
-/

namespace Triage.Cluster

namespace TerminatedState

variable {t : TerminatedState} {reason : String}

/-- Why a container ended: its reason, else the signal that ended it, else its exit code. -/
inductive Tells (t : TerminatedState) : String → Prop
  | reason (hreason : t.reason ≠ "") : t.Tells t.reason
  | signal (hreason : t.reason = "") (hsignal : t.signal ≠ 0) : t.Tells s!"Signal:{t.signal}"
  | exitCode (hreason : t.reason = "") (hsignal : t.signal = 0) :
    t.Tells s!"ExitCode:{t.exitCode}"

/-- The reason of a container that ended. -/
def told (t : TerminatedState) : String :=
  if t.reason.isEmpty then Pod.exitReason t else t.reason

theorem told_eq_iff : t.told = reason ↔ t.Tells reason := by
  simp only [told, Pod.exitReason, String.isEmpty_iff]
  constructor
  · rintro rfl
    split_ifs with hreason hsignal
    · exact .signal hreason hsignal
    · exact .exitCode hreason (not_not.1 hsignal)
    · exact .reason hreason
  · rintro (hreason | ⟨hreason, hsignal⟩ | ⟨hreason, hsignal⟩)
    · rw [if_neg hreason]
    · rw [if_pos hreason, if_pos hsignal]
    · rw [if_pos hreason, if_neg (not_not.2 hsignal)]

end TerminatedState

namespace ContainerState

variable {s : ContainerState} {reason : String}

/-- The container waits, and says what for. -/
def WaitsFor (s : ContainerState) (reason : String) : Prop :=
  reason ≠ "" ∧ ∃ w, s.waiting = some w ∧ w.reason = reason

/-- The container waits for more than its turn. -/
def Blocked (s : ContainerState) : Prop := ∃ reason, s.WaitsFor reason ∧ reason ≠ "PodInitializing"

/-- The container waits for a reason or has ended. -/
def Stopped (s : ContainerState) : Prop := (∃ reason, s.WaitsFor reason) ∨ s.terminated ≠ none

/-- What a stopped container says: what it waits for, else why it ended. -/
inductive StopsFor (s : ContainerState) : String → Prop
  | waits {reason : String} (hwaits : s.WaitsFor reason) : s.StopsFor reason
  | ended {t : TerminatedState} {reason : String} (hfree : ∀ reason, ¬ s.WaitsFor reason)
    (hended : s.terminated = some t) (htells : t.Tells reason) : s.StopsFor reason

/-- What an init container says that holds its pod up, where `place` is its place among them. -/
inductive HoldsUp (s : ContainerState) (place : String) : String → Prop
  | ended {t : TerminatedState} {reason : String} (hended : s.terminated = some t)
    (htells : t.Tells reason) : s.HoldsUp place s!"Init:{reason}"
  | waits {reason : String} (hended : s.terminated = none) (hwaits : s.WaitsFor reason)
    (hblocks : reason ≠ "PodInitializing") : s.HoldsUp place s!"Init:{reason}"
  | unfinished (hended : s.terminated = none) (hfree : ¬ s.Blocked) :
    s.HoldsUp place s!"Init:{place}"

theorem waitsFor_iff : s.WaitsFor reason ↔
    ∃ w, (s.waiting.filter fun w => !w.reason.isEmpty) = some w ∧ w.reason = reason := by
  simp only [WaitsFor, Option.filter_eq_some_iff]
  constructor
  · rintro ⟨hne, w, hw, rfl⟩
    exact ⟨w, ⟨hw, by simpa using hne⟩, rfl⟩
  · rintro ⟨w, ⟨hw, hne⟩, rfl⟩
    exact ⟨by simpa using hne, w, hw, rfl⟩

theorem filter_waiting_eq_none_iff : (s.waiting.filter fun w => !w.reason.isEmpty) = none ↔
    ∀ reason, ¬ s.WaitsFor reason := by
  simp only [waitsFor_iff, not_exists, not_and, Option.eq_none_iff_forall_ne_some, ne_eq]
  exact ⟨fun h _ w hw _ => h w hw, fun h w hw => h _ w hw rfl⟩

/-- What a container says, if it is stopped. -/
def stop? (s : ContainerState) : Option String :=
  match s.waiting.filter fun w => !w.reason.isEmpty with
  | some w => some w.reason
  | none => s.terminated.map TerminatedState.told

theorem stop?_of_waitsFor (h : s.WaitsFor reason) : s.stop? = some reason := by
  obtain ⟨w, hw, rfl⟩ := waitsFor_iff.1 h
  simp only [stop?, hw]

theorem stop?_of_free (h : ∀ reason, ¬ s.WaitsFor reason) :
    s.stop? = s.terminated.map TerminatedState.told := by
  simp only [stop?, filter_waiting_eq_none_iff.2 h]

theorem stop?_eq_none_iff : s.stop? = none ↔ ¬ s.Stopped := by
  by_cases hwaits : ∃ reason, s.WaitsFor reason
  · obtain ⟨reason, hreason⟩ := hwaits
    rw [stop?_of_waitsFor hreason]
    exact ⟨nofun, fun h => absurd (.inl ⟨reason, hreason⟩) h⟩
  · rw [stop?_of_free (not_exists.1 hwaits), Option.map_eq_none_iff, Stopped, or_iff_right hwaits,
      not_not]

theorem stop?_eq_some_iff : s.stop? = some reason ↔ s.StopsFor reason := by
  constructor
  · intro h
    by_cases hwaits : ∃ reason, s.WaitsFor reason
    · obtain ⟨reason', hreason⟩ := hwaits
      rw [stop?_of_waitsFor hreason] at h
      exact Option.some.inj h ▸ .waits hreason
    · have hfree := not_exists.1 hwaits
      rw [stop?_of_free hfree] at h
      obtain ⟨t, hended, htold⟩ := Option.map_eq_some_iff.1 h
      exact .ended hfree hended (TerminatedState.told_eq_iff.1 htold)
  · rintro (hwaits | ⟨hfree, hended, htells⟩)
    · exact stop?_of_waitsFor hwaits
    · rw [stop?_of_free hfree, hended, Option.map_some, TerminatedState.told_eq_iff.2 htells]

end ContainerState

namespace ContainerStatus

variable {c : ContainerStatus} {reason text : String}

def Runs (c : ContainerStatus) : Prop :=
  c.ready = true ∧ c.state.running ≠ none ∧ ¬ c.state.Stopped

/-- The message with which the container ended before it was restarted. -/
def lastMessage (c : ContainerStatus) : String :=
  (c.lastState.terminated.map TerminatedState.message).getD ""

/-- What a container adds to the message of its pod. -/
inductive Remarks (c : ContainerStatus) : String → Prop
  | restarted {reason : String} {t : TerminatedState} (hwaits : c.state.WaitsFor reason)
    (hlast : c.lastState.terminated = some t) (hmessage : t.message ≠ "") : c.Remarks t.message
  | failed {reason : String} {t : TerminatedState} (hwaits : c.state.WaitsFor reason)
    (hlast : c.lastState.terminated = some t) (hmessage : t.message = "") :
    c.Remarks s!"ExitCode:{t.exitCode}"
  | started {reason : String} (hwaits : c.state.WaitsFor reason)
    (hlast : c.lastState.terminated = none) : c.Remarks ""
  | ended {t : TerminatedState} (hfree : ∀ reason, ¬ c.state.WaitsFor reason)
    (hended : c.state.terminated = some t) (hreason : t.reason ≠ "") :
    c.Remarks s!"ExitCode:{t.exitCode}"
  | silent (hfree : ∀ reason, ¬ c.state.WaitsFor reason)
    (hended : ∀ t, c.state.terminated = some t → t.reason = "") : c.Remarks ""

/-- What a container adds to the message of its pod. -/
def remark (c : ContainerStatus) : String :=
  match c.state.waiting.filter fun w => !w.reason.isEmpty with
  | some _ => Pod.lastExit c
  | none =>
    match c.state.terminated with
    | some t => if t.reason.isEmpty then "" else s!"ExitCode:{t.exitCode}"
    | none => ""

def runs (c : ContainerStatus) : Bool :=
  c.ready && c.state.running.isSome && c.state.stop?.isNone

theorem runs_iff : c.runs = true ↔ c.Runs := by
  simp only [runs, Runs, Bool.and_eq_true, Option.isSome_iff_ne_none, Option.isNone_iff_eq_none,
    ContainerState.stop?_eq_none_iff, and_assoc]

theorem remark_of_waitsFor (h : c.state.WaitsFor reason) : c.remark = Pod.lastExit c := by
  obtain ⟨w, hw, -⟩ := ContainerState.waitsFor_iff.1 h
  simp only [remark, hw]

theorem remark_of_free (h : ∀ reason, ¬ c.state.WaitsFor reason) : c.remark =
    match c.state.terminated with
    | some t => if t.reason.isEmpty then "" else s!"ExitCode:{t.exitCode}"
    | none => "" := by
  simp only [remark, ContainerState.filter_waiting_eq_none_iff.2 h]

theorem remarks_lastExit (hwaits : c.state.WaitsFor reason) : c.Remarks (Pod.lastExit c) := by
  unfold Pod.lastExit
  split
  · rename_i hlast
    exact .started hwaits hlast
  · rename_i t hlast
    split_ifs with hmessage
    · exact .failed hwaits hlast (String.isEmpty_iff.1 hmessage)
    · exact .restarted hwaits hlast (by simpa using hmessage)

theorem remarks_remark (c : ContainerStatus) : c.Remarks c.remark := by
  by_cases hwaits : ∃ reason, c.state.WaitsFor reason
  · obtain ⟨reason, hreason⟩ := hwaits
    exact remark_of_waitsFor hreason ▸ remarks_lastExit hreason
  · have hfree := not_exists.1 hwaits
    rw [remark_of_free hfree]
    split
    · rename_i t hended
      split_ifs with hreason
      · refine .silent hfree fun t' hended' => ?_
        rw [← Option.some.inj (hended.symm.trans hended'), String.isEmpty_iff.1 hreason]
      · exact .ended hfree hended (by simpa using hreason)
    · rename_i hended
      exact .silent hfree (by simp [hended])

theorem remark_eq_iff : c.remark = text ↔ c.Remarks text := by
  constructor
  · rintro rfl
    exact remarks_remark c
  · rintro (⟨hwaits, hlast, hmessage⟩ | ⟨hwaits, hlast, hmessage⟩ | ⟨hwaits, hlast⟩ |
      ⟨hfree, hended, hreason⟩ | ⟨hfree, hended⟩)
    · simp [remark_of_waitsFor hwaits, Pod.lastExit, hlast, hmessage]
    · simp [remark_of_waitsFor hwaits, Pod.lastExit, hlast, hmessage]
    · simp [remark_of_waitsFor hwaits, Pod.lastExit, hlast]
    · simp [remark_of_free hfree, hended, hreason]
    · rw [remark_of_free hfree]
      split
      · rename_i t ht
        simp [hended t ht]
      · rfl

theorem forall₂_remarks_iff {cs : List ContainerStatus} {texts : List String} :
    List.Forall₂ Remarks cs texts ↔ cs.map remark = texts := by
  have hremarks : Remarks = fun c text => c.remark = text := by
    funext c text
    exact propext remark_eq_iff.symm
  rw [hremarks, forall₂_eq_map]

end ContainerStatus

end Triage.Cluster
