import Triage.Proofs.KeptEvents
import Triage.Proofs.PodReasons

/-!
# A pod with its reason written down

A pod without a reason gets the one of its summary before rules are tried on it. Its summary then
gives this reason once more, and the pod is as healthy as it was
(`isUnhealthy_told_summary_reason`).
-/

namespace Triage

open Cluster

namespace Cluster.Pod

variable {pod : Pod} {reason : String}

/-- The pod with a reason and a message. -/
def told (pod : Pod) (reason message : String) : Pod :=
  { pod with status := { pod.status with reason, message } }

theorem corrected_corrected (pod : Pod) (reason : String) :
    pod.corrected (pod.corrected reason) = pod.corrected reason := by
  have hcorrects : pod.Corrects reason (pod.corrected reason) := corrected_eq_iff.1 rfl
  rw [corrected_eq_iff]
  generalize pod.corrected reason = reason' at hcorrects
  rcases hcorrects with _ | _ | hkept
  · exact .kept (by simp)
  · exact .kept (by simp)
  · exact .kept hkept

/-- Writing down what the containers of a pod give does not change what they give. -/
theorem corrected_stopReason_again (pod : Pod) (reason : String) :
    pod.corrected (pod.stopReason (pod.corrected (pod.stopReason reason))) =
      pod.corrected (pod.stopReason reason) := by
  unfold stopReason
  cases pod.status.containerStatuses.findSome? fun c => c.state.stop? with
  | none => exact corrected_corrected pod reason
  | some found => rfl

theorem shown_told (pod : Pod) (reason message : String) : (pod.told reason message).shown =
    (pod.initSummary? 0 pod.status.initContainerStatuses).getD
      (pod.containerSummary (if reason.isEmpty then pod.status.phase else reason)) := by
  rw [shown, told, initSummary?_with_status]
  rfl

theorem shown_reason_told (hreason : pod.status.reason = "") (message : String) :
    (pod.told pod.shown.reason message).shown.reason = pod.shown.reason := by
  have hcollected : pod.collected = pod.status.phase := by simp [collected, hreason]
  rw [shown_told, shown, hcollected]
  cases pod.initSummary? 0 pod.status.initContainerStatuses with
  | some found => rfl
  | none =>
    simp only [Option.getD_none, containerSummary_eq]
    split_ifs with hempty
    · rfl
    · exact corrected_stopReason_again pod pod.status.phase

theorem summary_reason_told (hreason : pod.status.reason = "") (message : String) :
    (pod.told pod.summary.reason message).summary.reason = pod.summary.reason := by
  simp only [summary_eq, hreason]
  rcases hdeleted : pod.metadata.deletionTimestamp with _ | time
  · have hdeleted' : (pod.told pod.shown.reason message).metadata.deletionTimestamp = none :=
      hdeleted
    simp only [hdeleted', Option.isSome_none, Bool.false_eq_true, if_false]
    exact shown_reason_told hreason message
  · simp [told, hdeleted]

/-- The message is not looked at. -/
theorem summary_told_own_reason (pod : Pod) (message : String) :
    (pod.told pod.status.reason message).summary = pod.summary := by
  have hshown : (pod.told pod.status.reason message).shown = pod.shown := shown_told pod _ message
  rw [summary_eq, summary_eq, hshown]
  rfl

theorem isUnhealthy_told {message : String}
    (h : (pod.told reason message).summary.reason = pod.summary.reason) :
    (pod.told reason message).isUnhealthy = pod.isUnhealthy := by
  unfold isUnhealthy
  rw [h]
  rfl

theorem isUnhealthy_explained (pod : Pod) : pod.explained.isUnhealthy = pod.isUnhealthy := by
  unfold explained
  split
  · rfl
  · rename_i hreason
    have hreason' : pod.status.reason = "" := by simpa using hreason
    exact isUnhealthy_told (summary_reason_told hreason' pod.summary.message)

end Cluster.Pod

namespace WithEvents

variable {store : EvidenceStore} {pod full : Pod} {cache after : EventCache}

theorem told_of_withMessage (h : (withMessage store pod).run cache = .ok (full, after)) :
    ∃ message, full = pod.told pod.status.reason message := by
  unfold withMessage at h
  split at h
  · cases h
    exact ⟨_, rfl⟩
  · rw [StateT.run_bind, bind_eq_ok] at h
    obtain ⟨⟨events, read⟩, -, h⟩ := h
    cases h
    exact ⟨_, rfl⟩

end WithEvents

/-- A pod without a reason keeps the reason of its summary and its health when this reason is
written down, with any message. So a rule that asks whether a pod is healthy gets the answer that
holds of the pod as it was collected. -/
theorem Cluster.Pod.isUnhealthy_told_summary_reason (pod : Pod) :
    (pod.status.reason = "" → ∀ message,
      (pod.told pod.summary.reason message).summary.reason = pod.summary.reason
      ∧ (pod.told pod.summary.reason message).isUnhealthy = pod.isUnhealthy)
    ∧ ∀ (store : EvidenceStore) (cache after : EventCache) (full : Pod),
      (WithEvents.withMessage store pod.explained).run cache = .ok (full, after) →
      ∀ negated, (Clause.PodTest.healthy negated).holds full = (pod.isUnhealthy == negated) := by
  constructor
  · intro hreason message
    have hsummary := summary_reason_told hreason message
    exact ⟨hsummary, isUnhealthy_told hsummary⟩
  · intro store cache after full hrun negated
    obtain ⟨message, rfl⟩ := WithEvents.told_of_withMessage hrun
    have hsummary := summary_told_own_reason pod.explained message
    have hhealth := isUnhealthy_told (congrArg PodSummary.reason hsummary)
    rw [Clause.PodTest.holds, hhealth, isUnhealthy_explained]

section Sample

/-- A pod with a container that is done and one that goes on. -/
def halfDonePod : Pod where
  status :=
    { phase := "Running"
      conditions := [{ kind := "Ready", status := "True" }]
      containerStatuses :=
        [{ state := { terminated := some { reason := "Completed" } } },
         { ready := true, state := { running := some {} } }] }

theorem isUnhealthy_halfDonePod : halfDonePod.status.reason = ""
    ∧ (halfDonePod.told "Running" "done").summary.reason = "Running"
    ∧ (halfDonePod.told "Running" "done").isUnhealthy = true
    ∧ (WithEvents.withMessage (MemoryStore.ofList []).toStore halfDonePod.explained).run [] =
      .ok (halfDonePod.told "Running" "ExitCode:0", [])
    ∧ (Clause.PodTest.healthy true).holds (halfDonePod.told "Running" "ExitCode:0") = true := by
  have hreason : halfDonePod.summary.reason = "Running" := by decide +kernel
  have hhealth : halfDonePod.isUnhealthy = true := by decide +kernel
  have hrun :
      (WithEvents.withMessage (MemoryStore.ofList []).toStore halfDonePod.explained).run [] =
        .ok (halfDonePod.told "Running" "ExitCode:0", []) := by
    decide +kernel
  obtain ⟨htold, hasked⟩ := Cluster.Pod.isUnhealthy_told_summary_reason halfDonePod
  obtain ⟨hsummary, hunhealthy⟩ := htold rfl "done"
  rw [hreason] at hsummary hunhealthy
  refine ⟨rfl, hsummary, hunhealthy.trans hhealth, hrun, ?_⟩
  rw [hasked _ _ _ _ hrun, hhealth]
  rfl

end Sample

end Triage
