import Triage.Proofs.PodReports

/-!
# Outcomes of pod checks that are not well formed

An outcome that has no verdict, or whose clause asks nothing of a pod, has no part in a check: the
check ends as it does without the outcome (`analyze_wellFormed`). All that comes of it is one
warning, however many pods there are.
-/

namespace Triage

open Cluster

namespace Outcome

/-- No place of the outcome is filled, or its clause asks nothing of a pod. -/
inductive Malformed (o : Outcome) : Prop
  | empty (hempty : ∀ v, o.place v = none)
  | unreadable {verdict : Verdict} {candidate : Candidate} {error : Clause.PodTestError}
    (htakes : o.Takes verdict candidate)
    (hclause : Clause.PodTest.parse candidate.when = .error error)

/-- What is said of an outcome that is not well formed and stands at an index. -/
inductive Complains (o : Outcome) (index : Nat) : String → Prop
  | empty (hempty : ∀ v, o.place v = none) :
    o.Complains index s!"outcome {index} has no verdict populated; skipped"
  | unreadable {verdict : Verdict} {candidate : Candidate} {error : Clause.PodTestError}
    (htakes : o.Takes verdict candidate)
    (hclause : Clause.PodTest.parse candidate.when = .error error) :
    o.Complains index s!"outcome {index} skipped: {error.message}"

theorem Complains.malformed {o : Outcome} {index : Nat} {reason : String}
    (h : o.Complains index reason) : o.Malformed := by
  rcases h with hempty | ⟨htakes, hclause⟩
  · exact .empty hempty
  · exact .unreadable htakes hclause

end Outcome

namespace PodRule

variable {o : Outcome} {reason : String}

theorem complains_of_ofOutcome {index : Nat} (h : ofOutcome index o = .error reason) :
    o.Complains index reason := by
  unfold ofOutcome at h
  split at h
  · rename_i hchosen
    cases h
    exact .empty (Outcome.chosen?_eq_none_iff.1 hchosen)
  · rename_i verdict candidate hchosen
    split at h
    · cases h
    · rename_i error hclause
      cases h
      exact .unreadable (Outcome.chosen?_eq_some_iff.1 hchosen) hclause

theorem ofOutcome?_eq_none_iff : ofOutcome? o = none ↔ o.Malformed := by
  unfold ofOutcome?
  constructor
  · intro h
    rcases hrule : ofOutcome 0 o with reason | rule
    · exact (complains_of_ofOutcome hrule).malformed
    · rw [hrule] at h
      cases h
  · rintro (hempty | ⟨htakes, hclause⟩)
    · simp [ofOutcome, Outcome.chosen?_eq_none_iff.2 hempty, Except.toOption]
    · simp [ofOutcome, Outcome.chosen?_eq_some_iff.2 htakes, hclause, Except.toOption]

instance : DecidablePred Outcome.Malformed := fun o =>
  decidable_of_iff (ofOutcome? o = none) ofOutcome?_eq_none_iff

theorem ofOutcomes_fst_wellFormed (outcomes : List Outcome) :
    (ofOutcomes (outcomes.filter fun o => ¬ o.Malformed)).1 = (ofOutcomes outcomes).1 := by
  rw [ofOutcomes_fst, ofOutcomes_fst, List.filterMap_filter]
  refine List.filterMap_congr fun o _ => ?_
  split_ifs with h
  · rfl
  · exact (ofOutcome?_eq_none_iff.2 (by simpa using h)).symm

/-- There is one complaint about each outcome that is not well formed, in their order. -/
theorem forall₂_complains (outcomes : List Outcome) :
    List.Forall₂ (fun p reason => p.1.Complains p.2 reason)
      (outcomes.zipIdx.filter fun p => p.1.Malformed) (ofOutcomes outcomes).2 := by
  unfold ofOutcomes
  -- the index of an outcome is counted from another start in the rest of the list
  generalize 0 = index
  induction outcomes generalizing index with
  | nil => exact .nil
  | cons o outcomes ih =>
    simp only [List.zipIdx_cons, List.map_cons, List.foldr_cons, List.filter_cons]
    rcases hrule : ofOutcome index o with reason | rule
    · have hcomplains := complains_of_ofOutcome hrule
      rw [if_pos (by simpa using hcomplains.malformed)]
      exact .cons hcomplains (ih (index + 1))
    · have hwell : ¬ o.Malformed := by
        rw [← ofOutcome?_eq_none_iff, ← toOption_ofOutcome index, hrule]
        simp [Except.toOption]
      rw [if_neg (by simpa using hwell)]
      exact ih (index + 1)

theorem ofOutcomes_snd_wellFormed (outcomes : List Outcome) :
    (ofOutcomes (outcomes.filter fun o => ¬ o.Malformed)).2 = [] := by
  have hcomplains := forall₂_complains (outcomes.filter fun o => ¬ o.Malformed)
  have hnone : ((outcomes.filter fun o => ¬ o.Malformed).zipIdx.filter fun p => p.1.Malformed) =
      [] := by
    rw [List.filter_eq_nil_iff]
    rintro ⟨o, index⟩ hmem
    have ho := List.fst_mem_of_mem_zipIdx hmem
    simpa using (List.mem_filter.1 ho).2
  rw [hnone] at hcomplains
  exact List.forall₂_nil_left_iff.1 hcomplains

end PodRule

namespace PodCheck

/-- The check with those of its outcomes that are well formed. -/
def wellFormed (check : PodCheck) : PodCheck :=
  { check with outcomes := check.outcomes.filter fun o => ¬ o.Malformed }

variable (check : PodCheck) (store : EvidenceStore)

theorem reportFileAlone_wellFormed (file : FoundFile) :
    check.wellFormed.reportFileAlone store file = check.reportFileAlone store file := by
  simp only [reportFileAlone, reportAlone, wellFormed, PodRule.ofOutcomes_fst_wellFormed]
  rfl

theorem complaints_wellFormed : check.wellFormed.complaints = [] := by
  simp only [complaints, wellFormed, PodRule.ofOutcomes_snd_wellFormed, List.map_nil]

/-- Without the outcomes that are not well formed a check fails as it did or finds what it found. It
has no warnings then, and those it had are one for each such outcome, in their order. -/
theorem analyze_wellFormed :
    check.wellFormed.analyze store =
      (check.analyze store).map (fun output => { output with warnings := [] })
    ∧ ∀ output, check.analyze store = .ok output →
      List.Forall₂ (fun p warning => warning.subject = check.shared.title "Cluster Pod Status"
          ∧ p.1.Complains p.2 warning.message)
        (check.outcomes.zipIdx.filter fun p => p.1.Malformed) output.warnings := by
  constructor
  · change _ = (fun output : Output => { output with warnings := [] }) <$> check.analyze store
    have hfiles : check.wellFormed.reportFileAlone store = check.reportFileAlone store :=
      funext (reportFileAlone_wellFormed check store)
    rw [analyze_eq, analyze_eq]
    simp only [map_bind, map_pure, complaints_wellFormed, hfiles]
    rfl
  · intro output houtput
    obtain ⟨strict, files, results, -, -, -, rfl⟩ := analyze_eq_ok.1 houtput
    have hcomplains := PodRule.forall₂_complains check.outcomes
    refine List.forall₂_map_right_iff.2 (hcomplains.imp fun p reason h => ⟨rfl, h⟩)

section Sample

/-- A check with one outcome that is well formed among three that are not. -/
def brokenCheck : PodCheck where
  shared := { checkName := "pending pods" }
  namespaces := ["apps"]
  outcomes := [{}, { fail := some { when := "Pending" } },
    { fail := some { when := "== Pending", message := "waits" } },
    { warn := some { when := "> Pending" } }]

theorem analyze_wellFormed_of_brokenCheck :
    brokenCheck.wellFormed.analyze pendingPods =
      .ok ⟨[pendingResult "web" "waits", pendingResult "api" "waits"], []⟩
    ∧ List.Forall₂ (fun (p : Outcome × Nat) (warning : Warning) =>
        warning.subject = "pending pods" ∧ p.1.Complains p.2 warning.message)
      [({}, 0), ({ fail := some { when := "Pending" } }, 1),
        ({ warn := some { when := "> Pending" } }, 3)]
      [⟨"pending pods", "outcome 0 has no verdict populated; skipped"⟩,
        ⟨"pending pods", "outcome 1 skipped: invalid when-clause 'Pending'"⟩,
        ⟨"pending pods", "outcome 3 skipped: operator > is not supported for pods"⟩] := by
  have hanalyze : brokenCheck.analyze pendingPods =
      .ok ⟨[pendingResult "web" "waits", pendingResult "api" "waits"],
        [⟨"pending pods", "outcome 0 has no verdict populated; skipped"⟩,
        ⟨"pending pods", "outcome 1 skipped: invalid when-clause 'Pending'"⟩,
        ⟨"pending pods", "outcome 3 skipped: operator > is not supported for pods"⟩]⟩ := by
    decide +kernel
  have hmalformed : (brokenCheck.outcomes.zipIdx.filter fun p => p.1.Malformed) =
      [({}, 0), ({ fail := some { when := "Pending" } }, 1),
        ({ warn := some { when := "> Pending" } }, 3)] := by
    decide +kernel
  obtain ⟨hwell, hwarnings⟩ := analyze_wellFormed brokenCheck pendingPods
  rw [hanalyze] at hwell
  have hcomplains := hwarnings _ hanalyze
  rw [hmalformed] at hcomplains
  exact ⟨hwell, hcomplains⟩

end Sample

end PodCheck

end Triage
