import Triage.Proofs.FirstMatch
import Triage.Proofs.NamedFiles

/-!
# Objects that are missing

An outcome may ask whether the named workload is missing. One that is there answers no, so such an
outcome might as well not be listed (`results_withoutAbsent`). For one that is missing no clause is
put to anything: the first outcome that is filled tells what is said (`MissingResult`). The two are
brought together in `absent_splits_outcomes`.
-/

namespace Triage

namespace Resolution

variable {σ ε : Type} {title : String} {blank : BlankClause} {check : Predicate σ ε}

/-- Outcomes that are always passed over have no part in how a resolution ends. -/
theorem tryFrom_filter_ending {keep : Outcome → Bool}
    (hpassed : ∀ o, keep o = false → ∀ s, ∃ asked, PassedOver blank check o s asked s) :
    ∀ (outcomes : List Outcome) (index index' : Nat) (s : σ),
      (tryFrom title blank check index s outcomes).ending =
        (tryFrom title blank check index' s (outcomes.filter keep)).ending
  | [], _, _, _ => rfl
  | o :: outcomes, index, index', s => by
    cases hkeep : keep o with
    | false =>
      obtain ⟨asked, hfirst⟩ := hpassed o hkeep s
      rw [tryFrom_of_passedOver hfirst, List.filter_cons_of_neg (by simp [hkeep])]
      exact tryFrom_filter_ending hpassed outcomes _ _ _
    | true =>
      rw [List.filter_cons_of_pos hkeep]
      rcases passedOver_or_decides title blank check o s with ⟨asked, s', hfirst⟩ |
        ⟨asked, s', ending, hdecides⟩
      · rw [tryFrom_of_passedOver hfirst, tryFrom_of_passedOver hfirst]
        exact tryFrom_filter_ending hpassed outcomes _ _ _
      · rw [tryFrom_of_decides hdecides, tryFrom_of_decides hdecides]

/-- What is matched is the candidate that an outcome of the list takes. -/
theorem exists_takes_of_matched {outcomes : List Outcome} {index : Nat} {s : σ} {r : Result}
    (h : (tryFrom title blank check index s outcomes).ending = .ok (.matched r)) :
    ∃ o ∈ outcomes, ∃ v c, o.Takes v c ∧ r = .ofCandidate title v c := by
  induction outcomes generalizing index s with
  | nil => cases h
  | cons o outcomes ih =>
    rcases passedOver_or_decides title blank check o s with ⟨asked, s', hfirst⟩ |
      ⟨asked, s', ending, hdecides⟩
    · rw [tryFrom_of_passedOver hfirst] at h
      obtain ⟨o', hmem, htakes⟩ := ih h
      exact ⟨o', List.mem_cons_of_mem _ hmem, htakes⟩
    · rw [tryFrom_of_decides hdecides] at h
      cases hdecides with
      | unconditional htakes =>
        cases h
        exact ⟨o, List.mem_cons_self, _, _, htakes, rfl⟩
      | accepted htakes =>
        cases h
        exact ⟨o, List.mem_cons_self, _, _, htakes, rfl⟩
      | failed => cases h

theorem resolve_snd {ε : Type} (title : String) (outcomes : List Outcome)
    (check : String → Except ε Bool) : (resolve title outcomes check).map Prod.snd =
      (trace title .holds outcomes fun _ clause => check clause).ending := by
  unfold resolve
  dsimp only
  cases (trace title .holds outcomes fun _ clause => check clause).ending <;> rfl

end Resolution

theorem Output.concat_map_ofResult (results : List Result) :
    concat (results.map ofResult) = ⟨results, []⟩ := by
  simp [concat, ofResult, List.flatMap_map]

/-- The outcome asks whether an object is missing. -/
def Outcome.AsksAbsent (o : Outcome) : Prop := ∃ v c, o.Takes v c ∧ trimmed c.when = Clause.absent

instance (o : Outcome) : Decidable o.AsksAbsent :=
  decidable_of_iff (o.chosen?.any (fun (_, c) => trimmed c.when == Clause.absent) = true) (by
    simp only [Option.any_eq_true, Outcome.AsksAbsent, Prod.exists, Outcome.chosen?_eq_some_iff,
      beq_iff_eq])

namespace WorkloadCheck

variable {check : WorkloadCheck} {kind : WorkloadKind} {workloads : List Cluster.Workload}

/-- The check without the outcomes that ask whether an object is missing. -/
def withoutAbsent (check : WorkloadCheck) : WorkloadCheck :=
  { check with outcomes := check.outcomes.filter fun o => ¬ o.AsksAbsent }

/-- Where nothing is missing, a resolution ends as it does without these outcomes. -/
theorem resolve_withoutAbsent {ε : Type} (title : String) (outcomes : List Outcome)
    {answer : String → Except ε Bool} (hpresent : answer Clause.absent = .ok false) :
    (Resolution.resolve title outcomes answer).map Prod.snd =
      (Resolution.resolve title (outcomes.filter fun o => ¬ o.AsksAbsent) answer).map
        Prod.snd := by
  rw [Resolution.resolve_snd, Resolution.resolve_snd]
  refine Resolution.tryFrom_filter_ending (fun o hkeep s => ?_) outcomes 0 0 ()
  obtain ⟨v, c, htakes, hclause⟩ : o.AsksAbsent := by simpa using hkeep
  refine ⟨_, .refused htakes ?_ ?_⟩
  · rintro ⟨hblank, -⟩
    rw [hblank] at hclause
    exact absurd hclause (by decide)
  · rw [hclause, Predicate.ofCheck, hpresent]

/-- What is said about a workload that is there follows from how the resolution ends. -/
theorem results_reportWorkload {workload : Cluster.Workload}
    (h : (workloads.find? fun workload => workload.metadata.name == check.name) = some workload) :
    (check.reportWorkload kind workloads).map Output.results =
      ((Resolution.resolve (check.title kind.label) check.outcomes fun clause =>
        (liftM (Clause.replicas clause workload.status.readyReplicas) :
          Except AnalysisError Bool)).map Prod.snd).map fun resolution =>
            [resolution.toResult] := by
  unfold reportWorkload
  rw [h]
  dsimp only
  cases Resolution.resolve (check.title kind.label) check.outcomes fun clause =>
    (liftM (Clause.replicas clause workload.status.readyReplicas) : Except AnalysisError Bool) <;>
    rfl

theorem exists_find?_of_named
    (h : ∃ workload ∈ workloads, workload.metadata.name = check.name) : ∃ workload,
      (workloads.find? fun workload => workload.metadata.name == check.name) = some workload := by
  rw [← Option.isSome_iff_exists, List.find?_isSome]
  simpa using h

theorem results_withoutAbsent (h : ∃ workload ∈ workloads, workload.metadata.name = check.name) :
    (check.reportWorkload kind workloads).map Output.results =
      (check.withoutAbsent.reportWorkload kind workloads).map Output.results := by
  obtain ⟨workload, hfind⟩ := exists_find?_of_named h
  have hfind' : (workloads.find? fun workload =>
      workload.metadata.name == check.withoutAbsent.name) = some workload := hfind
  rw [results_reportWorkload hfind, results_reportWorkload hfind', resolve_withoutAbsent]
  · rfl
  · rfl

/-- What is said when the workload is missing: the first outcome that is filled tells. -/
inductive MissingResult (check : WorkloadCheck) (kind : WorkloadKind) : Result → Prop
  | expected {before after : List Outcome} {o : Outcome} {v : Verdict} {c : Candidate}
    (houtcomes : check.outcomes = before ++ o :: after)
    (hempty : ∀ o ∈ before, ∀ v, o.place v = none)
    (htakes : o.Takes v c) (hclause : trimmed c.when = Clause.absent) :
    MissingResult check kind (.ofCandidate (check.title kind.label) v c)
  | unexpected {before after : List Outcome} {o : Outcome} {v : Verdict} {c : Candidate}
    (houtcomes : check.outcomes = before ++ o :: after)
    (hempty : ∀ o ∈ before, ∀ v, o.place v = none)
    (htakes : o.Takes v c) (hclause : trimmed c.when ≠ Clause.absent) :
    MissingResult check kind { Result.ofMessage (check.title kind.label) .fail
      s!"The {kind.noun} \"{check.name}\" was not found" with uri := c.uri }
  | unstated (hempty : ∀ o ∈ check.outcomes, ∀ v, o.place v = none) :
    MissingResult check kind (.neutral (check.title kind.label))

/-- The first outcome that is filled. -/
theorem findSome?_chosen?_of_first {outcomes before after : List Outcome} {o : Outcome}
    {v : Verdict} {c : Candidate} (houtcomes : outcomes = before ++ o :: after)
    (hempty : ∀ o ∈ before, ∀ v, o.place v = none) (htakes : o.Takes v c) :
    outcomes.findSome? Outcome.chosen? = some (v, c) := by
  rw [List.findSome?_eq_some_iff]
  exact ⟨before, o, after, houtcomes, Outcome.chosen?_eq_some_iff.2 htakes, fun o ho =>
    Outcome.chosen?_eq_none_iff.2 (hempty o ho)⟩

theorem missingResult_iff {r : Result} :
    check.MissingResult kind r ↔ r = (check.resolveMissing kind).toResult := by
  unfold resolveMissing
  constructor
  · intro h
    cases h with
    | expected houtcomes hempty htakes hclause =>
      rw [findSome?_chosen?_of_first houtcomes hempty htakes]
      simp only [hclause, beq_self_eq_true, if_true]
      rfl
    | unexpected houtcomes hempty htakes hclause =>
      rw [findSome?_chosen?_of_first houtcomes hempty htakes]
      simp only [beq_iff_eq, if_neg hclause]
      rfl
    | unstated hempty =>
      rw [List.findSome?_eq_none_iff.2 fun o ho => Outcome.chosen?_eq_none_iff.2 (hempty o ho)]
      rfl
  · rintro rfl
    cases hfirst : check.outcomes.findSome? Outcome.chosen? with
    | none =>
      exact .unstated fun o ho =>
        Outcome.chosen?_eq_none_iff.1 (List.findSome?_eq_none_iff.1 hfirst o ho)
    | some taken =>
      obtain ⟨before, o, after, houtcomes, hchosen, hempty⟩ := List.findSome?_eq_some_iff.1 hfirst
      have htakes : o.Takes taken.1 taken.2 := Outcome.chosen?_eq_some_iff.1 hchosen
      replace hempty : ∀ o ∈ before, ∀ v, o.place v = none := fun o ho =>
        Outcome.chosen?_eq_none_iff.1 (hempty o ho)
      by_cases hclause : trimmed taken.2.when = Clause.absent
      · simp only [hclause, beq_self_eq_true, if_true]
        exact .expected houtcomes hempty htakes hclause
      · simp only [beq_iff_eq, if_neg hclause]
        exact .unexpected houtcomes hempty htakes hclause

/-- The file lists workloads, and among them the one that is named. -/
def Lists (check : WorkloadCheck) (kind : WorkloadKind) (file : FoundFile) : Prop :=
  ∃ workloads, Cluster.decodeList Cluster.Workload.decode s!"{kind.noun} list" file.2 =
      .ok workloads
    ∧ ∃ workload ∈ workloads, workload.metadata.name = check.name

/-- The file lists workloads, and not the one that is named. -/
def Lacks (check : WorkloadCheck) (kind : WorkloadKind) (file : FoundFile) : Prop :=
  ∃ workloads, Cluster.decodeList Cluster.Workload.decode s!"{kind.noun} list" file.2 =
      .ok workloads
    ∧ ∀ workload ∈ workloads, workload.metadata.name ≠ check.name

section Files

variable {file : FoundFile}

theorem report_of_decodeList (h : Cluster.decodeList Cluster.Workload.decode s!"{kind.noun} list"
    file.2 = .ok workloads) :
    (ObjectKind.workload kind).report check file = check.reportWorkload kind workloads := by
  simp only [ObjectKind.report, objectsOf, h]
  rfl

theorem Lists.results (h : check.Lists kind file) :
    ((ObjectKind.workload kind).report check file).map Output.results =
      ((ObjectKind.workload kind).report check.withoutAbsent file).map Output.results := by
  obtain ⟨workloads, hdecode, hnamed⟩ := h
  rw [report_of_decodeList hdecode, report_of_decodeList hdecode]
  exact results_withoutAbsent hnamed

/-- A verdict about a workload that is there is one of an outcome. -/
theorem Lists.exists_takes (h : check.Lists kind file) :
    Gives (((ObjectKind.workload kind).report check file).map Output.results) fun results =>
      ∀ r ∈ results, r.verdict.isSome = true →
        ∃ o ∈ check.outcomes, ∃ v c, o.Takes v c
          ∧ r = .ofCandidate (check.title kind.label) v c := by
  obtain ⟨workloads, hdecode, hnamed⟩ := h
  obtain ⟨workload, hfind⟩ := exists_find?_of_named hnamed
  rw [report_of_decodeList hdecode, results_reportWorkload hfind, Resolution.resolve_snd]
  intro results hresults r hr hverdict
  obtain ⟨resolution, hending, rfl⟩ := map_eq_ok.1 hresults
  obtain rfl := List.mem_singleton.1 hr
  cases resolution with
  | exhausted title => cases hverdict
  | matched result => exact Resolution.exists_takes_of_matched hending

/-- The outcome that is matched does not ask whether the workload is missing. -/
theorem Lists.exists_takes_present (h : check.Lists kind file) :
    Gives (((ObjectKind.workload kind).report check file).map Output.results) fun results =>
      ∀ r ∈ results, r.verdict.isSome = true → ∃ o ∈ check.outcomes, ∃ v c, o.Takes v c
        ∧ trimmed c.when ≠ Clause.absent ∧ r = .ofCandidate (check.title kind.label) v c := by
  have hlisted : check.withoutAbsent.Lists kind file := h
  rw [h.results]
  intro results hresults r hr hverdict
  obtain ⟨o, ho, v, c, htakes, heq⟩ := hlisted.exists_takes results hresults r hr hverdict
  obtain ⟨ho, hasks⟩ := List.mem_filter.1 ho
  exact ⟨o, ho, v, c, htakes, fun hclause => of_decide_eq_true hasks ⟨v, c, htakes, hclause⟩, heq⟩

theorem Lacks.report (h : check.Lacks kind file) :
    (ObjectKind.workload kind).report check file =
      .ok (.ofResult (check.resolveMissing kind).toResult) := by
  obtain ⟨workloads, hdecode, hnone⟩ := h
  have hfind : (workloads.find? fun workload => workload.metadata.name == check.name) = none := by
    simpa using hnone
  rw [report_of_decodeList hdecode, reportWorkload, hfind]
  rfl

end Files

section Run

variable {store : EvidenceStore} {files : List FoundFile}

theorem analyze_eq (kind : WorkloadKind) (hname : check.name ≠ "")
    (hfiles : store.find (check.namedPath kind.directory) [] = .ok files) :
    check.analyze store kind = (do
      let strict ← check.shared.isStrict
      let outputs ← files.mapM ((ObjectKind.workload kind).report check)
      return (Output.concat outputs).stamp strict) := by
  have hnamed : check.analyze store kind = _ :=
    ObjectKind.analyze_named (.workload kind) hname store
  have hsearch : store.find (check.namedPath (ObjectKind.workload kind).directory) [] =
    .ok files := hfiles
  rw [hnamed, hsearch]
  rfl

/-- The results of a check, file by file. -/
theorem results_analyze (kind : WorkloadKind) (hname : check.name ≠ "")
    (hfiles : store.find (check.namedPath kind.directory) [] = .ok files) :
    (check.analyze store kind).map Output.results = (do
      let strict ← check.shared.isStrict
      let results ← files.mapM fun file =>
        ((ObjectKind.workload kind).report check file).map Output.results
      return results.flatten.map fun result => { result with strict }) := by
  rw [analyze_eq kind hname hfiles, mapM_map]
  cases check.shared.isStrict with
  | error e => rfl
  | ok strict =>
    show (files.mapM ((ObjectKind.workload kind).report check) >>= fun outputs =>
      pure ((Output.concat outputs).stamp strict)).map _ = _
    cases files.mapM ((ObjectKind.workload kind).report check) with
    | error e => rfl
    | ok outputs =>
      show Except.ok _ = Except.ok _
      rw [← List.flatMap_def]
      rfl

theorem results_analyze_withoutAbsent (hname : check.name ≠ "")
    (hfiles : store.find (check.namedPath kind.directory) [] = .ok files)
    (hlists : ∀ file ∈ files, check.Lists kind file) :
    (check.analyze store kind).map Output.results =
      (check.withoutAbsent.analyze store kind).map Output.results := by
  have hreports : List.Forall₂ (fun file other =>
      ((ObjectKind.workload kind).report check file).map Output.results =
        ((ObjectKind.workload kind).report check.withoutAbsent other).map Output.results)
      files files :=
    List.forall₂_same.2 fun file hfile => (hlists file hfile).results
  rw [results_analyze kind hname hfiles,
    @results_analyze check.withoutAbsent store files kind hname hfiles,
    mapM_congr hreports fun _ _ h => h]
  rfl

/-- A verdict about workloads that are there is one of an outcome that does not ask whether they
are missing. -/
theorem exists_takes_of_analyze (hname : check.name ≠ "")
    (hfiles : store.find (check.namedPath kind.directory) [] = .ok files)
    (hlists : ∀ file ∈ files, check.Lists kind file) {output : Output}
    (houtput : check.analyze store kind = .ok output) {r : Result} (hr : r ∈ output.results)
    (hverdict : r.verdict.isSome = true) : ∃ o ∈ check.outcomes, ∃ v c, o.Takes v c
      ∧ trimmed c.when ≠ Clause.absent
      ∧ r = { Result.ofCandidate (check.title kind.label) v c with strict := r.strict } := by
  have hresults := results_analyze kind hname hfiles
  rw [houtput] at hresults
  obtain ⟨strict, -, hresults⟩ := bind_eq_ok.1 hresults.symm
  obtain ⟨results, hreports, hresults⟩ := bind_eq_ok.1 hresults
  rw [← Except.ok.inj hresults] at hr
  obtain ⟨plain, hplain, rfl⟩ := List.mem_map.1 hr
  have htaken := Gives.mapM_flatten (fun file hfile => (hlists file hfile).exists_takes_present)
    results hreports
  obtain ⟨o, ho, v, c, htakes, hclause, rfl⟩ := htaken plain hplain hverdict
  exact ⟨o, ho, v, c, htakes, hclause, rfl⟩

theorem analyze_of_lacks (hname : check.name ≠ "")
    (hfiles : store.find (check.namedPath kind.directory) [] = .ok files)
    (hlacks : ∀ file ∈ files, check.Lacks kind file) {strict : Bool}
    (hstrict : check.shared.isStrict = .ok strict) : check.analyze store kind =
      .ok ⟨files.map fun _ => { (check.resolveMissing kind).toResult with strict }, []⟩ := by
  have hreports : files.mapM ((ObjectKind.workload kind).report check) =
      .ok ((files.map fun _ => (check.resolveMissing kind).toResult).map Output.ofResult) := by
    rw [mapM_eq_ok, List.map_map, List.forall₂_map_right_iff, List.forall₂_same]
    exact fun file hfile => (hlacks file hfile).report
  rw [analyze_eq kind hname hfiles, hstrict, hreports]
  show Except.ok ((Output.concat _).stamp strict) = _
  rw [Output.concat_map_ofResult, Output.stamp, List.map_map]
  rfl

end Run

/-- A check that names a workload. Of files that list it, the check says what it says without the
outcomes that ask whether it is missing, be it an error, and no such outcome is matched. Of files
that lack it, nothing is an error, and what is said follows from the first outcome that is filled
alone. -/
theorem absent_splits_outcomes (kind : WorkloadKind) {check : WorkloadCheck}
    (hname : check.name ≠ "") {store : EvidenceStore} {files : List FoundFile}
    (hfiles : store.find (check.namedPath kind.directory) [] = .ok files) :
    ((∀ file ∈ files, check.Lists kind file) →
      (check.analyze store kind).map Output.results =
        (check.withoutAbsent.analyze store kind).map Output.results
      ∧ ∀ output, check.analyze store kind = .ok output →
        ∀ r ∈ output.results, r.verdict.isSome = true → ∃ o ∈ check.outcomes, ∃ v c,
          o.Takes v c ∧ trimmed c.when ≠ Clause.absent
          ∧ r = { Result.ofCandidate (check.title kind.label) v c with strict := r.strict })
    ∧ ((∀ file ∈ files, check.Lacks kind file) →
      ∀ strict, check.shared.isStrict = .ok strict → ∃ result, check.MissingResult kind result
        ∧ (∀ other, check.MissingResult kind other → other = result)
        ∧ check.analyze store kind = .ok ⟨files.map fun _ => { result with strict }, []⟩) := by
  refine ⟨fun hlists => ⟨results_analyze_withoutAbsent hname hfiles hlists, ?_⟩,
    fun hlacks strict hstrict => ?_⟩
  · intro output houtput r hr hverdict
    exact exists_takes_of_analyze hname hfiles hlists houtput hr hverdict
  · exact ⟨_, missingResult_iff.2 rfl, fun other => missingResult_iff.1,
      analyze_of_lacks hname hfiles hlacks hstrict⟩

section Sample

/-- A check that expects a deployment of the namespace `a` to be missing. -/
def goneCheck (name : String) : WorkloadCheck where
  name := name
  nspace := "a"
  outcomes := [{}, { pass := some { when := " absent", message := "gone" } },
    { fail := some { when := "< 1", message := "down" } }]

/-- The deployment `web` is there and the deployment `api` is not. -/
theorem absent_splits_outcomes_of_goneCheck : ∃ file,
    ObjectKind.webNamespaces.toStore.find "cluster-resources/deployments/a.json" [] = .ok [file]
    ∧ (goneCheck "web").Lists .deployment file ∧ (goneCheck "api").Lacks .deployment file
    ∧ ((goneCheck "web").analyze ObjectKind.webNamespaces.toStore .deployment).map
        Output.results = .ok [.ofMessage "web Status" .fail "down"]
    ∧ ((goneCheck "web").withoutAbsent.analyze ObjectKind.webNamespaces.toStore .deployment).map
        Output.results = .ok [.ofMessage "web Status" .fail "down"]
    ∧ ∃ result, (goneCheck "api").MissingResult .deployment result
      ∧ (goneCheck "api").analyze ObjectKind.webNamespaces.toStore .deployment =
        .ok ⟨[result], []⟩ := by
  let file : FoundFile := ("cluster-resources/deployments/a.json",
    PodCheck.listFile [.object [("metadata", .object [("name", .string "web")])]])
  have hfind : ObjectKind.webNamespaces.toStore.find "cluster-resources/deployments/a.json" [] =
    .ok [file] := by decide +kernel
  have hdecode : Cluster.decodeList Cluster.Workload.decode "deployment list" file.2 =
    .ok [{ metadata := { name := "web" } }] := by decide +kernel
  have hlists : (goneCheck "web").Lists .deployment file :=
    ⟨_, hdecode, _, List.mem_singleton.2 rfl, rfl⟩
  have hlacks : (goneCheck "api").Lacks .deployment file :=
    ⟨_, hdecode, List.forall_mem_singleton.2 (by decide)⟩
  have hanalyze : ((goneCheck "web").analyze ObjectKind.webNamespaces.toStore .deployment).map
      Output.results = .ok [.ofMessage "web Status" .fail "down"] := by decide +kernel
  have hweb := absent_splits_outcomes .deployment (show (goneCheck "web").name ≠ "" by decide) hfind
  have hapi := absent_splits_outcomes .deployment (show (goneCheck "api").name ≠ "" by decide) hfind
  obtain ⟨result, hresult, -, hmissing⟩ :=
    hapi.2 (List.forall_mem_singleton.2 hlacks) false rfl
  have hstrict : { result with strict := false } = result := by
    rw [missingResult_iff.1 hresult]
    rfl
  rw [List.map_singleton, hstrict] at hmissing
  exact ⟨file, hfind, hlists, hlacks, hanalyze,
    (hweb.1 (List.forall_mem_singleton.2 hlists)).1 ▸ hanalyze, result, hresult, hmissing⟩

end Sample

end WorkloadCheck

end Triage
