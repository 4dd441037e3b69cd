import Triage.Analysis.Basic
import Triage.Proofs.Endings
import Triage.Proofs.PodReports

/-!
# The shape of what is reported

Whatever an analyzer reports carries the strictness of the analyzer. A result has a verdict, or it is
the neutral one of its title; only some kinds of analyzers leave a result neutral, and only results
about pods refer to an object (`analyze_emits`).
-/

namespace Triage

namespace Result

/-- It has a verdict and refers to no object. -/
structure Concludes (r : Result) : Prop where
  verdict : r.verdict.isSome = true
  noObject : r.involvedObject = none

/-- It says nothing but its title. -/
def IsNeutral (r : Result) : Prop := r = neutral r.title

/-- It has a verdict and refers to an object. -/
structure ConcludesOnObject (r : Result) : Prop where
  verdict : r.verdict.isSome = true
  object : r.involvedObject.isSome = true

theorem concludes_ofCandidate (title : String) (verdict : Verdict) (candidate : Candidate) :
    (ofCandidate title verdict candidate).Concludes := ⟨rfl, rfl⟩

theorem concludes_ofMessage (title : String) (verdict : Verdict) (message : String) :
    (ofMessage title verdict message).Concludes := ⟨rfl, rfl⟩

end Result

namespace Output

/-- The results had such a shape before the strictness of the check was put on all of them. -/
def Stamped (shared : Meta) (shape : Result → Prop) (o : Output) : Prop :=
  ∃ (strict : Bool) (plain : Output), shared.isStrict = .ok strict
    ∧ (∀ r ∈ plain.results, shape r) ∧ o = plain.stamp strict

variable {shared : Meta} {shape shape' : Result → Prop}

theorem Stamped.imp (himp : ∀ r, shape r → shape' r) {o : Output} (h : o.Stamped shared shape) :
    o.Stamped shared shape' := by
  obtain ⟨strict, plain, hstrict, hshape, heq⟩ := h
  exact ⟨strict, plain, hstrict, fun r hr => himp r (hshape r hr), heq⟩

theorem forall_mem_single {result : Result} (h : shape result) (warnings : List Warning) :
    ∀ r ∈ (Output.mk [result] warnings).results, shape r := by
  simpa using h

theorem forall_mem_concat {outputs : List Output} (h : ∀ o ∈ outputs, ∀ r ∈ o.results, shape r) :
    ∀ r ∈ (concat outputs).results, shape r := by
  intro r hr
  obtain ⟨o, ho, hr⟩ := List.mem_flatMap.1 hr
  exact h o ho r hr

end Output

namespace Resolution

variable {ε : Type} {title : String} {blank : BlankClause} {outcomes : List Outcome}

/-- A list that is tried to its end is exhausted or matches the candidate of an outcome. -/
theorem gives_trace (check : Verdict → String → Except ε Bool) :
    Gives (trace title blank outcomes check).ending fun resolution =>
      resolution = .exhausted title
      ∨ ∃ verdict candidate, resolution = .matched (.ofCandidate title verdict candidate) := by
  intro resolution h
  obtain ⟨reached, hends⟩ := ending_eq_iff.1 h
  cases hends with
  | taken => exact .inr ⟨_, _, rfl⟩
  | exhausted => exact .inl rfl

theorem gives_resolve (check : String → Except ε Bool) :
    Gives (resolve title outcomes check) fun p => p.2 = .exhausted title
      ∨ ∃ verdict candidate, p.2 = .matched (.ofCandidate title verdict candidate) :=
  .map (gives_trace _)

/-- What is matched concludes. -/
theorem gives_matched (check : String → Except ε Bool) :
    Gives (resolve title outcomes check) fun p => ∀ r, p.2.matched? = some r → r.Concludes := by
  intro p hp r hr
  rcases gives_resolve check p hp with h | ⟨verdict, candidate, h⟩
  · rw [h] at hr
    cases hr
  · rw [h] at hr
    exact Option.some.inj hr ▸ Result.concludes_ofCandidate title verdict candidate

/-- The result that is reached concludes, or it is neutral. -/
theorem gives_toResult (check : String → Except ε Bool) :
    Gives (resolve title outcomes check) fun p => p.2.toResult.Concludes ∨ p.2.toResult.IsNeutral := by
  intro p hp
  rcases gives_resolve check p hp with h | ⟨verdict, candidate, h⟩
  · exact .inr (by rw [h]; rfl)
  · exact .inl (by rw [h]; exact Result.concludes_ofCandidate title verdict candidate)

end Resolution

section Checks

variable {store : EvidenceStore}

namespace HostCheck

theorem gives_finish (fact : HostFact) (x : fact.reading.Fact) {r : Result} (h : r.Concludes) :
    Gives (fact.reading.finish x r) Result.Concludes := by
  cases fact with
  | processor => exact .bind fun message _ => .pure ⟨h.verdict, h.noObject⟩
  | _ => exact .pure h

theorem gives_reportFile (check : HostCheck) (fact : HostFact) (title : String)
    (file : Collected) : Gives (check.reportFile fact.reading title file) fun o =>
      ∀ r ∈ o.results, r.Concludes := by
  refine .bind fun x _ => .bind fun ⟨warnings, resolution⟩ hresolve => ?_
  have hmatched := Resolution.gives_matched _ _ hresolve
  dsimp only at hmatched ⊢
  cases h : resolution.matched? with
  | none => exact .pure (by simp)
  | some result =>
    exact .bind fun r hr =>
      .pure (Output.forall_mem_single (gives_finish fact x (hmatched result h) r hr) _)

theorem gives_analyze (check : HostCheck) (fact : HostFact) :
    Gives (check.analyze store fact) (Output.Stamped check.shared Result.Concludes) :=
  .bind fun _ _ => .bind fun strict hstrict => .bind fun outputs houtputs =>
    .pure ⟨strict, _, mapError_eq_ok.1 hstrict, Output.forall_mem_concat
      (Gives.mapM (fun file _ => gives_reportFile check fact _ file) outputs houtputs), rfl⟩

end HostCheck

namespace RuntimeCheck

theorem gives_analyze (check : RuntimeCheck) : Gives (check.analyze store)
    (Output.Stamped check.shared fun r => r.Concludes ∨ r.IsNeutral) :=
  .bind fun strict hstrict => .bind fun _ _ => .bind fun _ _ => .bind fun _ hresolve =>
    .pure ⟨strict, _, mapError_eq_ok.1 hstrict,
      Output.forall_mem_single (Resolution.gives_toResult _ _ hresolve) _, rfl⟩

end RuntimeCheck

namespace DocumentCheck

theorem gives_conclude (check : DocumentCheck) (title : String) (equal : Bool) :
    Gives (check.conclude title equal) (Output.Stamped check.shared Result.Concludes) := by
  refine .bind fun resolution hending => ?_
  rcases Resolution.gives_trace _ _ (mapError_eq_ok.1 hending) with
    rfl | ⟨verdict, candidate, rfl⟩
  · refine .bind fun result hresult => .bind fun strict hstrict => .pure ?_
    obtain rfl := Except.ok.inj hresult
    exact ⟨strict, _, mapError_eq_ok.1 hstrict,
      Output.forall_mem_single (Result.concludes_ofMessage _ _ _) _, rfl⟩
  · refine .bind fun result hresult => .bind fun strict hstrict => .pure ?_
    obtain rfl := Except.ok.inj hresult
    exact ⟨strict, _, mapError_eq_ok.1 hstrict,
      Output.forall_mem_single (Result.concludes_ofCandidate _ _ _) _, rfl⟩

theorem gives_analyzeYaml (check : DocumentCheck) :
    Gives (check.analyzeYaml store) (Output.Stamped check.shared Result.Concludes) := by
  refine .bind fun _ _ => .bind fun _ _ => ?_
  split
  · refine .bind fun _ _ => ?_
    split
    · exact gives_conclude check _ _
    · exact nofun
  · exact nofun

end DocumentCheck

theorem JsonCheck.gives_analyze (check : JsonCheck) :
    Gives (check.analyze store) (Output.Stamped check.document.shared Result.Concludes) := by
  refine .bind fun _ _ => .bind fun _ _ => ?_
  split
  · refine .bind fun _ _ => ?_
    split
    · exact check.document.gives_conclude _ _
    · exact nofun
  · exact nofun

namespace EventCheck

theorem finish_shape (title : String) (event? : Option Cluster.Event) {r : Result}
    (h : r.Concludes ∨ r.IsNeutral) :
    (finish title event? r).1.Concludes ∨ (finish title event? r).1.IsNeutral := by
  unfold finish
  split
  · rename_i hverdict
    rcases h with h | h
    · exact .inl ⟨h.verdict, h.noObject⟩
    · rw [h] at hverdict
      cases hverdict
  · exact h

theorem gives_analyze (check : EventCheck) : Gives (check.analyze store)
    (Output.Stamped check.shared fun r => r.Concludes ∨ r.IsNeutral) := by
  unfold EventCheck.analyze
  split
  · exact nofun
  · exact .bind fun strict hstrict => .bind fun _ _ => .bind fun _ _ => .bind fun _ hresolve =>
      .pure ⟨strict, _, mapError_eq_ok.1 hstrict, Output.forall_mem_single
        (finish_shape _ _ (Resolution.gives_toResult _ _ hresolve)) _, rfl⟩

end EventCheck

namespace WorkloadCheck

theorem concludes_of_shortage {kind : WorkloadKind} {workload : Cluster.Workload} {r : Result}
    (h : kind.shortage workload = some r) : r.Concludes := by
  unfold WorkloadKind.shortage at h
  dsimp only at h
  split at h
  · cases h
  · exact Option.some.inj h ▸ Result.concludes_ofMessage _ _ _

theorem concludes_of_failure {job : Cluster.Job} {r : Result} (h : job.failure = some r) :
    r.Concludes := by
  unfold Cluster.Job.failure at h
  dsimp only at h
  split at h
  · cases h
  · exact Option.some.inj h ▸ Result.concludes_ofMessage _ _ _

section Scan

variable {α : Type} {finding : α → Option Result} {shape : Result → Prop}

/-- A scan reports what is found about objects, and nothing else. -/
theorem gives_scan (check : WorkloadCheck) (directory what : String) (decode : Json.Decoder α)
    (h : ∀ object r, finding object = some r → shape r) :
    Gives (check.scan store directory what decode finding) fun o => ∀ r ∈ o.results, shape r := by
  have hfile : ∀ pattern ∈ check.scanPatterns directory,
      Gives (scanFiles store decode what finding pattern) fun found => ∀ r ∈ found, shape r :=
    fun pattern _ => .bind fun files _ => .bind fun objects _ => .pure fun r hr => by
      obtain ⟨object, -, hfinding⟩ := List.mem_filterMap.1 hr
      exact h object r hfinding
  exact .bind fun results hresults => .pure (Gives.mapM_flatten hfile results hresults)

theorem gives_perFile (check : WorkloadCheck) (directory what : String) (decode : Json.Decoder α)
    {report : List α → Except AnalysisError Output}
    (h : ∀ objects, Gives (report objects) fun o => ∀ r ∈ o.results, shape r) :
    Gives (check.perFile store directory what decode report) fun o => ∀ r ∈ o.results, shape r :=
  .bind fun _ _ => .bind fun outputs houtputs => .pure (Output.forall_mem_concat
    (Gives.mapM (fun _ _ => .bind fun objects _ => h objects) outputs houtputs))

end Scan

theorem resolveMissing_shape (check : WorkloadCheck) (kind : WorkloadKind) :
    (check.resolveMissing kind).toResult.Concludes
    ∨ (check.resolveMissing kind).toResult.IsNeutral := by
  unfold resolveMissing
  split
  · exact .inr rfl
  · split
    · exact .inl ⟨rfl, rfl⟩
    · exact .inl ⟨rfl, rfl⟩

theorem gives_reportWorkload (check : WorkloadCheck) (kind : WorkloadKind)
    (workloads : List Cluster.Workload) : Gives (check.reportWorkload kind workloads) fun o =>
      ∀ r ∈ o.results, r.Concludes ∨ r.IsNeutral := by
  unfold reportWorkload
  split
  · exact .pure (Output.forall_mem_single (check.resolveMissing_shape kind) _)
  · exact .bind fun _ hresolve =>
      .pure (Output.forall_mem_single (Resolution.gives_toResult _ _ hresolve) _)

theorem gives_reportJob (check : WorkloadCheck) (jobs : List Cluster.Job) :
    Gives (check.reportJob jobs) fun o => ∀ r ∈ o.results, r.Concludes ∨ r.IsNeutral := by
  unfold reportJob
  split
  · exact .pure (Output.forall_mem_single (.inl (Result.concludes_ofMessage _ _ _)) _)
  · split
    · exact .pure fun r hr => .inl (concludes_of_failure (Option.mem_toList.1 hr))
    · exact .bind fun _ hresolve =>
        .pure (Output.forall_mem_single (Resolution.gives_toResult _ _ hresolve) _)

/-- The result concludes, or it is a neutral one about the object that is named. -/
def Shape (check : WorkloadCheck) (r : Result) : Prop :=
  r.Concludes ∨ r.IsNeutral ∧ check.name ≠ ""

theorem shape_of_named {check : WorkloadCheck} (hname : ¬ check.name.isEmpty = true) {r : Result}
    (h : r.Concludes ∨ r.IsNeutral) : check.Shape r :=
  h.imp_right fun h => ⟨h, fun hempty => hname (by rw [hempty]; rfl)⟩

theorem gives_analyze (check : WorkloadCheck) (kind : WorkloadKind) :
    Gives (check.analyze store kind) (Output.Stamped check.shared check.Shape) := by
  refine .bind fun strict hstrict => ?_
  dsimp only
  split
  · exact .bind fun o ho => .pure ⟨strict, o, mapError_eq_ok.1 hstrict,
      gives_scan check _ _ _ (fun _ _ h => .inl (concludes_of_shortage h)) o ho, rfl⟩
  · rename_i hname
    refine .bind fun o ho => .pure ⟨strict, o, mapError_eq_ok.1 hstrict, fun r hr => ?_, rfl⟩
    exact shape_of_named hname (gives_perFile check _ _ _ (gives_reportWorkload check kind) o ho r hr)

theorem gives_analyzeJob (check : WorkloadCheck) :
    Gives (check.analyzeJob store) (Output.Stamped check.shared check.Shape) := by
  refine .bind fun strict hstrict => ?_
  split
  · exact .bind fun o ho => .pure ⟨strict, o, mapError_eq_ok.1 hstrict,
      gives_scan check _ _ _ (fun _ _ h => .inl (concludes_of_failure h)) o ho, rfl⟩
  · rename_i hname
    refine .bind fun o ho => .pure ⟨strict, o, mapError_eq_ok.1 hstrict, fun r hr => ?_, rfl⟩
    exact shape_of_named hname (gives_perFile check _ _ _ (gives_reportJob check) o ho r hr)

end WorkloadCheck

theorem MatchRule.concludes_result (rule : MatchRule) (title : String) (isMatch : Bool) :
    (rule.result title isMatch).Concludes := by
  unfold MatchRule.result
  dsimp only
  split
  · exact Result.concludes_ofCandidate _ _ _
  · exact Result.concludes_ofMessage _ _ _

namespace TextCheck

theorem gives_matchResults (check : TextCheck) (title : String) (files : List FoundFile)
    (regex : Regex) : Gives (check.matchResults title files regex) fun results =>
      ∀ r ∈ results, r.Concludes :=
  .bind fun rule _ => .pure fun r hr => by
    obtain ⟨file, -, rfl⟩ := List.mem_map.1 hr
    exact rule.concludes_result _ _

theorem gives_reportGroups (check : TextCheck) (title : String) (regex : Regex)
    (file : FoundFile) : Gives (check.reportGroups title regex file) fun o =>
      ∀ r ∈ o.results, r.Concludes ∨ r.IsNeutral := by
  refine .bind fun p hresolve => ?_
  have hshape := Resolution.gives_toResult _ _ hresolve
  dsimp only
  split
  · exact .pure (Output.forall_mem_single hshape _)
  · rename_i hverdict
    refine .bind fun message _ => .pure (Output.forall_mem_single (.inl ?_) _)
    rcases hshape with h | h
    · exact ⟨h.verdict, h.noObject⟩
    · rw [h] at hverdict
      exact absurd rfl hverdict

/-- The result concludes, or it is a neutral one of a pattern with groups. -/
def Shape (check : TextCheck) (r : Result) : Prop :=
  r.Concludes ∨ r.IsNeutral ∧ check.groupPattern ≠ ""

theorem ne_empty_of_compile {pattern : String} {regex : Regex}
    (h : compile pattern = .ok (some regex)) : pattern ≠ "" := by
  rintro rfl
  cases h

theorem withoutFiles_shape (check : TextCheck) (title : String) :
    ∀ r ∈ (check.withoutFiles title).results, check.Shape r := by
  unfold withoutFiles
  split
  · exact nofun
  · exact Output.forall_mem_single (.inl (Result.concludes_ofMessage _ _ _)) _

/-- What both ways found is reported, and if that is nothing the check is not a valid one. -/
theorem gives_found (check : TextCheck) (title : String) {strict : Bool} {results : List Result}
    {outputs : List Output} (hstrict : check.shared.isStrict = .ok strict)
    (hresults : ∀ r ∈ results, check.Shape r)
    (houtputs : ∀ o ∈ outputs, ∀ r ∈ o.results, check.Shape r) :
    let output := (Output.mk results []).append (.concat outputs)
    Gives (ε := AnalysisError) (if output.results.isEmpty then
        pure ((Output.ofResult (.ofMessage title .fail invalidAnalyzerMessage)).stamp strict)
      else pure (output.stamp strict)) (Output.Stamped check.shared check.Shape) := by
  intro output
  split
  · exact .pure ⟨strict, _, hstrict,
      Output.forall_mem_single (.inl (Result.concludes_ofMessage _ _ _)) _, rfl⟩
  · refine .pure ⟨strict, _, hstrict, fun r hr => ?_, rfl⟩
    rcases List.mem_append.1 hr with hr | hr
    · exact hresults r hr
    · exact Output.forall_mem_concat houtputs r hr

theorem gives_analyze (check : TextCheck) :
    Gives (check.analyze store) (Output.Stamped check.shared check.Shape) := by
  refine .bind fun strict hstrict => .bind fun pattern? _ => .bind fun groupPattern? hgroup =>
    .bind fun files _ => ?_
  replace hstrict := mapError_eq_ok.1 hstrict
  have hmatch (title : String) (regex : Regex) : Gives (check.matchResults title files regex)
      fun results => ∀ r ∈ results, check.Shape r :=
    fun results h r hr => .inl (gives_matchResults check title files regex results h r hr)
  have hgroups (title : String) (regex : Regex) (h : groupPattern? = some regex) :
      Gives (files.mapM (check.reportGroups title regex)) fun outputs =>
        ∀ o ∈ outputs, ∀ r ∈ o.results, check.Shape r := by
    subst h
    refine Gives.mapM fun file _ o ho r hr => ?_
    exact (gives_reportGroups check title regex file o ho r hr).imp_right fun h =>
      ⟨h, ne_empty_of_compile (mapError_eq_ok.1 hgroup)⟩
  dsimp only
  split
  · exact .pure ⟨strict, _, hstrict, check.withoutFiles_shape _, rfl⟩
  · -- a way without a pattern finds nothing
    cases pattern? <;> cases groupPattern? <;>
      refine .bind fun results hresults => .bind fun outputs houtputs =>
        gives_found check _ hstrict ?_ ?_
    · exact Gives.nothing _ hresults
    · exact Gives.nothing _ houtputs
    · exact Gives.nothing _ hresults
    · exact hgroups _ _ rfl _ houtputs
    · exact hmatch _ _ _ hresults
    · exact Gives.nothing _ houtputs
    · exact hmatch _ _ _ hresults
    · exact hgroups _ _ rfl _ houtputs

end TextCheck

namespace PodCheck

theorem gives_result (check : PodCheck) (rule : PodRule) (pod : Cluster.Pod) :
    Gives (check.result rule pod) Result.ConcludesOnObject :=
  .bind fun _ _ => .bind fun _ _ => .pure ⟨rfl, rfl⟩

theorem gives_reportAlone (check : PodCheck) (found : Except StoreError (List FoundFile))
    (pod : Cluster.Pod) : Gives (check.reportAlone found pod) fun report =>
      ∀ r, report = some r → r.ConcludesOnObject := by
  rintro report h r rfl
  obtain ⟨full, -, h⟩ := reportAlone_eq_ok.1 h
  rcases resolve_eq_ok.1 h with ⟨-, h⟩ | ⟨rule, result, -, hresult, h⟩
  · cases h
  · exact Option.some.inj h ▸ gives_result check rule full result hresult

theorem gives_analyze (check : PodCheck) :
    Gives (check.analyze store) (Output.Stamped check.shared Result.ConcludesOnObject) := by
  intro o ho
  obtain ⟨strict, files, results, hstrict, -, hresults, rfl⟩ := analyze_eq_ok.1 ho
  have hfile : ∀ file ∈ files.filter fun file => check.covers file.1,
      Gives (check.reportFileAlone store file) fun found => ∀ r ∈ found, r.ConcludesOnObject :=
    fun file _ => .bind fun pods _ => .bind fun reports hreports => .pure fun r hr => by
      obtain ⟨report, hreport, rfl⟩ := List.mem_filterMap.1 hr
      exact Gives.mapM (fun pod _ => gives_reportAlone check _ pod) reports hreports _ hreport r rfl
  exact ⟨strict, _, hstrict, Gives.mapM_flatten hfile results hresults, rfl⟩

end PodCheck

end Checks

namespace Analyzer

/-- The kinds of analyzers that may leave a result neutral. -/
def MayStayNeutral : Analyzer → Prop
  | runtime _ | event _ => True
  | workload _ check | job check => check.name ≠ ""
  | text check => check.groupPattern ≠ ""
  | host _ _ | pods _ | yaml _ | json _ => False

def IsAboutPods : Analyzer → Prop
  | pods _ => True
  | _ => False

/-- What an analyzer may report, its strictness apart. -/
structure Allows (a : Analyzer) (r : Result) : Prop where
  verdict : r.verdict.isSome = true ∨ r.IsNeutral ∧ a.MayStayNeutral
  object : r.involvedObject.isSome = true ↔ a.IsAboutPods

section Allows

variable {a : Analyzer} {r : Result}

theorem allows_of_concludes (ha : ¬ a.IsAboutPods) (h : r.Concludes) : a.Allows r :=
  ⟨.inl h.verdict, by simp [h.noObject, ha]⟩

theorem allows_of_isNeutral (ha : ¬ a.IsAboutPods) (hneutral : a.MayStayNeutral)
    (h : r.IsNeutral) : a.Allows r :=
  ⟨.inr ⟨h, hneutral⟩, by rw [h]; simp [Result.neutral, ha]⟩

/-- What an analyzer that is not about pods may report. -/
theorem allows_of_shape (ha : ¬ a.IsAboutPods) (h : r.Concludes ∨ r.IsNeutral ∧ a.MayStayNeutral) :
    a.Allows r :=
  h.elim (allows_of_concludes ha) fun h => allows_of_isNeutral ha h.2 h.1

end Allows

theorem gives_analyze (store : EvidenceStore) (a : Analyzer) :
    Gives (a.analyze store) (Output.Stamped a.shared a.Allows) := by
  intro o ho
  cases a with
  | host fact check =>
    exact (HostCheck.gives_analyze check fact o ho).imp fun _ => allows_of_concludes id
  | pods check =>
    exact (PodCheck.gives_analyze check o ho).imp fun _ h =>
      ⟨.inl h.verdict, iff_of_true h.object trivial⟩
  | runtime check =>
    exact (RuntimeCheck.gives_analyze check o ho).imp fun _ h =>
      allows_of_shape id (h.imp_right (⟨·, trivial⟩))
  | workload kind check =>
    exact (WorkloadCheck.gives_analyze check kind o ho).imp fun _ => allows_of_shape id
  | job check =>
    exact (WorkloadCheck.gives_analyzeJob check o ho).imp fun _ => allows_of_shape id
  | event check =>
    exact (EventCheck.gives_analyze check o ho).imp fun _ h =>
      allows_of_shape id (h.imp_right (⟨·, trivial⟩))
  | yaml check =>
    exact (DocumentCheck.gives_analyzeYaml check o ho).imp fun _ => allows_of_concludes id
  | json check =>
    exact (JsonCheck.gives_analyze check o ho).imp fun _ => allows_of_concludes id
  | text check =>
    exact (TextCheck.gives_analyze check o ho).imp fun _ => allows_of_shape id

/-- Every result carries the strictness of its analyzer, and it has a verdict unless it is the
neutral result of its title and the analyzer is of a kind that may leave one. The results about pods
are the ones that refer to an object. An analyzer whose strictness cannot be read reports nothing
about any store. -/
theorem analyze_emits (a : Analyzer) :
    (∀ store output, a.analyze store = .ok output → ∃ strict, a.isStrict = .ok strict
      ∧ ∀ r ∈ output.results, r.strict = strict
        ∧ (r.verdict.isSome = true
          ∨ r = { Result.neutral r.title with strict } ∧ a.MayStayNeutral)
        ∧ (r.involvedObject.isSome = true ↔ a.IsAboutPods))
    ∧ ((∀ strict, a.isStrict ≠ .ok strict) → ∀ store, ∃ e, a.analyze store = .error e) := by
  constructor
  · intro store output houtput
    obtain ⟨strict, plain, hstrict, hplain, rfl⟩ := gives_analyze store a output houtput
    refine ⟨strict, hstrict, fun r hr => ?_⟩
    obtain ⟨s, hs, rfl⟩ := List.mem_map.1 hr
    obtain ⟨hverdict, hobject⟩ := hplain s hs
    refine ⟨rfl, hverdict.imp_right fun h => ⟨?_, h.2⟩, hobject⟩
    exact congrArg (fun r : Result => { r with strict }) h.1
  · intro hnone store
    cases houtput : a.analyze store with
    | error e => exact ⟨e, rfl⟩
    | ok output =>
      obtain ⟨strict, -, hstrict, -⟩ := gives_analyze store a output houtput
      exact absurd hstrict (hnone strict)

section Sample

/-- A namespace in which nothing happened. -/
def quietNamespace : EvidenceStore :=
  (MemoryStore.ofList [("cluster-resources/events/apps.json", Utf8.encode "[]".toList)]).toStore

/-- A check whose only outcome is about events that are there. -/
def restartCheck (strict : String) : Analyzer := .event
  { shared := { checkName := "restarts", strict := some (.text strict) }
    nspace := "apps"
    reason := "BackOff"
    outcomes := [{ fail := some { when := "true", message := "containers restart" } }] }

theorem analyze_emits_of_restartCheck :
    (restartCheck "true").analyze quietNamespace =
      .ok ⟨[{ Result.neutral "restarts" with strict := true }], []⟩
    ∧ (∃ strict, (restartCheck "true").isStrict = .ok strict
      ∧ true = strict ∧ (restartCheck "true").MayStayNeutral)
    ∧ (∀ strict, (restartCheck "maybe").isStrict ≠ .ok strict)
    ∧ ∀ store, ∃ e, (restartCheck "maybe").analyze store = .error e := by
  have hanalyze : (restartCheck "true").analyze quietNamespace =
      .ok ⟨[{ Result.neutral "restarts" with strict := true }], []⟩ := by decide +kernel
  have hunread : ∀ strict, (restartCheck "maybe").isStrict ≠ .ok strict := by decide
  obtain ⟨strict, hstrict, hresults⟩ := (analyze_emits (restartCheck "true")).1 _ _ hanalyze
  obtain ⟨hstamp, hverdict, -⟩ := hresults _ (List.mem_singleton.2 rfl)
  exact ⟨hanalyze, ⟨strict, hstrict, hstamp, (hverdict.resolve_left nofun).2⟩, hunread,
    (analyze_emits (restartCheck "maybe")).2 hunread⟩

end Sample

end Analyzer

end Triage
