import Triage.Analysis.Basic
import Triage.Proofs.Clauses
import Triage.Proofs.Endings

/-!
# The verdict on a document

Every outcome of a check of a document expects that the documents are equal, or that they are not
(`Candidate.Expects`). The resolution passes over the outcomes that expect what is not so and takes
the first that expects what is (`DocumentCheck.ending_eq_ok_iff`), so a check has one verdict, and
where no outcome gives it the check itself is at fault (`DocumentComparison.concludes_once`).
-/

namespace Triage

/-- The equality that a clause asks for: the one it states, or where it says nothing equality for a
pass and the opposite for any other verdict. -/
inductive Candidate.Expects (verdict : Verdict) (c : Candidate) : Bool → Prop
  | stated {expected : Bool} (h : boolOfText? (trimmed c.when) = some expected) :
    c.Expects verdict expected
  | blank (h : trimmed c.when = "") : c.Expects verdict (decide (verdict = .pass))

namespace DocumentCheck

/-- What the outcomes conclude from a comparison: the first that expects how it came out is taken,
and without one the check is not a valid one. Outcomes without a verdict expect nothing. -/
inductive Concludes (title : String) (outcomes : List Outcome) (equal : Bool) : Result → Prop
  | taken {before after : List Outcome} {o : Outcome} {v : Verdict} {c : Candidate}
    (houtcomes : outcomes = before ++ o :: after)
    (hbefore : ∀ o ∈ before, ∀ v c, o.Takes v c → c.Expects v (!equal))
    (htakes : o.Takes v c) (hexpects : c.Expects v equal) :
    Concludes title outcomes equal (.ofCandidate title v c)
  | invalid (hall : ∀ o ∈ outcomes, ∀ v c, o.Takes v c → c.Expects v (!equal)) :
    Concludes title outcomes equal (.ofMessage title .fail invalidAnalyzerMessage)

theorem Concludes.isSome_verdict {title : String} {outcomes : List Outcome} {equal : Bool}
    {r : Result} (h : Concludes title outcomes equal r) : r.verdict.isSome = true := by
  cases h with
  | taken => rfl
  | invalid => rfl

section Resolving

variable {title : String} {outcomes : List Outcome} {o : Outcome} {equal b : Bool}
  {verdict : Verdict} {c : Candidate}

theorem holds_eq_ok_iff : holds equal verdict (trimmed c.when) = .ok b ↔
    ∃ expected, c.Expects verdict expected ∧ (expected == equal) = b := by
  unfold holds
  by_cases hblank : trimmed c.when = ""
  · have hread : boolOfText? (trimmed c.when) = none := by rw [hblank]; rfl
    rw [if_pos (by simp [hblank]), pure_bind]
    constructor
    · intro h
      exact ⟨_, .blank hblank, Except.ok.inj h⟩
    · rintro ⟨expected, h | -, heq⟩
      · rw [hread] at h
        cases h
      · exact congrArg Except.ok heq
  · -- the clause is trimmed a second time when it is read
    rw [if_neg (by simpa using hblank), bind_eq_ok, Clause.readBool, trimmed_trimmed]
    constructor
    · rintro ⟨expected, hread, heq⟩
      cases hstated : boolOfText? (trimmed c.when) with
      | none =>
        rw [hstated] at hread
        cases hread
      | some stated =>
        rw [hstated] at hread
        obtain rfl := Except.ok.inj hread
        exact ⟨stated, .stated hstated, Except.ok.inj heq⟩
    · rintro ⟨expected, h | h, heq⟩
      · rw [h]
        exact ⟨expected, rfl, congrArg Except.ok heq⟩
      · exact absurd h hblank

theorem holds_eq_true_iff :
    holds equal verdict (trimmed c.when) = .ok true ↔ c.Expects verdict equal := by
  rw [holds_eq_ok_iff]
  constructor
  · rintro ⟨expected, h, heq⟩
    exact beq_iff_eq.1 heq ▸ h
  · exact fun h => ⟨equal, h, beq_self_eq_true equal⟩

theorem holds_eq_false_iff :
    holds equal verdict (trimmed c.when) = .ok false ↔ c.Expects verdict (!equal) := by
  rw [holds_eq_ok_iff]
  constructor
  · rintro ⟨expected, h, heq⟩
    have hother : expected = !equal := Bool.eq_not_of_ne (beq_eq_false_iff_ne.1 heq)
    exact hother ▸ h
  · exact fun h => ⟨!equal, h, by cases equal <;> rfl⟩

/-- No clause holds unasked. -/
theorem not_unconditional_asked (c : Candidate) : ¬ c.Unconditional .asked := nofun

theorem refused_iff : o.Refused .asked (holds equal) ↔
    ∀ v c, o.Takes v c → c.Expects v (!equal) := by
  simp only [Outcome.Refused, not_unconditional_asked, not_false_eq_true, true_and,
    holds_eq_false_iff]

theorem accepted_iff : c.Accepted .asked (holds equal) verdict ↔ c.Expects verdict equal := by
  simp only [Candidate.Accepted, not_unconditional_asked, false_or, holds_eq_true_iff]

def resultOf : Resolution → Result
  | .matched result => result
  | .exhausted title => .ofMessage title .fail invalidAnalyzerMessage

/-- The outcomes are tried without a fault exactly when they conclude something. -/
theorem ending_eq_ok_iff {r : Result} :
    (∃ resolution, (Resolution.trace title .asked outcomes (holds equal)).ending = .ok resolution
      ∧ resultOf resolution = r) ↔ Concludes title outcomes equal r := by
  constructor
  · rintro ⟨resolution, hending, rfl⟩
    obtain ⟨reached, hends⟩ := Resolution.ending_eq_iff.1 hending
    cases hends with
    | taken houtcomes hbefore htakes haccepted =>
      exact .taken houtcomes (fun o ho => refused_iff.1 (hbefore o ho)) htakes
        (accepted_iff.1 haccepted)
    | exhausted hall => exact .invalid fun o ho => refused_iff.1 (hall o ho)
  · intro h
    cases h with
    | taken houtcomes hbefore htakes hexpects =>
      exact ⟨_, Resolution.ending_eq_iff.2 ⟨_, .taken houtcomes
        (fun o ho => refused_iff.2 (hbefore o ho)) htakes (accepted_iff.2 hexpects)⟩, rfl⟩
    | invalid hall =>
      exact ⟨_, Resolution.ending_eq_iff.2 ⟨_, .exhausted fun o ho => refused_iff.2 (hall o ho)⟩,
        rfl⟩

theorem Concludes.unique {r r' : Result} (h : Concludes title outcomes equal r)
    (h' : Concludes title outcomes equal r') : r = r' := by
  obtain ⟨resolution, hending, rfl⟩ := ending_eq_ok_iff.2 h
  obtain ⟨resolution', hending', rfl⟩ := ending_eq_ok_iff.2 h'
  rw [hending, Except.ok.injEq] at hending'
  rw [hending']

/-- A failure and a pass whose clauses are blank: the pass is for equal documents. -/
theorem Concludes.pass_iff {fail pass : Candidate} (hfail : trimmed fail.when = "")
    (hpass : trimmed pass.when = "") {r : Result}
    (h : Concludes title [.ofCandidate fail .fail, .ofCandidate pass .pass] equal r) :
    r.verdict = some .pass ↔ equal = true := by
  have htakes (v : Verdict) (c : Candidate) : (Outcome.ofCandidate c v).Takes v c := by
    rw [← Outcome.chosen?_eq_some_iff]
    cases v <;> rfl
  cases equal with
  | false =>
    obtain rfl := h.unique (.taken (List.nil_append _).symm nofun (htakes .fail fail)
      (.blank hfail))
    simp [Result.ofCandidate]
  | true =>
    have hbefore : ∀ o ∈ [Outcome.ofCandidate fail .fail], ∀ v c, o.Takes v c →
        c.Expects v false := by
      rintro o ho v c htakes'
      obtain rfl := List.mem_singleton.1 ho
      obtain ⟨rfl, rfl⟩ := (htakes .fail fail).unique htakes'
      exact .blank hfail
    obtain rfl := h.unique (.taken rfl hbefore (htakes .pass pass) (.blank hpass))
    simp [Result.ofCandidate]

theorem conclude_eq (check : DocumentCheck) (title : String) (equal : Bool) :
    check.conclude title equal = (do
      let trace := Resolution.trace title .asked check.outcomes (holds equal)
      let resolution ← trace.ending
      return (Output.mk [resultOf resolution] trace.warnings).stamp (← check.shared.isStrict)) := by
  unfold conclude
  dsimp only
  rcases (Resolution.trace title .asked check.outcomes (holds equal)).ending with
    e | result | title
  · rfl
  · rfl
  · rfl

theorem results_conclude_eq_ok_iff {check : DocumentCheck} {results : List Result} :
    (check.conclude title equal).map Output.results = .ok results ↔
      ∃ strict r, check.shared.isStrict = .ok strict
        ∧ Concludes title check.outcomes equal r ∧ results = [{ r with strict }] := by
  simp only [conclude_eq, ← ending_eq_ok_iff, map_eq_ok, bind_eq_ok, pure_eq_ok, Except.ok.injEq]
  constructor
  · rintro ⟨_, ⟨resolution, hending, strict, hstrict, rfl⟩, rfl⟩
    exact ⟨strict, _, mapError_eq_ok.1 hstrict, ⟨resolution, mapError_eq_ok.1 hending, rfl⟩, rfl⟩
  · rintro ⟨strict, r, hstrict, ⟨resolution, hending, rfl⟩, rfl⟩
    exact ⟨_, ⟨resolution, mapError_eq_ok.2 hending, strict, mapError_eq_ok.2 hstrict, rfl⟩, rfl⟩

theorem isStrict_of_conclude {check : DocumentCheck} {output : Output}
    (h : check.conclude title equal = .ok output) : ∃ strict, check.shared.isStrict = .ok strict := by
  obtain ⟨strict, -, hstrict, -⟩ := results_conclude_eq_ok_iff.1 (map_eq_ok.2 ⟨output, h, rfl⟩)
  exact ⟨strict, hstrict⟩

end Resolving

end DocumentCheck

/-- A check that compares a document with an expected value. -/
inductive DocumentComparison where
  | yaml (check : DocumentCheck)
  | json (check : JsonCheck)
  deriving DecidableEq, Repr

namespace DocumentComparison

def analyzer : DocumentComparison → Analyzer
  | yaml check => .yaml check
  | json check => .json check

def document : DocumentComparison → DocumentCheck
  | yaml check => check
  | json check => check.document

/-- How the selected part of the document compares with the expected value. -/
inductive Compares (store : EvidenceStore) : DocumentComparison → Bool → Prop
  | yaml {check : DocumentCheck} {content : Bytes} {document actual expected : Json}
    (hcontent : store.get check.fullPath = .ok content)
    (hdocument : Yaml.ofBytes? content = some document)
    (hactual : Json.select check.path document = .ok actual)
    (hexpected : Yaml.ofText? check.value.toList = some expected) :
    Compares store (yaml check) (actual.equal expected)
  | json {check : JsonCheck} {content : Bytes} {document actual expected : Json}
    (hcontent : store.get check.document.fullPath = .ok content)
    (hdocument : Json.ofBytes? content = some document)
    (hactual : check.selected document = .ok actual)
    (hexpected : Json.ofText? check.document.value = some expected) :
    Compares store (json check) (actual.equalIgnoringOrder expected)

variable {comparison : DocumentComparison} {store : EvidenceStore} {equal : Bool}

theorem analyze_eq_ok_iff {output : Output} : comparison.analyzer.analyze store = .ok output ↔
    ∃ equal, comparison.Compares store equal
      ∧ comparison.document.conclude comparison.analyzer.title equal = .ok output := by
  cases comparison with
  | yaml check =>
    show check.analyzeYaml store = .ok output ↔ _
    constructor
    · intro h
      -- the strictness is read here and once more for the conclusion
      obtain ⟨-, -, h⟩ := bind_eq_ok.1 h
      obtain ⟨content, hcontent, h⟩ := bind_eq_ok.1 h
      split at h
      · rename_i document hdocument
        obtain ⟨actual, hactual, h⟩ := bind_eq_ok.1 h
        split at h
        · rename_i expected hexpected
          exact ⟨_, .yaml (mapError_eq_ok.1 hcontent) hdocument (mapError_eq_ok.1 hactual)
            hexpected, h⟩
        · cases h
      · cases h
    · rintro ⟨equal, ⟨hcontent, hdocument, hactual, hexpected⟩, h⟩
      obtain ⟨strict, hstrict⟩ := DocumentCheck.isStrict_of_conclude h
      refine bind_eq_ok.2 ⟨strict, mapError_eq_ok.2 hstrict, ?_⟩
      refine bind_eq_ok.2 ⟨_, mapError_eq_ok.2 hcontent, ?_⟩
      rw [hdocument]
      refine bind_eq_ok.2 ⟨_, mapError_eq_ok.2 hactual, ?_⟩
      rw [hexpected]
      exact h
  | json check =>
    show check.analyze store = .ok output ↔ _
    constructor
    · intro h
      obtain ⟨-, -, h⟩ := bind_eq_ok.1 h
      obtain ⟨content, hcontent, h⟩ := bind_eq_ok.1 h
      split at h
      · rename_i document hdocument
        obtain ⟨actual, hactual, h⟩ := bind_eq_ok.1 h
        split at h
        · rename_i expected hexpected
          exact ⟨_, .json (mapError_eq_ok.1 hcontent) hdocument (mapError_eq_ok.1 hactual)
            hexpected, h⟩
        · cases h
      · cases h
    · rintro ⟨equal, - | ⟨hcontent, hdocument, hactual, hexpected⟩, h⟩
      obtain ⟨strict, hstrict⟩ := DocumentCheck.isStrict_of_conclude h
      refine bind_eq_ok.2 ⟨strict, mapError_eq_ok.2 hstrict, ?_⟩
      refine bind_eq_ok.2 ⟨_, mapError_eq_ok.2 hcontent, ?_⟩
      rw [hdocument]
      refine bind_eq_ok.2 ⟨_, mapError_eq_ok.2 hactual, ?_⟩
      rw [hexpected]
      exact h

theorem Compares.unique {other : Bool} (h : comparison.Compares store equal)
    (h' : comparison.Compares store other) : equal = other := by
  cases h with
  | yaml hcontent hdocument hactual hexpected =>
    rcases h' with ⟨hcontent', hdocument', hactual', hexpected'⟩
    cases hcontent.symm.trans hcontent'
    cases hdocument.symm.trans hdocument'
    cases hactual.symm.trans hactual'
    cases hexpected.symm.trans hexpected'
    rfl
  | json hcontent hdocument hactual hexpected =>
    rcases h' with _ | ⟨hcontent', hdocument', hactual', hexpected'⟩
    cases hcontent.symm.trans hcontent'
    cases hdocument.symm.trans hdocument'
    cases hactual.symm.trans hactual'
    cases hexpected.symm.trans hexpected'
    rfl

/-- A check of a document has exactly one result, and it has a verdict: that of the first outcome
that expects how the comparison came out, or a failure of the check itself. So of a failure and a
pass with blank clauses the pass is given exactly for equal documents. -/
theorem concludes_once (comparison : DocumentComparison) (store : EvidenceStore) :
    (∀ results, (comparison.analyzer.analyze store).map Output.results = .ok results ↔
      ∃ strict equal r, comparison.document.shared.isStrict = .ok strict
        ∧ comparison.Compares store equal
        ∧ DocumentCheck.Concludes comparison.analyzer.title comparison.document.outcomes equal r
        ∧ r.verdict.isSome = true ∧ results = [{ r with strict }])
    ∧ ∀ fail pass : Candidate, trimmed fail.when = "" → trimmed pass.when = "" →
      comparison.document.outcomes = [.ofCandidate fail .fail, .ofCandidate pass .pass] →
      ∀ output, comparison.analyzer.analyze store = .ok output →
        ∃ r, output.results = [r] ∧ (r.verdict = some .pass ↔ comparison.Compares store true) := by
  have hresults (results : List Result) :
      (comparison.analyzer.analyze store).map Output.results = .ok results ↔
        ∃ equal, comparison.Compares store equal
          ∧ (comparison.document.conclude comparison.analyzer.title equal).map Output.results =
            .ok results := by
    simp only [map_eq_ok, analyze_eq_ok_iff]
    tauto
  refine ⟨fun results => ?_, fun fail pass hfail hpass houtcomes output houtput => ?_⟩
  · simp only [hresults, DocumentCheck.results_conclude_eq_ok_iff]
    constructor
    · rintro ⟨equal, hcompares, strict, r, hstrict, hconcludes, rfl⟩
      exact ⟨strict, equal, r, hstrict, hcompares, hconcludes, hconcludes.isSome_verdict, rfl⟩
    · rintro ⟨strict, equal, r, hstrict, hcompares, hconcludes, -, rfl⟩
      exact ⟨equal, hcompares, strict, r, hstrict, hconcludes, rfl⟩
  · obtain ⟨equal, hcompares, hconclude⟩ := (hresults _).1 (map_eq_ok.2 ⟨output, houtput, rfl⟩)
    obtain ⟨strict, r, -, hconcludes, hr⟩ :=
      DocumentCheck.results_conclude_eq_ok_iff.1 hconclude
    rw [houtcomes] at hconcludes
    refine ⟨_, hr, (hconcludes.pass_iff hfail hpass).trans ?_⟩
    constructor
    · rintro rfl
      exact hcompares
    · exact fun h => hcompares.unique h

section Sample

def portCheck : DocumentCheck where
  collectorName := "config"
  fileName := "server.yaml"
  path := "server.port"
  value := "443.0"
  outcomes := [.ofCandidate { when := " ", message := "differs" } .fail,
    .ofCandidate { message := "same" } .pass]

def portStore : EvidenceStore :=
  (MemoryStore.mk [("config/server.yaml", Utf8.encode "server:\n  port: 443\n".toList)]).toStore

/-- The port is written differently and is the same. -/
theorem concludes_once_of_portCheck :
    (yaml portCheck).analyzer.analyze portStore =
      .ok ⟨[.ofCandidate "config" .pass { message := "same" }], []⟩
    ∧ (yaml portCheck).Compares portStore true := by
  have hanalyze : (yaml portCheck).analyzer.analyze portStore =
      .ok ⟨[.ofCandidate "config" .pass { message := "same" }], []⟩ := by decide +kernel
  obtain ⟨-, hpass⟩ := concludes_once (yaml portCheck) portStore
  obtain ⟨r, hr, hiff⟩ := hpass { when := " ", message := "differs" } { message := "same" }
    (by decide +kernel) (by decide +kernel) rfl _ hanalyze
  obtain rfl := List.singleton_inj.1 hr
  exact ⟨hanalyze, hiff.1 rfl⟩

end Sample

end DocumentComparison

end Triage
