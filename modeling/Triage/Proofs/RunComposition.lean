import Triage.Engine.Run

/-!
# Runs compose

Running two lists of analyzers in a row is running the one and then the other, with the log of the
first already recorded (`after_append`). Where the evidence does not depend on the log, a run is put
together from the runs of its analyzers, none of which sees any other, and each of those is one of
three things: an exclusion, a failure or an output (`ofManifest_gathers_contributions`).
-/

namespace Triage

/-- A run is put together from others, one after another, in all that runs record. -/
structure Run.Gathers (whole : Run) (parts : List Run) : Prop where
  results : whole.report.results = parts.flatMap (·.report.results)
  failures : whole.report.failures = parts.flatMap (·.report.failures)
  warnings : whole.report.warnings = parts.flatMap (·.report.warnings)
  log : whole.log = parts.flatMap (·.log)

/-- What an analyzer can add to a run. -/
inductive Contribution where
  | exclusion
  | failure (error : AnalysisError)
  | output (output : Output)

namespace Contribution

/-- What an analyzer does add to a run on a store. -/
inductive Due (store : EvidenceStore) (a : Analyzer) : Contribution → Prop
  | excluded (hflag : a.isExcluded = .ok true) : Due store a exclusion
  | unreadable {e : InvalidError} (hflag : a.isExcluded = .error e) :
    Due store a (failure (.invalid e))
  | failed {e : AnalysisError} (hflag : a.isExcluded = .ok false)
    (hanalyze : a.analyze store = .error e) : Due store a (failure e)
  | reported {o : Output} (hflag : a.isExcluded = .ok false)
    (hanalyze : a.analyze store = .ok o) : Due store a (output o)

/-- A run records this contribution of an analyzer with a title, and nothing else. -/
def Recorded (title : String) (run : Run) : Contribution → Prop
  | exclusion => run = { log := [⟨.excluded, title, "analyzer excluded"⟩] }
  | failure e =>
    run = { report := { failures := [⟨title, e⟩] }, log := [⟨.failed, title, e.message⟩] }
  | output o =>
    run = {
      report := { results := o.results, warnings := o.warnings }
      log := (o.warnings.map fun w => ⟨.warning, w.subject, w.message⟩) ++
        if o.results = [] then [⟨.noResults, title, "analyzer produced no results"⟩] else [] }

variable {store : EvidenceStore} {a : Analyzer} {title : String} {run : Run} {c d : Contribution}

theorem exists_due (store : EvidenceStore) (a : Analyzer) : ∃ c, Due store a c := by
  rcases hflag : a.isExcluded with e | _ | _
  · exact ⟨_, .unreadable hflag⟩
  · rcases hanalyze : a.analyze store with e | o
    · exact ⟨_, .failed hflag hanalyze⟩
    · exact ⟨_, .reported hflag hanalyze⟩
  · exact ⟨_, .excluded hflag⟩

/-- What is excluded is told by the flag alone, whatever the store holds. -/
theorem due_exclusion_iff :
    Due store a exclusion ↔ (a.shared.exclude.getD (.literal false)).Says true := by
  rw [← Analyzer.isExcluded_eq_ok_iff]
  constructor
  · intro h
    cases h with
    | excluded hflag => exact hflag
  · exact .excluded

theorem Due.eq (hc : Due store a c) (hd : Due store a d) : c = d := by
  cases hc <;> cases hd <;> simp_all

theorem not_recorded_exclusion_and_output {o : Output} (hc : exclusion.Recorded title run)
    (hd : (output o).Recorded title run) : False := by
  simp only [Recorded] at hc hd
  rw [hc, Run.mk.injEq, Report.mk.injEq] at hd
  obtain ⟨⟨hresults, -, hwarnings⟩, hlog⟩ := hd
  simp [← hresults, ← hwarnings] at hlog

/-- A run tells which contribution it records. -/
theorem Recorded.eq (hc : c.Recorded title run) (hd : d.Recorded title run) : c = d := by
  cases c with
  | exclusion =>
    cases d with
    | exclusion => rfl
    | failure e => simp_all [Recorded]
    | output o => exact (not_recorded_exclusion_and_output hc hd).elim
  | failure e => cases d <;> simp_all [Recorded]
  | output o =>
    cases d with
    | exclusion => exact (not_recorded_exclusion_and_output hd hc).elim
    | failure e => simp_all [Recorded]
    | output o' =>
      simp only [Recorded] at hc hd
      rw [hc, Run.mk.injEq, Report.mk.injEq] at hd
      obtain ⟨⟨hresults, -, hwarnings⟩, -⟩ := hd
      cases o
      cases o'
      simp_all

theorem Due.recorded (h : Due store a c) : c.Recorded a.title (Run.ofAnalyzer store a) := by
  cases h with
  | excluded hflag => simp [Recorded, Run.ofAnalyzer, hflag, Run.ofExclusion]
  | unreadable hflag => simp [Recorded, Run.ofAnalyzer, hflag, Run.ofFailure]
  | failed hflag hanalyze => simp [Recorded, Run.ofAnalyzer, hflag, hanalyze, Run.ofFailure]
  | reported hflag hanalyze => simp [Recorded, Run.ofAnalyzer, hflag, hanalyze, Run.ofOutput]

end Contribution

namespace Run

theorem append_assoc (r s t : Run) : (r.append s).append t = r.append (s.append t) := by
  simp [append, Report.append]

theorem nil_append (r : Run) : append {} r = r := rfl

theorem append_nil (r : Run) : r.append {} = r := by
  simp [append, Report.append]

theorem log_append (r s : Run) : (r.append s).log = r.log ++ s.log := rfl

theorem gathers_nil : Gathers {} [] := ⟨rfl, rfl, rfl, rfl⟩

theorem Gathers.cons {run : Run} {parts : List Run} (h : run.Gathers parts) (first : Run) :
    (first.append run).Gathers (first :: parts) where
  results := by rw [List.flatMap_cons, ← h.results]; rfl
  failures := by rw [List.flatMap_cons, ← h.failures]; rfl
  warnings := by rw [List.flatMap_cons, ← h.warnings]; rfl
  log := by rw [List.flatMap_cons, ← h.log]; rfl

theorem gathers_singleton (r : Run) : r.Gathers [r] := by
  have h := gathers_nil.cons r
  rwa [append_nil] at h

theorem gathers_append (r s : Run) : (r.append s).Gathers [r, s] := (gathers_singleton s).cons r

/-- Where repeats are kept, each analyzer is run. -/
theorem after_none_cons (storeAt : List LogEntry → EvidenceStore) (log : List LogEntry)
    (a : Analyzer) (analyzers : List Analyzer) :
    after storeAt none log (a :: analyzers) = (ofAnalyzer (storeAt log) a).append
      (after storeAt none (log ++ (ofAnalyzer (storeAt log) a).log) analyzers) := rfl

/-- A second list of analyzers is run after the first one, and after its log. -/
theorem after_append (storeAt : List LogEntry → EvidenceStore) (ys : List Analyzer) :
    ∀ (xs : List Analyzer) (log : List LogEntry), after storeAt none log (xs ++ ys) =
      (after storeAt none log xs).append
        (after storeAt none (log ++ (after storeAt none log xs).log) ys)
  | [], log => by rw [List.nil_append, after, nil_append, List.append_nil]
  | x :: xs, log => by
    rw [List.cons_append, after_none_cons, after_append storeAt ys xs, after_none_cons,
      append_assoc, log_append, List.append_assoc]

/-- Evidence that does not depend on the log is the same after every log. -/
theorem after_const (store : EvidenceStore) : ∀ (analyzers : List Analyzer) (log : List LogEntry),
    after (fun _ => store) none log analyzers = ofManifest store false analyzers
  | [], _ => rfl
  | a :: analyzers, log => by
    rw [after_none_cons, after_const store analyzers]
    exact congrArg (ofAnalyzer store a).append (after_const store analyzers _).symm

theorem ofManifest_append (store : EvidenceStore) (xs ys : List Analyzer) :
    ofManifest store false (xs ++ ys) =
      (ofManifest store false xs).append (ofManifest store false ys) := by
  rw [← after_const store _ [], after_append, after_const, after_const]

theorem ofManifest_singleton (store : EvidenceStore) (a : Analyzer) :
    ofManifest store false [a] = ofAnalyzer store a :=
  append_nil (ofAnalyzer store a)

/-- A run gathers the runs of its analyzers. -/
theorem ofManifest_gathers (store : EvidenceStore) : ∀ xs : List Analyzer,
    (ofManifest store false xs).Gathers (xs.map fun a => ofManifest store false [a])
  | [] => gathers_nil
  | x :: xs => by
    rw [← List.singleton_append, ofManifest_append]
    exact (ofManifest_gathers store xs).cons _

/-- Runs without deduplication compose: a run of two lists is the one followed by the other, a run
of a list is the runs of its analyzers in their order, and the run of one analyzer records exactly
one contribution, the one that is due to it. No store has a part in an exclusion. -/
theorem ofManifest_gathers_contributions (store : EvidenceStore) :
    (∀ xs ys, (ofManifest store false (xs ++ ys)).Gathers
      [ofManifest store false xs, ofManifest store false ys])
    ∧ (∀ xs, (ofManifest store false xs).Gathers (xs.map fun a => ofManifest store false [a]))
    ∧ ∀ a, (∃ c, ∀ d : Contribution, (d.Due store a ↔ d = c)
        ∧ (d.Recorded a.title (ofManifest store false [a]) ↔ d = c))
      ∧ (Contribution.exclusion.Due store a ↔
        ∀ other, Contribution.exclusion.Recorded a.title (ofManifest other false [a])) := by
  refine ⟨fun xs ys => ?_, ofManifest_gathers store, fun a => ⟨?_, ?_⟩⟩
  · rw [ofManifest_append]
    exact gathers_append _ _
  · obtain ⟨c, hc⟩ := Contribution.exists_due store a
    have hrecorded := hc.recorded
    rw [ofManifest_singleton]
    refine ⟨c, fun d => ⟨⟨fun hd => hd.eq hc, fun h => h ▸ hc⟩, ?_⟩⟩
    exact ⟨fun hd => hd.eq hrecorded, fun h => h ▸ hrecorded⟩
  · constructor
    · intro hdue other
      cases hdue with
      | excluded hflag =>
        rw [ofManifest_singleton]
        exact (Contribution.Due.excluded hflag).recorded
    · intro h
      obtain ⟨c, hc⟩ := Contribution.exists_due store a
      have hrecorded := h store
      rw [ofManifest_singleton] at hrecorded
      rwa [hrecorded.eq hc.recorded]

end Run

end Triage
