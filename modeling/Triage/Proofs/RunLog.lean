import Triage.Proofs.Repeats

/-!
# The log of a run and its report

What a run warns about and what fails in it is logged entry by entry as it stands in the report
(`Run.LogMatches`). The whole log is made of blocks, one for each analyzer that is no repeat, and a
block is that of the contribution that is due to the analyzer on the evidence as the earlier blocks
left it (`log_agrees_with_report`).
-/

namespace Triage

namespace LogEntry

/-- The entries of one kind in a log, each as what it is about and what it says. -/
def told (event : LogEvent) (log : List LogEntry) : List (String × String) :=
  (log.filter fun entry => entry.event = event).map fun entry => (entry.analyzer, entry.message)

theorem told_append (event : LogEvent) (log more : List LogEntry) :
    told event (log ++ more) = told event log ++ told event more := by
  simp [told]

/-- Entries that are all of one kind are told for this kind only. -/
theorem told_map {α : Type} (event kind : LogEvent) (about text : α → String) (xs : List α) :
    told event (xs.map fun x => ⟨kind, about x, text x⟩) =
      if kind = event then xs.map fun x => (about x, text x) else [] := by
  by_cases h : kind = event <;> simp [told, List.filter_map, Function.comp_def, h]

/-- Where a block holds one entry of a kind or none, a log made of blocks holds those entries in the
order of the blocks. -/
theorem told_flatMap_eq_map_filter {α : Type} {event : LogEvent} {block : α → List LogEntry}
    {has : α → Bool} {entry : α → String × String}
    (h : ∀ x, told event (block x) = if has x then [entry x] else []) (xs : List α) :
    told event (xs.flatMap block) = (xs.filter has).map entry := by
  induction xs with
  | nil => rfl
  | cons x xs ih =>
    rw [List.flatMap_cons, told_append, ih, h, List.filter_cons]
    split <;> rfl

end LogEntry

namespace Contribution

/-- What is logged about a contribution of an analyzer with a title. -/
def entries (title : String) : Contribution → List LogEntry
  | exclusion => [⟨.excluded, title, "analyzer excluded"⟩]
  | failure e => [⟨.failed, title, e.message⟩]
  | output o =>
    (o.warnings.map fun w => ⟨.warning, w.subject, w.message⟩) ++
      if o.results = [] then [⟨.noResults, title, "analyzer produced no results"⟩] else []

/-- Whether it is an exclusion. -/
def isExclusion : Contribution → Bool
  | exclusion => true
  | _ => false

/-- Whether it is an output without results. -/
def isBarren : Contribution → Bool
  | output o => o.results.isEmpty
  | _ => false

/-- The contributions of analyzers that are run in a row, each due on the evidence as it is once the
log holds what was logged before. -/
inductive InTurn (storeAt : List LogEntry → EvidenceStore) :
    List LogEntry → List (Analyzer × Contribution) → Prop
  | nil {log : List LogEntry} : InTurn storeAt log []
  | cons {log : List LogEntry} {a : Analyzer} {c : Contribution}
    {later : List (Analyzer × Contribution)} (hdue : c.Due (storeAt log) a)
    (hlater : InTurn storeAt (log ++ c.entries a.title) later) :
    InTurn storeAt log ((a, c) :: later)

variable {store : EvidenceStore} {a : Analyzer} {title : String} {run : Run} {c : Contribution}

theorem Recorded.log_eq (h : c.Recorded title run) : run.log = c.entries title := by
  cases c <;> exact congrArg Run.log h

theorem Due.isExclusion_eq (h : c.Due store a) :
    c.isExclusion = decide (a.isExcluded = .ok true) := by
  cases h <;> simp_all [isExclusion]

/-- An output is told of by its warnings, and by one entry when it has no results. -/
theorem told_entries_output (event : LogEvent) (title : String) (o : Output) :
    LogEntry.told event ((output o).entries title) = match event with
      | .warning => o.warnings.map fun w => (w.subject, w.message)
      | .noResults =>
        if (output o).isBarren then [(title, "analyzer produced no results")] else []
      | _ => [] := by
  rw [entries, LogEntry.told_append, LogEntry.told_map]
  cases event <;> cases h : o.results <;> simp [LogEntry.told, isBarren, h]

theorem told_excluded_entries (title : String) (c : Contribution) :
    LogEntry.told .excluded (c.entries title) =
      if c.isExclusion then [(title, "analyzer excluded")] else [] := by
  cases c with
  | exclusion => rfl
  | failure e => rfl
  | output o => exact told_entries_output .excluded title o

theorem told_noResults_entries (title : String) (c : Contribution) :
    LogEntry.told .noResults (c.entries title) =
      if c.isBarren then [(title, "analyzer produced no results")] else [] := by
  cases c with
  | exclusion => rfl
  | failure e => rfl
  | output o => exact told_entries_output .noResults title o

end Contribution

namespace Run

/-- The log tells of the warnings and of the failures just as the report does. -/
structure LogMatches (run : Run) : Prop where
  warnings : LogEntry.told .warning run.log =
    run.report.warnings.map fun w => (w.subject, w.message)
  failures : LogEntry.told .failed run.log =
    run.report.failures.map fun f => (f.title, f.error.message)

namespace LogMatches

theorem nil : LogMatches {} := ⟨rfl, rfl⟩

theorem append {r s : Run} (hr : r.LogMatches) (hs : s.LogMatches) : (r.append s).LogMatches where
  warnings := by
    rw [log_append, LogEntry.told_append, hr.warnings, hs.warnings, ← List.map_append]
    rfl
  failures := by
    rw [log_append, LogEntry.told_append, hr.failures, hs.failures, ← List.map_append]
    rfl

/-- Whatever an analyzer contributes, it is recorded in the log as in the report. -/
theorem of_recorded {title : String} {run : Run} {c : Contribution} (h : c.Recorded title run) :
    run.LogMatches := by
  have hlog := h.log_eq
  rw [Contribution.Recorded.eq_def] at h
  cases c with
  | exclusion =>
    subst h
    exact ⟨rfl, rfl⟩
  | failure e =>
    subst h
    exact ⟨rfl, rfl⟩
  | output o =>
    constructor
    · rw [hlog, Contribution.told_entries_output, h]
    · rw [hlog, Contribution.told_entries_output, h]
      rfl

/-- It makes no difference what was seen and logged before a run. -/
theorem after (storeAt : List LogEntry → EvidenceStore) : ∀ (xs : List Analyzer)
    (seen : Option (List String)) (log : List LogEntry), (Run.after storeAt seen log xs).LogMatches
  | [], _, _ => nil
  | a :: xs, seen, log => by
    rw [Run.after]
    split
    · exact after storeAt xs seen log
    · obtain ⟨c, hdue⟩ := Contribution.exists_due (storeAt log) a
      exact (of_recorded hdue.recorded).append (after storeAt xs _ _)

end LogMatches

/-- Where repeats are kept, the log is made of the blocks of the analyzers. -/
theorem exists_inTurn (storeAt : List LogEntry → EvidenceStore) : ∀ (xs : List Analyzer)
    (log : List LogEntry), ∃ parts : List (Analyzer × Contribution), parts.map Prod.fst = xs
      ∧ Contribution.InTurn storeAt log parts
      ∧ (after storeAt none log xs).log = parts.flatMap fun p => p.2.entries p.1.title
  | [], _ => ⟨[], rfl, .nil, rfl⟩
  | a :: xs, log => by
    obtain ⟨c, hdue⟩ := Contribution.exists_due (storeAt log) a
    have hfirst := hdue.recorded.log_eq
    obtain ⟨parts, rfl, hturn, hlog⟩ := exists_inTurn storeAt xs (log ++ c.entries a.title)
    refine ⟨(a, c) :: parts, rfl, .cons hdue hturn, ?_⟩
    rw [after_none_cons, log_append, hfirst, hlog, List.flatMap_cons]

end Run

namespace Contribution

/-- In turn, the exclusions are those of the analyzers whose flag says so. -/
theorem InTurn.map_excluded {storeAt : List LogEntry → EvidenceStore} {log : List LogEntry}
    {parts : List (Analyzer × Contribution)} (h : InTurn storeAt log parts) :
    (parts.filter fun p => p.2.isExclusion).map Prod.fst =
      (parts.map Prod.fst).filter fun a => a.isExcluded = .ok true := by
  induction h with
  | nil => rfl
  | cons hdue _ ih =>
    rw [List.map_cons, List.filter_cons, List.filter_cons, ← ih, hdue.isExclusion_eq]
    split <;> rfl

end Contribution

namespace Run

/-- The log of a run and its report tell the same. The warnings and the failures are logged in their
order just as they are reported. Of the analyzers that are no repeats, those whose flag says so have
one entry each about their exclusion. The log is made of the blocks of these analyzers, and each that
gives an output without results has one entry about it, which ends its block behind its warnings. -/
theorem log_agrees_with_report (storeAt : List LogEntry → EvidenceStore) (dedup : Bool)
    (xs : List Analyzer) :
    let run := ofManifestWith storeAt dedup xs
    let kept := if dedup then xs.eraseDups else xs
    run.LogMatches
    ∧ LogEntry.told .excluded run.log = (kept.filter fun a => a.isExcluded = .ok true).map
      (fun a => (a.title, "analyzer excluded"))
    ∧ ∃ parts : List (Analyzer × Contribution), parts.map Prod.fst = kept
      ∧ Contribution.InTurn storeAt [] parts
      ∧ run.log = parts.flatMap (fun p => p.2.entries p.1.title)
      ∧ LogEntry.told .noResults run.log = (parts.filter fun p => p.2.isBarren).map
        fun p => (p.1.title, "analyzer produced no results") := by
  intro run kept
  have hkept : run = after storeAt none [] kept := by
    cases dedup with
    | false => rfl
    | true => exact ofManifestWith_eraseDups storeAt xs
  obtain ⟨parts, hparts, hturn, hlog⟩ := exists_inTurn storeAt kept []
  rw [← hkept] at hlog
  have hexcluded := LogEntry.told_flatMap_eq_map_filter
    (fun p : Analyzer × Contribution => Contribution.told_excluded_entries p.1.title p.2) parts
  refine ⟨hkept ▸ LogMatches.after storeAt kept none [], ?_, parts, hparts, hturn, hlog, ?_⟩
  · rw [hlog, hexcluded, ← hparts, ← hturn.map_excluded, List.map_map]
    rfl
  · rw [hlog]
    exact LogEntry.told_flatMap_eq_map_filter
      (fun p : Analyzer × Contribution => Contribution.told_noResults_entries p.1.title p.2) parts

end Run

end Triage
