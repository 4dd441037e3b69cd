import Triage.Resolution

/-!
# Which outcome is taken, and what is asked on the way

The outcomes before the one that decides are passed over: they are empty, or the predicate refuses
them. `traceFrom_decides` says of every resolution which outcomes were reached, what the predicate
was asked about them and in which states, what was warned about, and how it ended, and that nothing
after the deciding outcome had a part in it.
-/

namespace Triage

/-- How grave a verdict is. -/
def Verdict.gravity : Verdict → Nat
  | pass => 0
  | warn => 1
  | fail => 2
  | fatal => 3

/-- The clause holds without being put to the predicate. -/
def Candidate.Unconditional (blank : BlankClause) (c : Candidate) : Prop :=
  trimmed c.when = "" ∧ blank = .holds

namespace Outcome

/-- The place for a verdict. -/
def place (o : Outcome) : Verdict → Option Candidate
  | .pass => o.pass
  | .warn => o.warn
  | .fail => o.fail
  | .fatal => o.fatal

/-- The candidate is in the gravest place that is filled. -/
structure Takes (o : Outcome) (verdict : Verdict) (candidate : Candidate) : Prop where
  filled : o.place verdict = some candidate
  gravest : ∀ v, verdict.gravity < v.gravity → o.place v = none

/-- What is said about an outcome that has not exactly one place filled. -/
def complaint (index : Nat) (o : Outcome) : String :=
  match o.filled with
  | [] => s!"outcome {index} has no verdict populated; skipped"
  | (verdict, _) :: _ =>
    s!"outcome {index} populates {o.filled.length} verdicts; using {verdict.label}"

variable {o : Outcome} {verdict : Verdict} {candidate : Candidate}

theorem chosen?_eq_some_iff :
    o.chosen? = some (verdict, candidate) ↔ o.Takes verdict candidate := by
  constructor
  · intro h
    rcases o with ⟨_ | fatal, _ | fail, _ | warn, _ | pass⟩ <;>
      simp only [chosen?, filled, List.filterMap_cons, List.filterMap_nil, Option.map_none,
        Option.map_some, List.head?_cons, List.head?_nil, Option.some.injEq, Prod.mk.injEq,
        reduceCtorEq] at h
    all_goals
      obtain ⟨rfl, rfl⟩ := h
      refine ⟨rfl, fun v hv => ?_⟩
      cases v <;> simp_all [Verdict.gravity, place]
  · rintro ⟨hfilled, hgravest⟩
    have hfatal := hgravest .fatal
    have hfail := hgravest .fail
    have hwarn := hgravest .warn
    cases verdict <;> simp_all [chosen?, filled, Verdict.gravity, place]

theorem chosen?_eq_none_iff : o.chosen? = none ↔ ∀ v, o.place v = none := by
  constructor
  · intro h v
    rcases o with ⟨_ | fatal, _ | fail, _ | warn, _ | pass⟩ <;> simp [chosen?, filled] at h
    cases v <;> rfl
  · intro h
    have hfatal := h .fatal
    have hfail := h .fail
    have hwarn := h .warn
    have hpass := h .pass
    simp_all [chosen?, filled, place]

/-- There is a warning about an outcome just when it has not exactly one place filled. -/
theorem warnings_eq (title : String) (index : Nat) (o : Outcome) : o.warnings title index =
    if o.filled.length = 1 then [] else [⟨title, o.complaint index⟩] := by
  simp only [warnings, flaw?, complaint, chosen?]
  cases hfilled : o.filled with
  | nil => rfl
  | cons first others =>
    cases others with
    | nil => rfl
    | cons second others => simp

end Outcome

section Steps

variable {σ ε : Type} (title : String) (blank : BlankClause) (check : Predicate σ ε)

/-- An outcome that does not decide, with the state it finds, what is asked and the state it leaves:
it is empty, or the predicate is asked about it once and refuses. -/
inductive PassedOver (o : Outcome) : σ → List (Verdict × String) → σ → Prop
  | empty {s : σ} (hempty : ∀ v, o.place v = none) : PassedOver o s [] s
  | refused {s s' : σ} {v : Verdict} {c : Candidate} (htakes : o.Takes v c)
    (hclause : ¬ c.Unconditional blank) (hasked : check v (trimmed c.when) s = (.ok false, s')) :
    PassedOver o s [(v, trimmed c.when)] s'

/-- Outcomes that are passed over one after another. -/
inductive AllPassedOver : σ → List Outcome → List (Verdict × String) → σ → Prop
  | nil {s : σ} : AllPassedOver s [] [] s
  | cons {s s' s'' : σ} {o : Outcome} {outcomes : List Outcome}
    {asked later : List (Verdict × String)} (hfirst : PassedOver blank check o s asked s')
    (hlater : AllPassedOver s' outcomes later s'') :
    AllPassedOver s (o :: outcomes) (asked ++ later) s''

/-- An outcome that decides, and how: its clause is not asked about, or the predicate is asked once
and either agrees or fails. -/
inductive Decides (o : Outcome) : σ → List (Verdict × String) → σ → Except ε Resolution → Prop
  | unconditional {s : σ} {v : Verdict} {c : Candidate} (htakes : o.Takes v c)
    (hclause : c.Unconditional blank) :
    Decides o s [] s (.ok (.matched (.ofCandidate title v c)))
  | accepted {s s' : σ} {v : Verdict} {c : Candidate} (htakes : o.Takes v c)
    (hclause : ¬ c.Unconditional blank) (hasked : check v (trimmed c.when) s = (.ok true, s')) :
    Decides o s [(v, trimmed c.when)] s' (.ok (.matched (.ofCandidate title v c)))
  | failed {s s' : σ} {v : Verdict} {c : Candidate} {e : ε} (htakes : o.Takes v c)
    (hclause : ¬ c.Unconditional blank) (hasked : check v (trimmed c.when) s = (.error e, s')) :
    Decides o s [(v, trimmed c.when)] s' (.error e)

end Steps

/-- The warnings about outcomes that are counted from `index`. -/
def complaints (title : String) (index : Nat) (outcomes : List Outcome) : List Warning :=
  ((outcomes.zipIdx index).filter fun (o, _) => o.filled.length != 1).map
    fun (o, i) => ⟨title, o.complaint i⟩

theorem complaints_cons (title : String) (index : Nat) (o : Outcome) (outcomes : List Outcome) :
    complaints title index (o :: outcomes) =
      o.warnings title index ++ complaints title (index + 1) outcomes := by
  rw [Outcome.warnings_eq, complaints, List.zipIdx_cons, List.filter_cons]
  by_cases h : o.filled.length = 1
  · simp [h, complaints]
  · simp [h, complaints]

theorem complaints_append (title : String) (index : Nat) (before after : List Outcome) :
    complaints title index (before ++ after) =
      complaints title index before ++ complaints title (index + before.length) after := by
  rw [complaints, List.zipIdx_append, List.filter_append, List.map_append, Nat.add_comm]
  rfl

namespace Resolution

variable {σ ε : Type} {title : String} {blank : BlankClause} {check : Predicate σ ε}
  {o : Outcome} {s s' : σ} {asked : List (Verdict × String)}

theorem isEmpty_clause_iff {c : Candidate} :
    ((trimmed c.when).isEmpty && blank == .holds) = true ↔ c.Unconditional blank := by
  simp [Candidate.Unconditional]

/-- An outcome that is passed over adds its step to the rest of the resolution. -/
theorem tryFrom_of_passedOver (h : PassedOver blank check o s asked s') (index : Nat)
    (outcomes : List Outcome) : tryFrom title blank check index s (o :: outcomes) =
      Trace.cons (o.warnings title index) asked
        (tryFrom title blank check (index + 1) s' outcomes) := by
  cases h with
  | empty hempty => rw [tryFrom, Outcome.chosen?_eq_none_iff.2 hempty]
  | refused htakes hclause hasked =>
    rw [tryFrom, Outcome.chosen?_eq_some_iff.2 htakes]
    simp only [if_neg (mt isEmpty_clause_iff.1 hclause), hasked]

/-- An outcome that decides ends the resolution, whatever comes after it. -/
theorem tryFrom_of_decides {ending : Except ε Resolution}
    (h : Decides title blank check o s asked s' ending) (index : Nat) (outcomes : List Outcome) :
    tryFrom title blank check index s (o :: outcomes) =
      ⟨o.warnings title index, asked, s', ending⟩ := by
  cases h with
  | unconditional htakes hclause =>
    rw [tryFrom, Outcome.chosen?_eq_some_iff.2 htakes]
    simp only [if_pos (isEmpty_clause_iff.2 hclause)]
  | accepted htakes hclause hasked =>
    rw [tryFrom, Outcome.chosen?_eq_some_iff.2 htakes]
    simp only [if_neg (mt isEmpty_clause_iff.1 hclause), hasked]
  | failed htakes hclause hasked =>
    rw [tryFrom, Outcome.chosen?_eq_some_iff.2 htakes]
    simp only [if_neg (mt isEmpty_clause_iff.1 hclause), hasked]

/-- Every outcome is passed over or decides. -/
theorem passedOver_or_decides (title : String) (blank : BlankClause) (check : Predicate σ ε)
    (o : Outcome) (s : σ) : (∃ asked s', PassedOver blank check o s asked s')
      ∨ ∃ asked s' ending, Decides title blank check o s asked s' ending := by
  cases hchosen : o.chosen? with
  | none => exact .inl ⟨_, _, .empty (Outcome.chosen?_eq_none_iff.1 hchosen)⟩
  | some taken =>
    have htakes : o.Takes taken.1 taken.2 := Outcome.chosen?_eq_some_iff.1 hchosen
    by_cases hclause : taken.2.Unconditional blank
    · exact .inr ⟨_, _, _, .unconditional htakes hclause⟩
    · rcases hasked : check taken.1 (trimmed taken.2.when) s with ⟨e | _ | _, s'⟩
      · exact .inr ⟨_, _, _, .failed htakes hclause hasked⟩
      · exact .inl ⟨_, _, .refused htakes hclause hasked⟩
      · exact .inr ⟨_, _, _, .accepted htakes hclause hasked⟩

/-- Outcomes that are all passed over add their steps to the rest of the resolution. -/
theorem tryFrom_of_allPassedOver : ∀ {outcomes : List Outcome} {s s' : σ}
    {asked : List (Verdict × String)} (_ : AllPassedOver blank check s outcomes asked s')
    (index : Nat) (later : List Outcome), tryFrom title blank check index s (outcomes ++ later) =
      Trace.cons (complaints title index outcomes) asked
        (tryFrom title blank check (index + outcomes.length) s' later)
  | [], _, _, _, .nil, index, later => rfl
  | o :: outcomes, _, _, _, .cons hfirst hlater, index, later => by
    rw [List.cons_append, tryFrom_of_passedOver hfirst, tryFrom_of_allPassedOver hlater,
      complaints_cons, List.length_cons, ← Nat.add_assoc, Nat.add_right_comm index]
    simp only [Trace.cons, List.append_assoc]

/-- Outcomes are all passed over, or one of them decides after those before it are. -/
theorem allPassedOver_or_decides (title : String) (blank : BlankClause) (check : Predicate σ ε) :
    ∀ (outcomes : List Outcome) (s : σ),
      (∃ asked s', AllPassedOver blank check s outcomes asked s')
      ∨ ∃ before o after asked s' question s'' ending, outcomes = before ++ o :: after
        ∧ AllPassedOver blank check s before asked s'
        ∧ Decides title blank check o s' question s'' ending
  | [], s => .inl ⟨_, _, .nil⟩
  | o :: outcomes, s => by
    rcases passedOver_or_decides title blank check o s with ⟨asked, s', hfirst⟩ |
      ⟨question, s', ending, hdecides⟩
    · rcases allPassedOver_or_decides title blank check outcomes s' with ⟨later, s'', hlater⟩ |
        ⟨before, last, after, later, t, question, t', ending, rfl, hbefore, hdecides⟩
      · exact .inl ⟨_, _, .cons hfirst hlater⟩
      · exact .inr ⟨o :: before, last, after, _, _, _, _, _, rfl, .cons hfirst hbefore, hdecides⟩
    · exact .inr ⟨[], o, outcomes, _, _, _, _, _, rfl, .nil, hdecides⟩

/-- Either every outcome is passed over and the list is exhausted, or a first one decides. The
predicate is asked what the outcomes up to there have it asked and nothing else, each in the state
that the question before left; there is one warning about each of them that has not exactly one
place filled; and the outcomes after the deciding one change nothing. -/
theorem traceFrom_decides (title : String) (blank : BlankClause) (check : Predicate σ ε)
    (outcomes : List Outcome) (s : σ) :
    (∃ asked s', AllPassedOver blank check s outcomes asked s'
      ∧ traceFrom title blank outcomes check s =
        ⟨complaints title 0 outcomes, asked, s', .ok (.exhausted title)⟩)
    ∨ ∃ before o after asked s' question s'' ending, outcomes = before ++ o :: after
      ∧ AllPassedOver blank check s before asked s'
      ∧ Decides title blank check o s' question s'' ending
      ∧ ∀ later, traceFrom title blank (before ++ o :: later) check s =
        ⟨complaints title 0 (before ++ [o]), asked ++ question, s'', ending⟩ := by
  rcases allPassedOver_or_decides title blank check outcomes s with ⟨asked, s', hall⟩ |
    ⟨before, o, after, asked, s', question, s'', ending, rfl, hbefore, hdecides⟩
  · refine .inl ⟨asked, s', hall, ?_⟩
    have htrace : tryFrom title blank check 0 s (outcomes ++ []) = _ :=
      tryFrom_of_allPassedOver hall 0 []
    rw [List.append_nil] at htrace
    rw [traceFrom, htrace]
    simp [Trace.cons, tryFrom]
  · refine .inr ⟨before, o, after, asked, s', question, s'', ending, rfl, hbefore, hdecides, ?_⟩
    intro later
    rw [traceFrom, tryFrom_of_allPassedOver hbefore, tryFrom_of_decides hdecides,
      complaints_append, complaints_cons]
    simp [Trace.cons, complaints]

end Resolution

end Triage
