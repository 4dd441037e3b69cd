import Triage.Proofs.FirstMatch
import Triage.Proofs.Success

/-!
# How a resolution ends

When a clause has the same answer whenever it is put, an outcome is refused, taken or at fault by
itself. A resolution ends with the first outcome that is not refused (`Resolution.Ends`), and it
warns about the outcomes that it reached and no others (`Resolution.resolve_eq_ok_iff`).
-/

namespace Triage

variable {ε ε' : Type}

theorem Outcome.Takes.unique {o : Outcome} {v v' : Verdict} {c c' : Candidate} (h : o.Takes v c)
    (h' : o.Takes v' c') : v = v' ∧ c = c' := by
  have heq := (Outcome.chosen?_eq_some_iff.2 h).symm.trans (Outcome.chosen?_eq_some_iff.2 h')
  simpa using heq

/-- The clause of whatever the outcome takes is put, and the answer is no. -/
def Outcome.Refused (blank : BlankClause) (answer : Verdict → String → Except ε Bool)
    (o : Outcome) : Prop :=
  ∀ v c, o.Takes v c → ¬ c.Unconditional blank ∧ answer v (trimmed c.when) = .ok false

/-- The clause need not be put, or the answer is yes. -/
def Candidate.Accepted (blank : BlankClause) (answer : Verdict → String → Except ε Bool)
    (verdict : Verdict) (c : Candidate) : Prop :=
  c.Unconditional blank ∨ answer verdict (trimmed c.when) = .ok true

namespace Resolution

/-- The outcomes that a resolution reaches, and how it ends: with the first outcome that is not
refused, or with none. -/
inductive Ends (title : String) (blank : BlankClause) (answer : Verdict → String → Except ε Bool)
    (outcomes : List Outcome) : List Outcome → Except ε Resolution → Prop
  | taken {before after : List Outcome} {o : Outcome} {v : Verdict} {c : Candidate}
    (houtcomes : outcomes = before ++ o :: after) (hbefore : ∀ o ∈ before, o.Refused blank answer)
    (htakes : o.Takes v c) (haccepted : c.Accepted blank answer v) :
    Ends title blank answer outcomes (before ++ [o]) (.ok (.matched (.ofCandidate title v c)))
  | failed {before after : List Outcome} {o : Outcome} {v : Verdict} {c : Candidate} {e : ε}
    (houtcomes : outcomes = before ++ o :: after) (hbefore : ∀ o ∈ before, o.Refused blank answer)
    (htakes : o.Takes v c) (hclause : ¬ c.Unconditional blank)
    (hfault : answer v (trimmed c.when) = .error e) :
    Ends title blank answer outcomes (before ++ [o]) (.error e)
  | exhausted (hall : ∀ o ∈ outcomes, o.Refused blank answer) :
    Ends title blank answer outcomes outcomes (.ok (.exhausted title))

variable {title : String} {blank : BlankClause} {answer : Verdict → String → Except ε Bool}
  {outcomes reached : List Outcome} {o : Outcome} {ending : Except ε Resolution}

section Steps

theorem ofCheck_eq_iff {verdict : Verdict} {clause : String} {a : Except ε Bool} :
    Predicate.ofCheck answer verdict clause () = (a, ()) ↔ answer verdict clause = a := by
  show (answer verdict clause, ()) = (a, ()) ↔ _
  rw [Prod.mk.injEq, and_iff_left rfl]

theorem passedOver_iff : (∃ asked, PassedOver blank (.ofCheck answer) o () asked ()) ↔
    o.Refused blank answer := by
  constructor
  · rintro ⟨asked, hempty | ⟨htakes, hclause, hasked⟩⟩ v c htakes'
    · have hfilled := htakes'.filled
      rw [hempty v] at hfilled
      cases hfilled
    · obtain ⟨rfl, rfl⟩ := htakes.unique htakes'
      exact ⟨hclause, ofCheck_eq_iff.1 hasked⟩
  · intro h
    cases hchosen : o.chosen? with
    | none => exact ⟨_, .empty (Outcome.chosen?_eq_none_iff.1 hchosen)⟩
    | some taken =>
      have htakes : o.Takes taken.1 taken.2 := Outcome.chosen?_eq_some_iff.1 hchosen
      obtain ⟨hclause, hrefused⟩ := h _ _ htakes
      exact ⟨_, .refused htakes hclause (ofCheck_eq_iff.2 hrefused)⟩

theorem allPassedOver_iff : ∀ {outcomes : List Outcome},
    (∃ asked, AllPassedOver blank (.ofCheck answer) () outcomes asked ()) ↔
      ∀ o ∈ outcomes, o.Refused blank answer
  | [] => ⟨fun _ => nofun, fun _ => ⟨[], .nil⟩⟩
  | o :: outcomes => by
    rw [List.forall_mem_cons, ← passedOver_iff, ← allPassedOver_iff]
    constructor
    · rintro ⟨_, ⟨⟩ | ⟨hfirst, hlater⟩⟩
      exact ⟨⟨_, hfirst⟩, _, hlater⟩
    · rintro ⟨⟨asked, hfirst⟩, later, hlater⟩
      exact ⟨asked ++ later, .cons hfirst hlater⟩

end Steps

/-- A resolution ends in some way, and it warns about what it reached. -/
theorem exists_ends (title : String) (blank : BlankClause)
    (answer : Verdict → String → Except ε Bool) (outcomes : List Outcome) :
    ∃ reached, Ends title blank answer outcomes reached (trace title blank outcomes answer).ending
      ∧ (trace title blank outcomes answer).warnings = complaints title 0 reached := by
  rcases allPassedOver_or_decides title blank (.ofCheck answer) outcomes () with
    ⟨asked, s, hall⟩ | ⟨before, o, after, asked, s, question, s', ending, rfl, hbefore, hdecides⟩
  · have htrace : trace title blank (outcomes ++ []) answer = _ := tryFrom_of_allPassedOver hall 0 []
    rw [List.append_nil] at htrace
    refine ⟨outcomes, ?_, ?_⟩
    · rw [htrace]
      exact .exhausted (allPassedOver_iff.1 ⟨_, hall⟩)
    · simp [htrace, Trace.cons, tryFrom]
  · have hrefused := allPassedOver_iff.1 ⟨_, hbefore⟩
    have htrace : trace title blank (before ++ o :: after) answer = _ :=
      tryFrom_of_allPassedOver hbefore 0 (o :: after)
    rw [tryFrom_of_decides hdecides] at htrace
    refine ⟨before ++ [o], ?_, ?_⟩
    · rw [htrace]
      cases hdecides with
      | unconditional htakes hclause => exact .taken rfl hrefused htakes (.inl hclause)
      | accepted htakes _ hasked => exact .taken rfl hrefused htakes (.inr (ofCheck_eq_iff.1 hasked))
      | failed htakes hclause hasked =>
        exact .failed rfl hrefused htakes hclause (ofCheck_eq_iff.1 hasked)
    · rw [htrace, complaints_append, complaints_cons]
      simp [Trace.cons, complaints]

theorem Ends.exists_verdict {result : Result}
    (h : Ends title blank answer outcomes reached (.ok (.matched result))) :
    ∃ verdict, result.verdict = some verdict := by
  cases h
  exact ⟨_, rfl⟩

/-- There is no other way to end. -/
theorem Ends.trace_eq (h : Ends title blank answer outcomes reached ending) :
    (trace title blank outcomes answer).ending = ending
    ∧ (trace title blank outcomes answer).warnings = complaints title 0 reached := by
  -- an outcome that decides ends the resolution after those that are passed over
  have hdecided {before after : List Outcome} {o : Outcome} {question : List (Verdict × String)}
      (hbefore : ∀ o ∈ before, o.Refused blank answer)
      (hdecides : Decides title blank (.ofCheck answer) o () question () ending) :
      (trace title blank (before ++ o :: after) answer).ending = ending
      ∧ (trace title blank (before ++ o :: after) answer).warnings =
        complaints title 0 (before ++ [o]) := by
    obtain ⟨asked, hpassed⟩ := allPassedOver_iff.2 hbefore
    have htrace : trace title blank (before ++ o :: after) answer = _ :=
      tryFrom_of_allPassedOver hpassed 0 (o :: after)
    rw [htrace, tryFrom_of_decides hdecides, complaints_append, complaints_cons]
    simp [Trace.cons, complaints]
  cases h with
  | @taken _ _ _ _ c houtcomes hbefore htakes haccepted =>
    subst houtcomes
    by_cases hclause : c.Unconditional blank
    · exact hdecided hbefore (.unconditional htakes hclause)
    · have hasked := ofCheck_eq_iff.2 (haccepted.resolve_left hclause)
      exact hdecided hbefore (.accepted htakes hclause hasked)
  | failed houtcomes hbefore htakes hclause hfault =>
    subst houtcomes
    exact hdecided hbefore (.failed htakes hclause (ofCheck_eq_iff.2 hfault))
  | exhausted hall =>
    obtain ⟨asked, hpassed⟩ := allPassedOver_iff.2 hall
    have htrace : trace title blank (outcomes ++ []) answer = _ :=
      tryFrom_of_allPassedOver hpassed 0 []
    rw [List.append_nil] at htrace
    rw [htrace]
    simp [Trace.cons, tryFrom]

theorem ending_eq_iff : (trace title blank outcomes answer).ending = ending ↔
    ∃ reached, Ends title blank answer outcomes reached ending := by
  constructor
  · rintro rfl
    obtain ⟨reached, hends, -⟩ := exists_ends title blank answer outcomes
    exact ⟨reached, hends⟩
  · rintro ⟨reached, hends⟩
    exact hends.trace_eq.1

section Lifted

variable {lift : ε → ε'} {resolution : Resolution}

/-- The answers, with their faults told in another way. -/
abbrev lifted (lift : ε → ε') (answer : Verdict → String → Except ε Bool) :
    Verdict → String → Except ε' Bool :=
  fun verdict clause => (answer verdict clause).mapError lift

theorem forall_refused_lifted_iff : (∀ o ∈ outcomes, o.Refused blank (lifted lift answer)) ↔
    ∀ o ∈ outcomes, o.Refused blank answer := by
  simp only [Outcome.Refused, mapError_eq_ok]

theorem accepted_lifted_iff {v : Verdict} {c : Candidate} :
    c.Accepted blank (lifted lift answer) v ↔ c.Accepted blank answer v := by
  simp only [Candidate.Accepted, mapError_eq_ok]

theorem ends_lifted_ok_iff : Ends title blank (lifted lift answer) outcomes reached (.ok resolution) ↔
    Ends title blank answer outcomes reached (.ok resolution) := by
  constructor
  · intro h
    cases h with
    | taken houtcomes hbefore htakes haccepted =>
      exact .taken houtcomes (forall_refused_lifted_iff.1 hbefore) htakes
        (accepted_lifted_iff.1 haccepted)
    | exhausted hall => exact .exhausted (forall_refused_lifted_iff.1 hall)
  · intro h
    cases h with
    | taken houtcomes hbefore htakes haccepted =>
      exact .taken houtcomes (forall_refused_lifted_iff.2 hbefore) htakes
        (accepted_lifted_iff.2 haccepted)
    | exhausted hall => exact .exhausted (forall_refused_lifted_iff.2 hall)

theorem ends_lifted_error_iff {e' : ε'} :
    Ends title blank (lifted lift answer) outcomes reached (.error e') ↔
      ∃ e, Ends title blank answer outcomes reached (.error e) ∧ lift e = e' := by
  constructor
  · intro h
    cases h with
    | @failed _ _ _ v c _ houtcomes hbefore htakes hclause hfault =>
      cases hanswer : answer v (trimmed c.when) with
      | error e =>
        rw [lifted, hanswer] at hfault
        exact ⟨e, .failed houtcomes (forall_refused_lifted_iff.1 hbefore) htakes hclause hanswer,
          Except.error.inj hfault⟩
      | ok b =>
        rw [lifted, hanswer] at hfault
        cases hfault
  · rintro ⟨e, h, rfl⟩
    cases h with
    | failed houtcomes hbefore htakes hclause hfault =>
      exact .failed houtcomes (forall_refused_lifted_iff.2 hbefore) htakes hclause
        (by rw [lifted, hfault]; rfl)

end Lifted

section Resolve

variable {answer : String → Except ε Bool} {e : ε}

/-- The ways in which a list of outcomes ends when a blank clause holds. -/
abbrev Closes (title : String) (answer : String → Except ε Bool) :=
  Ends title .holds fun _ => answer

theorem resolve_eq_ok_iff {warnings : List Warning} {resolution : Resolution} :
    resolve title outcomes answer = .ok (warnings, resolution) ↔
      ∃ reached, Closes title answer outcomes reached (.ok resolution)
        ∧ warnings = complaints title 0 reached := by
  unfold resolve
  constructor
  · intro h
    obtain ⟨resolution', hending, heq⟩ := map_eq_ok.1 h
    cases heq
    obtain ⟨reached, hends, hwarnings⟩ := exists_ends title .holds (fun _ => answer) outcomes
    exact ⟨reached, hending ▸ hends, hwarnings⟩
  · rintro ⟨reached, hends, rfl⟩
    obtain ⟨hending, hwarnings⟩ := hends.trace_eq
    exact map_eq_ok.2 ⟨resolution, hending, by rw [hwarnings]⟩

theorem resolve_eq_error_iff : resolve title outcomes answer = .error e ↔
    ∃ reached, Closes title answer outcomes reached (.error e) := by
  rw [← ending_eq_iff]
  unfold resolve
  dsimp only
  cases (trace title .holds outcomes fun _ => answer).ending with
  | error e' => simp only [Except.map, Except.error.injEq]
  | ok resolution => exact ⟨nofun, nofun⟩

/-- An answer that tells its faults in another way leads to the same resolution. -/
theorem resolve_lifted_eq_ok_iff {lift : ε → ε'} {warnings : List Warning} {resolution : Resolution} :
    (resolve title outcomes fun clause => (answer clause).mapError lift) =
        .ok (warnings, resolution) ↔
      ∃ reached, Closes title answer outcomes reached (.ok resolution)
        ∧ warnings = complaints title 0 reached := by
  rw [resolve_eq_ok_iff]
  exact exists_congr fun reached => and_congr_left fun _ => ends_lifted_ok_iff

theorem resolve_lifted_eq_error_iff {lift : ε → ε'} {e' : ε'} :
    (resolve title outcomes fun clause => (answer clause).mapError lift) = .error e' ↔
      ∃ reached e, Closes title answer outcomes reached (.error e) ∧ lift e = e' := by
  rw [resolve_eq_error_iff]
  exact exists_congr fun reached => ends_lifted_error_iff

end Resolve

end Resolution

end Triage
