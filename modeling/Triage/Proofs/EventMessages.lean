import Triage.Analysis.Events
import Triage.Proofs.Clauses
import Triage.Proofs.Endings

/-!
# Messages about events

A pattern that cannot be read and a message that cannot be filled in are warned about, and the check
goes on: it wants no event, or it tells of the event in plain words. So a check of events fails for
the other reasons only (`analyze_contains_failures`).
-/

namespace Triage.EventCheck

open Cluster
open Resolution (Closes)

abbrev title (check : EventCheck) : String := (Analyzer.event check).title

/-- What the file of the check lists. -/
def Lists (check : EventCheck) (store : EvidenceStore) (events : List Event) : Prop :=
  ∃ content, store.get check.path = .ok content
    ∧ decodeList Event.decode "event list" content = .ok events

/-- An event of the reason, of the kind if there is one, whose message the pattern matches if there
is one. -/
structure Wants (check : EventCheck) (event : Event) : Prop where
  reason : sameToken event.reason check.reason = true
  kind : check.kind = "" ∨ sameToken event.involvedObject.kind check.kind = true
  message : check.messagePattern = "" ∨ ∃ regex, Regex.ofText? check.messagePattern = some regex
    ∧ regex.isMatch event.message = true

/-- The first event that is wanted, or that there is none. -/
inductive Finds (check : EventCheck) (events : List Event) : Option Event → Prop
  | first {before after : List Event} {event : Event} (hevents : events = before ++ event :: after)
    (hbefore : ∀ e ∈ before, ¬ check.Wants e) (hwants : check.Wants event) :
    Finds check events (some event)
  | none (hnone : ∀ e ∈ events, ¬ check.Wants e) : Finds check events none

/-- There is a pattern, and it cannot be read. -/
def Garbled (check : EventCheck) : Prop :=
  check.messagePattern ≠ "" ∧ Regex.ofText? check.messagePattern = none

instance (check : EventCheck) : Decidable check.Garbled := inferInstanceAs (Decidable (_ ∧ _))

def garbledWarning (check : EventCheck) : Warning :=
  ⟨check.title, s!"failed to compile message regex '{check.messagePattern}': malformed pattern"⟩

/-- What is said about the pattern. -/
def patternWarnings (check : EventCheck) : List Warning :=
  if check.Garbled then [check.garbledWarning] else []

/-- What is told of an event that no template tells of. -/
def summary (event : Event) : String :=
  s!"Event matched. Reason: {event.reason} Name: {event.involvedObject.name} Message: {event.message}"

/-- The message about an event that matched, and what is said about the template. -/
inductive Decorates (title template : String) (event : Event) : String → List Warning → Prop
  | rendered {text : String} (hfilled : ¬ Text.Blank template.toList)
    (hrender : Template.render template event.toJson = .ok text) :
    Decorates title template event (trimmed text) []
  | blank (hblank : Text.Blank template.toList) :
    Decorates title template event (summary event) []
  | unrendered {e : TemplateError} (hfilled : ¬ Text.Blank template.toList)
    (hrender : Template.render template event.toJson = .error e) :
    Decorates title template event (summary event)
      [⟨title, s!"failed to render event message: {(AnalysisError.template e).message}"⟩]

/-- What becomes of the result that the outcomes lead to: an event that matched goes into its message,
and without one the message stays as it is written. -/
inductive Finishes (title : String) : Option Event → Resolution → Result → List Warning → Prop
  | decorated {event : Event} {result : Result} {text : String} {warnings : List Warning}
    (hdecorates : Decorates title result.message event text warnings) :
    Finishes title (some event) (.matched result) { result with message := text } warnings
  | neutral {event : Event} {subject : String} :
    Finishes title (some event) (.exhausted subject) (.neutral subject) []
  | untouched {resolution : Resolution} : Finishes title none resolution resolution.toResult []

/-- The result on a list of events, and the warnings. -/
def Reports (check : EventCheck) (events : List Event) (result : Result)
    (warnings : List Warning) : Prop :=
  ∃ event? reached resolution extra, check.Finds events event?
    ∧ Closes check.title (Clause.boolean · event?.isSome) check.outcomes reached (.ok resolution)
    ∧ Finishes check.title event? resolution result extra
    ∧ warnings = check.patternWarnings ++ complaints check.title 0 reached ++ extra

/-- Why a check of events fails. -/
inductive Fault (check : EventCheck) (store : EvidenceStore) : AnalysisError → Prop
  | noReason (hreason : Text.Blank check.reason.toList) :
    Fault check store (.invalid .reasonRequired)
  | strict {e : InvalidError} (hreason : ¬ Text.Blank check.reason.toList)
    (hstrict : check.shared.isStrict = .error e) : Fault check store (.invalid e)
  | store {e : StoreError} {strict : Bool} (hreason : ¬ Text.Blank check.reason.toList)
    (hstrict : check.shared.isStrict = .ok strict) (hget : store.get check.path = .error e) :
    Fault check store (.ofStore e)
  | decode {e : DecodeError} {strict : Bool} {content : Bytes}
    (hreason : ¬ Text.Blank check.reason.toList) (hstrict : check.shared.isStrict = .ok strict)
    (hget : store.get check.path = .ok content)
    (hdecode : decodeList Event.decode "event list" content = .error e) :
    Fault check store (.decode e)
  | clause {e : ConditionError} {strict : Bool} {events : List Event} {event? : Option Event}
    {reached : List Outcome} (hreason : ¬ Text.Blank check.reason.toList)
    (hstrict : check.shared.isStrict = .ok strict) (hlists : check.Lists store events)
    (hfinds : check.Finds events event?)
    (hcloses : Closes check.title (Clause.boolean · event?.isSome) check.outcomes reached
      (.error e)) : Fault check store (.condition e)

section Matching

variable {check : EventCheck} {events : List Event} {event? : Option Event}

theorem find?_eq_iff {p : Event → Bool} (hp : ∀ event, p event = true ↔ check.Wants event) :
    events.find? p = event? ↔ check.Finds events event? := by
  have hfails (event : Event) : (!p event) = true ↔ ¬ check.Wants event := by
    rw [Bool.not_eq_true', ← hp, Bool.not_eq_true]
  constructor
  · rintro rfl
    cases hfind : events.find? p with
    | none => exact .none fun e he => by simpa [← hp] using List.find?_eq_none.1 hfind e he
    | some event =>
      obtain ⟨hevent, before, after, hevents, hbefore⟩ := List.find?_eq_some_iff_append.1 hfind
      exact .first hevents (fun e he => (hfails e).1 (hbefore e he)) ((hp event).1 hevent)
  · rintro (⟨hevents, hbefore, hwants⟩ | hnone)
    · exact List.find?_eq_some_iff_append.2
        ⟨(hp _).2 hwants, _, _, hevents, fun e he => (hfails e).2 (hbefore e he)⟩
    · exact List.find?_eq_none.2 fun e he => by simpa [← hp] using hnone e he

/-- The filter looks for an event that is wanted, and complains about the pattern. -/
theorem filter_find_eq (hreason : check.reason ≠ "") : ∃ p : Event → Bool,
    (∀ event, p event = true ↔ check.Wants event)
    ∧ ∀ events, check.filter.find check.title events = (events.find? p, check.patternWarnings) := by
  have haccepts (event : Event) : check.filter.accepts event = true ↔
      sameToken event.reason check.reason = true
      ∧ (check.kind = "" ∨ sameToken event.involvedObject.kind check.kind = true) := by
    simp [EventFilter.accepts, filter, hreason]
  have hpattern : check.filter.messagePattern = check.messagePattern := rfl
  unfold EventFilter.find
  simp only [hpattern]
  by_cases hempty : check.messagePattern = ""
  · refine ⟨check.filter.accepts, fun event => ?_, fun events => ?_⟩
    · rw [haccepts]
      exact ⟨fun h => ⟨h.1, h.2, .inl hempty⟩, fun h => ⟨h.reason, h.kind⟩⟩
    · rw [if_pos (by simpa using hempty), patternWarnings, if_neg fun h => h.1 hempty]
  · cases hregex : Regex.ofText? check.messagePattern with
    | none =>
      refine ⟨fun _ => false, fun event => ?_, fun events => ?_⟩
      · refine iff_of_false Bool.false_ne_true fun h => ?_
        obtain ⟨regex, hread, -⟩ := h.message.resolve_left hempty
        rw [hregex] at hread
        cases hread
      · rw [if_neg (by simpa using hempty), patternWarnings, if_pos ⟨hempty, hregex⟩]
        exact Prod.ext (List.find?_eq_none.2 fun _ _ => Bool.false_ne_true).symm rfl
    | some regex =>
      refine ⟨fun event => check.filter.accepts event && regex.isMatch event.message,
        fun event => ?_, fun events => ?_⟩
      · rw [Bool.and_eq_true, haccepts]
        constructor
        · rintro ⟨⟨hsame, hkind⟩, hmatch⟩
          exact ⟨hsame, hkind, .inr ⟨regex, hregex, hmatch⟩⟩
        · rintro ⟨hsame, hkind, hmessage⟩
          obtain ⟨regex', hread, hmatch⟩ := hmessage.resolve_left hempty
          obtain rfl := Option.some.inj (hregex.symm.trans hread)
          exact ⟨⟨hsame, hkind⟩, hmatch⟩
      · have hread : ¬ check.Garbled := by
          rintro ⟨-, hnone⟩
          cases hregex.symm.trans hnone
        rw [if_neg (by simpa using hempty), patternWarnings, if_neg hread]

end Matching

section Finishing

variable {title template text : String} {event : Event} {warnings : List Warning}

theorem plainMessage_eq (event : Event) : plainMessage event = summary event := by
  have hspace : " Message: " = " " ++ "Message: " := by decide
  unfold plainMessage summary
  rw [hspace]
  simp only [toString, String.append_assoc]

theorem message_eq_iff : message title template event = (text, warnings) ↔
    Decorates title template event text warnings := by
  unfold message
  rw [plainMessage_eq]
  by_cases hblank : Text.Blank template.toList
  · rw [if_pos (isBlankText_iff.2 hblank)]
    constructor
    · rintro ⟨⟩
      exact .blank hblank
    · rintro (⟨hfilled, -⟩ | - | ⟨hfilled, -⟩)
      · exact absurd hblank hfilled
      · rfl
      · exact absurd hblank hfilled
  · rw [if_neg (mt isBlankText_iff.1 hblank)]
    cases hrender : Template.render template event.toJson with
    | ok filled =>
      constructor
      · rintro ⟨⟩
        exact .rendered hblank hrender
      · rintro (⟨-, hrender'⟩ | hblank' | ⟨-, hrender'⟩)
        · rw [Except.ok.inj (hrender.symm.trans hrender')]
        · exact absurd hblank' hblank
        · cases hrender.symm.trans hrender'
    | error e =>
      constructor
      · rintro ⟨⟩
        exact .unrendered hblank hrender
      · rintro (⟨-, hrender'⟩ | hblank' | ⟨-, hrender'⟩)
        · cases hrender.symm.trans hrender'
        · exact absurd hblank' hblank
        · rw [← Except.error.inj (hrender.symm.trans hrender')]

theorem finish_eq_iff {event? : Option Event} {resolution : Resolution} {result : Result}
    (hmatched : ∀ found, resolution = .matched found → ∃ verdict, found.verdict = some verdict) :
    finish title event? resolution.toResult = (result, warnings) ↔
      Finishes title event? resolution result warnings := by
  rcases event? with _ | event
  · constructor
    · rintro ⟨⟩
      exact .untouched
    · rintro ⟨⟩
      rfl
  rcases resolution with found | subject
  · obtain ⟨verdict, hverdict⟩ := hmatched found rfl
    have hfinish : finish title (some event) (Resolution.matched found).toResult =
        ({ found with message := (message title found.message event).1 },
          (message title found.message event).2) := by
      unfold finish
      rw [Resolution.toResult, hverdict]
    rw [hfinish, Prod.mk.injEq]
    constructor
    · rintro ⟨rfl, rfl⟩
      exact .decorated (message_eq_iff.1 rfl)
    · rintro ⟨hdecorates⟩
      rw [message_eq_iff.2 hdecorates]
      exact ⟨rfl, rfl⟩
  · constructor
    · rintro ⟨⟩
      exact .neutral
    · rintro ⟨⟩
      rfl

end Finishing

section Reporting

variable {check : EventCheck} {store : EvidenceStore} {events : List Event} {result : Result}
  {warnings : List Warning}

/-- What is reported on a list of events, before it is stamped. -/
def reportOn (check : EventCheck) (events : List Event) :
    Except AnalysisError (Result × List Warning) := do
  let (event?, filterWarnings) := check.filter.find check.title events
  let (warnings, resolution) ← Resolution.resolve check.title check.outcomes fun clause =>
    Clause.boolean clause event?.isSome
  let (result, renderWarnings) := finish check.title event? resolution.toResult
  return (result, filterWarnings ++ warnings ++ renderWarnings)

theorem analyze_eq (check : EventCheck) (store : EvidenceStore) : check.analyze store = do
    if isBlankText check.reason then throw (.invalid .reasonRequired)
    let strict ← check.shared.isStrict.mapError .invalid
    let content ← (store.get check.path).mapError .ofStore
    let events ← (decodeList Event.decode "event list" content).mapError .decode
    let (result, warnings) ← check.reportOn events
    return ⟨[{ result with strict }], warnings⟩ := by
  simp only [analyze, reportOn, bind_assoc, pure_bind]
  rfl

theorem reason_ne (hreason : ¬ Text.Blank check.reason.toList) : check.reason ≠ "" :=
  fun h => hreason (by simp [h, Text.Blank])

theorem exists_finds (hreason : ¬ Text.Blank check.reason.toList) (events : List Event) :
    ∃ event?, check.Finds events event? := by
  obtain ⟨p, hp, -⟩ := filter_find_eq (reason_ne hreason)
  exact ⟨_, (find?_eq_iff hp).1 rfl⟩

/-- Once it is known what is found, the clauses are put and the message is decorated. -/
theorem reportOn_of_finds (hreason : ¬ Text.Blank check.reason.toList) {event? : Option Event}
    (hfinds : check.Finds events event?) : check.reportOn events = do
      let (warnings, resolution) ← Resolution.resolve check.title check.outcomes fun clause =>
        (Clause.boolean clause event?.isSome).mapError .condition
      let (result, renderWarnings) := finish check.title event? resolution.toResult
      return (result, check.patternWarnings ++ warnings ++ renderWarnings) := by
  obtain ⟨p, hp, hfind⟩ := filter_find_eq (reason_ne hreason)
  rw [reportOn, hfind, (find?_eq_iff hp).2 hfinds]
  rfl

theorem reportOn_eq_ok (hreason : ¬ Text.Blank check.reason.toList) :
    check.reportOn events = .ok (result, warnings) ↔ check.Reports events result warnings := by
  constructor
  · obtain ⟨event?, hfinds⟩ := exists_finds hreason events
    rw [reportOn_of_finds hreason hfinds, bind_eq_ok]
    rintro ⟨⟨complained, resolution⟩, hresolve, hfinish⟩
    obtain ⟨reached, hcloses, rfl⟩ := Resolution.resolve_lifted_eq_ok_iff.1 hresolve
    cases hfinish
    refine ⟨event?, reached, resolution, _, hfinds, hcloses, ?_, rfl⟩
    exact (finish_eq_iff fun found h => (h ▸ hcloses).exists_verdict).1 rfl
  · rintro ⟨event?, reached, resolution, extra, hfinds, hcloses, hfinishes, rfl⟩
    rw [reportOn_of_finds hreason hfinds, bind_eq_ok]
    refine ⟨(complaints check.title 0 reached, resolution), ?_, ?_⟩
    · exact Resolution.resolve_lifted_eq_ok_iff.2 ⟨reached, hcloses, rfl⟩
    · dsimp only
      rw [(finish_eq_iff fun found h => (h ▸ hcloses).exists_verdict).2 hfinishes]
      rfl

theorem reportOn_eq_error (hreason : ¬ Text.Blank check.reason.toList) {e : AnalysisError} :
    check.reportOn events = .error e ↔ ∃ event? reached fault, check.Finds events event?
      ∧ Closes check.title (Clause.boolean · event?.isSome) check.outcomes reached (.error fault)
      ∧ .condition fault = e := by
  have hresolved {event? : Option Event} (hfinds : check.Finds events event?) :
      check.reportOn events = .error e ↔ ∃ reached fault,
        Closes check.title (Clause.boolean · event?.isSome) check.outcomes reached (.error fault)
        ∧ .condition fault = e := by
    rw [reportOn_of_finds hreason hfinds, bind_eq_error, Resolution.resolve_lifted_eq_error_iff]
    refine or_iff_left ?_
    rintro ⟨_, -, h⟩
    cases h
  constructor
  · intro h
    obtain ⟨event?, hfinds⟩ := exists_finds hreason events
    obtain ⟨reached, fault, hcloses, he⟩ := (hresolved hfinds).1 h
    exact ⟨event?, reached, fault, hfinds, hcloses, he⟩
  · rintro ⟨event?, reached, fault, hfinds, hcloses, he⟩
    exact (hresolved hfinds).2 ⟨reached, fault, hcloses, he⟩

theorem analyze_eq_ok {output : Output} : check.analyze store = .ok output ↔
    ∃ strict events result warnings, ¬ Text.Blank check.reason.toList
      ∧ check.shared.isStrict = .ok strict ∧ check.Lists store events
      ∧ check.Reports events result warnings ∧ output = ⟨[{ result with strict }], warnings⟩ := by
  rw [analyze_eq, check_eq_ok, isBlankText_iff]
  simp only [bind_eq_ok, mapError_eq_ok]
  constructor
  · rintro ⟨hreason, strict, hstrict, content, hget, events, hdecode, ⟨result, warnings⟩, hreport, h⟩
    cases h
    exact ⟨strict, events, result, warnings, hreason, hstrict, ⟨content, hget, hdecode⟩,
      (reportOn_eq_ok hreason).1 hreport, rfl⟩
  · rintro ⟨strict, events, result, warnings, hreason, hstrict, ⟨content, hget, hdecode⟩, hreports,
      rfl⟩
    exact ⟨hreason, strict, hstrict, content, hget, events, hdecode, (result, warnings),
      (reportOn_eq_ok hreason).2 hreports, rfl⟩

theorem analyze_eq_error {e : AnalysisError} :
    check.analyze store = .error e ↔ check.Fault store e := by
  rw [analyze_eq, check_eq_error, isBlankText_iff]
  simp only [bind_eq_error, mapError_eq_error, mapError_eq_ok]
  constructor
  · rintro (⟨hreason, rfl⟩ | ⟨hreason, ⟨fault, hstrict, rfl⟩ | ⟨strict, hstrict, ⟨fault, hget, rfl⟩ |
      ⟨content, hget, ⟨fault, hdecode, rfl⟩ | ⟨events, hdecode, hreport | ⟨_, -, h⟩⟩⟩⟩⟩)
    · exact .noReason hreason
    · exact .strict hreason hstrict
    · exact .store hreason hstrict hget
    · exact .decode hreason hstrict hget hdecode
    · obtain ⟨event?, reached, fault, hfinds, hcloses, rfl⟩ := (reportOn_eq_error hreason).1 hreport
      exact .clause hreason hstrict ⟨content, hget, hdecode⟩ hfinds hcloses
    · cases h
  · rintro (hreason | ⟨hreason, hstrict⟩ | ⟨hreason, hstrict, hget⟩ |
      ⟨hreason, hstrict, hget, hdecode⟩ | ⟨hreason, hstrict, ⟨content, hget, hdecode⟩, hfinds, hcloses⟩)
    · exact .inl ⟨hreason, rfl⟩
    · exact .inr ⟨hreason, .inl ⟨_, hstrict, rfl⟩⟩
    · exact .inr ⟨hreason, .inr ⟨_, hstrict, .inl ⟨_, hget, rfl⟩⟩⟩
    · exact .inr ⟨hreason, .inr ⟨_, hstrict, .inr ⟨_, hget, .inl ⟨_, hdecode, rfl⟩⟩⟩⟩
    · have hreport := (reportOn_eq_error hreason).2 ⟨_, _, _, hfinds, hcloses, rfl⟩
      exact .inr ⟨hreason, .inr ⟨_, hstrict, .inr ⟨_, hget, .inr ⟨_, hdecode, .inl hreport⟩⟩⟩⟩

/-- The same check with no pattern. -/
def unpatterned (check : EventCheck) : EventCheck := { check with messagePattern := "" }

/-- A pattern that cannot be read wants no event, as if there were none to want. -/
theorem reportOn_of_garbled (h : check.Garbled) (events : List Event) :
    check.reportOn events = (check.unpatterned.reportOn []).map fun (result, warnings) =>
      (result, check.garbledWarning :: warnings) := by
  have hfind : check.filter.find check.title events = (none, [check.garbledWarning]) := by
    unfold EventFilter.find
    have hpattern : check.filter.messagePattern = check.messagePattern := rfl
    rw [hpattern, if_neg (by simpa using h.1), h.2]
    rfl
  have hnone : check.unpatterned.filter.find check.title [] = (none, []) := rfl
  have htitle : check.unpatterned.title = check.title := rfl
  have houtcomes : check.unpatterned.outcomes = check.outcomes := rfl
  rw [reportOn, reportOn, htitle, houtcomes, hfind, hnone]
  dsimp only [Option.isSome]
  cases Resolution.resolve check.title check.outcomes fun clause =>
    (Clause.boolean clause false).mapError AnalysisError.condition <;> rfl

/-- Once it is known what is listed, the check only reports on it. -/
theorem analyze_of_lists (hlists : check.Lists store events) : check.analyze store =
    if isBlankText check.reason then .error (.invalid .reasonRequired)
    else check.shared.isStrict.mapError .invalid >>= fun strict =>
      (check.reportOn events).map fun (result, warnings) => ⟨[{ result with strict }], warnings⟩ := by
  obtain ⟨content, hget, hdecode⟩ := hlists
  rw [analyze_eq, hget]
  split
  · rfl
  cases check.shared.isStrict with
  | error e => rfl
  | ok strict =>
    show ((decodeList Event.decode "event list" content).mapError AnalysisError.decode >>= _) = _
    rw [hdecode]
    show (check.reportOn events >>= _) = (check.reportOn events).map _
    cases check.reportOn events <;> rfl

theorem analyze_of_garbled (h : check.Garbled) {emptied : EvidenceStore}
    (hlists : check.Lists store events) (hempty : check.Lists emptied []) :
    check.analyze store = (check.unpatterned.analyze emptied).map fun output =>
      { output with warnings := check.garbledWarning :: output.warnings } := by
  have hempty' : check.unpatterned.Lists emptied [] := hempty
  have hreason : check.unpatterned.reason = check.reason := rfl
  have hshared : check.unpatterned.shared = check.shared := rfl
  rw [analyze_of_lists hlists, analyze_of_lists hempty', hreason, hshared, reportOn_of_garbled h]
  split
  · rfl
  cases check.shared.isStrict with
  | error e => rfl
  | ok strict =>
    show ((check.unpatterned.reportOn []).map _).map _ = ((check.unpatterned.reportOn []).map _).map _
    cases check.unpatterned.reportOn [] <;> rfl

theorem isStrict_ne_regex (pattern : String) : check.shared.isStrict ≠ .error (.regex pattern) := by
  rw [Meta.isStrict_eq]
  intro h
  obtain ⟨text, -, herror, -⟩ := Flag.resolve_eq_error_iff.1 h
  cases herror

variable {e : AnalysisError}

theorem Fault.ne_template (h : check.Fault store e) (fault : TemplateError) : e ≠ .template fault := by
  cases h with
  | @store e => cases e <;> exact nofun
  | _ => exact nofun

theorem Fault.ne_regex (h : check.Fault store e) (pattern : String) :
    e ≠ .invalid (.regex pattern) := by
  cases h with
  | strict _ hstrict =>
    rintro ⟨⟩
    exact isStrict_ne_regex pattern hstrict
  | @store e => cases e <;> exact nofun
  | _ => exact nofun

end Reporting

/-- A check of events gives one result or fails, and it never fails for a pattern or a message. The
result tells of the first event that is wanted: the message of the outcome filled in with it, or a
summary, with one more warning if the message cannot be filled in. Without such an event the message
stays as it is written. A pattern that cannot be read makes the check go on as if no event were
listed, with one more warning. -/
theorem analyze_contains_failures (check : EventCheck) (store : EvidenceStore) :
    (∀ output, check.analyze store = .ok output ↔
      ∃ strict events result warnings, ¬ Text.Blank check.reason.toList
        ∧ check.shared.isStrict = .ok strict ∧ check.Lists store events
        ∧ check.Reports events result warnings ∧ output = ⟨[{ result with strict }], warnings⟩)
    ∧ (∀ e, check.analyze store = .error e ↔ check.Fault store e)
    ∧ (∀ e, check.analyze store ≠ .error (.template e))
    ∧ (∀ pattern, check.analyze store ≠ .error (.invalid (.regex pattern)))
    ∧ (check.Garbled → ∀ events emptied, check.Lists store events → check.Lists emptied [] →
      check.analyze store = (check.unpatterned.analyze emptied).map fun output =>
        { output with warnings := check.garbledWarning :: output.warnings }) := by
  refine ⟨fun output => analyze_eq_ok, fun e => analyze_eq_error, fun e h => ?_, fun pattern h => ?_,
    fun hgarbled events emptied => analyze_of_garbled hgarbled⟩
  · exact (analyze_eq_error.1 h).ne_template e rfl
  · exact (analyze_eq_error.1 h).ne_regex pattern rfl

section Sample

def probeEvent : Event where
  involvedObject := { kind := "Pod", name := "db-0" }
  reason := "Unhealthy"
  message := "probe failed"

/-- A namespace of which these events are listed. -/
def listing (events : List Event) : EvidenceStore :=
  (MemoryStore.ofList [("cluster-resources/events/default.json",
    Utf8.encode (Json.array (events.map Event.toJson)).text)]).toStore

/-- An outcome whose message names a field that no event has. -/
def namelessOutcome : Outcome :=
  { fail := some { when := "true", message := "\x7b\x7b .Nope \x7d\x7d" } }

def probeCheck (messagePattern : String) : EventCheck where
  reason := "unhealthy"
  messagePattern := messagePattern
  outcomes := [namelessOutcome,
    { pass := some { when := "false", message := "\x7b\x7b .Reason \x7d\x7d absent" } }]

theorem analyze_contains_failures_of_probeCheck :
    (probeCheck "").analyze (listing [probeEvent]) =
      .ok ⟨[.ofMessage "Event" .fail
          "Event matched. Reason: Unhealthy Name: db-0 Message: probe failed"],
        [⟨"Event",
          "failed to render event message: template error: can't evaluate field Nope in '.Nope'"⟩]⟩
    ∧ (probeCheck "(").Garbled ∧ (probeCheck "(").Lists (listing [probeEvent]) [probeEvent]
    ∧ (probeCheck "(").Lists (listing []) []
    ∧ (probeCheck "(").analyze (listing [probeEvent]) =
      ((probeCheck "").analyze (listing [])).map fun output =>
        { output with warnings := (probeCheck "(").garbledWarning :: output.warnings } := by
  have hblank : ¬ Text.Blank "unhealthy".toList := by decide
  have hlists (events : List Event) (pattern : String)
      (h : decodeList Event.decode "event list"
        (Utf8.encode (Json.array (events.map Event.toJson)).text) = .ok events) :
      (probeCheck pattern).Lists (listing events) events := ⟨_, rfl, h⟩
  have hprobe (pattern : String) : (probeCheck pattern).Lists (listing [probeEvent]) [probeEvent] :=
    hlists _ _ (by decide +kernel)
  have hnone (pattern : String) : (probeCheck pattern).Lists (listing []) [] :=
    hlists _ _ (by decide +kernel)
  have hgarbled : (probeCheck "(").Garbled := by decide +kernel
  obtain ⟨hok, -⟩ := analyze_contains_failures (probeCheck "") (listing [probeEvent])
  obtain ⟨-, -, -, -, hpattern⟩ := analyze_contains_failures (probeCheck "(") (listing [probeEvent])
  have hfinds : (probeCheck "").Finds [probeEvent] (some probeEvent) :=
    .first (List.nil_append _).symm (List.forall_mem_nil _) ⟨by decide, .inl rfl, .inl rfl⟩
  have htakes : namelessOutcome.Takes .fail ⟨"true", "\x7b\x7b .Nope \x7d\x7d", ""⟩ :=
    Outcome.chosen?_eq_some_iff.1 rfl
  have hcloses : Closes "Event" (Clause.boolean · true) (probeCheck "").outcomes [namelessOutcome]
      (.ok (.matched (.ofMessage "Event" .fail "\x7b\x7b .Nope \x7d\x7d"))) :=
    .taken (List.nil_append _).symm (List.forall_mem_nil _) htakes (.inr (by decide))
  have hrender : Template.render "\x7b\x7b .Nope \x7d\x7d" probeEvent.toJson =
      .error (.unknownField "Nope" ".Nope") := by decide +kernel
  have hdecorates : Decorates "Event" _ probeEvent _ _ := .unrendered (by decide) hrender
  refine ⟨(hok _).2 ⟨false, [probeEvent], _, _, hblank, rfl, hprobe _,
    ⟨_, _, _, _, hfinds, hcloses, .decorated hdecorates, rfl⟩, ?_⟩,
    hgarbled, hprobe _, hnone _, hpattern hgarbled _ _ (hprobe _) (hnone _)⟩
  decide +kernel

end Sample

end Triage.EventCheck
