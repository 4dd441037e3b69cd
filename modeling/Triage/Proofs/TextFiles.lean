import Triage.Analysis.Texts
import Triage.Proofs.Clauses
import Triage.Proofs.Endings
import Triage.Proofs.FoundFiles

/-!
# Text files are judged one by one

A check of text files gives one result for each file by its pattern, and one more by its pattern with
groups, each in the order of the paths (`analyze_accounts_for_files`). A result follows from the text
of its file, so no file has a part in the result of another.
-/

namespace Triage

/-- The candidate in the last place of a kind that is filled, or none. -/
inductive LastPlace (place : Outcome → Option Candidate) (outcomes : List Outcome) :
    Option Candidate → Prop
  | filled {before after : List Outcome} {o : Outcome} {c : Candidate}
    (houtcomes : outcomes = before ++ o :: after) (hplace : place o = some c)
    (hafter : ∀ o ∈ after, place o = none) : LastPlace place outcomes (some c)
  | empty (hnone : ∀ o ∈ outcomes, place o = none) : LastPlace place outcomes none

theorem findSome?_reverse_eq_iff {place : Outcome → Option Candidate} {outcomes : List Outcome}
    {c? : Option Candidate} :
    outcomes.reverse.findSome? place = c? ↔ LastPlace place outcomes c? := by
  constructor
  · rintro rfl
    cases hlast : outcomes.reverse.findSome? place with
    | none =>
      exact .empty fun o ho => List.findSome?_eq_none_iff.1 hlast o (List.mem_reverse.2 ho)
    | some c =>
      obtain ⟨after, o, before, hreverse, hplace, hafter⟩ := List.findSome?_eq_some_iff.1 hlast
      have houtcomes : outcomes = before.reverse ++ o :: after.reverse := by
        rw [← outcomes.reverse_reverse, hreverse]
        simp
      exact .filled houtcomes hplace fun o ho => hafter o (List.mem_reverse.1 ho)
  · rintro (⟨rfl, hplace, hafter⟩ | hnone)
    · rw [List.reverse_append, List.reverse_cons, List.append_assoc, List.singleton_append]
      refine List.findSome?_eq_some_iff.2 ⟨_, _, _, rfl, hplace, fun o ho => ?_⟩
      exact hafter o (List.mem_reverse.1 ho)
    · exact List.findSome?_eq_none_iff.2 fun o ho => hnone o (List.mem_reverse.1 ho)

namespace MatchRule

/-- What a candidate expects of a match; one that says nothing about it expects the default. -/
inductive Expects (default : Bool) : Option Candidate → Bool → Prop
  | absent : Expects default none default
  | blank {c : Candidate} (hblank : Text.Blank c.when.toList) : Expects default (some c) default
  | written {c : Candidate} {b : Bool} (hfilled : ¬ Text.Blank c.when.toList)
    (hread : boolOfText? (trimmed c.when) = some b) : Expects default (some c) b

/-- The rule of the last pass and the last fail, which expect opposite things. -/
structure IsStatedBy (rule : MatchRule) (outcomes : List Outcome) : Prop where
  lastPass : LastPlace Outcome.pass outcomes rule.pass
  lastFail : LastPlace Outcome.fail outcomes rule.fail
  passes : Expects true rule.pass rule.passesOn
  fails : Expects false rule.fail (!rule.passesOn)

variable {rule : MatchRule} {outcomes : List Outcome} {place? : Option Candidate} {default b : Bool}

theorem clauseOr_eq_ok : clauseOr place? default = .ok b ↔ Expects default place? b := by
  unfold clauseOr
  cases place? with
  | none =>
    constructor
    · rintro ⟨⟩
      exact .absent
    · rintro ⟨⟩
      rfl
  | some c =>
    dsimp only
    by_cases hblank : Text.Blank c.when.toList
    · rw [if_pos (isBlankText_iff.2 hblank)]
      constructor
      · rintro ⟨⟩
        exact .blank hblank
      · rintro (- | - | ⟨hfilled, -⟩)
        · rfl
        · exact absurd hblank hfilled
    · rw [if_neg (mt isBlankText_iff.1 hblank), Clause.readBool, trimmed_trimmed]
      constructor
      · intro h
        cases hread : boolOfText? (trimmed c.when) with
        | none =>
          rw [hread] at h
          cases h
        | some b' =>
          rw [hread] at h
          cases h
          exact .written hblank hread
      · rintro (- | hblank' | ⟨-, hread⟩)
        · exact absurd hblank' hblank
        · rw [hread]

theorem ofOutcomes_eq_ok : ofOutcomes outcomes = .ok rule ↔ rule.IsStatedBy outcomes := by
  unfold ofOutcomes
  dsimp only
  constructor
  · intro h
    obtain ⟨passesOn, hpasses, h⟩ := bind_eq_ok.1 h
    obtain ⟨failsOn, hfails, h⟩ := bind_eq_ok.1 h
    obtain ⟨hdiffer, hrule⟩ := check_eq_ok.1 h
    cases hrule
    obtain rfl : failsOn = !passesOn := by cases passesOn <;> cases failsOn <;> simp_all
    exact ⟨findSome?_reverse_eq_iff.1 rfl, findSome?_reverse_eq_iff.1 rfl,
      clauseOr_eq_ok.1 (mapError_eq_ok.1 hpasses), clauseOr_eq_ok.1 (mapError_eq_ok.1 hfails)⟩
  · rintro ⟨hpass, hfail, hpasses, hfails⟩
    rw [findSome?_reverse_eq_iff.2 hpass, findSome?_reverse_eq_iff.2 hfail]
    refine bind_eq_ok.2 ⟨rule.passesOn, mapError_eq_ok.2 (clauseOr_eq_ok.2 hpasses),
      bind_eq_ok.2 ⟨!rule.passesOn, mapError_eq_ok.2 (clauseOr_eq_ok.2 hfails), ?_⟩⟩
    exact check_eq_ok.2 ⟨by simp, rfl⟩

theorem IsStatedBy.unique {rule' : MatchRule} (h : rule.IsStatedBy outcomes)
    (h' : rule'.IsStatedBy outcomes) : rule = rule' := by
  rw [← ofOutcomes_eq_ok] at h h'
  exact Except.ok.inj (h.symm.trans h')

/-- A result that says what a candidate says, or nothing without one. -/
def said (title : String) (verdict : Verdict) (place? : Option Candidate) : Result where
  title := title
  message := (place?.map Candidate.message).getD ""
  uri := (place?.map Candidate.uri).getD ""
  verdict := some verdict

theorem result_eq (rule : MatchRule) (title : String) (isMatch : Bool) :
    rule.result title isMatch =
      if isMatch = rule.passesOn then said title .pass rule.pass else said title .fail rule.fail := by
  unfold result
  by_cases hmatch : isMatch = rule.passesOn
  · rw [if_pos hmatch, if_pos (by simpa using hmatch)]
    cases rule.pass <;> rfl
  · rw [if_neg hmatch, if_neg (by simpa using hmatch)]
    cases rule.fail <;> rfl

end MatchRule

namespace TextCheck

open Resolution (Closes)

abbrev title (check : TextCheck) : String := (Analyzer.text check).title

/-- A pattern that is set can be read, and an empty one is not set. -/
inductive Compiles : String → Option Regex → Prop
  | unset : Compiles "" none
  | set {pattern : String} {regex : Regex} (hne : pattern ≠ "")
    (hread : Regex.ofText? pattern = some regex) : Compiles pattern (some regex)

/-- The result of a file by a pattern: a pass when matching its text comes out as the rule says, and
else a fail. -/
inductive Judges (title : String) (rule : MatchRule) (regex : Regex) (file : FoundFile) :
    Result → Prop
  | pass (hmatch : regex.isMatch (textOf file) = rule.passesOn) :
    Judges title rule regex file (MatchRule.said title .pass rule.pass)
  | fail (hmatch : regex.isMatch (textOf file) ≠ rule.passesOn) :
    Judges title rule regex file (MatchRule.said title .fail rule.fail)

/-- The named groups of the first match in a file; none without a match. -/
def groupsOf (regex : Regex) (file : FoundFile) : List (String × String) :=
  (regex.captures? (textOf file)).getD []

/-- The result of a file by a pattern with groups, and the warnings: the outcomes are tried on what
the groups captured, and the message of the one that is taken is filled in with it. -/
inductive Captures (check : TextCheck) (regex : Regex) (file : FoundFile) :
    Result × List Warning → Prop
  | matched {reached : List Outcome} {result : Result} {text : String}
    (hcloses : Closes check.title (Clause.capture · (groupsOf regex file)) check.outcomes reached
      (.ok (.matched result)))
    (hrender : Template.renderWith .empty result.message (context regex (groupsOf regex file)) =
      .ok text) :
    Captures check regex file ({ result with message := text }, complaints check.title 0 reached)
  | unmatched {reached : List Outcome} {subject : String}
    (hcloses : Closes check.title (Clause.capture · (groupsOf regex file)) check.outcomes reached
      (.ok (.exhausted subject))) :
    Captures check regex file (.neutral subject, complaints check.title 0 reached)

/-- The results by the pattern, one for each file. -/
inductive ByPattern (check : TextCheck) (files : List FoundFile) : Option Regex → List Result → Prop
  | unset : ByPattern check files none []
  | set {regex : Regex} {rule : MatchRule} {results : List Result}
    (hrule : rule.IsStatedBy check.outcomes)
    (hjudged : List.Forall₂ (Judges check.title rule regex) files results) :
    ByPattern check files (some regex) results

/-- The results by the pattern with groups, one for each file, with their warnings. -/
inductive ByGroups (check : TextCheck) (files : List FoundFile) :
    Option Regex → List (Result × List Warning) → Prop
  | unset : ByGroups check files none []
  | set {regex : Regex} {reports : List (Result × List Warning)}
    (hcaptured : List.Forall₂ (check.Captures regex) files reports) :
    ByGroups check files (some regex) reports

/-- What is reported on the files that were found, before it is stamped. -/
inductive Accounts (check : TextCheck) (pattern? groups? : Option Regex) (files : List FoundFile) :
    Output → Prop
  | ignored (hnone : files = []) (hignore : check.ignoreIfNoFiles = true) :
    Accounts check pattern? groups? files ⟨[], []⟩
  | noFiles (hnone : files = []) (hignore : check.ignoreIfNoFiles = false) :
    Accounts check pattern? groups? files ⟨[.ofMessage check.title .warn "No matching files"], []⟩
  | invalid (hfiles : files ≠ []) (hpattern : pattern? = none) (hgroups : groups? = none) :
    Accounts check pattern? groups? files ⟨[.ofMessage check.title .fail "Invalid analyzer"], []⟩
  | found {results : List Result} {reports : List (Result × List Warning)} (hfiles : files ≠ [])
    (hset : pattern?.isSome ∨ groups?.isSome) (hresults : check.ByPattern files pattern? results)
    (hreports : check.ByGroups files groups? reports) :
    Accounts check pattern? groups? files
      ⟨results ++ reports.map Prod.fst, reports.flatMap Prod.snd⟩

section Patterns

variable {check : TextCheck} {regex : Regex} {file : FoundFile} {files : List FoundFile}

theorem compile_eq_ok {pattern : String} {regex? : Option Regex} :
    compile pattern = .ok regex? ↔ Compiles pattern regex? := by
  unfold compile
  by_cases hempty : pattern = ""
  · subst hempty
    constructor
    · rintro ⟨⟩
      exact .unset
    · rintro (- | ⟨hne, -⟩)
      · rfl
      · exact absurd rfl hne
  · rw [if_neg (by simpa using hempty)]
    constructor
    · intro h
      split at h
      · rename_i hread
        cases h
        exact .set hempty hread
      · cases h
    · rintro (- | ⟨-, hread⟩)
      · exact absurd rfl hempty
      · rw [hread]

theorem result_eq_iff {title : String} {rule : MatchRule} {result : Result} :
    rule.result title (regex.isMatch (textOf file)) = result ↔
      Judges title rule regex file result := by
  rw [MatchRule.result_eq]
  split
  · rename_i hmatch
    constructor
    · rintro rfl
      exact .pass hmatch
    · rintro (- | hother)
      · rfl
      · exact absurd hmatch hother
  · rename_i hmatch
    constructor
    · rintro rfl
      exact .fail hmatch
    · rintro (hother | -)
      · exact absurd hother hmatch
      · rfl

theorem matchResults_eq_ok {results : List Result} :
    check.matchResults check.title files regex = .ok results ↔
      check.ByPattern files (some regex) results := by
  have hjudged (rule : MatchRule) (results : List Result) :
      files.map (fun file => rule.result check.title (regex.isMatch (textOf file))) = results ↔
        List.Forall₂ (Judges check.title rule regex) files results := by
    simp only [← forall₂_eq_map, result_eq_iff]
  constructor
  · intro h
    obtain ⟨rule, hrule, h⟩ := bind_eq_ok.1 h
    exact .set (MatchRule.ofOutcomes_eq_ok.1 hrule) ((hjudged rule results).1 (Except.ok.inj h))
  · rintro (- | ⟨hrule, hresults⟩)
    exact bind_eq_ok.2 ⟨_, MatchRule.ofOutcomes_eq_ok.2 hrule,
      congrArg Except.ok ((hjudged _ _).2 hresults)⟩

theorem reportGroups_eq_ok {o : Output} :
    check.reportGroups check.title regex file = .ok o ↔
      ∃ report, check.Captures regex file report ∧ (⟨[report.1], report.2⟩ : Output) = o := by
  constructor
  · intro h
    obtain ⟨⟨warnings, resolution⟩, hresolve, h⟩ := bind_eq_ok.1 h
    obtain ⟨reached, hcloses, rfl⟩ := Resolution.resolve_lifted_eq_ok_iff.1 hresolve
    rcases resolution with result | subject
    · obtain ⟨verdict, hverdict⟩ := hcloses.exists_verdict
      dsimp only [Resolution.toResult] at h
      rw [if_neg (by simp [hverdict])] at h
      obtain ⟨text, hrender, h⟩ := bind_eq_ok.1 h
      exact ⟨_, .matched hcloses (mapError_eq_ok.1 hrender), Except.ok.inj h⟩
    · exact ⟨_, .unmatched hcloses, Except.ok.inj h⟩
  · rintro ⟨-, ⟨hcloses, hrender⟩ | hcloses, rfl⟩
    · obtain ⟨verdict, hverdict⟩ := hcloses.exists_verdict
      refine bind_eq_ok.2 ⟨_, Resolution.resolve_lifted_eq_ok_iff.2 ⟨_, hcloses, rfl⟩, ?_⟩
      dsimp only [Resolution.toResult]
      rw [if_neg (by simp [hverdict])]
      exact bind_eq_ok.2 ⟨_, mapError_eq_ok.2 hrender, rfl⟩
    · exact bind_eq_ok.2 ⟨_, Resolution.resolve_lifted_eq_ok_iff.2 ⟨_, hcloses, rfl⟩, rfl⟩

end Patterns

section Run

variable {check : TextCheck} {store : EvidenceStore} {files : List FoundFile}
  {pattern? groups? : Option Regex}

def resultsBy (check : TextCheck) (files : List FoundFile) :
    Option Regex → Except AnalysisError (List Result)
  | none => .ok []
  | some regex => check.matchResults check.title files regex

def outputsBy (check : TextCheck) (files : List FoundFile) :
    Option Regex → Except AnalysisError (List Output)
  | none => .ok []
  | some regex => files.mapM (check.reportGroups check.title regex)

/-- The check once its patterns are compiled and its files found. -/
def account (check : TextCheck) (pattern? groups? : Option Regex) (files : List FoundFile) :
    Except AnalysisError Output :=
  if files.isEmpty then .ok (check.withoutFiles check.title)
  else do
    let results ← check.resultsBy files pattern?
    let outputs ← check.outputsBy files groups?
    let output := (Output.mk results []).append (.concat outputs)
    if output.results.isEmpty then
      return .ofResult (.ofMessage check.title .fail invalidAnalyzerMessage)
    else return output

theorem analyze_eq (check : TextCheck) (store : EvidenceStore) : check.analyze store = do
    let strict ← check.shared.isStrict.mapError .invalid
    let pattern? ← (compile check.pattern).mapError .invalid
    let groups? ← (compile check.groupPattern).mapError .invalid
    let files ← (store.find (Layout.join check.collectorName check.fileName)
      (check.excludeFiles.map (Layout.join check.collectorName))).mapError .ofStore
    return (← check.account pattern? groups? files).stamp strict := by
  refine bind_congr fun strict => bind_congr fun pattern? => bind_congr fun groups? =>
    bind_congr fun files => ?_
  unfold account
  split
  · rfl
  · rw [bind_assoc]
    cases pattern? <;> refine bind_congr fun results => ?_ <;> rw [bind_assoc] <;>
      cases groups? <;> refine bind_congr fun outputs => ?_ <;> dsimp only <;> split <;> rfl

theorem resultsBy_eq_ok {results : List Result} :
    check.resultsBy files pattern? = .ok results ↔ check.ByPattern files pattern? results := by
  cases pattern? with
  | none =>
    constructor
    · rintro ⟨⟩
      exact .unset
    · rintro ⟨⟩
      rfl
  | some regex => exact matchResults_eq_ok

theorem outputsBy_eq_ok {outputs : List Output} :
    check.outputsBy files groups? = .ok outputs ↔ ∃ reports, check.ByGroups files groups? reports
      ∧ reports.map (fun report => (⟨[report.1], report.2⟩ : Output)) = outputs := by
  cases groups? with
  | none =>
    constructor
    · rintro ⟨⟩
      exact ⟨[], .unset, rfl⟩
    · rintro ⟨-, ⟨⟩, rfl⟩
      rfl
  | some regex =>
    rw [outputsBy, mapM_eq_ok]
    simp only [reportGroups_eq_ok, ← forall₂_comp, forall₂_eq_map]
    constructor
    · rintro ⟨reports, hcaptured, houtputs⟩
      exact ⟨reports, .set hcaptured, houtputs⟩
    · rintro ⟨reports, - | ⟨hcaptured⟩, houtputs⟩
      exact ⟨reports, hcaptured, houtputs⟩

theorem concat_reports (reports : List (Result × List Warning)) :
    Output.concat (reports.map fun report => ⟨[report.1], report.2⟩) =
      ⟨reports.map Prod.fst, reports.flatMap Prod.snd⟩ := by
  simp only [Output.concat, List.flatMap_map]
  rw [List.map_eq_flatMap]

theorem ByPattern.eq_nil_iff {results : List Result} (hfiles : files ≠ [])
    (h : check.ByPattern files pattern? results) : results = [] ↔ pattern? = none := by
  cases h with
  | unset => exact iff_of_true rfl rfl
  | set hrule hjudged =>
    refine iff_of_false (fun hnil => hfiles ?_) nofun
    rw [hnil] at hjudged
    exact List.forall₂_nil_right_iff.1 hjudged

theorem ByGroups.eq_nil_iff {reports : List (Result × List Warning)} (hfiles : files ≠ [])
    (h : check.ByGroups files groups? reports) : reports = [] ↔ groups? = none := by
  cases h with
  | unset => exact iff_of_true rfl rfl
  | set hcaptured =>
    refine iff_of_false (fun hnil => hfiles ?_) nofun
    rw [hnil] at hcaptured
    exact List.forall₂_nil_right_iff.1 hcaptured

theorem account_eq_ok {output : Output} : check.account pattern? groups? files = .ok output ↔
    check.Accounts pattern? groups? files output := by
  unfold account
  by_cases hfiles : files = []
  · rw [if_pos (by simpa using hfiles), withoutFiles]
    constructor
    · intro h
      split at h
      · rename_i hignore
        cases h
        exact .ignored hfiles hignore
      · rename_i hignore
        cases h
        exact .noFiles hfiles (Bool.not_eq_true _ ▸ hignore)
    · rintro (⟨-, hignore⟩ | ⟨-, hignore⟩ | hsome | hsome)
      · rw [if_pos hignore]
      · rw [if_neg (by simp [hignore])]
        rfl
      · exact absurd hfiles hsome
      · exact absurd hfiles hsome
  · rw [if_neg (by simpa using hfiles)]
    -- nothing is found exactly when neither pattern is set
    have hempty {results : List Result} {reports : List (Result × List Warning)}
        (hresults : check.ByPattern files pattern? results)
        (hreports : check.ByGroups files groups? reports) :
        (results ++ reports.map Prod.fst).isEmpty = true ↔ pattern? = none ∧ groups? = none := by
      rw [List.isEmpty_iff, List.append_eq_nil_iff, List.map_eq_nil_iff,
        hresults.eq_nil_iff hfiles, hreports.eq_nil_iff hfiles]
    constructor
    · intro h
      obtain ⟨results, hresults, h⟩ := bind_eq_ok.1 h
      obtain ⟨outputs, houtputs, h⟩ := bind_eq_ok.1 h
      replace hresults := resultsBy_eq_ok.1 hresults
      obtain ⟨reports, hreports, rfl⟩ := outputsBy_eq_ok.1 houtputs
      rw [concat_reports] at h
      dsimp only [Output.append] at h
      split at h
      · rename_i hnil
        obtain ⟨hpattern, hgroups⟩ := (hempty hresults hreports).1 hnil
        cases h
        exact .invalid hfiles hpattern hgroups
      · rename_i hsome
        cases h
        refine .found hfiles ?_ hresults hreports
        rw [hempty hresults hreports, not_and_or] at hsome
        exact hsome.imp Option.isSome_iff_ne_none.2 Option.isSome_iff_ne_none.2
    · rintro (⟨hnone, -⟩ | ⟨hnone, -⟩ | ⟨-, hpattern, hgroups⟩ | ⟨-, hset, hresults, hreports⟩)
      · exact absurd hnone hfiles
      · exact absurd hnone hfiles
      · subst hpattern hgroups
        rfl
      · refine bind_eq_ok.2 ⟨_, resultsBy_eq_ok.2 hresults, bind_eq_ok.2 ⟨_,
          outputsBy_eq_ok.2 ⟨_, hreports, rfl⟩, ?_⟩⟩
        rw [concat_reports]
        dsimp only [Output.append]
        rw [if_neg]
        · rfl
        · rw [hempty hresults hreports]
          rintro ⟨rfl, rfl⟩
          simp at hset

theorem analyze_eq_ok {output : Output} : check.analyze store = .ok output ↔
    ∃ strict pattern? groups? files found, check.shared.isStrict = .ok strict
      ∧ Compiles check.pattern pattern? ∧ Compiles check.groupPattern groups?
      ∧ store.find (Layout.join check.collectorName check.fileName)
        (check.excludeFiles.map (Layout.join check.collectorName)) = .ok files
      ∧ check.Accounts pattern? groups? files found ∧ output = found.stamp strict := by
  rw [analyze_eq]
  simp only [bind_eq_ok, mapError_eq_ok, compile_eq_ok, account_eq_ok, pure_eq_ok, Except.ok.injEq]
  constructor
  · rintro ⟨strict, hstrict, pattern?, hpattern, groups?, hgroups, files, hfiles, found, hfound, rfl⟩
    exact ⟨strict, pattern?, groups?, files, found, hstrict, hpattern, hgroups, hfiles, hfound, rfl⟩
  · rintro ⟨strict, pattern?, groups?, files, found, hstrict, hpattern, hgroups, hfiles, hfound, rfl⟩
    exact ⟨strict, hstrict, pattern?, hpattern, groups?, hgroups, files, hfiles, found, hfound, rfl⟩

end Run

section Alone

variable {check : TextCheck} {regex : Regex} {file other : FoundFile}

/-- Files of one text are judged alike. -/
theorem Judges.unique {title : String} {rule : MatchRule} {result result' : Result}
    (htext : textOf file = textOf other) (h : Judges title rule regex file result)
    (h' : Judges title rule regex other result') : result = result' := by
  rw [← result_eq_iff] at h h'
  rw [← h, ← h', htext]

theorem Captures.unique {report report' : Result × List Warning} (htext : textOf file = textOf other)
    (h : check.Captures regex file report) (h' : check.Captures regex other report') :
    report = report' := by
  have hreport := reportGroups_eq_ok.2 ⟨report, h, rfl⟩
  have hreport' := reportGroups_eq_ok.2 ⟨report', h', rfl⟩
  have hsame : check.reportGroups check.title regex file =
      check.reportGroups check.title regex other := by
    simp only [reportGroups, htext]
  obtain ⟨hresult, hwarnings⟩ := Output.mk.inj (Except.ok.inj (hreport.symm.trans (hsame.trans hreport')))
  exact Prod.ext (List.singleton_inj.1 hresult) hwarnings

end Alone

/-- A check of text files accounts for each file that is found. Without files it warns, unless it is
to ignore that. Else it gives one result for each file by its pattern and then one for each file by
its pattern with groups, in the order of the paths, and one that says the check is not a valid one
when neither is set. What is said of a file follows from its text and the check alone. -/
theorem analyze_accounts_for_files (check : TextCheck) {store : EvidenceStore}
    (horder : store.Orderly) :
    (∀ output, check.analyze store = .ok output ↔
      ∃ strict pattern? groups? files found, check.shared.isStrict = .ok strict
        ∧ Compiles check.pattern pattern? ∧ Compiles check.groupPattern groups?
        ∧ store.find (Layout.join check.collectorName check.fileName)
          (check.excludeFiles.map (Layout.join check.collectorName)) = .ok files
        ∧ (files.Pairwise fun x y => bytesOf x.1 < bytesOf y.1)
        ∧ check.Accounts pattern? groups? files found ∧ output = found.stamp strict)
    ∧ (∀ rule rule' : MatchRule, rule.IsStatedBy check.outcomes → rule'.IsStatedBy check.outcomes →
      rule = rule')
    ∧ ∀ regex file other, textOf file = textOf other →
      (∀ rule result result', Judges check.title rule regex file result →
        Judges check.title rule regex other result' → result = result')
      ∧ ∀ report report', check.Captures regex file report → check.Captures regex other report' →
        report = report' := by
  refine ⟨fun output => ?_, fun rule rule' => MatchRule.IsStatedBy.unique,
    fun regex file other htext => ⟨fun rule result result' => Judges.unique htext,
      fun report report' => Captures.unique htext⟩⟩
  rw [analyze_eq_ok]
  constructor
  · rintro ⟨strict, pattern?, groups?, files, found, hstrict, hpattern, hgroups, hfiles, hfound⟩
    exact ⟨strict, pattern?, groups?, files, found, hstrict, hpattern, hgroups, hfiles,
      (horder _ _ _ hfiles).bytes, hfound⟩
  · rintro ⟨strict, pattern?, groups?, files, found, hstrict, hpattern, hgroups, hfiles, -, hfound⟩
    exact ⟨strict, pattern?, groups?, files, found, hstrict, hpattern, hgroups, hfiles, hfound⟩

section Sample

def codeLogs : EvidenceStore :=
  (MemoryStore.ofList [("logs/quiet.txt", Utf8.encode "nothing".toList),
    ("logs/loud.txt", Utf8.encode "code 7".toList)]).toStore

/-- A check with both patterns, whose outcomes state a rule and are tried on the groups as well. -/
def codeCheck : TextCheck where
  shared := { checkName := "codes" }
  collectorName := "logs"
  fileName := "*.txt"
  pattern := "code"
  groupPattern := "code (?P<_>[0-9]+)"
  outcomes := [{ warn := some { when := "_ > 5", message := "code \x7b\x7b ._ \x7d\x7d" } },
    { pass := some { message := "fine" } }]

def codeResults : List Result :=
  [.ofMessage "codes" .pass "fine", .ofMessage "codes" .fail "", .ofMessage "codes" .warn "code 7",
    .ofMessage "codes" .pass "fine"]

theorem analyze_accounts_for_codeLogs : codeLogs.Orderly
    ∧ ∃ pattern? groups? files found, Compiles codeCheck.pattern pattern?
      ∧ Compiles codeCheck.groupPattern groups? ∧ codeLogs.find "logs/*.txt" [] = .ok files
      ∧ (files.Pairwise fun x y => bytesOf x.1 < bytesOf y.1)
      ∧ codeCheck.Accounts pattern? groups? files found ∧ found.stamp false = ⟨codeResults, []⟩ := by
  have horder : codeLogs.Orderly := MemoryStore.orderly_ofList _
  have hanalyze : codeCheck.analyze codeLogs = .ok ⟨codeResults, []⟩ := by decide +kernel
  obtain ⟨strict, pattern?, groups?, files, found, hstrict, hpattern, hgroups, hfiles, hbytes, hfound,
    houtput⟩ := ((analyze_accounts_for_files codeCheck horder).1 _).1 hanalyze
  obtain rfl : strict = false := (Except.ok.inj hstrict).symm
  exact ⟨horder, pattern?, groups?, files, found, hpattern, hgroups, hfiles, hbytes, hfound,
    houtput.symm⟩

end Sample

end TextCheck

end Triage
