import Triage.Analysis.Documents
import Triage.Regex.Search
import Triage.Template

/-!
# Checks of text files

Every file is checked in up to two ways. A pattern either matches a file or not, and the last pass
and the last fail of the outcomes say which of the two passes. A pattern with groups gives texts
that clauses compare and messages mention.
-/

namespace Triage

/-- What a match and a mismatch lead to. -/
structure MatchRule where
  pass : Option Candidate
  fail : Option Candidate
  passesOn : Bool
  deriving DecidableEq, Repr

namespace MatchRule

/-- The clause of an outcome, or what a missing or blank one means. -/
def clauseOr (candidate : Option Candidate) (default : Bool) : Except ConditionError Bool :=
  match candidate with
  | none => .ok default
  | some candidate =>
    if isBlankText candidate.when then .ok default else Clause.readBool (trimmed candidate.when)

/-- The rule that outcomes state: the last pass and the last fail, whose clauses must differ. -/
def ofOutcomes (outcomes : List Outcome) : Except AnalysisError MatchRule := do
  let pass := outcomes.reverse.findSome? Outcome.pass
  let fail := outcomes.reverse.findSome? Outcome.fail
  let passesOn ← clauseOr pass true
  let failsOn ← clauseOr fail false
  if passesOn == failsOn then throw (.invalid .sharedClause)
  return ⟨pass, fail, passesOn⟩

/-- The result for a file that the pattern matches or not. -/
def result (rule : MatchRule) (title : String) (isMatch : Bool) : Result :=
  let (verdict, candidate) : Verdict × Option Candidate :=
    if isMatch == rule.passesOn then (.pass, rule.pass) else (.fail, rule.fail)
  match candidate with
  | some candidate => .ofCandidate title verdict candidate
  | none => .ofMessage title verdict ""

end MatchRule

namespace Clause

/-- `group op value`: two integers compare as numbers, and other texts only for equality. A group
that was not captured, or is no integer where one is expected, answers no. -/
def capture (clause : String) (captures : List (String × String)) : Answer := do
  let (name, op, operand) ← Condition.parseSelected clause
  match captures.lookup name with
  | none => return false
  | some found =>
    match Text.signed64? operand.toList with
    | some expected =>
      return (Text.signed64? (Text.trim found.toList)).any fun actual => op.compare actual expected
    | none =>
      if op.isEquality then exact op found operand
      else throw (.unorderedCapture op found operand)

end Clause

namespace TextCheck

/-- A pattern, unless it is empty. -/
def compile (pattern : String) : Except InvalidError (Option Regex) :=
  if pattern.isEmpty then .ok none
  else
    match Regex.ofText? pattern with
    | some regex => .ok (some regex)
    | none => .error (.regex pattern)

/-- The text of a file, with a mark in place of what is no text. -/
def textOf (file : FoundFile) : String := .ofList (Utf8.decodeLossy file.2)

/-- What messages can mention: every group of the pattern, empty if it was not captured. -/
def context (regex : Regex) (captures : List (String × String)) : Json :=
  .object (Json.Members.ofList (regex.names.map fun (_, name) =>
    (name, .string ((captures.lookup name).getD ""))))

/-- The results of the files for a pattern that matches or not. -/
def matchResults (check : TextCheck) (title : String) (files : List FoundFile) (regex : Regex) :
    Except AnalysisError (List Result) := do
  let rule ← MatchRule.ofOutcomes check.outcomes
  return files.map fun file => rule.result title (regex.isMatch (textOf file))

/-- The output about a file for a pattern with groups. -/
def reportGroups (check : TextCheck) (title : String) (regex : Regex) (file : FoundFile) :
    Except AnalysisError Output := do
  let captures := (regex.captures? (textOf file)).getD []
  let (warnings, resolution) ← Resolution.resolve title check.outcomes fun clause =>
    Clause.capture clause captures
  let result := resolution.toResult
  if result.verdict.isNone then return { results := [result], warnings }
  else
    let message ← Template.renderWith .empty result.message (context regex captures)
    return { results := [{ result with message }], warnings }

/-- The output when no file is found. -/
def withoutFiles (check : TextCheck) (title : String) : Output :=
  if check.ignoreIfNoFiles then {} else .ofResult (.ofMessage title .warn "No matching files")

def analyze (store : EvidenceStore) (check : TextCheck) : Except AnalysisError Output := do
  let strict ← check.shared.isStrict
  let title := (Analyzer.text check).title
  let pattern? ← compile check.pattern
  let groupPattern? ← compile check.groupPattern
  let files ← store.find (Layout.join check.collectorName check.fileName)
    (check.excludeFiles.map (Layout.join check.collectorName))
  if files.isEmpty then return (check.withoutFiles title).stamp strict
  let results ← match pattern? with
    | none => pure []
    | some regex => check.matchResults title files regex
  let outputs ← match groupPattern? with
    | none => pure []
    | some regex => files.mapM (check.reportGroups title regex)
  let output := (Output.mk results []).append (.concat outputs)
  if output.results.isEmpty then
    return (Output.ofResult (.ofMessage title .fail invalidAnalyzerMessage)).stamp strict
  else return output.stamp strict

end TextCheck

end Triage
