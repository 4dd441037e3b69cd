import Triage.Analyzer.Basic
import Triage.Clause.Basic
import Triage.Evidence.Layout
import Triage.Evidence.Store
import Triage.Json.Equality
import Triage.JsonPath.Select
import Triage.Resolution
import Triage.Yaml.Document

/-!
# Checks of documents

A part of a collected document is compared with an expected value, and the outcomes say what to
conclude. A blank clause of a pass asks that they are equal, and of any other verdict that they are
not. JSON arrays are compared without regard to order.
-/

namespace Triage

/-- The message when no outcome says what to conclude. -/
def invalidAnalyzerMessage : String := "Invalid analyzer"

namespace DocumentCheck

/-- The path of the document. -/
def fullPath (check : DocumentCheck) : String := Layout.join check.collectorName check.fileName

/-- Whether a comparison came out as an outcome asks. -/
def holds (equal : Bool) (verdict : Verdict) (clause : String) : Except ConditionError Bool := do
  let expected ← if clause.isEmpty then pure (verdict == .pass) else Clause.readBool clause
  return expected == equal

/-- The output about a comparison. -/
def conclude (check : DocumentCheck) (title : String) (equal : Bool) :
    Except AnalysisError Output := do
  let trace := Resolution.trace title .asked check.outcomes (holds equal)
  let result ← match ← trace.ending with
    | .matched result => pure result
    | .exhausted title => pure (.ofMessage title .fail invalidAnalyzerMessage)
  return (Output.mk [result] trace.warnings).stamp (← check.shared.isStrict)

def analyzeYaml (store : EvidenceStore) (check : DocumentCheck) : Except AnalysisError Output := do
  let _ ← check.shared.isStrict
  let content ← store.get check.fullPath
  let some document := Yaml.ofBytes? content | throw (.decode (.notYaml check.fullPath))
  let actual ← (Json.select check.path document).mapError fun e => AnalysisError.invalid (.path e)
  let some expected := Yaml.ofText? check.value.toList | throw (.invalid .expectedNotYaml)
  check.conclude (Analyzer.yaml check).title (actual.equal expected)

end DocumentCheck

namespace JsonCheck

/-- The part of a document to compare: a path wins over a JSON path. -/
def selected (check : JsonCheck) (document : Json) : Except InvalidError Json :=
  if !isBlankText check.document.path then
    (Json.select check.document.path document).mapError .path
  else if !isBlankText check.jsonPath then
    match (JsonPath.ofText? check.jsonPath).bind (JsonPath.select? · document) with
    | some value => .ok value
    | none => .error (.jsonPath check.jsonPath)
  else .ok document

def analyze (store : EvidenceStore) (check : JsonCheck) : Except AnalysisError Output := do
  let _ ← check.document.shared.isStrict
  let path := check.document.fullPath
  let content ← store.get path
  let some document := Json.ofBytes? content | throw (.decode (.notJson path))
  let actual ← check.selected document
  let some expected := Json.ofText? check.document.value | throw (.invalid .expectedNotJson)
  check.document.conclude (Analyzer.json check).title (actual.equalIgnoringOrder expected)

end JsonCheck

end Triage
