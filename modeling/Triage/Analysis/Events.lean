import Triage.Analyzer.Basic
import Triage.Clause.Basic
import Triage.Cluster.Listing
import Triage.Cluster.Objects
import Triage.Evidence.Layout
import Triage.Evidence.Store
import Triage.Regex.Search
import Triage.Resolution
import Triage.Template

/-!
# Checks of cluster events

The first event that a filter accepts is the one that matched, if there is one. A filter whose
pattern cannot be read accepts nothing, and says so in a warning.
-/

namespace Triage

open Cluster

/-- What an event must be to match. Without a reason nothing matches; an empty kind or pattern asks
for nothing. -/
structure EventFilter where
  reason : String := ""
  kind : String := ""
  messagePattern : String := ""
  deriving DecidableEq, Repr

namespace EventFilter

/-- Whether an event has the reason and the kind. -/
def accepts (filter : EventFilter) (event : Event) : Bool :=
  !filter.reason.isEmpty && sameToken event.reason filter.reason &&
    (filter.kind.isEmpty || sameToken event.involvedObject.kind filter.kind)

/-- The first event that matches, and the warnings about the filter. -/
def find (filter : EventFilter) (subject : String) (events : List Event) :
    Option Event × List Warning :=
  let pattern := filter.messagePattern
  if pattern.isEmpty then (events.find? filter.accepts, [])
  else
    match Regex.ofText? pattern with
    | none =>
      (none, [⟨subject, s!"failed to compile message regex '{pattern}': malformed pattern"⟩])
    | some regex =>
      (events.find? fun event => filter.accepts event && regex.isMatch event.message, [])

end EventFilter

namespace EventCheck

def filter (check : EventCheck) : EventFilter := ⟨check.reason, check.kind, check.messagePattern⟩

/-- The message about an event when the outcome has none that can be used. -/
def plainMessage (event : Event) : String :=
  s!"Event matched. Reason: {event.reason} Name: {event.involvedObject.name} " ++
    s!"Message: {event.message}"

/-- The message of an outcome with the event filled in, and the warning if that fails. -/
def message (title template : String) (event : Event) : String × List Warning :=
  if isBlankText template then (plainMessage event, [])
  else
    match Template.render template event.toJson with
    | .ok text => (trimmed text, [])
    | .error e =>
      let reason := (AnalysisError.template e).message
      (plainMessage event, [⟨title, s!"failed to render event message: {reason}"⟩])

/-- The result about the event that matched; a neutral one is left as it is. -/
def finish (title : String) (event? : Option Event) (result : Result) : Result × List Warning :=
  match event?, result.verdict with
  | some event, some _ =>
    let (text, warnings) := message title result.message event
    ({ result with message := text }, warnings)
  | _, _ => (result, [])

def path (check : EventCheck) : String :=
  Layout.clusterResourcePath "events"
    (if check.nspace.isEmpty then Layout.defaultNamespace else check.nspace)

def analyze (store : EvidenceStore) (check : EventCheck) : Except AnalysisError Output := do
  if isBlankText check.reason then throw (.invalid .reasonRequired)
  let strict ← check.shared.isStrict
  let content ← store.get check.path
  let events ← decodeList Event.decode "event list" content
  let title := (Analyzer.event check).title
  let (event?, filterWarnings) := check.filter.find title events
  let (warnings, resolution) ← Resolution.resolve title check.outcomes fun clause =>
    Clause.boolean clause event?.isSome
  let (result, renderWarnings) := finish title event? resolution.toResult
  return (Output.mk [result] (filterWarnings ++ warnings ++ renderWarnings)).stamp strict

end EventCheck

end Triage
