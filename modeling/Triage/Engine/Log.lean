import Triage.Json.Compact
import Triage.Text.Utf8

/-!
# The log of a run

Entries say what happened to which analyzer. In a file, each entry is one line of JSON.
-/

namespace Triage

inductive LogEvent where
  | excluded
  | failed
  | noResults
  | warning
  deriving DecidableEq, Repr

def LogEvent.name : LogEvent → String
  | excluded => "analyzer_excluded"
  | failed => "analyzer_failed"
  | noResults => "no_outcome_matched"
  | warning => "analysis_warning"

structure LogEntry where
  event : LogEvent
  analyzer : String
  message : String
  deriving DecidableEq, Repr

namespace LogEntry

/-- The entry with the time of its recording, in milliseconds. -/
def toJson (time : Nat) (entry : LogEntry) : Json :=
  .object [("event", .string entry.event.name), ("timestamp_ms", .ofNat time),
    ("analyzer", .string entry.analyzer), ("message", .string entry.message)]

/-- The line of an entry in a file. -/
def line (time : Nat) (entry : LogEntry) : List Char := (entry.toJson time).text ++ ['\n']

/-- What a file holds of a log that was recorded at one time. -/
def encode (time : Nat) (log : List LogEntry) : Bytes := Utf8.encode (log.flatMap (line time))

end LogEntry

end Triage
