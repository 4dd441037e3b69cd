import Triage.Config.Load
import Triage.Engine.Run

/-!
# Configured runs

A run as a configuration asks for it: on the bundle it names, with the log where it says.
-/

namespace Triage

/-- An opened bundle and an opened log. -/
structure Session where
  bundle : Directory
  sink : LogSink
  fs : FileSystem

namespace Session

/-- The file system once a log has been recorded. -/
def recorded (session : Session) (time : Nat) (log : List LogEntry) : FileSystem :=
  match session.sink with
  | .file names =>
    if log.isEmpty then session.fs else session.fs.append names (LogEntry.encode time log)
  | _ => session.fs

/-- The bundle as it is once a log has been recorded. -/
def storeAt (session : Session) (time : Nat) (log : List LogEntry) : EvidenceStore :=
  session.bundle.toStore (session.recorded time log)

def run (session : Session) (time : Nat) (dedup : Bool) (analyzers : List Analyzer) : Run :=
  Run.ofManifestWith (session.storeAt time) dedup analyzers

end Session

end Triage
