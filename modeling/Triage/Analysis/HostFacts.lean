import Triage.Analyzer.Basic
import Triage.Clause.Host
import Triage.Evidence.Fanout
import Triage.Resolution
import Triage.Template

/-!
# Checks of host facts

The outcomes are resolved for each file of a fact on its own, and what they match is reported under
the title of the file.
-/

namespace Triage

/-- The message about a processor may mention its architecture. -/
def Host.Processor.finish (processor : Host.Processor) (result : Result) :
    Except AnalysisError Result := do
  let context : Json := .object
    [("Info", .object [("MachineArch", .string processor.machineArch)])]
  return { result with message := ← Template.renderWith .empty result.message context }

namespace HostFact

/-- How a file of a fact is read, how what it holds is put to a clause, and how a result about it is
finished. -/
structure Reading where
  Fact : Type
  what : String
  decode : Json.Decoder Fact
  holds : Fact → String → Except AnalysisError Bool
  finish : Fact → Result → Except AnalysisError Result := fun _ => pure

def reading : HostFact → Reading
  | memory =>
    { Fact := Host.Memory
      what := "memory info"
      decode := Host.Memory.decode
      holds := fun memory clause => liftM (Clause.quantity clause memory.total) }
  | system =>
    { Fact := Host.OperatingSystem
      what := "host os info"
      decode := Host.OperatingSystem.decode
      holds := fun system clause => liftM (Clause.platform clause system) }
  | processor =>
    { Fact := Host.Processor
      what := "cpu info"
      decode := Host.Processor.decode
      holds := fun processor clause => liftM (Clause.processor clause processor)
      finish := Host.Processor.finish }
  | clock =>
    { Fact := Host.Clock
      what := "time info"
      decode := Host.Clock.decode
      holds := fun clock clause => liftM (Clause.clock clause clock) }
  | sysctl =>
    { Fact := List (String × String)
      what := "sysctl parameters"
      decode := Json.Decode.entries Json.Decode.text
      holds := fun parameters clause => Clause.sysctl clause parameters }
  | services =>
    { Fact := List Host.Service
      what := "service info"
      decode := Json.Decode.list Host.Service.decode
      holds := fun services clause => liftM (Clause.services clause services) }
  | disk =>
    { Fact := Host.Disk
      what := "disk usage info"
      decode := Host.Disk.decode
      holds := fun disk clause => liftM (Clause.disk clause disk) }

/-- The name of the file that a fact has on every host. Disk usage is only ever collected on the
spot, in a file named after its collector. -/
def file? : HostFact → Option String
  | memory => some "memory.json"
  | system => some "hostos_info.json"
  | processor => some "cpu.json"
  | clock => some "time.json"
  | sysctl => some "sysctl.json"
  | services => some "systemctl_services.json"
  | disk => none

end HostFact

namespace HostCheck

/-- The output about one file: the fact it holds is put to the clauses, and the result that
matches is finished with the fact at hand. -/
def reportFile (check : HostCheck) (reading : HostFact.Reading) (title : String)
    (file : Collected) : Except AnalysisError Output := do
  let fact ← Cluster.decodeRecord reading.decode reading.what file.content
  let (warnings, resolution) ←
    Resolution.resolve (file.title title) check.outcomes (reading.holds fact)
  match resolution.matched? with
  | none => return { warnings }
  | some result => return { results := [← reading.finish fact result], warnings }

/-- The output about all files of a fact. -/
def report (check : HostCheck) (reading : HostFact.Reading) (title : String)
    (files : List Collected) : Except AnalysisError Output := do
  let strict ← check.shared.isStrict
  let outputs ← files.mapM (check.reportFile reading title)
  return (Output.concat outputs).stamp strict

/-- Where the disk usage of a collector lies. -/
def diskPath (check : HostCheck) : String :=
  Layout.diskUsagePath (if check.collectorName.isEmpty then "diskUsage" else check.collectorName)

/-- The files that a check of a fact is about. -/
def files (store : EvidenceStore) (check : HostCheck) (fact : HostFact) :
    Except AnalysisError (List Collected) :=
  match fact.file? with
  | some file => store.collect (.standard file)
  | none => do return [⟨none, ← store.get check.diskPath⟩]

/-- Checks a host fact. -/
def analyze (store : EvidenceStore) (check : HostCheck) (fact : HostFact) :
    Except AnalysisError Output := do
  let files ← files store check fact
  check.report fact.reading (check.shared.title (fact.defaultTitle check)) files

end HostCheck

end Triage
