import Triage.Binary64.Reading
import Triage.Clause.Basic
import Triage.Host.Facts

/-!
# Clauses over host facts

One clause language for each kind of fact. The first word usually selects what is compared.
-/

namespace Triage.Clause

open Host

/-- The version of the host that a selector means, if it means any: the kernel's for
`kernelVersion`, `<platform>-kernel` and `<platform>-<version>-kernel`, the platform's for
`<platform>`. -/
def selectedVersion? (selector : String) (host : OperatingSystem) : Option String :=
  if selector == "kernelVersion" then some host.kernelVersion
  else match Text.dropBack? "-kernel".toList selector.toList with
    | some scope =>
      let scope := String.ofList scope
      if scope == s!"{host.platform}-{host.platformVersion}" || scope == host.platform then
        some host.kernelVersion
      else none
    | none => if selector == host.platform then some host.platformVersion else none

/-- `selector op version`; a selector that means nothing on this host answers no. -/
def platform (clause : String) (host : OperatingSystem) : Answer := do
  let (selector, op, operand) ← Condition.parseSelected clause
  let expected ← Version.parse operand
  match selectedVersion? selector host with
  | some actual => return op.compare (← Version.parse actual) expected
  | none => return false

/-- Whether every flag is present; empty names do not count. -/
def hasFlags (wanted present : List String) : Bool :=
  wanted.all fun flag => flag.isEmpty || present.contains flag

def flagsOfLevel2 : List String := ["cx16", "lahf_lm", "popcnt", "sse4_1", "sse4_2", "ssse3"]

def flagsOfLevel3 : List String :=
  ["avx", "avx2", "bmi1", "bmi2", "f16c", "fma", "abm", "movbe", "xsave"]

def flagsOfLevel4 : List String := ["avx512f", "avx512bw", "avx512cd", "avx512dq", "avx512vl"]

/-- The flags that a microarchitecture level demands, those of the levels below it included. -/
def levelFlags? : String → Option (List String)
  | "x86-64" => some []
  | "x86-64-v2" => some flagsOfLevel2
  | "x86-64-v3" => some (flagsOfLevel2 ++ flagsOfLevel3)
  | "x86-64-v4" => some (flagsOfLevel2 ++ flagsOfLevel3 ++ flagsOfLevel4)
  | _ => none

def supports (level : String) (p : Processor) : Answer :=
  match levelFlags? level with
  | some flags => .ok (hasFlags flags p.flags)
  | none => .error (.unknownMicroarchitecture level)

/-- A count of processors against an integer; counts beyond 63 bits are cut back. -/
def processorCount (op operand : String) (actual : Nat) : Answer := do
  integer (← Comparison.parse op) operand (min actual (Text.powerOfTwo 63 - 1) : Nat)

/-- `op n`, `selector op n`, `machineArch op name`, `supports level` or `hasFlags a,b`. -/
def processor (clause : String) (p : Processor) : Answer :=
  let largest := max p.logicalCount p.physicalCount
  match wordsOf clause with
  | [verb, operand] =>
    if sameToken verb "supports" then supports operand p
    else if sameToken verb "hasFlags" then .ok (hasFlags (splitString ',' operand) p.flags)
    else processorCount verb operand largest
  | [selector, op, operand] =>
    match lowered selector with
    | "logical" => processorCount op operand p.logicalCount
    | "physical" => processorCount op operand p.physicalCount
    | "count" => processorCount op operand largest
    | "machinearch" => do token (← Comparison.parse op) p.machineArch operand
    | _ => .error (.unknownCpuSelector selector)
  | _ => .error (.malformedCpuClause clause)

/-- The state of time synchronization, as clauses write it. -/
def ntpState (c : Clock) : String :=
  (if c.ntpSynchronized then "synchronized" else "unsynchronized") ++ "+" ++
    (if c.ntpActive then "active" else "inactive")

def ntpStates : List String :=
  ["synchronized+active", "synchronized+inactive", "unsynchronized+active",
    "unsynchronized+inactive"]

/-- `timezone op name` or `ntp op state`. -/
def clock (clause : String) (c : Clock) : Answer := do
  let (selector, op, operand) ← Condition.parseSelected clause
  match selector with
  | "timezone" => exact op c.timezone operand
  | "ntp" =>
    if ntpStates.contains operand then exact op (ntpState c) operand
    else throw (.unknownNtpState operand)
  | _ => throw (.unknownTimeSelector selector)

/-- `parameter op value`: equality compares texts, an ordering compares integers. -/
def sysctl (clause : String) (parameters : List (String × String)) : Except AnalysisError Bool := do
  let (parameter, op, expected) ← Condition.parseSelected clause
  match parameters.lookup parameter with
  | none => throw (.invalid (.sysctlNotCollected parameter))
  | some value =>
    let actual := trimmed value
    if op.isEquality then exact op actual expected
    else integer op expected (← readInteger actual)

/-- The wanted states that constrain anything, each with the actual one. -/
def constraints (states : String) (service : Service) : List (String × String) :=
  let wanted := splitString ',' states
  [(wanted.getD 0 "", service.active), (wanted.getD 1 "", service.sub),
    (wanted.getD 2 "", service.load)].filter fun (wanted, _) => !wanted.isEmpty && wanted != "*"

/-- `unit op active[,sub[,load]]`, asked of the first unit whose name starts so. -/
def services (clause : String) (units : List Service) : Answer := do
  let (unit, op, states) ← Condition.parseSelected clause
  if !op.isEquality then throw (.unorderedServices op)
  match units.find? fun service => unit.toList.isPrefixOf service.unit.toList with
  | none => return false
  | some service =>
    let equal := (constraints states service).all fun (wanted, actual) => wanted == actual
    return equal == (op == .equal)

/-- A share of a whole: a decimal number, or a percentage. -/
def readRatio (operand : String) : Except ConditionError Binary64 :=
  let hundred : Binary64 := (Binary64.ofInt? 100).getD default
  let ratio? := match Text.dropBack? ['%'] operand.toList with
    | some percent => (Binary64.read? (Text.trim percent)).bind (·.div? hundred)
    | none => Binary64.read? (Text.trim operand.toList)
  match ratio? with
  | some ratio => .ok ratio
  | none => .error (.notRatio operand)

/-- `part / total`; nothing is no part of nothing. -/
def share (part total : Nat) : Binary64 :=
  let quotient? := do (← Binary64.ofInt? part).div? (← Binary64.ofInt? total)
  if total = 0 then .zero false else quotient?.getD default

def ratio (op : Comparison) (operand : String) (part total : Nat) : Answer := do
  let expected ← readRatio operand
  return op.holds ((share part total).order expected)

/-- `statistic op size` or `statistic/total op ratio`. -/
def disk (clause : String) (d : Disk) : Answer := do
  let (statistic, op, operand) ← Condition.parseSelected clause
  let available := d.totalBytes - d.usedBytes
  match lowered statistic with
  | "total" => bytes op operand d.totalBytes
  | "used" => bytes op operand d.usedBytes
  | "available" => bytes op operand available
  | "used/total" => ratio op operand d.usedBytes d.totalBytes
  | "available/total" => ratio op operand available d.totalBytes
  | other => throw (.unknownDiskStatistic other)

end Triage.Clause
