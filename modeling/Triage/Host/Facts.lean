import Triage.Json.Decode

/-!
# Facts about a host

The records that collectors write about one machine. Every field may be left out.
-/

namespace Triage.Host

structure Memory where
  total : Nat := 0
  deriving DecidableEq, Repr

namespace Memory

def fields : List (Json.Decode.Field Memory) :=
  open Json.Decode in [field "total" word64 fun x m => { m with total := x }]

def decode : Json.Decoder Memory := Json.Decode.record fields {}

def toJson (m : Memory) : Json := .object [("total", .ofNat m.total)]

end Memory

structure OperatingSystem where
  name : String := ""
  kernelVersion : String := ""
  platformVersion : String := ""
  platform : String := ""
  deriving DecidableEq, Repr

namespace OperatingSystem

def fields : List (Json.Decode.Field OperatingSystem) :=
  open Json.Decode in
  [field "name" text fun x s => { s with name := x },
   field "kernelVersion" text fun x s => { s with kernelVersion := x },
   field "platformVersion" text fun x s => { s with platformVersion := x },
   field "platform" text fun x s => { s with platform := x }]

def decode : Json.Decoder OperatingSystem := Json.Decode.record fields {}

def toJson (s : OperatingSystem) : Json :=
  .object [("name", .string s.name), ("kernelVersion", .string s.kernelVersion),
    ("platformVersion", .string s.platformVersion), ("platform", .string s.platform)]

end OperatingSystem

structure Processor where
  logicalCount : Nat := 0
  physicalCount : Nat := 0
  flags : List String := []
  machineArch : String := ""
  deriving DecidableEq, Repr

namespace Processor

def fields : List (Json.Decode.Field Processor) :=
  open Json.Decode in
  [field "logicalCount" word64 fun x p => { p with logicalCount := x },
   field "physicalCount" word64 fun x p => { p with physicalCount := x },
   field "flags" (list text) fun x p => { p with flags := x },
   field "machineArch" text fun x p => { p with machineArch := x }]

def decode : Json.Decoder Processor := Json.Decode.record fields {}

def toJson (p : Processor) : Json :=
  .object [("logicalCount", .ofNat p.logicalCount), ("physicalCount", .ofNat p.physicalCount),
    ("flags", .ofStrings p.flags), ("machineArch", .string p.machineArch)]

end Processor

structure Clock where
  timezone : String := ""
  ntpSynchronized : Bool := false
  ntpActive : Bool := false
  deriving DecidableEq, Repr

namespace Clock

def fields : List (Json.Decode.Field Clock) :=
  open Json.Decode in
  [field "timezone" text fun x c => { c with timezone := x },
   field "ntp_synchronized" flag fun x c => { c with ntpSynchronized := x },
   field "ntp_active" flag fun x c => { c with ntpActive := x }]

def decode : Json.Decoder Clock := Json.Decode.record fields {}

def toJson (c : Clock) : Json :=
  .object [("timezone", .string c.timezone), ("ntp_synchronized", .bool c.ntpSynchronized),
    ("ntp_active", .bool c.ntpActive)]

end Clock

/-- A unit of the service manager. -/
structure Service where
  unit : String := ""
  load : String := ""
  active : String := ""
  sub : String := ""
  deriving DecidableEq, Repr

namespace Service

def fields : List (Json.Decode.Field Service) :=
  open Json.Decode in
  [field "Unit" text fun x s => { s with unit := x },
   field "Load" text fun x s => { s with load := x },
   field "Active" text fun x s => { s with active := x },
   field "Sub" text fun x s => { s with sub := x }]

def decode : Json.Decoder Service := Json.Decode.record fields {}

def toJson (s : Service) : Json :=
  .object [("Unit", .string s.unit), ("Load", .string s.load), ("Active", .string s.active),
    ("Sub", .string s.sub)]

end Service

structure Disk where
  totalBytes : Nat := 0
  usedBytes : Nat := 0
  deriving DecidableEq, Repr

namespace Disk

def fields : List (Json.Decode.Field Disk) :=
  open Json.Decode in
  [field "total_bytes" word64 fun x d => { d with totalBytes := x },
   field "used_bytes" word64 fun x d => { d with usedBytes := x }]

def decode : Json.Decoder Disk := Json.Decode.record fields {}

def toJson (d : Disk) : Json :=
  .object [("total_bytes", .ofNat d.totalBytes), ("used_bytes", .ofNat d.usedBytes)]

end Disk

/-- The nodes whose facts were collected. -/
structure NodeList where
  nodes : List String := []
  deriving DecidableEq, Repr

namespace NodeList

def fields : List (Json.Decode.Field NodeList) :=
  open Json.Decode in [field "nodes" (list text) fun x n => { n with nodes := x }]

def decode : Json.Decoder NodeList := Json.Decode.record fields {}

def toJson (n : NodeList) : Json := .object [("nodes", .ofStrings n.nodes)]

end NodeList

end Triage.Host
