import Triage.Meta
import Triage.Outcome.Basic

/-!
# What analyzers are told

The settings of each kind of analyzer, how they are read from a manifest, and how they are written.
Every setting may be left out, and most empty ones are not written. `limit` is how deep the values
of unknown settings may be nested.
-/

namespace Triage

/-- A member that is left out when it is empty. -/
def Json.textMember (key value : String) : Json.Members :=
  if value.isEmpty then [] else [(key, .string value)]

def Json.textsMember (key : String) (values : List String) : Json.Members :=
  if values.isEmpty then [] else [(key, .ofStrings values)]

def Outcome.listMember (outcomes : List Outcome) : Json.Members :=
  [("outcomes", .array (outcomes.map Outcome.toJson))]

/-- A check of facts about hosts. -/
structure HostCheck where
  shared : Meta := {}
  collectorName : String := ""
  outcomes : List Outcome := []
  deriving DecidableEq, Repr

namespace HostCheck

def fields : List (Json.Decode.Field HostCheck) :=
  open Json.Decode in
  Meta.fieldsIn (fun change c => { c with shared := change c.shared }) ++
    [field "collectorName" text fun x c => { c with collectorName := x },
     field "outcomes" (list Outcome.decode) fun x c => { c with outcomes := x }]

def decode (limit : Nat) : Json.Decoder HostCheck := Json.Decode.shared limit fields {}

def toJson (c : HostCheck) : Json :=
  .object (c.shared.members ++ Json.textMember "collectorName" c.collectorName ++
    Outcome.listMember c.outcomes)

end HostCheck

/-- A check of all pods, or of those in some namespaces. -/
structure PodCheck where
  shared : Meta := {}
  namespaces : List String := []
  outcomes : List Outcome := []
  deriving DecidableEq, Repr

namespace PodCheck

def fields : List (Json.Decode.Field PodCheck) :=
  open Json.Decode in
  Meta.fieldsIn (fun change c => { c with shared := change c.shared }) ++
    [field "namespaces" (list text) fun x c => { c with namespaces := x },
     field "outcomes" (list Outcome.decode) fun x c => { c with outcomes := x }]

def decode (limit : Nat) : Json.Decoder PodCheck := Json.Decode.shared limit fields {}

def toJson (c : PodCheck) : Json :=
  .object (c.shared.members ++ Json.textsMember "namespaces" c.namespaces ++
    Outcome.listMember c.outcomes)

end PodCheck

/-- A check of the container runtimes of the nodes. -/
structure RuntimeCheck where
  shared : Meta := {}
  outcomes : List Outcome := []
  deriving DecidableEq, Repr

namespace RuntimeCheck

def fields : List (Json.Decode.Field RuntimeCheck) :=
  open Json.Decode in
  Meta.fieldsIn (fun change c => { c with shared := change c.shared }) ++
    [field "outcomes" (list Outcome.decode) fun x c => { c with outcomes := x }]

def decode (limit : Nat) : Json.Decoder RuntimeCheck := Json.Decode.shared limit fields {}

def toJson (c : RuntimeCheck) : Json :=
  .object (c.shared.members ++ Outcome.listMember c.outcomes)

end RuntimeCheck

/-- A check of one deployment, stateful set or job, or of all of them. -/
structure WorkloadCheck where
  shared : Meta := {}
  name : String := ""
  nspace : String := ""
  namespaces : List String := []
  outcomes : List Outcome := []
  deriving DecidableEq, Repr

namespace WorkloadCheck

def fields : List (Json.Decode.Field WorkloadCheck) :=
  open Json.Decode in
  Meta.fieldsIn (fun change c => { c with shared := change c.shared }) ++
    [field "name" text fun x c => { c with name := x },
     field "namespace" text fun x c => { c with nspace := x },
     field "namespaces" (list text) fun x c => { c with namespaces := x },
     field "outcomes" (list Outcome.decode) fun x c => { c with outcomes := x }]

def decode (limit : Nat) : Json.Decoder WorkloadCheck := Json.Decode.shared limit fields {}

def toJson (c : WorkloadCheck) : Json :=
  .object (c.shared.members ++ Json.textMember "name" c.name ++
    Json.textMember "namespace" c.nspace ++ Json.textsMember "namespaces" c.namespaces ++
    Outcome.listMember c.outcomes)

/-- The title, where a label stands for the kind of workload. -/
def title (label : String) (c : WorkloadCheck) : String :=
  c.shared.title (if c.name.isEmpty then s!"{label} Status" else s!"{c.name} Status")

end WorkloadCheck

/-- A check whether a cluster event was recorded. -/
structure EventCheck where
  shared : Meta := {}
  collectorName : String := ""
  nspace : String := ""
  kind : String := ""
  reason : String := ""
  messagePattern : String := ""
  outcomes : List Outcome := []
  deriving DecidableEq, Repr

namespace EventCheck

def fields : List (Json.Decode.Field EventCheck) :=
  open Json.Decode in
  Meta.fieldsIn (fun change c => { c with shared := change c.shared }) ++
    [field "collectorName" text fun x c => { c with collectorName := x },
     field "namespace" text fun x c => { c with nspace := x },
     field "kind" text fun x c => { c with kind := x },
     field "reason" text fun x c => { c with reason := x },
     field "regex" text fun x c => { c with messagePattern := x },
     field "outcomes" (list Outcome.decode) fun x c => { c with outcomes := x }]

def decode (limit : Nat) : Json.Decoder EventCheck := Json.Decode.shared limit fields {}

def toJson (c : EventCheck) : Json :=
  .object (c.shared.members ++ Json.textMember "collectorName" c.collectorName ++
    Json.textMember "namespace" c.nspace ++ Json.textMember "kind" c.kind ++
    [("reason", .string c.reason)] ++ Json.textMember "regex" c.messagePattern ++
    Outcome.listMember c.outcomes)

end EventCheck

/-- A check of a part of a document against an expected value. -/
structure DocumentCheck where
  shared : Meta := {}
  collectorName : String := ""
  fileName : String := ""
  path : String := ""
  value : String := ""
  outcomes : List Outcome := []
  deriving DecidableEq, Repr

namespace DocumentCheck

/-- The fields, for a record that holds them through `modify`. -/
def fieldsIn {α : Type} (modify : (DocumentCheck → DocumentCheck) → α → α) :
    List (Json.Decode.Field α) :=
  open Json.Decode in
  Meta.fieldsIn (fun change => modify fun c => { c with shared := change c.shared }) ++
    [field "collectorName" text fun x => modify fun c => { c with collectorName := x },
     field "fileName" text fun x => modify fun c => { c with fileName := x },
     field "path" text fun x => modify fun c => { c with path := x },
     field "value" text fun x => modify fun c => { c with value := x },
     field "outcomes" (list Outcome.decode) fun x => modify fun c => { c with outcomes := x }]

def decode (limit : Nat) : Json.Decoder DocumentCheck := Json.Decode.shared limit (fieldsIn id) {}

/-- Written with further members behind the path. -/
def toJsonWith (more : Json.Members) (c : DocumentCheck) : Json :=
  .object (c.shared.members ++ [("collectorName", .string c.collectorName),
    ("fileName", .string c.fileName)] ++ Json.textMember "path" c.path ++ more ++
    [("value", .string c.value)] ++ Outcome.listMember c.outcomes)

def toJson (c : DocumentCheck) : Json := c.toJsonWith []

def title (default : String) (c : DocumentCheck) : String :=
  c.shared.title (if c.collectorName.isEmpty then default else c.collectorName)

end DocumentCheck

/-- A check of a JSON document, a part of which may be selected by a JSON path. -/
structure JsonCheck where
  document : DocumentCheck := {}
  jsonPath : String := ""
  deriving DecidableEq, Repr

namespace JsonCheck

def fields : List (Json.Decode.Field JsonCheck) :=
  open Json.Decode in
  DocumentCheck.fieldsIn (fun change c => { c with document := change c.document }) ++
    [field "jsonPath" text fun x c => { c with jsonPath := x }]

def decode (limit : Nat) : Json.Decoder JsonCheck := Json.Decode.shared limit fields {}

def toJson (c : JsonCheck) : Json := c.document.toJsonWith (Json.textMember "jsonPath" c.jsonPath)

end JsonCheck

/-- A check of text files against patterns. -/
structure TextCheck where
  shared : Meta := {}
  collectorName : String := ""
  fileName : String := ""
  excludeFiles : List String := []
  pattern : String := ""
  groupPattern : String := ""
  ignoreIfNoFiles : Bool := false
  outcomes : List Outcome := []
  deriving DecidableEq, Repr

namespace TextCheck

def fields : List (Json.Decode.Field TextCheck) :=
  open Json.Decode in
  Meta.fieldsIn (fun change c => { c with shared := change c.shared }) ++
    [field "collectorName" text fun x c => { c with collectorName := x },
     field "fileName" text fun x c => { c with fileName := x },
     field "excludeFiles" (list text) fun x c => { c with excludeFiles := x },
     field "regex" text fun x c => { c with pattern := x },
     field "regexGroups" text fun x c => { c with groupPattern := x },
     field "ignoreIfNoFiles" flag fun x c => { c with ignoreIfNoFiles := x },
     field "outcomes" (list Outcome.decode) fun x c => { c with outcomes := x }]

def decode (limit : Nat) : Json.Decoder TextCheck := Json.Decode.shared limit fields {}

def toJson (c : TextCheck) : Json :=
  .object (c.shared.members ++ [("collectorName", .string c.collectorName),
    ("fileName", .string c.fileName)] ++ Json.textsMember "excludeFiles" c.excludeFiles ++
    Json.textMember "regex" c.pattern ++ Json.textMember "regexGroups" c.groupPattern ++
    [("ignoreIfNoFiles", .bool c.ignoreIfNoFiles)] ++ Outcome.listMember c.outcomes)

end TextCheck

end Triage
