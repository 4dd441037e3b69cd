import Triage.Outcome.Basic

/-!
# Results

What an analyzer reports: results with a verdict, and warnings about problems it passed over.
-/

namespace Triage

/-- A cluster object that a result or an event is about. -/
structure ObjectReference where
  apiVersion : String := ""
  kind : String := ""
  nspace : String := ""
  name : String := ""
  deriving DecidableEq, Repr

namespace ObjectReference

def fields : List (Json.Decode.Field ObjectReference) :=
  open Json.Decode in
  [field "apiVersion" text fun x o => { o with apiVersion := x },
   field "kind" text fun x o => { o with kind := x },
   field "namespace" text fun x o => { o with nspace := x },
   field "name" text fun x o => { o with name := x }]

def decode : Json.Decoder ObjectReference := Json.Decode.record fields {}

def toJson (o : ObjectReference) : Json :=
  .object [("apiVersion", .string o.apiVersion), ("kind", .string o.kind),
    ("namespace", .string o.nspace), ("name", .string o.name)]

end ObjectReference

/-- A result without a verdict is neutral. -/
structure Result where
  title : String := ""
  message : String := ""
  uri : String := ""
  verdict : Option Verdict := none
  strict : Bool := false
  involvedObject : Option ObjectReference := none
  deriving DecidableEq, Repr

namespace Result

def fields : List (Json.Decode.Field Result) :=
  open Json.Decode in
  [field "title" text fun x r => { r with title := x },
   field "message" text fun x r => { r with message := x },
   field "uri" text fun x r => { r with uri := x },
   optionalField "verdict" Verdict.decode fun x r => { r with verdict := x },
   field "strict" flag fun x r => { r with strict := x },
   optionalField "involvedObject" ObjectReference.decode fun x r => { r with involvedObject := x }]

def decode : Json.Decoder Result := Json.Decode.complete fields {}

def toJson (r : Result) : Json :=
  .object ([("title", .string r.title), ("message", .string r.message), ("uri", .string r.uri),
      ("verdict", (r.verdict.map Verdict.toJson).getD .null), ("strict", .bool r.strict)] ++
    (r.involvedObject.map fun o => ("involvedObject", o.toJson)).toList)

/-- The result of an outcome that was chosen. -/
def ofCandidate (title : String) (verdict : Verdict) (candidate : Candidate) : Result :=
  { title, message := candidate.message, uri := candidate.uri, verdict := some verdict }

def ofMessage (title : String) (verdict : Verdict) (message : String) : Result :=
  { title, message, verdict := some verdict }

def neutral (title : String) : Result := { title }

/-- Whether the result counts as a failure of the bundle. -/
def isFailure (r : Result) : Bool := r.verdict == some .fail || r.verdict == some .fatal

end Result

/-- A problem that was passed over. -/
structure Warning where
  subject : String := ""
  message : String := ""
  deriving DecidableEq, Repr

namespace Warning

def fields : List (Json.Decode.Field Warning) :=
  open Json.Decode in
  [field "subject" text fun x w => { w with subject := x },
   field "message" text fun x w => { w with message := x }]

def decode : Json.Decoder Warning := Json.Decode.complete fields {}

def toJson (w : Warning) : Json :=
  .object [("subject", .string w.subject), ("message", .string w.message)]

end Warning

/-- What one analyzer reports, in the order in which it was found. -/
structure Output where
  results : List Result := []
  warnings : List Warning := []
  deriving DecidableEq, Repr

namespace Output

def fields : List (Json.Decode.Field Output) :=
  open Json.Decode in
  [field "results" (list Result.decode) fun x o => { o with results := x },
   field "warnings" (list Warning.decode) fun x o => { o with warnings := x }]

def decode : Json.Decoder Output := Json.Decode.complete fields {}

def toJson (o : Output) : Json :=
  .object [("results", .array (o.results.map Result.toJson)),
    ("warnings", .array (o.warnings.map Warning.toJson))]

def ofResult (result : Result) : Output := { results := [result] }

def addResult (o : Output) (result : Result) : Output := { o with results := o.results ++ [result] }

def warn (o : Output) (warning : Warning) : Output := { o with warnings := o.warnings ++ [warning] }

/-- One output after another. -/
def append (o p : Output) : Output := ⟨o.results ++ p.results, o.warnings ++ p.warnings⟩

/-- Outputs in their order. -/
def concat (outputs : List Output) : Output :=
  ⟨outputs.flatMap Output.results, outputs.flatMap Output.warnings⟩

/-- Puts one strictness on every result. -/
def stamp (strict : Bool) (o : Output) : Output :=
  { o with results := o.results.map fun result => { result with strict } }

end Output

end Triage
