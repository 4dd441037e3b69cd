import Triage.Json.Decode

/-!
# Verdicts and outcomes

An outcome is what an analyzer may conclude: a verdict, guarded by a clause. It has one place for
each verdict; when several are filled, the gravest one is taken.
-/

namespace Triage

inductive Verdict where
  | pass
  | warn
  | fail
  | fatal
  deriving DecidableEq, Repr

namespace Verdict

def label : Verdict → String
  | pass => "pass"
  | warn => "warn"
  | fail => "fail"
  | fatal => "fatal"

def ofLabel? : String → Option Verdict
  | "pass" => some pass
  | "warn" => some warn
  | "fail" => some fail
  | "fatal" => some fatal
  | _ => none

/-- A verdict is written as its label, or as an object with the label as its only key. -/
def decode : Json.Decoder Verdict
  | .string (some label) => ofLabel? label
  | .object [(some label, .null)] => ofLabel? label
  | _ => none

def toJson (v : Verdict) : Json := .string v.label

end Verdict

/-- A conclusion and the clause it depends on. -/
structure Candidate where
  when : String := ""
  message : String := ""
  uri : String := ""
  deriving DecidableEq, Repr

namespace Candidate

def fields : List (Json.Decode.Field Candidate) :=
  open Json.Decode in
  [field "when" text fun x c => { c with when := x },
   field "message" text fun x c => { c with message := x },
   field "uri" text fun x c => { c with uri := x }]

def decode : Json.Decoder Candidate := Json.Decode.record fields {}

def toJson (c : Candidate) : Json :=
  .object [("when", .string c.when), ("message", .string c.message), ("uri", .string c.uri)]

end Candidate

structure Outcome where
  fatal : Option Candidate := none
  fail : Option Candidate := none
  warn : Option Candidate := none
  pass : Option Candidate := none
  deriving DecidableEq, Repr

namespace Outcome

def fields : List (Json.Decode.Field Outcome) :=
  open Json.Decode in
  [optionalField "fatal" Candidate.decode fun x o => { o with fatal := x },
   optionalField "fail" Candidate.decode fun x o => { o with fail := x },
   optionalField "warn" Candidate.decode fun x o => { o with warn := x },
   optionalField "pass" Candidate.decode fun x o => { o with pass := x }]

def decode : Json.Decoder Outcome := Json.Decode.record fields {}

/-- The places that are filled, the gravest verdict first. -/
def filled (o : Outcome) : List (Verdict × Candidate) :=
  [(.fatal, o.fatal), (.fail, o.fail), (.warn, o.warn), (.pass, o.pass)].filterMap
    fun (verdict, place) => place.map (verdict, ·)

/-- The place that is taken. -/
def chosen? (o : Outcome) : Option (Verdict × Candidate) := o.filled.head?

def toJson (o : Outcome) : Json :=
  .object (o.filled.map fun (verdict, candidate) => (verdict.label, candidate.toJson))

/-- The outcome with one place filled. -/
def ofCandidate (candidate : Candidate) : Verdict → Outcome
  | .pass => { pass := some candidate }
  | .warn => { warn := some candidate }
  | .fail => { fail := some candidate }
  | .fatal => { fatal := some candidate }

end Outcome

end Triage
