import Triage.Condition.Error
import Triage.Json.Select

/-!
# Errors of an analysis

Each error is a constructor that names its cause and carries what the cause is about; the wording
is in one `message` function per type.
-/

namespace Triage

/-- Why a request for evidence is refused. -/
inductive RequestError where
  | blankGlob
  | oversizedGlob (pattern : String) (limit : Nat)
  | emptyPath
  | overlongPath
  | overlongComponent (path : String)
  | leavesRoot (path : String)
  | escapesRoot (path : String)
  | notAFile (path : String)
  /-- A reason that comes from opening the store. -/
  | stated (reason : String)
  deriving DecidableEq, Repr

def RequestError.message : RequestError → String
  | blankGlob => "glob pattern must be non-empty"
  | oversizedGlob pattern limit =>
    s!"invalid glob '{pattern}': Compiled regex exceeds size limit of {limit} bytes."
  | emptyPath => "bundle path must not be empty"
  | overlongPath => "bundle path exceeds length limit"
  | overlongComponent path => s!"bundle path contains an overlong component: {path}"
  | leavesRoot path => s!"bundle path must stay relative to the root: {path}"
  | escapesRoot path => s!"bundle path escapes the root: {path}"
  | notAFile path => s!"bundle path is not a file: {path}"
  | stated reason => reason

/-- Why a store cannot serve a request. -/
inductive StoreError where
  | notFound (path : String)
  | io (detail : String)
  | invalid (reason : RequestError)
  | tooLarge (actual limit : Nat)
  deriving DecidableEq, Repr

def StoreError.message : StoreError → String
  | notFound path => s!"evidence not found: {path}"
  | io detail => s!"evidence io error: {detail}"
  | invalid reason => s!"invalid evidence request: {reason.message}"
  | tooLarge actual limit => s!"evidence too large: {actual} bytes exceeds limit of {limit}"

/-- Why a file does not hold what it should. -/
inductive DecodeError where
  | malformed (what : String)
  | itemsNotArray (what : String)
  | neitherListNorArray (what : String)
  | notYaml (path : String)
  | notJson (path : String)
  deriving DecidableEq, Repr

def DecodeError.message : DecodeError → String
  | malformed what => s!"failed to decode {what}: malformed document"
  | itemsNotArray what => s!"failed to decode {what}: items is not an array"
  | neitherListNorArray what => s!"failed to decode {what}: expected a list object or array"
  | notYaml path => s!"'{path}' is not a yaml document: malformed document"
  | notJson path => s!"'{path}' is not a json document: malformed document"

/-- Why a template cannot be rendered. -/
inductive TemplateError where
  | unclosed (template : String)
  | unsupported (action : String)
  | unknownField (field action : String)
  deriving DecidableEq, Repr

def TemplateError.message : TemplateError → String
  | unclosed template => s!"unclosed action in '{template}'"
  | unsupported action => s!"unsupported template action '{action}'"
  | unknownField field action => s!"can't evaluate field {field} in '{action}'"

/-- Why an analyzer cannot be used. -/
inductive InvalidError where
  | notBoolean (text : String)
  | path (error : Json.PathError)
  | jsonPath (expression : String)
  | sysctlNotCollected (parameter : String)
  | reasonRequired
  | expectedNotYaml
  | expectedNotJson
  | regex (pattern : String)
  | sharedClause
  deriving DecidableEq, Repr

def InvalidError.message : InvalidError → String
  | notBoolean text => s!"'{text}' is not a boolean value"
  | path error => error.message
  | jsonPath expression => s!"invalid jsonPath '{expression}': malformed path"
  | sysctlNotCollected parameter => s!"sysctl parameter '{parameter}' not collected"
  | reasonRequired => "reason is required"
  | expectedNotYaml => "expected value is not a yaml document: malformed document"
  | expectedNotJson => "expected value is not a json document: malformed document"
  | regex pattern => s!"failed to compile regex '{pattern}': malformed pattern"
  | sharedClause => "pass and fail outcomes share the same when condition"

/-- Why an analyzer gives no verdict. -/
inductive AnalysisError where
  | notFound (path : String)
  | store (error : StoreError)
  | decode (error : DecodeError)
  | condition (error : ConditionError)
  | template (error : TemplateError)
  | fanout (node : String) (error : StoreError)
  | invalid (error : InvalidError)
  deriving DecidableEq, Repr

namespace AnalysisError

def message : AnalysisError → String
  | notFound path => s!"evidence not found: {path}"
  | store error => s!"evidence store error: {error.message}"
  | decode error => s!"evidence decode error: {error.message}"
  | condition error => s!"condition parse error: {error.message}"
  | template error => s!"template error: {error.message}"
  | fanout node error =>
    s!"fan-out resolution failed: failed to retrieve content for node {node}: {error.message}"
  | invalid error => s!"invalid analyzer: {error.message}"

def isNotFound : AnalysisError → Bool
  | notFound _ => true
  | _ => false

/-- Evidence that is absent keeps its kind; every other failure of a store is one of the store. -/
def ofStore : StoreError → AnalysisError
  | .notFound path => notFound path
  | error => store error

end AnalysisError

instance : MonadLift (Except ConditionError) (Except AnalysisError) :=
  ⟨fun result => result.mapError .condition⟩

instance : MonadLift (Except TemplateError) (Except AnalysisError) :=
  ⟨fun result => result.mapError .template⟩

instance : MonadLift (Except InvalidError) (Except AnalysisError) :=
  ⟨fun result => result.mapError .invalid⟩

instance : MonadLift (Except StoreError) (Except AnalysisError) :=
  ⟨fun result => result.mapError .ofStore⟩

instance : MonadLift (Except DecodeError) (Except AnalysisError) :=
  ⟨fun result => result.mapError .decode⟩

end Triage
