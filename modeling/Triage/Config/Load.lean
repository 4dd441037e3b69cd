import Triage.Config.Basic

/-!
# Loading a configuration and opening what it names

The path of the configuration file is the one given, or that of the environment, or a default name
in the working directory.
-/

namespace Triage

/-- Where log entries go. -/
inductive LogSink where
  | stderr
  | file (names : List String)
  | none
  deriving DecidableEq, Repr

namespace Config

def defaultName : String := "bundle-verdict.toml"

def pathOf (given environment : Option String) : String :=
  (given <|> environment).getD defaultName

/-- The text of a file that is not too long. -/
def readText (fs : FileSystem) (path : String) : Except ConfigError String := do
  let content ← (fs.read path).mapError fun fault => .io s!"{path}: {fault.message}"
  if configFileLimit < content.length then throw (.invalid .fileTooLarge)
  match Utf8.decode? content with
  | some text => return .ofList text
  | none => throw (.invalid (.notUtf8 (Utf8.validBytes content)))

def load (fs : FileSystem) (given environment : Option String) : Except ConfigError Config := do
  let path := pathOf given environment
  (checkPath path).mapError fun defect => .invalid (.configPath defect)
  ofText (← readText fs path)

/-- Opens the bundle. -/
def openBundle (config : Config) (fs : FileSystem) : Except ConfigError Directory :=
  (Directory.openIn fs config.bundle).mapError fun error =>
    match error with
    | .io detail => .io detail
    | error => .invalid (.directory error)

/-- Opens the log; a log file is made if there is none. -/
def openLog (config : Config) (fs : FileSystem) : Except ConfigError (LogSink × FileSystem) :=
  match config.logging.target, config.logging.path with
  | .stderr, _ => .ok (.stderr, fs)
  | .none, _ => .ok (.none, fs)
  | .file, none => .error (.invalid .logPathMissing)
  | .file, some path =>
    match fs.openForAppend path with
    | .error fault => .error (.io s!"{path}: {fault.message}")
    | .ok (names, fs) => .ok (.file names, fs)

end Config

end Triage
