import Triage.Evidence.Directory
import Triage.Text.Blank
import Triage.Toml.Reader

/-!
# Configuration

Which bundle to read, where to log, and whether repeated analyzers are skipped. A configuration is
read from TOML and accepted only if it is consistent. A section may also be an array of its fields
in order.
-/

namespace Triage

inductive LogTarget where
  | stderr
  | file
  | none
  deriving DecidableEq, Repr

structure LoggingConfig where
  target : LogTarget := .stderr
  path : Option String := Option.none
  deriving DecidableEq, Repr

structure Config where
  bundle : DirectoryConfig
  logging : LoggingConfig := {}
  dedupAnalyzers : Bool := true
  deriving DecidableEq, Repr

/-- What is wrong with a path. -/
inductive PathDefect where
  | blank
  | overlong
  | overlongSegment
  deriving DecidableEq, Repr

def PathDefect.message : PathDefect → String
  | blank => "is empty"
  | overlong => s!"is longer than {DirectoryConfig.pathLimit} bytes"
  | overlongSegment => s!"has a segment longer than {DirectoryConfig.componentLimit} bytes"

inductive ConfigFault where
  | bundle (error : DirectoryError)
  | directory (error : DirectoryError)
  | logPathMissing
  | logPathUnused
  | logPath (defect : PathDefect)
  | configPath (defect : PathDefect)
  | fileTooLarge
  | notUtf8 (offset : Nat)
  deriving DecidableEq, Repr

/-- The longest configuration file in bytes. -/
def configFileLimit : Nat := 1024 * 1024

def ConfigFault.message : ConfigFault → String
  | bundle error => s!"bundle: {error.message}"
  | directory error => error.message
  | logPathMissing => "logging.path required for file sink"
  | logPathUnused => "logging.path only allowed for file sink"
  | logPath defect => s!"logging.path {defect.message}"
  | configPath defect => s!"config path {defect.message}"
  | fileTooLarge => s!"config file is larger than {configFileLimit} bytes"
  | notUtf8 offset => s!"config file is not utf-8 (invalid byte at offset {offset})"

inductive ConfigError where
  | io (detail : String)
  | malformed
  | invalid (fault : ConfigFault)
  deriving DecidableEq, Repr

def ConfigError.message : ConfigError → String
  | io detail => s!"config io error: {detail}"
  | malformed => "config parse error: not a configuration"
  | invalid fault => s!"invalid config: {fault.message}"

/-- Checks a path that a user gave. -/
def checkPath (path : String) : Except PathDefect Unit := do
  if isBlankText path then throw .blank
  if DirectoryConfig.pathLimit < byteLength path then throw .overlong
  if DirectoryConfig.hasOverlongComponent path then throw .overlongSegment

namespace LoggingConfig

/-- A path is there exactly if the log goes to a file. -/
def validate (logging : LoggingConfig) : Except ConfigFault Unit :=
  match logging.target, logging.path with
  | .file, some path => (checkPath path).mapError .logPath
  | .file, none => .error .logPathMissing
  | _, some _ => .error .logPathUnused
  | _, none => .ok ()

end LoggingConfig

namespace Config

def validate (config : Config) : Except ConfigFault Unit := do
  config.bundle.validate.mapError .bundle
  config.logging.validate

/-- A field of a section, by its name or by its place; a moment is a section that has none. -/
def field? (name : String) (place : Nat) : Toml → Option (Option Toml)
  | .table _ members => some (members.lookup name)
  | .array items | .tables items => some items[place]?
  | .moment => some none
  | _ => none

def string? : Toml → Option String
  | .string s => some s
  | _ => none

def natural? : Toml → Option Nat
  | .integer i => if 0 ≤ i ∧ i < Text.powerOfTwo 64 then some i.toNat else none
  | _ => none

def boolean? : Toml → Option Bool
  | .boolean b => some b
  | _ => none

def target? (name : String) : Option LogTarget :=
  match name with
  | "stderr" => some .stderr
  | "file" => some .file
  | "none" => some .none
  | _ => none

/-- A target as a name, or as a table with the name as its only key and nothing under it. -/
def logTarget? : Toml → Option LogTarget
  | .string name => target? name
  | .table _ [(name, .table _ [])] => target? name
  | .table _ [(name, .array [])] => target? name
  | _ => none

def optional? {α : Type} (read : Toml → Option α) (default : α) : Option Toml → Option α
  | none => some default
  | some value => read value

def bundle? (table : Toml) : Option DirectoryConfig := do
  let root ← string? (← (← field? "root" 0 table))
  let default : DirectoryConfig := { root := root }
  return { default with
    maxFileBytes :=
      ← optional? natural? default.maxFileBytes (← field? "max_file_bytes" 1 table) }

def logging? (table : Toml) : Option LoggingConfig := do
  return {
    target := ← optional? logTarget? .stderr (← field? "sink" 0 table)
    path := ← optional? (fun path => (string? path).map some) none (← field? "path" 1 table) }

def dedup? (table : Toml) : Option Bool := do
  optional? boolean? true (← field? "dedup_analyzers" 0 table)

/-- The configuration that a table describes; what it does not name is ignored. -/
def ofToml? (toml : Toml) : Option Config := do
  let part (name : String) : Option Toml := (field? name 0 toml).join
  return {
    bundle := ← bundle? (← part "bundle")
    logging := ← optional? logging? {} (part "logging")
    dedupAnalyzers := ← optional? dedup? true (part "analysis") }

/-- Reads a configuration and checks it. -/
def ofText (text : String) : Except ConfigError Config := do
  match (Toml.ofText? text.toList).bind ofToml? with
  | none => throw .malformed
  | some config =>
    config.validate.mapError .invalid
    return config

end Config

end Triage
