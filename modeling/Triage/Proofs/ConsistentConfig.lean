import Triage.Config.Load
import Triage.Proofs.Clauses
import Triage.Proofs.PathNames

/-!
# Configurations that are accepted

A configuration is accepted exactly when it is consistent (`validate_eq_ok`). An accepted one opens
without surprises: a log that cannot be opened is a matter of the file system, and so is a bundle,
unless its root is something else than a directory (`accepted_iff_consistent`).
-/

namespace Triage

/-- A path that is not too long, in whole and between its slashes. -/
structure FitsLimits (path : String) : Prop where
  length : byteLength path ≤ 4096
  run : ∀ run, run <:+: path.toList → '/' ∉ run → byteLength (.ofList run) ≤ 255

section Paths

variable {path : String}

theorem byteLength_mono {run s : List Char} (h : run <:+: s) :
    byteLength (.ofList run) ≤ byteLength (.ofList s) := by
  obtain ⟨front, back, rfl⟩ := h
  simp only [byteLength, String.ofList_append, String.utf8ByteSize_append]
  omega

theorem not_hasOverlongComponent : ¬ DirectoryConfig.hasOverlongComponent path = true ↔
    ∀ run, run <:+: path.toList → '/' ∉ run → byteLength (.ofList run) ≤ 255 := by
  have hlimit : DirectoryConfig.componentLimit = 255 := rfl
  simp only [DirectoryConfig.hasOverlongComponent, FileSystem.steps, splitString, List.any_map,
    List.any_eq_true, Function.comp_apply, decide_eq_true_eq, not_exists, not_and, Nat.not_lt, hlimit]
  constructor
  · intro h run hrun hslash
    obtain ⟨piece, hmem, hpiece⟩ := Text.exists_mem_splitAt hrun hslash
    exact (byteLength_mono hpiece).trans (h piece hmem)
  · intro h piece hmem
    exact h piece (Text.infix_of_mem_splitAt hmem) (Text.not_mem_of_mem_splitAt hmem)

theorem fitsLimits_iff : FitsLimits path ↔ byteLength path ≤ DirectoryConfig.pathLimit
    ∧ ¬ DirectoryConfig.hasOverlongComponent path = true := by
  rw [not_hasOverlongComponent]
  exact ⟨fun ⟨hlength, hrun⟩ => ⟨hlength, hrun⟩, fun ⟨hlength, hrun⟩ => ⟨hlength, hrun⟩⟩

theorem checkPath_eq_ok : checkPath path = .ok () ↔
    ¬ Text.Blank path.toList ∧ FitsLimits path := by
  unfold checkPath
  rw [check_eq_ok, check_eq_ok, last_check_eq_ok, isBlankText_iff, Nat.not_lt, fitsLimits_iff]

end Paths

namespace Config

/-- What is asked of a configuration. -/
structure Consistent (config : Config) : Prop where
  limit_pos : 1 ≤ config.bundle.maxFileBytes
  limit_le : config.bundle.maxFileBytes ≤ 256 * 1024 * 1024
  root_ne_empty : config.bundle.root ≠ ""
  root_fits : FitsLimits config.bundle.root
  log_path : config.logging.path.isSome ↔ config.logging.target = .file
  log_path_fits : ∀ path ∈ config.logging.path, ¬ Text.Blank path.toList ∧ FitsLimits path

section Checks

variable {config : Config}

theorem bundle_validate_eq_ok {bundle : DirectoryConfig} : bundle.validate = .ok () ↔
    (1 ≤ bundle.maxFileBytes ∧ bundle.maxFileBytes ≤ 256 * 1024 * 1024) ∧ bundle.root ≠ ""
      ∧ FitsLimits bundle.root := by
  unfold DirectoryConfig.validate
  rw [check_eq_ok, check_eq_ok, check_eq_ok, last_check_eq_ok, Nat.not_lt, ← fitsLimits_iff,
    String.isEmpty_iff, greatestFileLimit]
  refine and_congr_left fun _ => ?_
  omega

/-- The two parts of what is asked of a log path are checked by one case on the target. -/
theorem logging_validate_eq_ok {logging : LoggingConfig} : logging.validate = .ok () ↔
    (logging.path.isSome ↔ logging.target = .file)
      ∧ ∀ path ∈ logging.path, ¬ Text.Blank path.toList ∧ FitsLimits path := by
  obtain ⟨target, path⟩ := logging
  unfold LoggingConfig.validate
  cases target <;> cases path <;> simp [mapError_eq_ok, checkPath_eq_ok]

theorem validate_eq_ok : config.validate = .ok () ↔ config.Consistent := by
  unfold validate
  rw [unit_bind_eq_ok, mapError_eq_ok, bundle_validate_eq_ok, logging_validate_eq_ok]
  constructor
  · rintro ⟨⟨⟨hpos, hle⟩, hroot, hfits⟩, hpath, hlog⟩
    exact ⟨hpos, hle, hroot, hfits, hpath, hlog⟩
  · rintro ⟨hpos, hle, hroot, hfits, hpath, hlog⟩
    exact ⟨⟨⟨hpos, hle⟩, hroot, hfits⟩, hpath, hlog⟩

theorem ofText_eq_ok {text : String} : ofText text = .ok config ↔
    (Toml.ofText? text.toList).bind ofToml? = some config ∧ config.Consistent := by
  unfold ofText
  rcases (Toml.ofText? text.toList).bind ofToml? with _ | read
  · simp [throw, throwThe, MonadExceptOf.throw]
  · simp only [unit_bind_eq_ok, mapError_eq_ok, validate_eq_ok, pure_eq_ok, Except.ok.injEq,
      Option.some.injEq]
    constructor
    · rintro ⟨h, rfl⟩
      exact ⟨rfl, h⟩
    · rintro ⟨rfl, h⟩
      exact ⟨h, rfl⟩

end Checks

section Open

variable {config : Config} {fs : FileSystem} {fault : ConfigFault}

/-- A consistent configuration has the log path that is needed. -/
theorem openLog_ne_invalid (h : config.Consistent) :
    config.openLog fs ≠ .error (.invalid fault) := by
  have hpath := h.log_path.2
  unfold openLog
  split
  · nofun
  · nofun
  · rename_i htarget hnone
    rw [hnone] at hpath
    cases hpath htarget
  · split <;> nofun

theorem openBundle_eq (h : config.Consistent) : config.openBundle fs =
    match fs.resolve config.bundle.root with
    | .error fault => .error (.io s!"{config.bundle.root}: {fault.message}")
    | .ok place =>
      if fs.isDir place then .ok ⟨FileSystem.names place, config.bundle.maxFileBytes⟩
      else .error (.invalid (.directory (.invalid
        (.notADirectory (FileSystem.absolute (FileSystem.names place)))))) := by
  have hvalid : config.bundle.validate = .ok () :=
    bundle_validate_eq_ok.2 ⟨⟨h.limit_pos, h.limit_le⟩, h.root_ne_empty, h.root_fits⟩
  unfold openBundle Directory.openIn
  rw [hvalid]
  rcases fs.resolve config.bundle.root with fault | place
  · rfl
  · simp only [bind, Except.bind]
    split <;> rfl

/-- A consistent configuration is turned down for nothing but a root that is no directory. -/
theorem openBundle_eq_invalid (h : config.Consistent) :
    config.openBundle fs = .error (.invalid fault) ↔ ∃ place,
      fs.resolve config.bundle.root = .ok place ∧ fs.isDir place = false ∧ fault =
        .directory (.invalid (.notADirectory (FileSystem.absolute (FileSystem.names place)))) := by
  rw [openBundle_eq h]
  rcases fs.resolve config.bundle.root with unresolved | place
  · simp
  · by_cases hdir : fs.isDir place = true
    · simp [hdir]
    · simp only [if_neg hdir]
      constructor
      · rintro ⟨⟩
        exact ⟨place, rfl, by simpa using hdir, rfl⟩
      · rintro ⟨_, ⟨⟩, -, rfl⟩
        rfl

end Open

/-- Whatever file a configuration is loaded from, it is consistent. -/
theorem consistent_of_load {fs : FileSystem} {given environment : Option String} {config : Config}
    (h : load fs given environment = .ok config) : config.Consistent := by
  unfold load at h
  obtain ⟨-, h⟩ := unit_bind_eq_ok.1 h
  obtain ⟨text, -, h⟩ := bind_eq_ok.1 h
  exact (ofText_eq_ok.1 h).2

/-- A text is accepted exactly when it describes a consistent configuration. No log of an accepted
configuration is invalid, and its bundle only when the root is there and is no directory. -/
theorem accepted_iff_consistent :
    (∀ (text : String) (config : Config), ofText text = .ok config ↔
      (Toml.ofText? text.toList).bind ofToml? = some config ∧ config.Consistent)
    ∧ ∀ (text : String) (config : Config), ofText text = .ok config →
      ∀ (fs : FileSystem) (fault : ConfigFault), config.openLog fs ≠ .error (.invalid fault)
        ∧ (config.openBundle fs = .error (.invalid fault) ↔ ∃ place,
          fs.resolve config.bundle.root = .ok place ∧ fs.isDir place = false ∧ fault =
            .directory (.invalid (.notADirectory (FileSystem.absolute (FileSystem.names place))))) := by
  refine ⟨fun text config => ofText_eq_ok, fun text config h fs fault => ?_⟩
  have hconsistent : config.Consistent := (ofText_eq_ok.1 h).2
  exact ⟨openLog_ne_invalid hconsistent, openBundle_eq_invalid hconsistent⟩

/-- A root that is a file. -/
theorem accepted_iff_consistent_of_file : ∃ config : Config,
    ofText "[bundle]\nroot = \"/b\"\n[logging]\nsink = \"file\"\npath = \"a.log\"\n" = .ok config
    ∧ config.Consistent ∧ (∀ fs fault, config.openLog fs ≠ .error (.invalid fault))
    ∧ config.openBundle ⟨.dir [("b", .file [])], []⟩ =
      .error (.invalid (.directory (.invalid (.notADirectory "/b")))) := by
  obtain ⟨haccepted, hopen⟩ := accepted_iff_consistent
  have hread : ofText "[bundle]\nroot = \"/b\"\n[logging]\nsink = \"file\"\npath = \"a.log\"\n" =
      .ok ⟨⟨"/b", 16 * 1024 * 1024⟩, ⟨.file, some "a.log"⟩, true⟩ := by decide +kernel
  exact ⟨_, hread, ((haccepted _ _).1 hread).2, fun fs fault => (hopen _ _ hread fs fault).1,
    (hopen _ _ hread _ _).2.2 ⟨[("b", .file [])], by rfl, rfl, by rfl⟩⟩

end Config

end Triage
