import Triage.Evidence.FileTree
import Triage.Evidence.Store

/-!
# The store of a directory

An unpacked bundle below one directory. Requests come from untrusted manifests: a path must stay
below the root by its names, and what it leads to must lie there too, but links inside the root may
be followed. Listing follows no links. No file longer than the limit is handed out.
-/

namespace Triage

/-- Why a directory cannot be opened. -/
inductive RootError where
  | limitOutOfRange (limit : Nat)
  | empty
  | overlong
  | overlongComponent
  | notADirectory (root : String)
  /-- A reason given by the caller. -/
  | stated (reason : String)
  deriving DecidableEq, Repr

/-- The largest limit on the length of a file. -/
def greatestFileLimit : Nat := 256 * 1024 * 1024

def RootError.message : RootError → String
  | limitOutOfRange limit => s!"max_file_bytes out of range: {limit} (max {greatestFileLimit})"
  | empty => "bundle root must not be empty"
  | overlong => "bundle root exceeds length limit"
  | overlongComponent => "bundle root contains an overlong component"
  | notADirectory root => s!"bundle root is not a directory: {root}"
  | stated reason => reason

inductive DirectoryError where
  | io (detail : String)
  | invalid (reason : RootError)
  | tooLarge (actual limit : Nat)
  deriving DecidableEq, Repr

namespace DirectoryError

def message : DirectoryError → String
  | io detail => s!"bundle store io error: {detail}"
  | invalid reason => s!"bundle store invalid: {reason.message}"
  | tooLarge actual limit => s!"bundle file exceeds size limit: {actual} bytes (max {limit})"

def toStoreError : DirectoryError → StoreError
  | io detail => .io detail
  | invalid reason => .invalid (.stated reason.message)
  | tooLarge actual limit => .tooLarge actual limit

end DirectoryError

/-- Which directory to open, and how long its files may be. -/
structure DirectoryConfig where
  root : String
  maxFileBytes : Nat := 16 * 1024 * 1024
  deriving DecidableEq, Repr

namespace DirectoryConfig

/-- The longest path in bytes. -/
def pathLimit : Nat := 4096

/-- The longest part of a path in bytes. -/
def componentLimit : Nat := 255

def hasOverlongComponent (path : String) : Bool :=
  (FileSystem.steps path).any fun step => componentLimit < byteLength step

def validate (config : DirectoryConfig) : Except DirectoryError Unit := do
  if config.maxFileBytes = 0 ∨ greatestFileLimit < config.maxFileBytes then
    throw (.invalid (.limitOutOfRange config.maxFileBytes))
  if config.root.isEmpty then throw (.invalid .empty)
  if pathLimit < byteLength config.root then throw (.invalid .overlong)
  if hasOverlongComponent config.root then throw (.invalid .overlongComponent)

end DirectoryConfig

/-- A directory that is open: the names of its real path, and the limit. -/
structure Directory where
  root : List String
  maxFileBytes : Nat
  deriving DecidableEq, Repr

namespace Directory

def rootPath (d : Directory) : String := FileSystem.absolute d.root

def openIn (fs : FileSystem) (config : DirectoryConfig) : Except DirectoryError Directory := do
  config.validate
  match fs.resolve config.root with
  | .error fault => throw (.io s!"{config.root}: {fault.message}")
  | .ok place =>
    let root := FileSystem.names place
    if fs.isDir place then return ⟨root, config.maxFileBytes⟩
    else throw (.invalid (.notADirectory (FileSystem.absolute root)))

/-- The names that a request goes through; `path` is the whole request. -/
def namesOf (path : String) : List String → Except RequestError (List String)
  | [] => .ok []
  | step :: rest =>
    if step = "" ∨ step = "." then namesOf path rest
    else if step = ".." then .error (.leavesRoot path)
    else if DirectoryConfig.componentLimit < byteLength step then .error (.overlongComponent path)
    else (namesOf path rest).map (step :: ·)

/-- The names below the root that a request stands for. -/
def requested (path : String) : Except RequestError (List String) :=
  if path.isEmpty then .error .emptyPath
  else if DirectoryConfig.pathLimit < byteLength path then .error .overlongPath
  else if FileSystem.isAbsolute path then .error (.leavesRoot path)
  else namesOf path (FileSystem.steps path)

/-- The real path of names below the root. -/
def below (d : Directory) (names : List String) : String := FileSystem.absolute (d.root ++ names)

/-- The content of a file, if it is not too long: one byte past the limit is asked for, and when it
comes the file is refused. -/
def bounded (d : Directory) (content : Bytes) : Except StoreError Bytes :=
  let bytes := content.take (d.maxFileBytes + 1)
  if d.maxFileBytes < bytes.length then
    .error (.tooLarge (max content.length bytes.length) d.maxFileBytes)
  else .ok bytes

/-- A file is handed out whole or not at all. -/
theorem bounded_eq_ok {d : Directory} {content bytes : Bytes} :
    d.bounded content = .ok bytes ↔ content.length ≤ d.maxFileBytes ∧ bytes = content := by
  simp only [bounded, List.length_take]
  split
  · simp only [reduceCtorEq, false_iff]
    omega
  · rw [List.take_of_length_le (by omega)]
    simp only [Except.ok.injEq]
    constructor
    · rintro rfl
      exact ⟨by omega, rfl⟩
    · rintro ⟨-, rfl⟩
      rfl

def get (fs : FileSystem) (d : Directory) (path : String) : Except StoreError Bytes := do
  let names ← (requested path).mapError .invalid
  match fs.resolve (d.below names) with
  | .error .notFound => throw (.notFound path)
  | .error fault => throw (.io s!"{path}: {fault.message}")
  | .ok place =>
    if !d.root.isPrefixOf (FileSystem.names place) then throw (.invalid (.escapesRoot path))
    match fs.node place with
    | .file content => d.bounded content
    | _ => throw (.invalid (.notAFile path))

/-- The path of a file below the root. -/
def pathOf (names : List String) : String := "/".intercalate names

/-- The names below the root that a search starts from. -/
def startOf (glob : Glob) : Except StoreError (List String) :=
  if glob.literalDir.isEmpty then .ok [] else (requested glob.literalDir).mapError .invalid

end Directory

/-- How far a search has come: the directories that are still to be read, each by the names that
lead to it from the root, and the files found, in the order of their paths. -/
structure Listing where
  pending : List (List String × List (String × Tree)) := []
  found : List FoundFile := []

namespace Listing

/-- Takes in an entry of the directory at `names`: directories wait, links are passed over, and
files are read when the filter accepts their path. -/
def addEntry (d : Directory) (filter : Glob.Filter) (names : List String) (l : Listing) :
    String × Tree → Except StoreError Listing
  | (name, .dir entries) => .ok { l with pending := (names ++ [name], entries) :: l.pending }
  | (_, .link _) => .ok l
  | (name, .file content) =>
    let path := Directory.pathOf (names ++ [name])
    if filter.accepts path then
      (d.bounded content).map fun bytes =>
        { l with found := MemoryStore.insertFile path bytes l.found }
    else .ok l

/-- Takes in the entries of the directory at `names`, in the order in which they come. -/
def readDir (d : Directory) (filter : Glob.Filter) (names : List String)
    (entries : List (String × Tree)) (l : Listing) : Except StoreError Listing :=
  entries.foldlM (addEntry d filter names) l

section

variable {d : Directory} {filter : Glob.Filter} {names : List String}

/-- All that an entry can do to a search that goes on. -/
theorem addEntry_cases {l next : Listing} {name : String} {node : Tree}
    (h : addEntry d filter names l (name, node) = .ok next) :
    (∃ entries, node = .dir entries ∧
      next = { l with pending := (names ++ [name], entries) :: l.pending })
    ∨ (∃ content, node = .file content ∧ content.length ≤ d.maxFileBytes
      ∧ filter.accepts (Directory.pathOf (names ++ [name])) = true
      ∧ next = { l with
          found := MemoryStore.insertFile (Directory.pathOf (names ++ [name])) content l.found })
    ∨ (next = l ∧ ((∃ target, node = .link target)
      ∨ ∃ content, node = .file content
        ∧ filter.accepts (Directory.pathOf (names ++ [name])) = false)) := by
  cases node with
  | file content =>
    simp only [addEntry] at h
    split at h
    · rename_i haccepts
      cases hb : d.bounded content with
      | error e => simp [hb, Except.map] at h
      | ok bytes =>
        simp only [hb, Except.map, Except.ok.injEq] at h
        obtain ⟨hle, rfl⟩ := Directory.bounded_eq_ok.1 hb
        exact .inr (.inl ⟨bytes, rfl, hle, haccepts, h.symm⟩)
    · rename_i hrefuses
      simp only [Except.ok.injEq] at h
      exact .inr (.inr ⟨h.symm, .inr ⟨content, rfl, by simpa using hrefuses⟩⟩)
  | dir entries =>
    simp only [addEntry, Except.ok.injEq] at h
    exact .inl ⟨entries, rfl, h.symm⟩
  | link target =>
    simp only [addEntry, Except.ok.injEq] at h
    exact .inr (.inr ⟨h.symm, .inl ⟨target, rfl⟩⟩)

theorem readDir_cons {entry : String × Tree} {entries : List (String × Tree)} {l next : Listing}
    (h : readDir d filter names (entry :: entries) l = .ok next) :
    ∃ mid, addEntry d filter names l entry = .ok mid
      ∧ readDir d filter names entries mid = .ok next := by
  simp only [readDir, List.foldlM_cons] at h
  cases hs : addEntry d filter names l entry with
  | error e => simp [hs, bind, Except.bind] at h
  | ok mid =>
    rw [hs] at h
    exact ⟨mid, rfl, h⟩

theorem readDir_nil {l next : Listing} (h : readDir d filter names [] l = .ok next) : next = l := by
  simpa [readDir, pure, Except.pure, eq_comm] using h

/-- The size of what is still to be read. -/
noncomputable def weight (l : Listing) : Nat :=
  l.pending.foldr (fun dir n => sizeOf dir.2 + n) 0

theorem weight_le_of_addEntry {l next : Listing} {entry : String × Tree}
    (h : addEntry d filter names l entry = .ok next) : next.weight ≤ l.weight + sizeOf entry := by
  obtain ⟨entries, hnode, rfl⟩ | ⟨content, -, -, -, rfl⟩ | ⟨rfl, -⟩ := addEntry_cases h
  · obtain ⟨name, node⟩ := entry
    simp only at hnode
    subst hnode
    simp only [weight, List.foldr_cons, Prod.mk.sizeOf_spec, Tree.dir.sizeOf_spec]
    omega
  · simp [weight]
  · simp

theorem weight_lt_add_of_readDir : ∀ {entries : List (String × Tree)} {l next : Listing},
    readDir d filter names entries l = .ok next → next.weight < l.weight + sizeOf entries
  | [], l, next, h => by simp [readDir_nil h]
  | entry :: entries, l, next, h => by
    obtain ⟨mid, hmid, hrest⟩ := readDir_cons h
    have h1 := weight_le_of_addEntry hmid
    have h2 := weight_lt_add_of_readDir hrest
    simp only [List.cons.sizeOf_spec]
    omega

theorem weight_lt_of_readDir {entries : List (String × Tree)}
    {pending : List (List String × List (String × Tree))} {found : List FoundFile} {next : Listing}
    (h : readDir d filter names entries ⟨pending, found⟩ = .ok next) :
    next.weight < weight ⟨(names, entries) :: pending, found⟩ := by
  have := weight_lt_add_of_readDir h
  simp only [weight, List.foldr_cons] at this ⊢
  omega

end

/-- Reads the directories that wait, the last one first, until none is left. -/
def run (d : Directory) (filter : Glob.Filter) : Listing → Except StoreError (List FoundFile)
  | ⟨[], found⟩ => .ok found
  | ⟨(names, entries) :: pending, found⟩ =>
    match h : readDir d filter names entries ⟨pending, found⟩ with
    | .error e => .error e
    | .ok next =>
      have := weight_lt_of_readDir h
      run d filter next
termination_by l => l.weight

theorem run_nil (d : Directory) (filter : Glob.Filter) (found : List FoundFile) :
    run d filter ⟨[], found⟩ = .ok found := by
  rw [run]

theorem run_cons (d : Directory) (filter : Glob.Filter) (names : List String)
    (entries : List (String × Tree)) (pending : List (List String × List (String × Tree)))
    (found : List FoundFile) :
    run d filter ⟨(names, entries) :: pending, found⟩ =
      (readDir d filter names entries ⟨pending, found⟩).bind (run d filter) := by
  rw [run]
  split
  · rename_i e h
    simp [h, Except.bind]
  · rename_i next h
    simp [h, Except.bind]

end Listing

namespace Directory

/-- The entries of the directory that names below the root lead to, if it is one; links are
followed. -/
def entriesAt? (fs : FileSystem) (d : Directory) (names : List String) :
    Option (List (String × Tree)) :=
  match fs.resolve (d.below names) with
  | .error _ => none
  | .ok place =>
    match fs.node place with
    | .dir entries => some entries
    | _ => none

def find (fs : FileSystem) (d : Directory) (pattern : String) (exclude : List String) :
    Except StoreError (List FoundFile) := do
  let filter ← Glob.Filter.ofPatterns pattern exclude
  let names ← startOf filter.wanted
  match d.entriesAt? fs names with
  | none => return []
  | some entries => Listing.run d filter { pending := [(names, entries)] }

/-- The store of a directory as it is in a file system. -/
def toStore (fs : FileSystem) (d : Directory) : EvidenceStore := ⟨d.get fs, d.find fs⟩

end Directory

end Triage
