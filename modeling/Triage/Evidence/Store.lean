import Triage.Evidence.Glob
import Triage.Text.Utf8

/-!
# Stores of evidence

A store gives the content of one path, or of all paths that a glob finds, in the order of the
paths. `MemoryStore` is the plain one: a list of files.
-/

namespace Triage

/-- A file that was found: its path and its content. -/
abbrev FoundFile := String × Bytes

structure EvidenceStore where
  get : String → Except StoreError Bytes
  find : String → List String → Except StoreError (List FoundFile)

/-- Files in the order of their paths. -/
structure MemoryStore where
  files : List FoundFile := []

namespace MemoryStore

/-- Puts a file in its place, where it replaces one of the same path. -/
def insertFile (path : String) (content : Bytes) : List FoundFile → List FoundFile
  | [] => [(path, content)]
  | (p, c) :: files =>
    if p = path then (path, content) :: files
    else if path < p then (path, content) :: (p, c) :: files
    else (p, c) :: insertFile path content files

def insert (path : String) (content : Bytes) (store : MemoryStore) : MemoryStore :=
  ⟨insertFile path content store.files⟩

def ofList (files : List FoundFile) : MemoryStore :=
  files.foldl (fun store (path, content) => store.insert path content) {}

def get (store : MemoryStore) (path : String) : Except StoreError Bytes :=
  match store.files.lookup path with
  | some content => .ok content
  | none => .error (.notFound path)

def find (store : MemoryStore) (pattern : String) (exclude : List String) :
    Except StoreError (List FoundFile) := do
  let filter ← Glob.Filter.ofPatterns pattern exclude
  return store.files.filter fun (path, _) => filter.accepts path

def toStore (store : MemoryStore) : EvidenceStore := ⟨store.get, store.find⟩

end MemoryStore

end Triage
