import Triage.Text.Pieces
import Triage.Text.Utf8

/-!
# File trees

A tree of files, directories and symbolic links, and what a path means in it: `FileSystem.resolve`
follows all links of a path.
-/

namespace Triage

inductive Tree where
  | file (content : Bytes)
  | dir (entries : List (String × Tree))
  | link (target : String)
  deriving Inhabited

namespace Tree

/-- Replaces the entry of a name, or adds one at the end. -/
def setEntry (name : String) (node : Tree) : List (String × Tree) → List (String × Tree)
  | [] => [(name, node)]
  | (n, old) :: entries =>
    if n = name then (name, node) :: entries else (n, old) :: setEntry name node entries

/-- Puts a node at the end of a list of names; directories on the way are made. -/
def insert (node : Tree) : List String → Tree → Tree
  | [], _ => node
  | name :: names, dir entries =>
    dir (setEntry name (insert node names ((entries.lookup name).getD (dir []))) entries)
  | name :: names, _ => dir [(name, insert node names (dir []))]

end Tree

/-- Why a path leads nowhere. -/
inductive PathFault where
  | notFound
  | notADirectory
  | isADirectory
  | tooManyLinks
  | nameTooLong
  | zeroCharacter
  deriving DecidableEq, Repr

def PathFault.message : PathFault → String
  | notFound => "no such file or directory"
  | notADirectory => "not a directory"
  | isADirectory => "is a directory"
  | tooManyLinks => "too many levels of symbolic links"
  | nameTooLong => "file name too long"
  | zeroCharacter => "file name contains a zero character"

/-- All that paths can lead to; paths that are not absolute start at the working directory. A path
has a limit on the links it goes through (`linkLimit`) and on each name in it (`nameLimit`), but
none on its length as a whole, although systems know one: paths of any length are followed. -/
structure FileSystem where
  root : Tree
  workingDir : List String := []

namespace FileSystem

/-- A place in the tree: the names and nodes on the way to it, the last one first. -/
abbrev Place := List (String × Tree)

def node (fs : FileSystem) (place : Place) : Tree :=
  match place with
  | [] => fs.root
  | (_, node) :: _ => node

def names (place : Place) : List String := (place.map (·.1)).reverse

/-- How many links one path may go through. -/
def linkLimit : Nat := 40

/-- The longest name in bytes. -/
def nameLimit : Nat := 255

/-- A path as the steps it takes; empty steps come from doubled slashes. -/
def steps (path : String) : List String := splitString '/' path

def isAbsolute (path : String) : Bool := path.toList.head? == some '/'

/-- Takes the steps from a place; a link hands over to `follow` together with the steps that are
left. -/
def walkWith (fs : FileSystem) (follow : Place → List String → Except PathFault Place) :
    Place → List String → Except PathFault Place
  | place, [] => .ok place
  | place, step :: rest =>
    match fs.node place with
    | .dir entries =>
      if step = "" ∨ step = "." then walkWith fs follow place rest
      else if step = ".." then walkWith fs follow (place.drop 1) rest
      else if nameLimit < byteLength step then .error .nameTooLong
      else
        match entries.lookup step with
        | none => .error .notFound
        | some (.link target) =>
          follow (if isAbsolute target then [] else place) (steps target ++ rest)
        | some node => walkWith fs follow ((step, node) :: place) rest
    | _ => .error .notADirectory

/-- Takes the steps from a place, through at most so many links. -/
def walk (fs : FileSystem) : Nat → Place → List String → Except PathFault Place
  | 0 => walkWith fs fun _ _ => .error .tooManyLinks
  | links + 1 => walkWith fs (walk fs links)

/-- The steps of a path, counted from the root. -/
def rooted (fs : FileSystem) (path : String) : List String :=
  if isAbsolute path then steps path else fs.workingDir ++ steps path

/-- Where a path leads when all links are followed. -/
def resolve (fs : FileSystem) (path : String) : Except PathFault Place :=
  if path.toList.contains '\x00' then .error .zeroCharacter
  else if path.isEmpty then .error .notFound
  else fs.walk linkLimit [] (fs.rooted path)

/-- A path from the root, written out. -/
def absolute (names : List String) : String :=
  if names.isEmpty then "/" else String.join (names.map ("/" ++ ·))

def isFile (fs : FileSystem) (place : Place) : Bool :=
  match fs.node place with
  | .file _ => true
  | _ => false

def isDir (fs : FileSystem) (place : Place) : Bool :=
  match fs.node place with
  | .dir _ => true
  | _ => false

/-- The content of the file that a path leads to. -/
def read (fs : FileSystem) (path : String) : Except PathFault Bytes := do
  match fs.node (← fs.resolve path) with
  | .file content => return content
  | _ => throw .isADirectory

def insert (fs : FileSystem) (names : List String) (node : Tree) : FileSystem :=
  { fs with root := Tree.insert node names fs.root }

/-- Takes the steps to a file that may still have to be made: only the last step may lead to
nothing, and then the names of the file to make are the answer. -/
def locateWith (fs : FileSystem) (follow : Place → List String → Except PathFault (List String)) :
    Place → List String → Except PathFault (List String)
  | place, [] =>
    match fs.node place with
    | .file _ => .ok (names place)
    | _ => .error .isADirectory
  | place, step :: rest =>
    match fs.node place with
    | .dir entries =>
      if step = "" ∨ step = "." then locateWith fs follow place rest
      else if step = ".." then locateWith fs follow (place.drop 1) rest
      else if nameLimit < byteLength step then .error .nameTooLong
      else
        match entries.lookup step with
        | none =>
          if rest.isEmpty then .ok (names place ++ [step])
          else if rest.all (· = "") then .error .isADirectory
          else .error .notFound
        | some (.link target) =>
          follow (if isAbsolute target then [] else place) (steps target ++ rest)
        | some node => locateWith fs follow ((step, node) :: place) rest
    | _ => .error .notADirectory

def locate (fs : FileSystem) : Nat → Place → List String → Except PathFault (List String)
  | 0 => locateWith fs fun _ _ => .error .tooManyLinks
  | links + 1 => locateWith fs (locate fs links)

/-- Opens a file for appending: the names of the file, and the file system in which it exists. -/
def openForAppend (fs : FileSystem) (path : String) :
    Except PathFault (List String × FileSystem) := do
  if path.toList.contains '\x00' then throw .zeroCharacter
  if path.isEmpty then throw .notFound
  let names ← fs.locate linkLimit [] (fs.rooted path)
  match fs.resolve (absolute names) with
  | .ok _ => return (names, fs)
  | .error _ => return (names, fs.insert names (.file []))

/-- Adds to the end of a file. -/
def append (fs : FileSystem) (names : List String) (more : Bytes) : FileSystem :=
  match fs.read (absolute names) with
  | .ok content => fs.insert names (.file (content ++ more))
  | .error _ => fs

end FileSystem

end Triage
