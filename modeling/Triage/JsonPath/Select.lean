import Triage.JsonPath.Reader
import Triage.JsonPath.Term

/-!
# Selecting by JSON paths

The machine holds the values at hand, the steps that were begun and not yet taken, and the terms of
the tests that were begun. A path from the document within a test runs on values of its own, and
gives a term when the next part of the test begins. A few paths cannot be followed.
-/

namespace Triage.JsonPath

/-- The values at hand, the modes of the steps begun, and the terms of tests; the last ones stand
first. A term that is missing stands for the values at hand. -/
structure Frame where
  current : Option (List Node)
  modes : List Mode := []
  terms : List (Option Term) := []

/-- What a test looks for under a key: the nodes it finds, and which of the values it starts from
count as their owners. -/
structure Lookup where
  key : Option String
  found : List Node → List Node
  hits : Node → Bool

namespace Lookup

def child (name : String) : Lookup where
  key := some (unquoted name)
  found nodes := Node.distinct ((nodes.flatMap Node.objects).filter (Node.has (plain name)))
  hits := Node.has (plain name)

def deep (name : String) : Lookup where
  key := none
  found nodes := (nodes.flatMap Node.all).filter (Node.has (plain name))
  hits _ := true

end Lookup

namespace Frame

def update (frame : Frame) (change : List Node → List Node) : Frame :=
  { frame with current := frame.current.map change }

/-- Takes the last term off, if there is one. -/
def dropTerm (frame : Frame) : Frame := { frame with terms := frame.terms.tail }

def push (frame : Frame) (term : Term) : Frame := { frame with terms := some term :: frame.terms }

def dropMode (frame : Frame) : Frame := { frame with modes := frame.modes.tail }

/-- Goes on to new values; if there are none, a term is lost. -/
def moveTo (frame : Frame) (change : List Node → List Node) : Frame :=
  match frame.current.map change with
  | none => frame
  | some [] => { frame.dropTerm with current := some [] }
  | some nodes => { frame with current := some nodes }

def toMembers (frame : Frame) (names : List String) : Frame :=
  frame.moveTo fun nodes =>
    nodes.flatMap fun node => names.filterMap fun name => node.member? (plain name)

/-- Goes on to the items at an index, of arrays and of arrays that are members. -/
def toItems (frame : Frame) (index : Int) : Frame :=
  frame.moveTo fun nodes =>
    nodes.flatMap fun node =>
      if node.isObject then node.children.filterMap (Node.itemAt? index)
      else (node.itemAt? index).toList

def toDeepMembers (frame : Frame) (name : String) : Frame :=
  frame.update fun nodes => (nodes.flatMap Node.all).filterMap (Node.member? (plain name))

/-- Goes on to the items at an index anywhere below; without any the values are gone. -/
def toDeepItems (frame : Frame) (index : Nat) : Frame :=
  match frame.current.map fun nodes =>
    (nodes.flatMap Node.all).filterMap fun node => node.items[index]? with
  | none | some [] => { frame with current := none }
  | some nodes => { frame with current := some nodes }

def toEverything (nodes : List Node) : List Node := (nodes.flatMap Node.all).flatMap Node.children

/-- Looks for a key from the last term. -/
def follow (frame : Frame) (lookup : Lookup) : Option Frame :=
  match frame.terms with
  | [] => some frame
  | none :: terms =>
    match frame.current with
    | none => some { frame with terms := terms }
    | some nodes =>
      some { frame with terms := some (.nodes none lookup.key (lookup.found nodes)) :: terms }
  | some (.nodes owners before items) :: terms =>
    let value (node : Node) : Node := (before.bind (node.member? ·)).getD node
    let owners := owners.getD (items.filter fun node => lookup.hits (value node))
    some { frame with
      terms := some (.nodes (some owners) lookup.key (lookup.found (items.map value))) :: terms }
  | some (.constant _) :: _ => none

/-- What a filter keeps of the values at hand. -/
def keep (frame : Frame) : Term → Frame
  | .constant (.number x) => frame.toItems x.toIndex
  | .constant (.text name) => frame.toMembers [name]
  | .constant (.flag true) => frame
  | .constant (.flag false) => { frame with current := some [] }
  | .nodes _ _ [] => { frame with current := some [] }
  | .nodes owners _ items => { frame with current := some (owners.getD items) }

/-- Ends a bracket by what its term says. -/
def closePlain (frame : Frame) : Frame :=
  match frame.terms with
  | some term :: _ => (frame.dropTerm.keep term).dropMode
  | _ => frame.dropTerm.dropMode

/-- Ends a bracket. Within another bracket, a text is a key to look for; two dots before it ask for
values however deep. -/
def close (frame : Frame) : Option Frame :=
  match frame.modes, frame.terms with
  | _ :: .bracket :: _, some (.constant (.text name)) :: _ =>
    (frame.dropTerm.follow (.child name)).map dropMode
  | _ :: .bracket :: _, none :: _ => some frame.dropTerm.closePlain
  | _ :: .deep :: modes, terms =>
    let frame := { frame with modes := modes }
    match terms with
    | some (.constant (.number x)) :: _ =>
      some (frame.dropTerm.toDeepItems x.toIndex.toNat).dropTerm
    | some (.constant (.text name)) :: _ => some (frame.dropTerm.toDeepMembers name).dropTerm
    | none :: _ => some frame.dropTerm.closePlain
    | _ => some frame.closePlain
  | _, _ => some frame.closePlain

def every (frame : Frame) : Frame :=
  let frame := if frame.modes.head? = some .bracket then frame.dropMode else frame
  match frame.modes with
  | .deep :: _ => frame.dropMode.update toEverything
  | .child :: _ => frame.dropMode.update (·.flatMap Node.children)
  | _ => frame.update (·.flatMap Node.children)

def name (text : String) (frame : Frame) : Option Frame :=
  match frame.modes, frame.terms with
  | .bracket :: _, _ => some (frame.push (.constant (.text text)))
  | .child :: _, [] => some (frame.dropMode.toMembers [text])
  | .deep :: _, [] => some (frame.dropMode.toDeepMembers text)
  | .child :: _, _ => frame.dropMode.follow (.child text)
  | .deep :: _, _ => frame.dropMode.follow (.deep text)
  | [], _ => some frame

/-- Begins a path at the values at hand; two dots before the bracket go down to everything below
them first. -/
def here (frame : Frame) : Frame :=
  let frame :=
    match frame.modes with
    | .bracket :: .deep :: modes =>
      { frame.update toEverything with modes := .bracket :: modes }
    | _ => frame
  { frame with terms := none :: frame.terms }

/-- A term of a test, with the values at hand in the place of a missing one. -/
def term? (frame : Frame) : Option Term → Option Term
  | some term => some term
  | none => frame.current.map fun nodes => .nodes none none nodes

def join (op : Operator) (frame : Frame) : Option Frame :=
  match frame.terms with
  | right :: left :: terms => do
    let term := Term.join op (← frame.term? left) (← frame.term? right)
    return { frame with terms := some term :: terms }
  | _ => none

/-- Obeys an instruction. -/
def step (document : Json) (frame : Frame) : Instruction → Option Frame
  | .root => some { frame with current := some [.root document] }
  | .here => some frame.here
  | .go mode => some { frame with modes := mode :: frame.modes }
  | .close => frame.close
  | .every => some frame.every
  | .name text => frame.name text
  | .names texts => some (frame.dropTerm.dropMode.toMembers texts)
  | .number x => some (frame.push (.constant (.number x)))
  | .flag b => some (frame.push (.flag b))
  | .indices indices =>
    some { frame.dropTerm.dropMode with
      current := some ((frame.current.getD []).flatMap fun node =>
        indices.filterMap fun i => node.itemAt? i) }
  | .slice first last stride =>
    some { frame.dropTerm.dropMode with
      current := some ((frame.current.getD []).flatMap (Node.slice first last stride)) }
  | .join op => frame.join op

end Frame

/-- The frame of the path, and that of a path from the document within a test. -/
structure Machine where
  main : Frame
  inner : Option Frame := none

namespace Machine

def start : Machine := ⟨⟨none, [], []⟩, none⟩

/-- Ends a path within a test: its values become a term. -/
def settle (machine : Machine) : Option Machine :=
  match machine.inner with
  | none => some machine
  | some inner => do return ⟨machine.main.push (.ofNodes (← inner.current)), none⟩

def onMain (document : Json) (instruction : Instruction) (machine : Machine) : Option Machine :=
  (machine.main.step document instruction).map fun main => { machine with main := main }

/-- Obeys an instruction; those that begin a part of a test settle the path before. -/
def step (document : Json) (machine : Machine) (instruction : Instruction) : Option Machine :=
  match instruction, machine.inner with
  | .root, _ => do
    let machine ← machine.settle
    if machine.main.current.isNone then machine.onMain document .root
    else return { machine with inner := some ⟨some [.root document], [], []⟩ }
  | .here, _ | .join _, _ => do (← machine.settle).onMain document instruction
  | _, some inner =>
    (inner.step document instruction).map fun inner => { machine with inner := some inner }
  | _, none => machine.onMain document instruction

end Machine

/-- What a path selects: a single match as it is, otherwise the array of the matches. -/
def select? (path : Instructions) (document : Json) : Option Json := do
  match ← (← path.foldlM (Machine.step document) Machine.start).main.current with
  | [node] => return node.value
  | nodes => return .array (nodes.map (·.value))

end Triage.JsonPath
