import Triage.Text.Utf8
import Triage.Yaml.Event
import Triage.Yaml.Scalar

/-!
# YAML documents as JSON values

A document is read from its events; an alias reads the events of its anchor again. At most 128
collections are nested, and aliases are followed at most a hundred times as often as there are
events. Keys are the texts of scalars, and a repeated key takes its last value.
-/

namespace Triage.Yaml

/-- The anchors of a document. An anchor is numbered by how many names there were before it, so one
that names a node anew shares its number with the next new name, and the later place counts. -/
structure Anchors where
  numbers : List (List Char × Nat) := []
  places : List (Nat × Nat) := []

namespace Anchors

def add (anchors : Anchors) (name : List Char) (place : Nat) : Anchors :=
  let number := anchors.numbers.length
  { numbers := (name, number) :: anchors.numbers.filter (·.1 != name)
    places := (number, place) :: anchors.places }

end Anchors

def Event.anchor? : Event → Option (List Char)
  | .scalar properties _ _ | .sequence properties | .mapping properties => properties.anchor
  | _ => none

/-- The anchors of the events from a place on, and the numbers that the aliases among them stand
for, the last one first. An alias needs an anchor before it. -/
def Anchors.ofEvents? : List Event → Nat → Anchors → List (Nat × Nat) →
    Option (Anchors × List (Nat × Nat))
  | [], _, anchors, aliases => some (anchors, aliases)
  | .alias name :: events, place, anchors, aliases =>
    match anchors.numbers.lookup name with
    | none => none
    | some number => ofEvents? events (place + 1) anchors ((place, number) :: aliases)
  | event :: events, place, anchors, aliases =>
    let anchors := match event.anchor? with
      | some name => anchors.add name place
      | none => anchors
    ofEvents? events (place + 1) anchors aliases

/-- A document: its events, and where the aliases among them lead. -/
structure Document where
  events : Array Event
  targets : List (Nat × Nat)

namespace Document

def ofEvents? (events : Array Event) : Option Document := do
  let (anchors, aliases) ← Anchors.ofEvents? events.toList 0 {} []
  return ⟨events, aliases.filterMap fun (place, number) =>
    (anchors.places.lookup number).map fun target => (place, target)⟩

def aliasLimit (document : Document) : Nat := 100 * document.events.size

/-- Where reading has come to: the next event, and how many aliases were followed. -/
structure Progress where
  place : Nat
  jumps : Nat

abbrev Reader (α : Type) := Progress → Option (α × Progress)

/-- Reads what is at hand; if this is an alias, reads at its target, and goes on behind it. -/
def followed {α : Type} (document : Document) (read : Reader α) : Reader α := fun progress =>
  match document.events[progress.place]? with
  | some (.alias _) =>
    if document.aliasLimit ≤ progress.jumps then none
    else do
      let target ← document.targets.lookup progress.place
      let (value, inner) ← read ⟨target, progress.jumps + 1⟩
      return (value, ⟨progress.place + 1, inner.jumps⟩)
  | _ => read progress

/-- The text of a key. -/
def key (document : Document) : Reader String :=
  document.followed fun progress =>
    match document.events[progress.place]? with
    | some (.scalar _ text _) => some (.ofList text, { progress with place := progress.place + 1 })
    | _ => none

/-- The items up to the end of a sequence, the last one first. -/
def items (document : Document) (value : Reader Json) :
    Nat → Progress → List Json → Option (List Json × Progress)
  | 0, _, _ => none
  | n + 1, progress, read =>
    match document.events[progress.place]? with
    | some .endOfCollection => some (read, { progress with place := progress.place + 1 })
    | _ =>
      match value progress with
      | none => none
      | some (item, progress) => items document value n progress (item :: read)

/-- The members up to the end of a mapping, the last one first. -/
def members (document : Document) (value : Reader Json) :
    Nat → Progress → List (String × Json) → Option (List (String × Json) × Progress)
  | 0, _, _ => none
  | n + 1, progress, read =>
    match document.events[progress.place]? with
    | some .endOfCollection => some (read, { progress with place := progress.place + 1 })
    | _ =>
      match document.key progress with
      | none => none
      | some (key, progress) =>
        match value progress with
        | none => none
        | some (item, progress) => members document value n progress ((key, item) :: read)

/-- Whether a collection may be read as a plain JSON one. -/
def isPlain (properties : Properties) : Bool := properties.tag.all fun tag => tag.head? != some '!'

/-- The node at hand, which is no alias, with as many collections nested as given. -/
def node (document : Document) : Nat → Reader Json
  | depth, progress =>
    let next : Progress := { progress with place := progress.place + 1 }
    match depth, document.events[progress.place]? with
    | _, some (.scalar properties text plain) =>
      (Scalar.value? properties.tag text plain).map fun value => (value, next)
    | depth + 1, some (.sequence properties) =>
      if !isPlain properties then none
      else
        (document.items (document.followed (document.node depth)) (document.events.size + 1) next
          []).map fun (items, progress) => (.array items.reverse, progress)
    | depth + 1, some (.mapping properties) =>
      if !isPlain properties then none
      else
        (document.members (document.followed (document.node depth)) (document.events.size + 1) next
          []).map fun (members, progress) =>
            (.object (Json.Members.ofList members.reverse), progress)
    | _, _ => none
termination_by structural depth => depth

/-- How many collections may be nested. -/
def nestingLimit : Nat := 128

end Document

/-- Whether a character may stand in a YAML text. -/
def isAllowed (c : Char) : Bool :=
  c == '\t' || c == '\n' || c == '\r' || (' ' ≤ c && c ≤ '~') || c == '\u0085' ||
    ('\u00a0' ≤ c && c != '\ufffe' && c != '\uffff')

/-- Reads the only document of a YAML text. A text without one is null. -/
def ofText? (text : List Char) : Option Json := do
  if !text.all isAllowed then none
  else
    let tokens ← Token.ofText? text
    let events ← Event.ofTokens? tokens
    if events.isEmpty then return .null
    else
      let document ← Document.ofEvents? events
      let (value, _) ← document.followed (document.node Document.nestingLimit) ⟨0, 0⟩
      return value

def ofBytes? (bytes : Bytes) : Option Json := (Utf8.decode? bytes).bind ofText?

end Triage.Yaml
