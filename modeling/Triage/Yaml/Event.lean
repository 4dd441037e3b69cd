import Triage.Yaml.Scanner

/-!
# From tokens to events

A document as a sequence of events: scalars, aliases, and the beginnings and ends of collections.
What is left out, such as the value of a key without one, appears as an empty scalar. The frames of
the collections around wait on a stack, so the depth of a document costs no recursion.
-/

namespace Triage.Yaml

/-- What may stand before a node. -/
structure Properties where
  anchor : Option (List Char) := none
  tag : Option (List Char) := none

inductive Event where
  | alias (name : List Char)
  | scalar (properties : Properties) (text : List Char) (plain : Bool)
  | sequence (properties : Properties)
  | mapping (properties : Properties)
  | endOfCollection
  deriving Inhabited

namespace Event

def absent : Event := scalar {} [] true

end Event

/-- What a collection waits for. -/
inductive Frame where
  | blockEntry
  | indentlessEntry
  | blockKey
  | blockValue
  | flowEntry (first : Bool)
  | pairKey
  | pairValue
  | pairEnd
  | flowKey (first : Bool)
  | flowValue
  | noValue

/-- The rest of the tokens, the frames around, and the events so far, the last one first. -/
structure Parse where
  tokens : List Token
  frames : List Frame
  events : List Event

namespace Parse

def emit (parse : Parse) (event : Event) : Parse := { parse with events := event :: parse.events }

def enter (parse : Parse) (frame : Frame) : Parse :=
  { parse with frames := frame :: parse.frames }

/-- Reads an anchor and a tag, in either order. -/
def properties (handles : List (List Char × List Char)) (tokens : List Token) :
    Option (Properties × List Token) :=
  let resolve (handle suffix : List Char) : Option (List Char) :=
    if handle.isEmpty then some suffix else (handles.lookup handle).map (· ++ suffix)
  match tokens with
  | .anchor name :: .tag handle suffix :: tokens
  | .tag handle suffix :: .anchor name :: tokens =>
    (resolve handle suffix).map fun tag => (⟨some name, some tag⟩, tokens)
  | .anchor name :: tokens => some (⟨some name, none⟩, tokens)
  | .tag handle suffix :: tokens =>
    (resolve handle suffix).map fun tag => (⟨none, some tag⟩, tokens)
  | tokens => some ({}, tokens)

/-- Reads the beginning of a node, or all of it if it is no collection. Only in a block can blocks
begin, and only as the part of a mapping a sequence without an indentation of its own. -/
def node (handles : List (List Char × List Char)) (inBlock indentless : Bool) (parse : Parse) :
    Option Parse :=
  match parse.tokens with
  | .alias name :: tokens => some ({ parse with tokens := tokens }.emit (.alias name))
  | tokens => do
    let (properties, tokens) ← properties handles tokens
    let parse := { parse with tokens := tokens }
    match tokens with
    | .blockEntry :: _ =>
      if indentless then return (parse.emit (.sequence properties)).enter .indentlessEntry
      else ofProperties parse properties
    | .scalar text plain :: tokens =>
      return { parse with tokens := tokens }.emit (.scalar properties text plain)
    | .flowSequence :: tokens =>
      return ({ parse with tokens := tokens }.emit (.sequence properties)).enter (.flowEntry true)
    | .flowMapping :: tokens =>
      return ({ parse with tokens := tokens }.emit (.mapping properties)).enter (.flowKey true)
    | .blockSequence :: tokens =>
      if inBlock then
        return ({ parse with tokens := tokens }.emit (.sequence properties)).enter .blockEntry
      else ofProperties parse properties
    | .blockMapping :: tokens =>
      if inBlock then
        return ({ parse with tokens := tokens }.emit (.mapping properties)).enter .blockKey
      else ofProperties parse properties
    | _ => ofProperties parse properties
where
  /-- A node of which there are only the properties. -/
  ofProperties (parse : Parse) (properties : Properties) : Option Parse :=
    if properties.anchor.isNone && properties.tag.isNone then none
    else some (parse.emit (.scalar properties [] true))

/-- Goes on with what the innermost collection waits for. -/
def step (handles : List (List Char × List Char)) (frame : Frame) (parse : Parse) : Option Parse :=
  let node := node handles
  let finish (tokens : List Token) : Option Parse :=
    some ({ parse with tokens := tokens }.emit .endOfCollection)
  let absent (frame : Frame) (tokens : List Token) : Option Parse :=
    some (({ parse with tokens := tokens }.emit .absent).enter frame)
  /- A node, or an absent one if one of the given tokens comes next. -/
  let nodeUnless (isEnd : Token → Bool) (inBlock indentless : Bool) (frame : Frame)
      (tokens : List Token) : Option Parse :=
    if tokens.head?.any isEnd then absent frame tokens
    else node inBlock indentless ({ parse with tokens := tokens }.enter frame)
  let endsEntry (token : Token) : Bool := token == .blockEntry || token == .blockEnd
  let endsPart (token : Token) : Bool := token == .key || token == .value || token == .blockEnd
  let endsFlow (token : Token) : Bool := token == .flowEntry || token == .flowSequenceEnd
  let endsFlowPart (token : Token) : Bool := token == .flowEntry || token == .flowMappingEnd
  let flowEntry (tokens : List Token) : Option Parse :=
    match tokens with
    | .key :: tokens =>
      some ((({ parse with tokens := tokens }.emit (.mapping {})).enter (.flowEntry false)).enter
        .pairKey)
    | .flowSequenceEnd :: tokens => finish tokens
    | tokens => node false false ({ parse with tokens := tokens }.enter (.flowEntry false))
  let flowKey (tokens : List Token) : Option Parse :=
    match tokens with
    | .key :: tokens =>
      nodeUnless (fun token => token == .value || endsFlowPart token) false false .flowValue tokens
    | .flowMappingEnd :: tokens => finish tokens
    | tokens => node false false ({ parse with tokens := tokens }.enter .noValue)
  match frame, parse.tokens with
  | .blockEntry, .blockEntry :: tokens => nodeUnless endsEntry true false .blockEntry tokens
  | .blockEntry, .blockEnd :: tokens => finish tokens
  | .blockEntry, _ => none
  | .indentlessEntry, .blockEntry :: tokens =>
    nodeUnless (fun token => token == .blockEntry || endsPart token) true false .indentlessEntry
      tokens
  | .indentlessEntry, tokens => finish tokens
  | .blockKey, .key :: tokens => nodeUnless endsPart true true .blockValue tokens
  | .blockKey, .blockEnd :: tokens => finish tokens
  | .blockKey, _ => none
  | .blockValue, .value :: tokens => nodeUnless endsPart true true .blockKey tokens
  | .blockValue, tokens => absent .blockKey tokens
  | .flowEntry true, tokens => flowEntry tokens
  | .flowEntry false, .flowSequenceEnd :: tokens => finish tokens
  | .flowEntry false, .flowEntry :: tokens => flowEntry tokens
  | .flowEntry false, _ => none
  | .pairKey, token :: tokens =>
    if token == .value || endsFlow token then absent .pairValue tokens
    else node false false (parse.enter .pairValue)
  | .pairKey, [] => none
  | .pairValue, .value :: tokens => nodeUnless endsFlow false false .pairEnd tokens
  | .pairValue, tokens => absent .pairEnd tokens
  | .pairEnd, tokens => finish tokens
  | .flowKey true, tokens => flowKey tokens
  | .flowKey false, .flowMappingEnd :: tokens => finish tokens
  | .flowKey false, .flowEntry :: tokens => flowKey tokens
  | .flowKey false, _ => none
  | .flowValue, .value :: tokens => nodeUnless endsFlowPart false false (.flowKey false) tokens
  | .flowValue, tokens => absent (.flowKey false) tokens
  | .noValue, tokens => absent (.flowKey false) tokens

/-- Goes on until no collection is open. -/
def run (handles : List (List Char × List Char)) : Nat → Parse → Option Parse
  | 0, _ => none
  | n + 1, parse =>
    match parse.frames with
    | [] => some parse
    | frame :: frames =>
      match step handles frame { parse with frames := frames } with
      | none => none
      | some parse => run handles n parse

end Parse

/-- The directives before a document. -/
structure Directives where
  version : Bool := false
  handles : List (List Char × List Char) := []

namespace Directives

/-- Reads directives: at most one version, which must be 1.1 or 1.2, and each handle once. -/
def read : List Token → Directives → Option (Directives × List Token)
  | .version major minor :: tokens, directives =>
    if directives.version || major != 1 || !(minor == 1 || minor == 2) then none
    else read tokens { directives with version := true }
  | .tagHandle handle stem :: tokens, directives =>
    if (directives.handles.lookup handle).isSome then none
    else read tokens { directives with handles := (handle, stem) :: directives.handles }
  | tokens, directives => some (directives, tokens)

/-- The handles of a document, with those that every document has. -/
def allHandles (directives : Directives) : List (List Char × List Char) :=
  directives.handles ++ [(['!'], ['!']), (['!', '!'], "tag:yaml.org,2002:".toList)]

end Directives

namespace Event

/-- The events of one document, and the tokens after it. -/
def documentOf? (handles : List (List Char × List Char)) (tokens : List Token) :
    Option (Array Event × List Token) := do
  let parse ← Parse.node handles true false ⟨tokens, [], []⟩
  let parse ← Parse.run handles (4 * tokens.length + 4) parse
  return (parse.events.reverse.toArray, parse.tokens)

/-- The events of the only document of a text; a text without a document has no events. -/
def ofTokens? (tokens : List Token) : Option (Array Event) := do
  if tokens.isEmpty then return #[]
  else
    let (directives, rest) ← Directives.read tokens {}
    let handles := directives.allHandles
    let (events, rest) ← match rest with
      | .documentStart :: rest =>
        match rest.head? with
        | none | some (.version _ _) | some (.tagHandle _ _) | some .documentStart
        | some .documentEnd => some (#[absent], rest)
        | _ => documentOf? handles rest
      | rest => if rest.length < tokens.length then none else documentOf? handles rest
    if rest.all (· == .documentEnd) then return events else none

end Event

end Triage.Yaml
