import Std.Data.HashMap
import Triage.Regex.Node
import Triage.Regex.Octets

/-!
# How large a pattern may be

A pattern is refused when a machine for it that reads octets, forwards or backwards, takes more than
ten mebibytes. Both the limit and the sizes are those of the engine `regex` 1.11. The machine is not
built, only counted: so many states, which are numbered as they are made, and so many links between
them. A set of characters shares the states of its pieces, as
far as a table of limited size remembers them.
-/

namespace Triage.Regex

/-- What has been counted. -/
structure Tally where
  states : Nat := 0
  /-- The octets besides those that every state takes. -/
  links : Nat := 0

/-- The octets that a machine may take. -/
def budget : Nat := 10 * 1024 * 1024

def Tally.octets (tally : Tally) : Nat := 32 * tally.states + tally.links

/-- Counts as long as the budget lasts. -/
abbrev Count := StateT Tally Option

namespace Count

def spend (states links : Nat) : Count Unit := do
  let tally ← get
  let tally : Tally := ⟨tally.states + states, tally.links + links⟩
  if budget < tally.octets then failure
  set tally

/-- Makes a state with links of so many octets, and gives its number. -/
def state (links : Nat) : Count Nat := do
  let number := (← get).states
  spend 1 links
  return number

def plainState : Count Unit := spend 1 0

/-- One more way out of a fork. -/
def fork : Count Unit := spend 0 4

end Count

/-- The last state of a piece of the machine: each new link from a fork has to be paid for. -/
inductive Ending where
  | plain
  | fork

namespace Ending

/-- Links the end of a piece to what comes next. -/
def link : Ending → Count Unit
  | plain => return ()
  | fork => Count.fork

end Ending

/-- The number of a slot, mixed from parts one after the other. -/
def slotOf (slots : UInt64) (parts : List Nat) : UInt64 :=
  (parts.foldl (fun hash part => (hash ^^^ part.toUInt64) * 1099511628211)
    14695981039346656037) % slots

/-- A table with a limited number of slots; what falls into one slot displaces what was there. -/
structure Memory (α : Type) where
  slots : UInt64
  known : Std.HashMap UInt64 (α × Nat) := {}

namespace Memory

variable {α : Type} [BEq α]

/-- The number of the state remembered under a key, or of one that is made. -/
def reuse (memory : Memory α) (key : α) (parts : List Nat) (make : Count Nat) :
    Count (Nat × Memory α) := do
  let slot := slotOf memory.slots parts
  match memory.known[slot]? with
  | some (known, number) => if known == key then return (number, memory)
  | none => pure ()
  let number ← make
  return (number, { memory with known := memory.known.insert slot (key, number) })

end Memory

/-- A way out of a state: over octets of a range to another state. -/
structure Way where
  range : OctetRange
  target : Nat
  deriving DecidableEq

/-- A state that is not finished: its ways, the newest first, and a range that leads to a state yet
to be made. -/
structure Draft where
  ways : List Way := []
  last : Option OctetRange := none

def Draft.finish (draft : Draft) (target : Nat) : Draft :=
  match draft.last with
  | some range => ⟨⟨range, target⟩ :: draft.ways, none⟩
  | none => draft

/-- Unfinished states, each led to by the next one, and the finished ones that are remembered. -/
structure Drafts where
  stack : List Draft
  memory : Memory (List Way)

namespace Drafts

/-- Finishes a state; one that is like an earlier one is shared. -/
def freeze (memory : Memory (List Way)) (ways : List Way) : Count (Nat × Memory (List Way)) :=
  memory.reuse ways
    (ways.reverse.flatMap fun way => [way.range.first, way.range.last, way.target])
    (Count.state (8 * ways.length))

/-- Finishes the states from the top of the stack down to so many. -/
def close (kept : Nat) (target : Nat) (memory : Memory (List Way)) : List Draft → Count Drafts
  | [] => return ⟨[], memory⟩
  | draft :: below => do
    let draft := draft.finish target
    if kept < below.length then
      let (number, memory) ← freeze memory draft.ways
      close kept number memory below
    else return ⟨draft :: below, memory⟩

/-- How many ranges of a piece the states from the bottom of the stack wait for already. -/
def sharedLength : List OctetRange → List Draft → Nat
  | range :: piece, draft :: above =>
    if draft.last = some range then sharedLength piece above + 1 else 0
  | _, _ => 0

/-- Adds a piece: its first ranges may be under way, the others begin new states. -/
def add (target : Nat) (drafts : Drafts) (piece : List OctetRange) : Count Drafts := do
  let shared := sharedLength piece drafts.stack.reverse
  let drafts ← close shared target drafts.memory drafts.stack
  match piece.drop shared, drafts.stack with
  | range :: rest, draft :: below =>
    let stack := rest.foldl (fun stack range => ⟨[], some range⟩ :: stack)
      ({ draft with last := some range } :: below)
    return { drafts with stack }
  | _, _ => return drafts

end Drafts

/-- Counts the states for the pieces of a set, read forwards. -/
def countForwards (pieces : List (List OctetRange)) : Count Unit := do
  let target ← Count.state 0
  let drafts ← pieces.foldlM (Drafts.add target) ⟨[{}], { slots := 10000 }⟩
  let drafts ← Drafts.close 0 target drafts.memory drafts.stack
  match drafts.stack with
  | [root] =>
    let _ ← Drafts.freeze drafts.memory root.ways
    return ()
  | _ => return ()

/-- A range that leads to a state. -/
abbrev Suffix := Nat × OctetRange

/-- Counts the states for one piece, read backwards: each range leads to the one before it. -/
def countPiece (target : Nat) (memory : Memory Suffix) : List OctetRange → Count (Memory Suffix)
  | [] => do
    Count.fork
    return memory
  | range :: piece => do
    let (number, memory) ←
      memory.reuse (target, range) [target, range.first, range.last] (Count.state 0)
    countPiece number memory piece

/-- Counts the states for the pieces of a set, read backwards. -/
def countBackwards (pieces : List (List OctetRange)) : Count Unit := do
  Count.plainState
  let target ← Count.state 0
  let _ ← pieces.foldlM (countPiece target) { slots := 1000 }
  return ()

/-- Counts the states for a set of characters. -/
def countSet (backwards : Bool) (chars : Unicode.CharSet) : Count Unit := do
  let pairs := chars.pairs
  if chars.isAscii then
    Count.plainState
    Count.spend 1 (8 * pairs.length)
  else if backwards then countBackwards (octetRanges pairs)
  else countForwards (octetRanges pairs)

/-- The octets of a text in the order in which they are read. -/
def octetsOfText (backwards : Bool) (text : List Char) : List Nat :=
  let octets := text.flatMap fun c => octetsOf c.toNat
  if backwards then octets.reverse else octets

/-- The words cut at those that are empty. -/
def segments : List (List Nat) → List (List (List Nat))
  | [] => [[]]
  | [] :: words => [] :: segments words
  | word :: words =>
    match segments words with
    | segment :: rest => (word :: segment) :: rest
    | [] => [[word]]

/-- The words by their first octets, without these. -/
def branches : List (List Nat) → List (Nat × List (List Nat))
  | [] => []
  | [] :: words => branches words
  | (octet :: word) :: words =>
    let others := branches words
    match others.lookup octet with
    | some tails => (octet, word :: tails) :: others.filter (·.1 != octet)
    | none => (octet, [word]) :: others

/-- Counts the states for several texts, given as octets, which share what they begin with. An empty
text ends a group of branches: what comes after it ranks behind it. -/
def countWords : Nat → List (List Nat) → Count Unit
  | 0, _ => return ()
  | n + 1, words => do
    if words.all List.isEmpty then return ()
    -- An empty word counts once as long as no other has come.
    let words := match words with
      | [] :: rest => [] :: rest.dropWhile List.isEmpty
      | words => words
    let groups := (segments words).map branches
    for group in groups do
      for (_, tails) in group do
        countWords n tails
      match group.length with
      | 0 => pure ()
      | 1 => Count.plainState
      | k => Count.spend 1 (8 * k)
    let filled := (groups.filter fun group => !group.isEmpty).length
    Count.spend 1 (4 * (filled + groups.length - 1))

namespace Node

/-- The least number of characters that a node matches; none if something in it never matches. -/
def minLength? : Node → Option Nat
  | empty | look _ => some 0
  | text chars => some chars.length
  | set chars => if chars.isEmpty then none else some 1
  | repeated min _ _ body => body.minLength?.map (min * ·)
  | group _ _ body => body.minLength?
  | sequence items => sumOfAll? items
  | choice items => leastOfAll? items
where
  sumOfAll? : List Node → Option Nat
    | [] => some 0
    | item :: items => do return (← item.minLength?) + (← sumOfAll? items)
  leastOfAll? : List Node → Option Nat
    | [] => none
    | [item] => item.minLength?
    | item :: items => do return Nat.min (← item.minLength?) (← leastOfAll? items)

/-- Whether every match begins with a place, told by `p`, when the items are in this order. -/
def opensWith (backwards : Bool) (p : Look → Bool) : Node → Bool
  | look place => p place
  | empty | text _ | set _ => false
  | repeated min _ _ body => 0 < min && body.opensWith backwards p
  | group _ _ body => body.opensWith backwards p
  | sequence items => if backwards then lastOpens items else firstOpens items
  | choice items => allOpen items
where
  firstOpens : List Node → Bool
    | [] => false
    | item :: items => item.opensWith backwards p || (item.isEmptyOnly && firstOpens items)
  lastOpens : List Node → Bool
    | [] => false
    | item :: items =>
      lastOpens items || (items.all isEmptyOnly && item.opensWith backwards p)
  allOpen : List Node → Bool
    | [] => true
    | item :: items => item.opensWith backwards p && allOpen items

/-- Counts a piece again and again. -/
def countTimes (piece : Count Ending) : Nat → Ending → Count Ending
  | 0, ending => return ending
  | n + 1, ending => do
    let next ← piece
    ending.link
    countTimes piece n next

/-- Counts a piece so many times, one after the other. -/
def countExactly (piece : Count Ending) : Nat → Count Ending
  | 0 => do
    Count.plainState
    return .plain
  | n + 1 => do countTimes piece n (← piece)

/-- Counts a piece that may be left out with all later ones, up to so many times. -/
def countOptional (piece : Count Ending) : Nat → Ending → Count Unit
  | 0, ending => ending.link
  | n + 1, ending => do
    Count.plainState
    let next ← piece
    ending.link
    Count.fork
    Count.fork
    countOptional piece n next

/-- Counts a piece that is repeated as often as it goes. -/
def countMany (piece : Count Ending) (isNeverEmpty : Bool) : Nat → Count Ending
  | 0 => do
    if isNeverEmpty then
      Count.plainState
      let ending ← piece
      Count.fork
      ending.link
      return .fork
    else
      let ending ← piece
      Count.plainState
      ending.link
      Count.fork
      Count.plainState
      Count.plainState
      Count.fork
      Count.fork
      Count.fork
      return .plain
  | 1 => do
    let ending ← piece
    Count.plainState
    ending.link
    Count.fork
    return .fork
  | n + 1 => do
    let before ← countExactly piece n
    let ending ← piece
    Count.plainState
    before.link
    ending.link
    Count.fork
    return .fork

def countRepeated (piece : Count Ending) (isNeverEmpty : Bool) : Nat → Option Nat → Count Ending
  | 0, some 1 => do
    Count.plainState
    let ending ← piece
    Count.plainState
    Count.fork
    Count.fork
    ending.link
    return .plain
  | min, none => countMany piece isNeverEmpty min
  | min, some max => do
    let before ← countExactly piece min
    if min = max then return before
    Count.plainState
    countOptional piece (max - min) before
    return .plain

def text? : Node → Option (List Char)
  | text chars => some chars
  | _ => none

/-- Counts the states for a node. Groups leave traces only where it is read forwards. -/
def count (backwards : Bool) : Node → Count Ending
  | empty | look _ => do
    Count.plainState
    return .plain
  | text chars => do
    Count.spend (octetsOfText backwards chars).length 0
    return .plain
  | set chars => do
    countSet backwards chars
    return .plain
  | repeated min max _ body =>
    countRepeated (body.count backwards) (body.minLength?.any (0 < ·)) min max
  | group _ _ body =>
    if backwards then body.count backwards
    else do
      Count.plainState
      let ending ← body.count backwards
      ending.link
      Count.plainState
      return .plain
  | sequence items => do
    if backwards then countSequenceBackwards items else countSequence items none
  | choice items =>
    match items.mapM text? with
    | some texts => do
      let words := texts.map (octetsOfText backwards)
      Count.plainState
      countWords ((words.map List.length).foldl Nat.max 0 + 1) words
      return .plain
    | none => do
      countChoices items 0
      return .plain
where
  /-- Counts items after a piece with an ending. -/
  countSequence : List Node → Option Ending → Count Ending
    | [], ending => return ending.getD .plain
    | item :: items, ending => do
      let next ← item.count backwards
      if let some ending := ending then ending.link
      countSequence items (some next)
  /-- Counts items, the last one first. -/
  countSequenceBackwards : List Node → Count Ending
    | [] => return .plain
    | [item] => item.count backwards
    | item :: items => do
      let ending ← countSequenceBackwards items
      let next ← item.count backwards
      ending.link
      return next
  /-- Counts alternatives; the fork is made after the first two. -/
  countChoices : List Node → Nat → Count Unit
    | [], _ => return ()
    | item :: items, done => do
      let ending ← item.count backwards
      ending.link
      Count.fork
      if done = 1 then Count.spend 2 0
      countChoices items (done + 1)

/-- Counts the machine for a whole pattern. A match may begin after any octets, unless it has to
begin where the text does. -/
def countAll (backwards : Bool) (node : Node) : Count Unit := do
  let isAnchored := node.opensWith backwards fun place =>
    place = if backwards then .textEnd else .textStart
  if isAnchored then Count.plainState
  else
    Count.spend 3 (8 + 4)
  if !backwards then Count.plainState
  let ending ← node.count backwards
  ending.link
  if !backwards then Count.plainState
  Count.plainState
  if !isAnchored then Count.fork

def fits (backwards : Bool) (node : Node) : Bool := (node.countAll backwards |>.run {}).isSome

/-- Whether both machines for a pattern keep to the budget. -/
def isAffordable (node : Node) : Bool := node.fits false && node.fits true

end Node

end Triage.Regex
