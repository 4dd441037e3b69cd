import Triage.Regex.Program

/-!
# Searching

All ways to match are followed side by side, a character at a time, in the order of preference.
The match that begins first wins, and of those that begin there the preferred one: once a thread
accepts, those less preferred are dropped and no new ones begin. No instruction is entered twice
at one place, so a step takes time proportional to the size of the program.
-/

namespace Triage.Regex

/-- Where the groups seen so far begin and end. -/
abbrev Slots := Array (Option Nat)

/-- A way to match that waits at an instruction. -/
structure Thread where
  address : Nat
  slots : Slots

/-- A place in the text: how many characters lie before it, and the ones beside it. -/
structure Spot where
  index : Nat
  before : Option Char
  after : Option Char

/-- The threads that wait, most preferred first, and for each instruction the number of the place
at which it was last entered, counted from one. -/
structure Threads where
  entered : Array Nat
  waiting : Array Thread

namespace Threads

/-- Follows the threads on the stack to the instructions that read a character or accept. -/
def follow (program : Array Instruction) (spot : Spot) : Nat → List Thread → Threads → Threads
  | 0, _, threads => threads
  | _ + 1, [], threads => threads
  | fuel + 1, thread :: stack, threads =>
    if threads.entered[thread.address]? == some (spot.index + 1) then
      follow program spot fuel stack threads
    else
      let threads := { threads with
        entered := threads.entered.setIfInBounds thread.address (spot.index + 1) }
      match program[thread.address]? with
      | none => follow program spot fuel stack threads
      | some (.char _) | some (.set _) | some .accept =>
        follow program spot fuel stack { threads with waiting := threads.waiting.push thread }
      | some (.look look) =>
        if look.holds spot.before spot.after then
          follow program spot fuel ({ thread with address := thread.address + 1 } :: stack) threads
        else follow program spot fuel stack threads
      | some (.jump target) =>
        follow program spot fuel ({ thread with address := target } :: stack) threads
      | some (.fork preferred other) =>
        follow program spot fuel
          ({ thread with address := preferred } :: { thread with address := other } :: stack)
          threads
      | some (.save slot) =>
        let slots := thread.slots.setIfInBounds slot (some spot.index)
        follow program spot fuel (⟨thread.address + 1, slots⟩ :: stack) threads

/-- Adds a thread behind the others. An instruction puts at most two threads on the stack, so the
steps are bounded by the size of the program. -/
def add (program : Array Instruction) (spot : Spot) (thread : Thread) (threads : Threads) :
    Threads :=
  follow program spot (2 * program.size + 2) [thread] threads

end Threads

/-- What a step has come to: the threads at the next place, and the best match so far. -/
structure Step where
  threads : Threads
  best : Option Slots

/-- Runs the threads, most preferred first, over the character at hand. -/
def advance (program : Array Instruction) (c : Option Char) (next : Spot) :
    List Thread → Step → Step
  | [], step => step
  | thread :: rest, step =>
    match program[thread.address]?, c with
    | some .accept, _ => { step with best := some thread.slots }
    | some instruction, some c =>
      if instruction.reads c then
        let threads := step.threads.add program next { thread with address := thread.address + 1 }
        advance program (some c) next rest { step with threads }
      else advance program (some c) next rest step
    | _, c => advance program c next rest step

/-- Searches from a place on. -/
def searchFrom (regex : Regex) (index : Nat) (before : Option Char) (text : List Char)
    (step : Step) : Option Slots :=
  let spot : Spot := ⟨index, before, text.head?⟩
  let threads :=
    if step.best.isSome then step.threads
    else step.threads.add regex.program spot ⟨0, Array.replicate regex.slots none⟩
  let waiting := threads.waiting.toList
  let cleared : Threads := { threads with waiting := #[] }
  match text with
  | [] => (advance regex.program none spot waiting ⟨cleared, step.best⟩).best
  | c :: text =>
    let next : Spot := ⟨index + 1, some c, text.head?⟩
    let step := advance regex.program (some c) next waiting ⟨cleared, step.best⟩
    if step.best.isSome && step.threads.waiting.isEmpty then step.best
    else searchFrom regex (index + 1) (some c) text step
termination_by structural text

/-- Where the groups of the first match begin and end. -/
def search (regex : Regex) (text : List Char) : Option Slots :=
  searchFrom regex 0 none text ⟨⟨Array.replicate regex.program.size 0, #[]⟩, none⟩

/-- Whether a pattern matches somewhere in a text. -/
def isMatch (regex : Regex) (text : String) : Bool := (regex.search text.toList).isSome

/-- The text of a group, empty when the group took no part in the match. -/
def groupText (text : List Char) (slots : Slots) (index : Nat) : String :=
  match slots[2 * index]?.join, slots[2 * index + 1]?.join with
  | some first, some last => .ofList ((text.drop first).take (last - first))
  | _, _ => ""

/-- The named groups of the first match, with their texts. -/
def captures? (regex : Regex) (text : String) : Option (List (String × String)) := do
  let chars := text.toList
  let slots ← regex.search chars
  return regex.names.map fun (index, name) => (name, groupText chars slots index)

end Triage.Regex
