import Triage.Regex.Budget
import Triage.Regex.Modes
import Triage.Regex.Reader

/-!
# Programs

A pattern is laid out as a list of instructions with absolute addresses. The code of a node runs
from its first address to the one behind its last, so `Node.size` fixes where everything lies.
Of the two ways of a fork the first is preferred.
-/

namespace Triage.Regex

open Unicode (CharSet)

inductive Instruction where
  | char (c : Char)
  | set (chars : CharSet)
  | look (look : Look)
  | fork (preferred other : Nat)
  | jump (target : Nat)
  | save (slot : Nat)
  | accept
  deriving Inhabited

namespace Instruction

/-- Either enters what lies at `enter` or goes past it; greedy means that entering is preferred. -/
def enterOr (greedy : Bool) (enter past : Nat) : Instruction :=
  if greedy then fork enter past else fork past enter

/-- Whether an instruction reads a character. -/
def reads : Instruction → Char → Bool
  | char c, d => c == d
  | set chars, d => chars.contains d
  | _, _ => false

end Instruction

namespace Node

/-- How many instructions a node takes. -/
def size : Node → Nat
  | empty => 0
  | text chars => chars.length
  | set _ | look _ => 1
  | repeated 0 none _ body => body.size + 2
  | repeated min none _ body => min * body.size + 1
  | repeated min (some max) _ body => min * body.size + (max - min) * (body.size + 1)
  | group _ _ body => body.size + 2
  | sequence items => sizeOfItems items
  | choice items => sizeOfChoices items
where
  sizeOfItems : List Node → Nat
    | [] => 0
    | item :: items => item.size + sizeOfItems items
  /-- All alternatives but the last one need a fork and a jump. -/
  sizeOfChoices : List Node → Nat
    | [] => 0
    | item :: items =>
      item.size + (if items.isEmpty then 0 else 2) + sizeOfChoices items

/-- A piece of code, given where it begins. -/
abbrev Code := Nat → List Instruction

/-- One piece after another, `size` instructions long each. -/
def copies (size : Nat) (code : Code) : Nat → Code
  | 0, _ => []
  | n + 1, start => code start ++ copies size code n (start + size)

/-- Pieces that may each be left out together with those after it. -/
def options (size : Nat) (greedy : Bool) (code : Code) (past : Nat) : Nat → Code
  | 0, _ => []
  | n + 1, start =>
    .enterOr greedy (start + 1) past ::
      (code (start + 1) ++ options size greedy code past n (start + 1 + size))

/-- A piece that is run at least once and then as often as it goes. -/
def loop (size : Nat) (greedy : Bool) (code : Code) : Code := fun start =>
  code start ++ [.enterOr greedy start (start + size + 1)]

/-- The code of a node. -/
def code : Node → Code
  | empty, _ => []
  | text chars, _ => chars.map .char
  | set chars, _ => [.set chars]
  | look place, _ => [.look place]
  | repeated 0 none greedy body, start =>
    .enterOr greedy (start + 1) (start + body.size + 2) ::
      loop body.size greedy body.code (start + 1)
  | repeated (min + 1) none greedy body, start =>
    copies body.size body.code min start ++
      loop body.size greedy body.code (start + min * body.size)
  | repeated min (some max) greedy body, start =>
    let after := start + min * body.size
    copies body.size body.code min start ++
      options body.size greedy body.code (after + (max - min) * (body.size + 1)) (max - min) after
  | group index _ body, start =>
    .save (2 * index) :: (body.code (start + 1) ++ [.save (2 * index + 1)])
  | sequence items, start => codeOfItems items start
  | choice items, start => codeOfChoices (start + size.sizeOfChoices items) items start
where
  codeOfItems : List Node → Code
    | [], _ => []
    | item :: items, start => item.code start ++ codeOfItems items (start + item.size)
  /-- The code of alternatives that all lead to `past`. -/
  codeOfChoices (past : Nat) : List Node → Code
    | [], _ => []
    | item :: items, start =>
      if items.isEmpty then item.code start
      else
        let next := start + item.size + 2
        .fork (start + 1) next ::
          (item.code (start + 1) ++ .jump past :: codeOfChoices past items next)

end Node

end Triage.Regex

namespace Triage

/-- A pattern that is ready to be searched for. -/
structure Regex where
  program : Array Regex.Instruction
  slots : Nat
  names : List (Nat × String)

namespace Regex

/-- Reads a pattern; there is none in a malformed text, nor in one that grows too large. -/
def ofText? (text : String) : Option Regex := do
  let (node, _) ← Node.ofPattern? {} (← Pattern.ofText? text.toList)
  if node.isAffordable then
    return {
      program := (node.code 0).toArray.push .accept
      slots := 2 * node.lastGroup + 2
      names := node.groupNames }
  else none

end Regex

end Triage
