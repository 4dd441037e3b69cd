import Triage.Regex.CharClass
import Triage.Regex.Pattern

/-!
# Patterns in their simple form

A `Node` says directly which characters and which places match. Nodes are built by functions that
simplify: texts side by side are one text, alternatives between characters are a set, what begins
all alternatives is taken out of them. The form decides how large a pattern is.
-/

namespace Triage.Regex

open Unicode (CharSet)

/-- A place that a pattern can ask for; words are those of Unicode or those of ASCII. -/
inductive Look where
  | textStart
  | textEnd
  | lineStart (crlf : Bool)
  | lineEnd (crlf : Bool)
  | word (edge : WordEdge) (unicode : Bool)
  deriving DecidableEq, Repr

/-- Whether a place lies between two characters; there is none at the ends of the text. -/
def Look.holds (look : Look) (before after : Option Char) : Bool :=
  match look with
  | textStart => before.isNone
  | textEnd => after.isNone
  | lineStart false => before.isNone || before == some '\n'
  | lineStart true =>
    before.isNone || before == some '\n' || (before == some '\r' && after != some '\n')
  | lineEnd false => after.isNone || after == some '\n'
  | lineEnd true =>
    after.isNone || after == some '\r' || (after == some '\n' && before != some '\r')
  | word edge unicode =>
    let letters := if unicode then CharClass.word else CharClass.asciiWord
    let wordBefore := before.any letters.contains
    let wordAfter := after.any letters.contains
    match edge with
    | .border => wordBefore != wordAfter
    | .noEdge => wordBefore == wordAfter
    | .start => !wordBefore && wordAfter
    | .finish => wordBefore && !wordAfter
    | .startHalf => !wordBefore
    | .finishHalf => !wordAfter

inductive Node where
  | empty
  | text (chars : List Char)
  | set (chars : CharSet)
  | look (look : Look)
  | repeated (min : Nat) (max : Option Nat) (greedy : Bool) (body : Node)
  | group (index : Nat) (name : Option String) (body : Node)
  | sequence (items : List Node)
  | choice (items : List Node)
  deriving Inhabited

namespace Node

mutual
def same : Node → Node → Bool
  | empty, empty => true
  | text s, text t => s == t
  | set s, set t => s == t
  | look a, look b => a == b
  | repeated min max greedy a, repeated min' max' greedy' b =>
    min == min' && max == max' && greedy == greedy' && same a b
  | group i name a, group j name' b => i == j && name == name' && same a b
  | sequence as, sequence bs => sameAll as bs
  | choice as, choice bs => sameAll as bs
  | _, _ => false

def sameAll : List Node → List Node → Bool
  | [], [] => true
  | a :: as, b :: bs => same a b && sameAll as bs
  | _, _ => false
end

/-- Whether a node matches nothing but the empty text. -/
def isEmptyOnly : Node → Bool
  | empty | look _ => true
  | text _ | set _ => false
  | repeated _ max _ body => max.isSome && body.isEmptyOnly
  | group _ _ body => body.isEmptyOnly
  | sequence items | choice items => allEmptyOnly items
where
  allEmptyOnly : List Node → Bool
    | [] => true
    | item :: items => item.isEmptyOnly && allEmptyOnly items

/-- The names of the groups, in order. -/
def groupNames : Node → List (Nat × String)
  | empty | text _ | set _ | look _ => []
  | repeated _ _ _ body => body.groupNames
  | group index name body => (name.map fun n => (index, n)).toList ++ body.groupNames
  | sequence items | choice items => namesOfAll items
where
  namesOfAll : List Node → List (Nat × String)
    | [] => []
    | item :: items => item.groupNames ++ namesOfAll items

/-- The number of the last group. -/
def lastGroup : Node → Nat
  | empty | text _ | set _ | look _ => 0
  | repeated _ _ _ body => body.lastGroup
  | group index _ body => Nat.max index body.lastGroup
  | sequence items | choice items => lastOfAll items
where
  lastOfAll : List Node → Nat
    | [] => 0
    | item :: items => Nat.max item.lastGroup (lastOfAll items)

/-- A set with a single character is a text. -/
def ofSet (chars : CharSet) : Node :=
  match chars.only? with
  | some c => text [c]
  | none => set chars

/-- What matches the empty text is not repeated, and what is repeated no time at all is gone. -/
def repetition (min : Nat) (max : Option Nat) (greedy : Bool) (body : Node) : Node :=
  let (min, max) :=
    if body.isEmptyOnly then (Nat.min min 1, some ((max.map (Nat.min · 1)).getD 1)) else (min, max)
  if max = some 0 then empty
  else if min = 1 ∧ max = some 1 then body
  else repeated min max greedy body

/-- Joins the texts that stand side by side. -/
def joinTexts : List Node → List Node
  | [] => []
  | text s :: items =>
    match joinTexts items with
    | text t :: rest => text (s ++ t) :: rest
    | rest => text s :: rest
  | item :: items => item :: joinTexts items

/-- Nodes one after the other. -/
def ofItems (items : List Node) : Node :=
  let flat := items.flatMap fun
    | sequence items => items
    | empty => []
    | item => [item]
  match joinTexts flat with
  | [] => empty
  | [item] => item
  | items => sequence items

def char? : Node → Option Char
  | text [c] => some c
  | _ => none

def set? : Node → Option CharSet
  | set chars => some chars
  | _ => none

/-- Alternatives that are all characters, or all sets, as one set. -/
def asSet? (items : List Node) : Option CharSet :=
  (items.mapM char?).map (fun chars => .ofCodeList (chars.map Char.toNat)) <|>
    (items.mapM set?).map CharSet.unions

/-- One of several nodes. -/
def ofFlatChoices (items : List Node) : Node :=
  let flat := items.flatMap fun
    | choice items => items
    | item => [item]
  match flat with
  | [] => set .empty
  | [item] => item
  | items => ((asSet? items).map ofSet).getD (choice items)

/-- How many nodes two lists have in common at their beginnings. -/
def commonLength : List Node → List Node → Nat
  | a :: as, b :: bs => if a.same b then commonLength as bs + 1 else 0
  | _, _ => 0

def items? : Node → Option (List Node)
  | sequence items => some items
  | _ => none

/-- What begins all alternatives. -/
def commonPrefix (items : List Node) : List Node :=
  match items.mapM items? with
  | some (first :: others) =>
    first.take (others.foldl (fun n other => Nat.min n (commonLength first other)) first.length)
  | _ => []

/-- One of several nodes; what begins all of them is taken out. -/
def ofChoices (items : List Node) : Node :=
  match ofFlatChoices items with
  | choice items =>
    match commonPrefix items with
    | [] => choice items
    | first =>
      let rests := items.map fun item => ofItems (((items? item).getD []).drop first.length)
      ofItems (first ++ [ofFlatChoices rests])
  | item => item

end Node

end Triage.Regex
