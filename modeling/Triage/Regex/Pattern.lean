/-!
# Patterns as written

What a pattern says before its flags are applied. Groups are counted from one, in the order of
their opening parentheses.
-/

namespace Triage.Regex

inductive Mode where
  | ignoreCase
  | multiLine
  | dotMatchesAll
  | swapGreed
  | unicode
  | crlf
  | ignoreBlanks
  deriving DecidableEq, Repr

/-- Modes to switch on or off. -/
abbrev ModeChanges := List (Mode × Bool)

/-- How words lie beside a place. -/
inductive WordEdge where
  | border
  | noEdge
  | start
  | finish
  | startHalf
  | finishHalf
  deriving DecidableEq, Repr

/-- A place between characters that a pattern can ask for. -/
inductive Anchor where
  | lineStart
  | lineEnd
  | textStart
  | textEnd
  | word (edge : WordEdge)
  deriving DecidableEq, Repr

inductive ClassKind where
  | word
  | digit
  | blank
  deriving DecidableEq, Repr

/-- How two classes are combined. -/
inductive ClassOp where
  | intersection
  | difference
  | symmetricDifference
  deriving DecidableEq, Repr

/-- What a class of characters is made of. -/
inductive ClassItem where
  | char (c : Char)
  | range (first last : Char)
  | kind (kind : ClassKind) (negated : Bool)
  | posix (name : String) (negated : Bool)
  | named (name : List Char) (negated : Bool)
  | valued (property value : List Char) (negated : Bool)
  | nested (negated : Bool) (item : ClassItem)
  | union (items : List ClassItem)
  | combined (op : ClassOp) (left right : ClassItem)
  deriving Inhabited

inductive Pattern where
  | empty
  /-- A character; `code` says that it is written as a number of two digits. -/
  | char (c : Char) (code : Bool)
  | dot
  | anchor (anchor : Anchor)
  | modes (changes : ModeChanges)
  | set (item : ClassItem)
  | repeated (min : Nat) (max : Option Nat) (greedy : Bool) (body : Pattern)
  | group (index : Nat) (name : Option String) (body : Pattern)
  | moded (changes : ModeChanges) (body : Pattern)
  | sequence (items : List Pattern)
  | choice (items : List Pattern)
  deriving Inhabited

namespace ClassItem

/-- How deep brackets and combinations are nested. -/
def depth : ClassItem → Nat
  | nested _ item => item.depth + 1
  | union [] => 0
  | union items => depths items + 1
  | combined _ left right => max left.depth right.depth + 1
  | _ => 0
where
  depths : List ClassItem → Nat
    | [] => 0
    | item :: items => max item.depth (depths items)

end ClassItem

namespace Pattern

/-- How deep the constructions of a pattern are nested. -/
def depth : Pattern → Nat
  | set item => item.depth
  | repeated _ _ _ body => body.depth + 1
  | group _ _ body => body.depth + 1
  | moded _ body => body.depth + 1
  | sequence items => depths items + 1
  | choice items => depths items + 1
  | _ => 0
where
  depths : List Pattern → Nat
    | [] => 0
    | item :: items => max item.depth (depths items)

/-- The items one after the other. -/
def ofItems : List Pattern → Pattern
  | [] => empty
  | [item] => item
  | items => sequence items

/-- One of the items. -/
def ofChoices : List Pattern → Pattern
  | [item] => item
  | items => choice items

/-- Whether a repetition can apply to the pattern. -/
def isRepeatable : Pattern → Bool
  | empty | modes _ => false
  | _ => true

end Pattern

end Triage.Regex
