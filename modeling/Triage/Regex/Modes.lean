import Triage.Regex.Node

/-!
# Applying modes

Modes hold from where they are set to the end of the group around them. Without the Unicode mode
a pattern must not be able to match parts of a character, and is refused when it could.
-/

namespace Triage.Regex

open Unicode (CharSet)

/-- The modes that are switched on. -/
structure Modes where
  ignoreCase : Bool := false
  multiLine : Bool := false
  dotMatchesAll : Bool := false
  swapGreed : Bool := false
  unicode : Bool := true
  crlf : Bool := false

namespace Modes

def switch (modes : Modes) : Mode × Bool → Modes
  | (.ignoreCase, on) => { modes with ignoreCase := on }
  | (.multiLine, on) => { modes with multiLine := on }
  | (.dotMatchesAll, on) => { modes with dotMatchesAll := on }
  | (.swapGreed, on) => { modes with swapGreed := on }
  | (.unicode, on) => { modes with unicode := on }
  | (.crlf, on) => { modes with crlf := on }
  | (.ignoreBlanks, _) => modes

def apply (modes : Modes) (changes : ModeChanges) : Modes := changes.foldl switch modes

/-- A set with the variants in case that the modes ask for. -/
def fold (modes : Modes) (chars : CharSet) : CharSet :=
  if !modes.ignoreCase then chars
  else if modes.unicode then chars.folded
  else CharClass.asciiFolded chars

/-- Negates a set; without the Unicode mode the result would hold parts of characters. -/
def negate? (modes : Modes) (negated : Bool) (chars : CharSet) : Option CharSet :=
  if !negated then some chars else if modes.unicode then some chars.compl else none

end Modes

namespace ClassItem

/-- The characters of a class of one letter. -/
def kindSet (modes : Modes) : ClassKind → CharSet
  | .word => if modes.unicode then CharClass.word else CharClass.asciiWord
  | .digit => if modes.unicode then CharClass.unicodeDigit else CharClass.digit
  | .blank => if modes.unicode then Unicode.whiteSpace else CharClass.asciiBlank

def combine (op : ClassOp) (s t : CharSet) : CharSet :=
  match op with
  | .intersection => s ∩ t
  | .difference => s \ t
  | .symmetricDifference => s.symmDiff t

/-- A named class exists only in the Unicode mode. -/
def unicodeSet? (modes : Modes) (negated : Bool) (chars? : Option CharSet) : Option CharSet := do
  if modes.unicode then modes.negate? negated (modes.fold (← chars?)) else none

/-- The characters of a class. -/
def toSet? (modes : Modes) : ClassItem → Option CharSet
  | char c => if modes.unicode || c.toNat < 128 then some (.ofChar c) else none
  | range a b => if modes.unicode || b.toNat < 128 then some (CharSet.range a b) else none
  | kind k negated => modes.negate? negated (kindSet modes k)
  | posix name negated => do modes.negate? negated (modes.fold (← CharClass.posix? name))
  | named name negated => unicodeSet? modes negated (CharClass.named? name)
  | valued property value negated => unicodeSet? modes negated (CharClass.valued? property value)
  | nested negated item => do modes.negate? negated (modes.fold (← item.toSet? modes))
  | union items => unionSet? modes items
  | combined op left right => do
    return combine op (modes.fold (← left.toSet? modes)) (modes.fold (← right.toSet? modes))
where
  unionSet? (modes : Modes) : List ClassItem → Option CharSet
    | [] => some .empty
    | item :: items => do return (← item.toSet? modes) ∪ (← unionSet? modes items)

end ClassItem

/-- The place that an anchor asks for. -/
def Anchor.toLook (modes : Modes) : Anchor → Look
  | textStart => .textStart
  | textEnd => .textEnd
  | lineStart => if modes.multiLine then .lineStart modes.crlf else .textStart
  | lineEnd => if modes.multiLine then .lineEnd modes.crlf else .textEnd
  | word edge => .word edge modes.unicode

namespace Node

/-- A single character, with its variants in case. -/
def ofChar (modes : Modes) (c : Char) : Node := ofSet (modes.fold (.ofChar c))

def dot (modes : Modes) : CharSet :=
  if modes.dotMatchesAll then .all
  else if modes.crlf then (.ofChar '\n' ∪ .ofChar '\r' : CharSet).compl
  else (CharSet.ofChar '\n').compl

/-- Applies modes to a pattern, and gives the modes that hold after it. -/
def ofPattern? (modes : Modes) : Pattern → Option (Node × Modes)
  | .empty => some (empty, modes)
  | .char c code =>
    if code && !modes.unicode && 128 ≤ c.toNat then none else some (ofChar modes c, modes)
  | .dot => if modes.unicode then some (ofSet (dot modes), modes) else none
  | .anchor anchor => some (look (anchor.toLook modes), modes)
  | .modes changes => some (empty, modes.apply changes)
  | .set item => do return (ofSet (← item.toSet? modes), modes)
  | .repeated min max greedy body => do
    let (node, after) ← ofPattern? modes body
    return (repetition min max (greedy != modes.swapGreed) node, after)
  | .group index name body => do
    let (node, _) ← ofPattern? modes body
    return (group index name node, modes)
  | .moded changes body => do
    let (node, _) ← ofPattern? (modes.apply changes) body
    return (node, modes)
  | .sequence items => do
    let (nodes, modes) ← ofAll? modes items
    return (ofItems nodes, modes)
  | .choice items => do
    let (nodes, modes) ← ofAll? modes items
    return (ofChoices nodes, modes)
where
  ofAll? (modes : Modes) : List Pattern → Option (List Node × Modes)
    | [] => some ([], modes)
    | item :: items => do
      let (node, modes) ← ofPattern? modes item
      let (nodes, modes) ← ofAll? modes items
      return (node :: nodes, modes)

end Node

end Triage.Regex
