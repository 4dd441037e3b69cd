/-!
# Pieces of a text

Cutting a text at a separator, taking a known piece off either end, and comparing texts without
regard to the case of ASCII letters.
-/

namespace Triage.Text

/-- What is left of `s` after `piece` is taken off its front. -/
def dropFront? (piece s : List Char) : Option (List Char) := piece.isPrefixOf? s

/-- What is left of `s` after `piece` is taken off its end. -/
def dropBack? (piece s : List Char) : Option (List Char) := piece.isSuffixOf? s

/-- The pieces of `s` between the occurrences of `c`; there is always at least one. -/
def splitAt (c : Char) : List Char → List (List Char)
  | [] => [[]]
  | d :: s =>
    if d = c then [] :: splitAt c s
    else
      match splitAt c s with
      | [] => [[d]]
      | piece :: pieces => (d :: piece) :: pieces

/-- Cuts `s` at the first occurrence of `mark`, which belongs to neither side. -/
def cutAt? (mark : List Char) : List Char → Option (List Char × List Char)
  | [] => if mark.isEmpty then some ([], []) else none
  | c :: s =>
    match dropFront? mark (c :: s) with
    | some rest => some ([], rest)
    | none => (cutAt? mark s).map fun (before, after) => (c :: before, after)

/-- The piece of `s` after the last `c`, or all of `s`. -/
def afterLast (c : Char) (s : List Char) : List Char := (splitAt c s).getLastD []

def sameIgnoringCase (s t : List Char) : Bool := s.map Char.toLower == t.map Char.toLower

end Triage.Text

namespace Triage

/-- The pieces of `s` between the occurrences of `c`, as strings. -/
def splitString (c : Char) (s : String) : List String := (Text.splitAt c s.toList).map .ofList

/-- Equality up to the case of ASCII letters. -/
def sameToken (s t : String) : Bool := Text.sameIgnoringCase s.toList t.toList

/-- `s` with its ASCII letters in lower case. -/
def lowered (s : String) : String := .ofList (s.toList.map Char.toLower)

end Triage
