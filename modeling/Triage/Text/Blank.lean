/-!
# Blanks and words

Which characters count as white space, and the three things the library does with them: trimming a
text on either side (`trimStart`, `trimEnd`, `trim`) and cutting it into `words`.
-/

namespace Triage.Text

/-- The characters with the Unicode property `White_Space`. -/
def isBlank (c : Char) : Bool :=
  let n := c.toNat
  (0x09 ≤ n && n ≤ 0x0d) || n == 0x20 || n == 0x85 || n == 0xa0 || n == 0x1680 ||
    (0x2000 ≤ n && n ≤ 0x200a) || n == 0x2028 || n == 0x2029 || n == 0x202f || n == 0x205f ||
    n == 0x3000

def trimStart (s : List Char) : List Char := s.dropWhile isBlank

/-- Keeps everything up to the last character that is not blank. -/
def trimEnd : List Char → List Char
  | [] => []
  | c :: s =>
    match trimEnd s with
    | [] => if isBlank c then [] else [c]
    | t => c :: t

def trim (s : List Char) : List Char := trimEnd (trimStart s)

/-- Cuts a text at its blanks: `part` is the word being read, newest character first. -/
def wordsFrom (part : List Char) : List Char → List (List Char)
  | [] => if part.isEmpty then [] else [part.reverse]
  | c :: s =>
    if isBlank c then
      if part.isEmpty then wordsFrom [] s else part.reverse :: wordsFrom [] s
    else wordsFrom (c :: part) s

/-- The maximal runs of characters that are not blank, in order. -/
def words (s : List Char) : List (List Char) := wordsFrom [] s

end Triage.Text

namespace Triage

/-- `s` without the blanks on both sides. -/
def trimmed (s : String) : String := .ofList (Text.trim s.toList)

/-- A text with nothing in it but blanks. -/
def isBlankText (s : String) : Bool := s.toList.all Text.isBlank

theorem trimmed_eq_empty {s : String} (h : isBlankText s = true) : trimmed s = "" := by
  have hstart : (s.toList ++ []).dropWhile Text.isBlank = [].dropWhile Text.isBlank :=
    List.dropWhile_append_of_pos (List.all_eq_true.1 h)
  rw [List.append_nil, ← Text.trimStart] at hstart
  rw [trimmed, Text.trim, hstart]
  rfl

/-- The words of `s`, as strings. -/
def wordsOf (s : String) : List String := (Text.words s.toList).map .ofList

end Triage
