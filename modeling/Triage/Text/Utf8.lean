/-!
# UTF-8

Bytes are read one at a time; a character may stay open until its last byte. `units` gives one
entry per character, and `none` for every longest run of bytes that starts a character and is
broken off. The strict and the lossy reading are both read off it.
-/

namespace Triage

/-- The content of a file. -/
abbrev Bytes := List UInt8

namespace Utf8

/-- A character that has begun: `left` more bytes are owed, the next of them between `low` and
`high`, and `value` holds the bits read so far. -/
structure Open where
  left : Nat
  low : Nat
  high : Nat
  value : Nat

/-- What a byte between characters does: it is a character of its own, it is none, or it opens
one. -/
inductive Lead where
  | closed (unit : Option Char)
  | opened (char : Open)

def lead (b : Nat) : Lead :=
  if b ≤ 0x7f then .closed (some (Char.ofNat b))
  else if b < 0xc2 then .closed none
  else if b ≤ 0xdf then .opened ⟨1, 0x80, 0xbf, b - 0xc0⟩
  else if b = 0xe0 then .opened ⟨2, 0xa0, 0xbf, 0⟩
  else if b = 0xed then .opened ⟨2, 0x80, 0x9f, 0xd⟩
  else if b ≤ 0xef then .opened ⟨2, 0x80, 0xbf, b - 0xe0⟩
  else if b = 0xf0 then .opened ⟨3, 0x90, 0xbf, 0⟩
  else if b ≤ 0xf3 then .opened ⟨3, 0x80, 0xbf, b - 0xf0⟩
  else if b = 0xf4 then .opened ⟨3, 0x80, 0x8f, 4⟩
  else .closed none

/-- How far reading has come: the character that is open, if any, and the entries so far, newest
first. -/
structure Progress where
  char : Option Open
  units : List (Option Char)

/-- Reads one byte; a byte that does not continue the open character is read again as a lead. -/
def Progress.step (p : Progress) (byte : UInt8) : Progress :=
  let b := byte.toNat
  let begin (units : List (Option Char)) : Progress :=
    match lead b with
    | .closed unit => ⟨none, unit :: units⟩
    | .opened char => ⟨some char, units⟩
  match p.char with
  | none => begin p.units
  | some char =>
    if char.low ≤ b ∧ b ≤ char.high then
      let value := 64 * char.value + (b - 0x80)
      if char.left ≤ 1 then ⟨none, some (Char.ofNat value) :: p.units⟩
      else ⟨some ⟨char.left - 1, 0x80, 0xbf, value⟩, p.units⟩
    else begin (none :: p.units)

/-- The entries in order; a character still open at the end is broken off. -/
def Progress.finish (p : Progress) : List (Option Char) :=
  (if p.char.isSome then none :: p.units else p.units).reverse

/-- The characters of a byte sequence, with `none` for each broken one. -/
def units (bytes : Bytes) : List (Option Char) :=
  (bytes.foldl Progress.step ⟨none, []⟩).finish

/-- The characters, when every byte belongs to one. -/
def decode? (bytes : Bytes) : Option (List Char) := (units bytes).mapM id

/-- The characters, with the replacement character for each broken one. -/
def decodeLossy (bytes : Bytes) : List Char := (units bytes).map fun unit => unit.getD '\uFFFD'

/-- How many bytes the leading well-formed characters take up. -/
def validBytes (bytes : Bytes) : Nat :=
  ((units bytes).takeWhile Option.isSome).foldl
    (fun n unit => n + (unit.map Char.utf8Size).getD 0) 0

def encode (s : List Char) : Bytes := s.flatMap String.utf8EncodeChar

end Utf8

/-- The bytes of a text. -/
def bytesOf (s : String) : Bytes := Utf8.encode s.toList

/-- How many bytes a text takes up. -/
def byteLength (s : String) : Nat := s.utf8ByteSize

end Triage
