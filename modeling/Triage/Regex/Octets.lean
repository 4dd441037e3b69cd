/-!
# Characters as octets

A stretch of characters is cut into pieces such that the octets of each are all the sequences that
have their first octet in one range, their second one in another, and so on.
-/

namespace Triage.Regex

/-- The first and the last octet at one place. -/
structure OctetRange where
  first : Nat
  last : Nat
  deriving DecidableEq

/-- Where a stretch of codes has to be cut: the end of its first part and the beginning of the
second. -/
def cut? (first last : Nat) : Option (Nat × Nat) :=
  if first < 0xe000 ∧ 0xd7ff < last then some (0xd7ff, 0xe000)
  else
    match [0x7f, 0x7ff, 0xffff].find? fun edge => first ≤ edge && edge < last with
    | some edge => some (edge, edge + 1)
    | none =>
      if last ≤ 0x7f then none
      else
        [64, 4096, 262144].findSome? fun block =>
          if first / block = last / block then none
          else if first % block ≠ 0 then
            some (first / block * block + block - 1, first / block * block + block)
          else if last % block ≠ block - 1 then
            some (last / block * block - 1, last / block * block)
          else none

/-- The octets of a character. -/
def octetsOf (code : Nat) : List Nat :=
  if code ≤ 0x7f then [code]
  else if code ≤ 0x7ff then [0xc0 + code / 64, 0x80 + code % 64]
  else if code ≤ 0xffff then [0xe0 + code / 4096, 0x80 + code / 64 % 64, 0x80 + code % 64]
  else
    [0xf0 + code / 262144, 0x80 + code / 4096 % 64, 0x80 + code / 64 % 64, 0x80 + code % 64]

/-- The pieces of a stretch, after at most so many cuts on the way to each. -/
def piecesOf : Nat → Nat → Nat → List (List OctetRange)
  | 0, _, _ => []
  | n + 1, first, last =>
    match cut? first last with
    | some (last', first') => piecesOf n first last' ++ piecesOf n first' last
    | none => [List.zipWith OctetRange.mk (octetsOf first) (octetsOf last)]

/-- The pieces of a set of characters. No piece takes more than ten cuts: one at the codes that are
no characters, three for the lengths, two for each later octet. -/
def octetRanges (pairs : List (Nat × Nat)) : List (List OctetRange) :=
  pairs.flatMap fun (first, last) => piecesOf 16 first last

end Triage.Regex
