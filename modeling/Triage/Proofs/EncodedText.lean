import Mathlib.Data.String.Basic
import Triage.Text.Utf8

/-!
# Text that is encoded

The bytes of a text read back as its characters, each of them whole (`units_encode`). A line feed is
among the bytes only where it is among the characters (`lineFeed_not_mem_encode`), so a text without
one is one line of a file.
-/

namespace Triage.Utf8

section Lead

variable {b : ℕ}

theorem lead_one (h : b ≤ 0x7f) : lead b = .closed (some (Char.ofNat b)) := if_pos h

theorem lead_two (hlow : 0xc2 ≤ b) (hhigh : b ≤ 0xdf) :
    lead b = .opened ⟨1, 0x80, 0xbf, b - 0xc0⟩ := by
  unfold lead
  rw [if_neg (by omega), if_neg (by omega), if_pos hhigh]

theorem lead_three (hlow : 0xe0 ≤ b) (hhigh : b ≤ 0xef) :
    lead b = .opened ⟨2, if b = 0xe0 then 0xa0 else 0x80, if b = 0xed then 0x9f else 0xbf,
      b - 0xe0⟩ := by
  unfold lead
  rw [if_neg (by omega), if_neg (by omega), if_neg (by omega)]
  by_cases hfirst : b = 0xe0
  · rw [if_pos hfirst, hfirst]
    rfl
  by_cases hlast : b = 0xed
  · rw [if_neg hfirst, if_pos hlast, hlast]
    rfl
  · rw [if_neg hfirst, if_neg hlast, if_pos hhigh, if_neg hfirst, if_neg hlast]

theorem lead_four (hlow : 0xf0 ≤ b) (hhigh : b ≤ 0xf4) :
    lead b = .opened ⟨3, if b = 0xf0 then 0x90 else 0x80, if b = 0xf4 then 0x8f else 0xbf,
      b - 0xf0⟩ := by
  unfold lead
  rw [if_neg (by omega), if_neg (by omega), if_neg (by omega), if_neg (by omega),
    if_neg (by omega), if_neg (by omega)]
  by_cases hfirst : b = 0xf0
  · rw [if_pos hfirst, hfirst]
    rfl
  by_cases hlast : b = 0xf4
  · rw [if_neg hfirst, if_neg (by omega), if_pos hlast, hlast]
    rfl
  · rw [if_neg hfirst, if_pos (by omega), if_neg hfirst, if_neg hlast]

end Lead

section Step

variable {b : UInt8} {char : Open} {read : List (Option Char)}

theorem step_closed {unit : Option Char} (h : lead b.toNat = .closed unit) :
    Progress.step ⟨none, read⟩ b = ⟨none, unit :: read⟩ := by
  simp [Progress.step, h]

theorem step_opened (h : lead b.toNat = .opened char) :
    Progress.step ⟨none, read⟩ b = ⟨some char, read⟩ := by
  simp [Progress.step, h]

theorem step_continued (hlow : char.low ≤ b.toNat) (hhigh : b.toNat ≤ char.high)
    (hleft : 1 < char.left) : Progress.step ⟨some char, read⟩ b =
      ⟨some ⟨char.left - 1, 0x80, 0xbf, 64 * char.value + (b.toNat - 0x80)⟩, read⟩ := by
  simp [Progress.step, hlow, hhigh, hleft.not_ge]

theorem step_finished (hlow : char.low ≤ b.toNat) (hhigh : b.toNat ≤ char.high)
    (hleft : char.left ≤ 1) : Progress.step ⟨some char, read⟩ b =
      ⟨none, some (Char.ofNat (64 * char.value + (b.toNat - 0x80))) :: read⟩ := by
  simp [Progress.step, hlow, hhigh, hleft]

end Step

theorem toNat_ofNat_of_lt {n : ℕ} (h : n < 256) : (UInt8.ofNat n).toNat = n := by
  rw [UInt8.toNat_ofNat']
  omega

/-- Reading the bytes of a character between characters reads the character. -/
theorem foldl_encodeChar (c : Char) (read : List (Option Char)) :
    (String.utf8EncodeChar c).foldl Progress.step ⟨none, read⟩ = ⟨none, some c :: read⟩ := by
  have hvalid : c.toNat < 0xd800 ∨ 0xdfff < c.toNat ∧ c.toNat < 0x110000 := c.valid
  have hc : Char.ofNat c.toNat = c := Char.ofNat_toNat c
  unfold String.utf8EncodeChar
  rw [show c.val.toNat = c.toNat from rfl]
  generalize c.toNat = n at hvalid hc
  have hlast : (UInt8.ofNat (n % 64 + 128)).toNat = n % 64 + 128 := toNat_ofNat_of_lt (by omega)
  have hnext : (UInt8.ofNat (n / 64 % 64 + 128)).toNat = n / 64 % 64 + 128 :=
    toNat_ofNat_of_lt (by omega)
  have hthird : (UInt8.ofNat (n / 4096 % 64 + 128)).toNat = n / 4096 % 64 + 128 :=
    toNat_ofNat_of_lt (by omega)
  dsimp only
  split_ifs with hone htwo hthree
  · have hbyte : (UInt8.ofNat n).toNat = n := toNat_ofNat_of_lt (by omega)
    rw [List.foldl_cons, List.foldl_nil, step_closed (lead_one (by omega)), hbyte, hc]
  · have hfirst : (UInt8.ofNat (n / 64 % 32 + 192)).toNat = n / 64 + 192 := by
      rw [toNat_ofNat_of_lt (by omega)]
      omega
    have hvalue : 64 * (n / 64 + 192 - 192) + (n % 64 + 128 - 128) = n := by omega
    simp only [List.foldl_cons, List.foldl_nil]
    rw [step_opened (lead_two (by omega) (by omega)),
      step_finished (by dsimp only; omega) (by dsimp only; omega) le_rfl, hfirst, hlast, hvalue, hc]
  · have hfirst : (UInt8.ofNat (n / 4096 % 16 + 224)).toNat = n / 4096 + 224 := by
      rw [toNat_ofNat_of_lt (by omega)]
      omega
    have hvalue : 64 * (64 * (n / 4096 + 224 - 224) + (n / 64 % 64 + 128 - 128)) +
        (n % 64 + 128 - 128) = n := by omega
    simp only [List.foldl_cons, List.foldl_nil]
    -- the second byte is bounded where the first is, for the short forms and the surrogates
    rw [step_opened (lead_three (by omega) (by omega)),
      step_continued (by dsimp only; split_ifs <;> omega) (by dsimp only; split_ifs <;> omega)
        (by dsimp only; omega),
      step_finished (by dsimp only; omega) (by dsimp only; omega) le_rfl]
    simp only [hfirst, hnext, hlast, hvalue, hc]
  · have hfirst : (UInt8.ofNat (n / 262144 % 8 + 240)).toNat = n / 262144 + 240 := by
      rw [toNat_ofNat_of_lt (by omega)]
      omega
    have hvalue : 64 * (64 * (64 * (n / 262144 + 240 - 240) + (n / 4096 % 64 + 128 - 128)) +
        (n / 64 % 64 + 128 - 128)) + (n % 64 + 128 - 128) = n := by omega
    simp only [List.foldl_cons, List.foldl_nil]
    rw [step_opened (lead_four (by omega) (by omega)),
      step_continued (by dsimp only; split_ifs <;> omega) (by dsimp only; split_ifs <;> omega)
        (by dsimp only; omega),
      step_continued (by dsimp only; omega) (by dsimp only; omega) (by dsimp only; omega),
      step_finished (by dsimp only; omega) (by dsimp only; omega) le_rfl]
    simp only [hfirst, hnext, hthird, hlast, hvalue, hc]

section Text

variable {s : List Char}

theorem foldl_encode (read : List (Option Char)) :
    (encode s).foldl Progress.step ⟨none, read⟩ = ⟨none, (s.map some).reverse ++ read⟩ := by
  induction s generalizing read with
  | nil => rfl
  | cons c s ih =>
    rw [encode, List.flatMap_cons, List.foldl_append, foldl_encodeChar, ← encode, ih]
    simp

/-- What is encoded reads back, and no byte of it is taken for a broken character. -/
theorem units_encode (s : List Char) : units (encode s) = s.map some := by
  rw [units, foldl_encode]
  simp [Progress.finish]

/-- All bytes of the other characters are above it, or are the character. -/
theorem eq_lineFeed_of_mem_encodeChar {c : Char} (h : 10 ∈ String.utf8EncodeChar c) : c = '\n' := by
  have hten : (10 : UInt8).toNat = 10 := rfl
  unfold String.utf8EncodeChar at h
  rw [show c.val.toNat = c.toNat from rfl] at h
  dsimp only at h
  split_ifs at h
  all_goals
    simp only [List.mem_cons, List.not_mem_nil, or_false, ← UInt8.toNat_inj, UInt8.toNat_ofNat',
      hten] at h
  · exact Char.toNat_inj.1 (show c.toNat = 10 by omega)
  all_goals omega

theorem lineFeed_not_mem_encode (h : '\n' ∉ s) : 10 ∉ encode s := by
  intro hmem
  obtain ⟨c, hc, hbyte⟩ := List.mem_flatMap.1 hmem
  exact h (eq_lineFeed_of_mem_encodeChar hbyte ▸ hc)

end Text

end Triage.Utf8
