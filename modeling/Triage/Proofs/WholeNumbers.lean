import Mathlib.Data.Nat.Digits.Defs
import Triage.Proofs.DocumentReading
import Triage.Proofs.NearestDouble
import Triage.Proofs.NumberText

/-!
# Whole numbers have values

A whole number that is too large for 64 bits is read as a double, through its first digits and one
product with a power of ten. This product stays in the range of the doubles for up to 200 digits
(`exists_value?`), far more than a number of 128 bits has.
-/

namespace Triage

namespace Binary64

variable {x y : Binary64} {v : ℚ}

theorem Near.magnitude_le (h : x.Near v) : x.magnitude ≤ 2 * v := by
  have hpos := x.quarter_pos
  have hhalf : (x.neighbourhood.value : ℚ) ≤ 2 * x.neighbourhood.low := by
    have hnat : x.neighbourhood.value ≤ 2 * x.neighbourhood.low := by
      simp only [neighbourhood]
      split_ifs <;> omega
    exact_mod_cast hnat
  calc x.magnitude = x.neighbourhood.value * x.quarter := magnitude_eq x
    _ ≤ 2 * x.neighbourhood.low * x.quarter := by gcongr
    _ = 2 * (x.neighbourhood.low * x.quarter) := by ring
    _ ≤ 2 * v := by linarith [h.low_le]

theorem mul?_isSome (h : x.magnitude * y.magnitude < 2 ^ 1023) : ∃ z, x.mul? y = some z := by
  obtain ⟨e, he⟩ : ∃ e, e = x.exponent + y.exponent := ⟨_, rfl⟩
  have hproduct : x.magnitude * y.magnitude =
      ((x.mantissa * y.mantissa * 2 ^ e.toNat : ℕ) / (1 * 2 ^ (-e).toNat : ℕ) : ℚ) := by
    have hpower : (2 : ℚ) ^ x.exponent * 2 ^ y.exponent =
        (2 ^ e.toNat : ℕ) / (2 ^ (-e).toNat : ℕ) := by
      rw [← two_zpow_eq_div, he, zpow_add₀ (by norm_num)]
    rw [one_mul, Nat.cast_mul, mul_div_assoc, ← hpower, magnitude, magnitude]
    push_cast
    ring
  rw [hproduct] at h
  rw [mul?, nearestScaled?, ← he]
  rcases Nat.eq_zero_or_pos (x.mantissa * y.mantissa * 2 ^ e.toNat) with hzero | hpos
  · exact ⟨_, by rw [nearest?, if_pos (.inl hzero)]⟩
  · exact nearest?_isSome hpos (by positivity) h

/-- A power of ten as a double; one that is too large counts for zero. -/
theorem magnitude_ofDecimal?_le (n : ℕ) :
    ((ofDecimal? false 1 n).getD default).magnitude ≤ 2 * 10 ^ n := by
  cases h : ofDecimal? false 1 n with
  | none =>
    rw [Option.getD_none, show (default : Binary64) = zero false from rfl, magnitude_zero]
    positivity
  | some x =>
    rw [ofDecimal?, if_neg (by omega)] at h
    split_ifs at h with hlarge hsmall
    · omega
    · obtain ⟨-, hnear⟩ := near_nearest? (by positivity) (by positivity) h
      have hmagnitude := hnear.magnitude_le
      simpa using hmagnitude

end Binary64

namespace Json.Number

theorem Significand.power_addWhole : ∀ (s : Significand) (whole : List Char),
    s.power ≤ (s.addWhole whole).power ∧ (s.addWhole whole).power ≤ s.power + whole.length
  | s, [] => by simp [addWhole]
  | s, c :: rest => by
    rw [addWhole, List.length_cons]
    split
    · have hrest := power_addWhole ⟨10 * s.digits + Text.digitValue c, s.power⟩ rest
      push_cast
      dsimp only at hrest
      omega
    · push_cast
      omega

theorem Significand.exists_toFloat? {s : Significand} {negative : Bool}
    (hdigits : s.digits < 2 ^ 64) (hnonneg : 0 ≤ s.power) (hpower : s.power ≤ 200) :
    ∃ n, s.toFloat? negative = some n := by
  obtain ⟨x, hx⟩ := @Binary64.ofInt?_isSome s.digits (by simpa using hdigits)
  obtain ⟨p, hp⟩ := Int.eq_ofNat_of_zero_le hnonneg
  have hmagnitude : x.magnitude ≤ 2 * 2 ^ 64 := by
    obtain ⟨-, hnear⟩ := Binary64.near_ofInt? hx
    refine hnear.magnitude_le.trans ?_
    have hfits : (s.digits : ℚ) < 2 ^ 64 := by exact_mod_cast hdigits
    rw [Int.cast_natCast, abs_of_nonneg (by positivity)]
    linarith
  have hsixteen : (10 : ℚ) ^ p ≤ 2 ^ (4 * p) := by
    rw [pow_mul]
    gcongr
    norm_num
  obtain ⟨y, hy⟩ : ∃ y, x.mul? ((Binary64.ofDecimal? false 1 p).getD default) = some y := by
    refine Binary64.mul?_isSome ?_
    calc x.magnitude * ((Binary64.ofDecimal? false 1 p).getD default).magnitude
        ≤ 2 * 2 ^ 64 * (2 * 10 ^ p) := by
          gcongr
          · exact Binary64.magnitude_nonneg _
          · exact Binary64.magnitude_ofDecimal?_le p
      _ ≤ 2 * 2 ^ 64 * (2 * 2 ^ (4 * p)) := by gcongr
      _ = 2 ^ (66 + 4 * p) := by rw [pow_add]; ring
      _ < 2 ^ 1023 := pow_lt_pow_right₀ (by norm_num) (by omega)
  have hscale : scaleBy? 4 x s.power = some y := by
    rw [scaleBy?, if_pos (by omega), if_pos hnonneg, hp, Int.natAbs_natCast]
    exact hy
  exact ⟨_, by rw [toFloat?, hx, Option.bind_eq_bind, Option.bind_some, hscale]; rfl⟩

/-- A whole number of so many digits has a value. -/
theorem exists_value? {whole : List Char} (h : whole.length ≤ 200) :
    ∃ n, Lexeme.value? ⟨false, whole, none, none⟩ = some n := by
  have hpower := Significand.power_addWhole ⟨0, 0⟩ whole
  have hdigits : (Significand.addWhole ⟨0, 0⟩ whole).digits < 2 ^ 64 :=
    Significand.digits_addWhole (by norm_num)
  simp only [Lexeme.value?]
  by_cases hlarge : (Significand.addWhole ⟨0, 0⟩ whole).power = 0
  · rw [if_neg (not_not.2 hlarge), if_pos (by decide)]
    exact ⟨_, rfl⟩
  · rw [if_pos hlarge]
    dsimp only at hpower
    exact Significand.exists_toFloat? hdigits (by omega) (by omega)

end Json.Number

end Triage
