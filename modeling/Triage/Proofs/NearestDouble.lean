import Mathlib.Tactic.Linarith
import Triage.Proofs.ShortestDecimal

/-!
# The nearest double is near

No double is nearer to a number than the one whose neighbourhood it lies in (`Near.abs_sub_le`), and
rounding keeps a number in the neighbourhood of the double that it becomes (`near_nearest?`). So the
double of an integer is the only one of its sign that the integer is near (`ofInt?_eq_some_iff`).
Every integer of at most 64 bits becomes a double, and up to `2 ^ 53` it is that double's value.
-/

namespace Triage.Binary64

/-- The exact number that a double stands for, without its sign. -/
def magnitude (x : Binary64) : ℚ := x.mantissa * 2 ^ x.exponent

/-- The exact number that a double stands for. -/
def value (x : Binary64) : ℚ := if x.negative then -x.magnitude else x.magnitude

section Values

variable {x y : Binary64}

theorem magnitude_eq (x : Binary64) : x.magnitude = x.neighbourhood.value * x.quarter := by
  simp only [magnitude, neighbourhood, quarter]
  rw [zpow_sub₀ (by norm_num)]
  push_cast
  ring

theorem magnitude_nonneg (x : Binary64) : 0 ≤ x.magnitude := by
  rw [magnitude]
  positivity

@[simp]
theorem magnitude_zero (negative : Bool) : (zero negative).magnitude = 0 := by
  simp [magnitude, zero]

@[simp]
theorem value_zero (negative : Bool) : (zero negative).value = 0 := by
  simp [value]

theorem abs_value (x : Binary64) : |x.value| = x.magnitude := by
  rw [value]
  split
  · rw [abs_neg, abs_of_nonneg x.magnitude_nonneg]
  · rw [abs_of_nonneg x.magnitude_nonneg]

theorem eq_zero_of_magnitude (h : x.magnitude = 0) : x = zero x.negative := by
  have hmantissa : x.mantissa = 0 := by
    rw [magnitude, mul_eq_zero_iff_right (by positivity)] at h
    exact_mod_cast h
  have hexponent : x.exponent = -1074 := by
    rcases x.canonical.2.2.2 with hleast | hlarge
    · exact hleast
    · rw [hmantissa] at hlarge
      exact absurd hlarge (by norm_num)
  cases x
  simp_all [zero]

/-- Apart from minus zero, a double has the sign of its value. -/
theorem negative_eq (hne : x ≠ zero true) : x.negative = decide (x.value < 0) := by
  have hnonneg := x.magnitude_nonneg
  rw [value]
  cases hsign : x.negative
  · simpa using hnonneg
  · have hpos : x.magnitude ≠ 0 := by
      intro h
      exact hne (hsign ▸ eq_zero_of_magnitude h)
    simpa using lt_of_le_of_ne hnonneg hpos.symm

theorem units_eq (x : Binary64) : (x.units : ℚ) = x.value * 2 ^ (1074 : ℤ) := by
  have hexp : 0 ≤ x.exponent + 1074 := by
    have := x.canonical.2.1
    omega
  have hmagnitude : ((x.mantissa * 2 ^ (x.exponent + 1074).toNat : ℕ) : ℚ) =
      x.magnitude * 2 ^ (1074 : ℤ) := by
    rw [magnitude, mul_assoc, ← zpow_add₀ (by norm_num)]
    push_cast
    rw [← zpow_natCast, Int.toNat_of_nonneg hexp]
  simp only [units, value]
  split
  · rw [Int.cast_neg, Int.cast_natCast, neg_mul]
    exact congrArg Neg.neg hmagnitude
  · rw [Int.cast_natCast]
    exact hmagnitude

theorem order_eq_iff : x.order y = .eq ↔ x.value = y.value := by
  rw [order, Std.LawfulEqCmp.compare_eq_iff_eq, ← Int.cast_inj (α := ℚ), units_eq, units_eq,
    mul_left_inj' (by positivity)]

/-- A double is near its own value. -/
theorem near_magnitude (x : Binary64) : x.Near x.magnitude := by
  have hpos := x.quarter_pos
  have hends : x.neighbourhood.low ≤ x.neighbourhood.value
      ∧ x.neighbourhood.value ≤ x.neighbourhood.high
      ∧ (x.neighbourhood.closed = false → x.neighbourhood.low < x.neighbourhood.value
        ∧ x.neighbourhood.value < x.neighbourhood.high) := by
    simp only [neighbourhood, beq_eq_false_iff_ne]
    split <;> omega
  rw [magnitude_eq]
  constructor
  · gcongr
    exact hends.1
  · gcongr
    exact hends.2.1
  · intro hclosed
    gcongr
    exact (hends.2.2 hclosed).1
  · intro hclosed
    gcongr
    exact (hends.2.2 hclosed).2

theorem eq_of_near_of_sign {v : ℚ} (hx : x.Near v) (hy : y.Near v)
    (hsign : x.negative = y.negative) : x = y := by
  obtain ⟨hm, he⟩ := eq_of_near hx hy
  cases x
  cases y
  simp_all

/-- The number half way between two doubles lies between their neighbourhoods. -/
theorem midpoint_bounds (h : x.exponent < y.exponent
      ∨ x.exponent = y.exponent ∧ x.mantissa < y.mantissa) :
    2 * (x.neighbourhood.high * x.quarter) ≤ x.magnitude + y.magnitude
    ∧ x.magnitude + y.magnitude ≤ 2 * (y.neighbourhood.low * y.quarter) := by
  have hpos := x.quarter_pos
  have hlt := x.mantissa_lt
  rw [magnitude_eq, magnitude_eq]
  rcases h with h | ⟨he, hm⟩
  · have hleast : y.exponent ≠ -1074 := by
      have := x.canonical.2.1
      omega
    have hy : 2 ^ 52 ≤ y.mantissa := y.canonical.2.2.2.resolve_left hleast
    have hdouble : 2 * x.quarter ≤ y.quarter := by
      rw [quarter, quarter, ← zpow_one_add₀ (by norm_num)]
      exact zpow_le_zpow_right₀ (by norm_num) (by omega)
    obtain ⟨hhigh, hlow⟩ :
        2 * x.neighbourhood.high ≤ x.neighbourhood.value + 2 * y.neighbourhood.value
        ∧ x.neighbourhood.value + 2 * y.neighbourhood.value ≤ 4 * y.neighbourhood.low := by
      simp only [neighbourhood]
      split <;> omega
    have hhigh : (2 * x.neighbourhood.high : ℚ) ≤
        x.neighbourhood.value + 2 * y.neighbourhood.value := by exact_mod_cast hhigh
    have hlow : (x.neighbourhood.value + 2 * y.neighbourhood.value : ℚ) ≤
        4 * y.neighbourhood.low := by exact_mod_cast hlow
    constructor
    · calc (2 * (x.neighbourhood.high * x.quarter) : ℚ)
          ≤ (x.neighbourhood.value + 2 * y.neighbourhood.value) * x.quarter := by
            rw [← mul_assoc]
            gcongr
        _ = x.neighbourhood.value * x.quarter + y.neighbourhood.value * (2 * x.quarter) := by ring
        _ ≤ x.neighbourhood.value * x.quarter + y.neighbourhood.value * y.quarter := by gcongr
    · have hrest : (0 : ℚ) ≤ 2 * y.neighbourhood.low - y.neighbourhood.value := by
        have : (0 : ℚ) ≤ x.neighbourhood.value := by positivity
        linarith
      calc (x.neighbourhood.value * x.quarter + y.neighbourhood.value * y.quarter : ℚ)
          ≤ (4 * y.neighbourhood.low - 2 * y.neighbourhood.value) * x.quarter
            + y.neighbourhood.value * y.quarter := by
            gcongr
            linarith
        _ = (2 * y.neighbourhood.low - y.neighbourhood.value) * (2 * x.quarter)
            + y.neighbourhood.value * y.quarter := by ring
        _ ≤ (2 * y.neighbourhood.low - y.neighbourhood.value) * y.quarter
            + y.neighbourhood.value * y.quarter := by gcongr
        _ = 2 * (y.neighbourhood.low * y.quarter) := by ring
  · have hsame : y.quarter = x.quarter := by rw [quarter, quarter, he]
    have hends : 2 * x.neighbourhood.high ≤ x.neighbourhood.value + y.neighbourhood.value
        ∧ x.neighbourhood.value + y.neighbourhood.value ≤ 2 * y.neighbourhood.low := by
      simp only [neighbourhood]
      split <;> omega
    rw [hsame, ← add_mul, ← mul_assoc, ← mul_assoc]
    constructor
    · gcongr
      exact_mod_cast hends.1
    · gcongr
      exact_mod_cast hends.2

theorem magnitude_lt (h : x.exponent < y.exponent
      ∨ x.exponent = y.exponent ∧ x.mantissa < y.mantissa) : x.magnitude < y.magnitude := by
  have hpos := x.quarter_pos
  have hhigh : (x.neighbourhood.value : ℚ) < x.neighbourhood.high := by
    exact_mod_cast x.value_lt_high
  have hstep : x.magnitude < x.neighbourhood.high * x.quarter := by
    rw [magnitude_eq]
    gcongr
  linarith [(midpoint_bounds h).1]

/-- No double is nearer to a number than the one whose neighbourhood it lies in. -/
theorem Near.abs_sub_le {v : ℚ} (hx : x.Near v) (y : Binary64) :
    |v - x.magnitude| ≤ |v - y.magnitude| := by
  have hbelow (h : x.exponent < y.exponent ∨ x.exponent = y.exponent ∧ x.mantissa < y.mantissa) :
      |v - x.magnitude| ≤ |v - y.magnitude| := by
    have hmid := hx.le_high
    refine (abs_le.2 ⟨?_, ?_⟩).trans (neg_le_abs _)
    · linarith [magnitude_lt h, (midpoint_bounds h).1]
    · linarith [(midpoint_bounds h).1]
  have habove (h : y.exponent < x.exponent ∨ y.exponent = x.exponent ∧ y.mantissa < x.mantissa) :
      |v - x.magnitude| ≤ |v - y.magnitude| := by
    have hmid := hx.low_le
    refine (abs_le.2 ⟨?_, ?_⟩).trans (le_abs_self _)
    · linarith [(midpoint_bounds h).2]
    · linarith [magnitude_lt h, (midpoint_bounds h).2]
  rcases lt_trichotomy x.exponent y.exponent with he | he | he
  · exact hbelow (.inl he)
  · rcases lt_trichotomy x.mantissa y.mantissa with hm | hm | hm
    · exact hbelow (.inr ⟨he, hm⟩)
    · rw [magnitude, magnitude, he, hm]
    · exact habove (.inr ⟨he.symm, hm⟩)
  · exact habove (.inl he)

end Values

section Rounding

variable {negative : Bool} {num den : ℕ} {x : Binary64}

/-- What is rounded is at most half away, and less than half away from an odd number. -/
theorem roundQuotient_bounds (hden : 0 < den) :
    2 * num ≤ (2 * roundQuotient num den + 1) * den
    ∧ 2 * roundQuotient num den * den ≤ 2 * num + den
    ∧ (roundQuotient num den % 2 = 1 → 2 * num < (2 * roundQuotient num den + 1) * den
      ∧ 2 * roundQuotient num den * den < 2 * num + den) := by
  have hnum : den * (num / den) + num % den = num := Nat.div_add_mod num den
  have hrest : num % den < den := Nat.mod_lt num hden
  simp only [roundQuotient]
  generalize num / den = q at *
  generalize num % den = r at *
  have hprod : (2 * q + 1) * den = 2 * (den * q) + den := by ring
  have hprod' : 2 * q * den = 2 * (den * q) := by ring
  have hnext : (2 * (q + 1) + 1) * den = 2 * (den * q) + 3 * den := by ring
  have hnext' : 2 * (q + 1) * den = 2 * (den * q) + 2 * den := by ring
  split
  · rw [hnext, hnext']
    omega
  · rw [hprod, hprod']
    omega

theorem le_roundQuotient {k : ℕ} (hden : 0 < den) (h : k * den ≤ num) :
    k ≤ roundQuotient num den := by
  obtain ⟨habove, -⟩ := @roundQuotient_bounds num den hden
  have hscaled : 2 * k * den ≤ (2 * roundQuotient num den + 1) * den := by
    rw [mul_assoc]
    omega
  have := le_of_mul_le_mul_right hscaled hden
  omega

theorem roundQuotient_le {k : ℕ} (hden : 0 < den) (h : num ≤ k * den) :
    roundQuotient num den ≤ k := by
  obtain ⟨-, hbelow, -⟩ := @roundQuotient_bounds num den hden
  have hscaled : 2 * roundQuotient num den * den ≤ (2 * k + 1) * den := by
    rw [add_mul, mul_assoc 2 k]
    omega
  have := le_of_mul_le_mul_right hscaled hden
  omega

/-- The same in quarters of the last place of what is rounded to. -/
theorem rounded_bounds (hden : 0 < den) (e : ℤ) {m : ℕ}
    (hm : m = roundQuotient (num * 2 ^ (-e).toNat) (den * 2 ^ e.toNat)) :
    (num / den : ℚ) ≤ (4 * m + 2) * 2 ^ (e - 2)
    ∧ (4 * m : ℚ) * 2 ^ (e - 2) ≤ num / den + 2 * 2 ^ (e - 2)
    ∧ (m % 2 = 1 → (num / den : ℚ) < (4 * m + 2) * 2 ^ (e - 2)
      ∧ (4 * m : ℚ) * 2 ^ (e - 2) < num / den + 2 * 2 ^ (e - 2)) := by
  obtain ⟨h1, h2, h3⟩ := @roundQuotient_bounds (num * 2 ^ (-e).toNat) (den * 2 ^ e.toNat)
    (by positivity)
  rw [← hm] at h1 h2 h3
  -- in units of `unit` everything is whole
  have hquarter : (2 : ℚ) ^ (e - 2) = 2 ^ e / 4 := by
    rw [zpow_sub₀ (by norm_num)]
    norm_num
  obtain ⟨unit, hunit⟩ : ∃ unit : ℚ, unit = 1 / (2 * den * (2 ^ (-e).toNat : ℕ)) := ⟨_, rfl⟩
  have hpos : 0 < unit := by rw [hunit]; positivity
  have hratio : (num / den : ℚ) = (2 * (num * 2 ^ (-e).toNat) : ℕ) * unit := by
    rw [hunit]
    push_cast
    field_simp
  have hscale (k : ℚ) : k * 2 ^ (e - 2) = k / 2 * (den * 2 ^ e.toNat : ℕ) * unit := by
    rw [hunit, hquarter, two_zpow_eq_div]
    push_cast
    field_simp
    ring
  have hhigh : (4 * m + 2 : ℚ) * 2 ^ (e - 2) =
      ((2 * m + 1) * (den * 2 ^ e.toNat) : ℕ) * unit := by
    rw [hscale]
    push_cast
    ring
  have hlow : (4 * m : ℚ) * 2 ^ (e - 2) = (2 * m * (den * 2 ^ e.toNat) : ℕ) * unit := by
    rw [hscale]
    push_cast
    ring
  have hsum : (num / den : ℚ) + 2 * 2 ^ (e - 2) =
      (2 * (num * 2 ^ (-e).toNat) + den * 2 ^ e.toNat : ℕ) * unit := by
    rw [hratio, hscale]
    push_cast
    ring
  rw [hhigh, hlow, hsum, hratio, mul_le_mul_iff_left₀ hpos, mul_le_mul_iff_left₀ hpos,
    mul_lt_mul_iff_left₀ hpos, mul_lt_mul_iff_left₀ hpos, Nat.cast_le, Nat.cast_le, Nat.cast_lt,
    Nat.cast_lt]
  exact ⟨h1, h2, h3⟩

theorem ofRounded?_eq_some {m : ℕ} {e : ℤ} (h : ofRounded? negative m e = some x) :
    x.negative = negative ∧ (m = 2 ^ 53 ∧ x.mantissa = 2 ^ 52 ∧ x.exponent = e + 1
      ∨ m ≠ 2 ^ 53 ∧ x.mantissa = m ∧ x.exponent = e) := by
  simp only [ofRounded?] at h
  by_cases hmax : m = 2 ^ 53
  · obtain ⟨hcanonical, h⟩ := Option.dite_none_right_eq_some.1 h
    obtain rfl := Option.some.inj h
    exact ⟨rfl, .inl ⟨hmax, congrArg Prod.fst (if_pos hmax), congrArg Prod.snd (if_pos hmax)⟩⟩
  · obtain ⟨hcanonical, h⟩ := Option.dite_none_right_eq_some.1 h
    obtain rfl := Option.some.inj h
    exact ⟨rfl, .inr ⟨hmax, congrArg Prod.fst (if_neg hmax), congrArg Prod.snd (if_neg hmax)⟩⟩

section Near

variable {v : ℚ}

theorem near_of_even (heven : x.mantissa % 2 = 0) (hlow : x.neighbourhood.low * x.quarter ≤ v)
    (hhigh : v ≤ x.neighbourhood.high * x.quarter) : x.Near v := by
  have hclosed : x.neighbourhood.closed = true := by simp [neighbourhood, heven]
  exact ⟨hlow, hhigh, by simp [hclosed], by simp [hclosed]⟩

/-- Where the 54th bit was used, the double is the least one of the next exponent. -/
theorem near_of_carry {e : ℤ} (hleast : -1074 ≤ e) (hmantissa : x.mantissa = 2 ^ 52)
    (hexponent : x.exponent = e + 1) (habove : v ≤ (4 * 2 ^ 53 + 2) * 2 ^ (e - 2))
    (hbelow : 4 * 2 ^ 53 * 2 ^ (e - 2) ≤ v + 2 * 2 ^ (e - 2)) : x.Near v := by
  have hpos : (0 : ℚ) < 2 ^ (e - 2) := by positivity
  have hquarter : x.quarter = 2 * 2 ^ (e - 2) := by
    rw [quarter, hexponent, show e + 1 - 2 = 1 + (e - 2) by ring, zpow_add₀ (by norm_num),
      zpow_one]
  have hlow : x.neighbourhood.low = 4 * 2 ^ 52 - 1 := by
    simp only [neighbourhood, hmantissa, hexponent]
    rw [if_pos ⟨trivial, by omega⟩]
  have hhigh : x.neighbourhood.high = 4 * 2 ^ 52 + 2 := by simp only [neighbourhood, hmantissa]
  refine near_of_even (by rw [hmantissa]; norm_num) ?_ ?_
  · rw [hlow, hquarter]
    push_cast
    linarith
  · rw [hhigh, hquarter]
    push_cast
    linarith

/-- Below the least double of an exponent the doubles lie closer, so no number may have been rounded
up to it. -/
theorem near_of_least (hmantissa : x.mantissa = 2 ^ 52) (hlog : 2 ^ (x.exponent + 52) ≤ v)
    (habove : v ≤ (4 * 2 ^ 52 + 2) * x.quarter) : x.Near v := by
  have hpos := x.quarter_pos
  have hhigh : x.neighbourhood.high = 4 * 2 ^ 52 + 2 := by simp only [neighbourhood, hmantissa]
  have hlow : (x.neighbourhood.low : ℚ) ≤ 4 * 2 ^ 52 := by
    have : x.neighbourhood.low ≤ 4 * 2 ^ 52 := by
      simp only [neighbourhood, hmantissa]
      split <;> omega
    exact_mod_cast this
  have hpower : (2 : ℚ) ^ (x.exponent + 52) = 4 * 2 ^ 52 * x.quarter := by
    rw [quarter, show x.exponent + 52 = 54 + (x.exponent - 2) by ring, zpow_add₀ (by norm_num)]
    norm_num
  refine near_of_even (by rw [hmantissa]; norm_num) ?_ ?_
  · calc (x.neighbourhood.low : ℚ) * x.quarter ≤ 4 * 2 ^ 52 * x.quarter := by gcongr
      _ ≤ v := hpower ▸ hlog
  · rw [hhigh]
    exact_mod_cast habove

/-- Between doubles of one exponent the neighbourhood reaches half a place to both sides. -/
theorem near_of_between (hleast : ¬(x.mantissa = 2 ^ 52 ∧ x.exponent ≠ -1074)) (hpos : 0 < v)
    (habove : v ≤ (4 * x.mantissa + 2) * x.quarter)
    (hbelow : 4 * x.mantissa * x.quarter ≤ v + 2 * x.quarter)
    (hodd : x.mantissa % 2 = 1 → v < (4 * x.mantissa + 2) * x.quarter
      ∧ 4 * x.mantissa * x.quarter < v + 2 * x.quarter) : x.Near v := by
  have hclosed : x.neighbourhood.closed = false → x.mantissa % 2 = 1 := by simp [neighbourhood]
  have hhigh : (x.neighbourhood.high : ℚ) = 4 * x.mantissa + 2 := by simp [neighbourhood]
  rcases Nat.eq_zero_or_pos x.mantissa with hzero | hmantissa
  · have hlow : x.neighbourhood.low = 0 := by
      simp only [neighbourhood, if_neg hleast]
      omega
    refine ⟨?_, hhigh ▸ habove, fun h => ?_, fun h => hhigh ▸ (hodd (hclosed h)).1⟩
    · simpa [hlow] using hpos.le
    · simpa [hlow] using hpos
  · have hlow : (x.neighbourhood.low : ℚ) * x.quarter =
        4 * x.mantissa * x.quarter - 2 * x.quarter := by
      have : x.neighbourhood.low + 2 = 4 * x.mantissa := by
        simp only [neighbourhood, if_neg hleast]
        omega
      rw [← sub_mul, eq_sub_of_add_eq (show (x.neighbourhood.low + 2 : ℚ) = 4 * x.mantissa by
        exact_mod_cast this)]
    refine ⟨?_, hhigh ▸ habove, fun h => ?_, fun h => hhigh ▸ (hodd (hclosed h)).1⟩
    · rw [hlow]
      linarith
    · rw [hlow]
      linarith [(hodd (hclosed h)).2]

end Near

/-- Rounding keeps a number in the neighbourhood of the double that it becomes. -/
theorem near_nearest? (hnum : 0 < num) (hden : 0 < den)
    (h : nearest? negative num den = some x) : x.negative = negative ∧ x.Near (num / den) := by
  rw [nearest?, if_neg (by omega)] at h
  obtain ⟨e, he⟩ : ∃ e, e = max (binaryLog num den - 52) (-1074) := ⟨_, rfl⟩
  obtain ⟨m, hm⟩ : ∃ m, m = roundQuotient (num * 2 ^ (-e).toNat) (den * 2 ^ e.toNat) := ⟨_, rfl⟩
  obtain ⟨habove, hbelow, hodd⟩ := rounded_bounds hden e hm
  simp only [← he] at h
  rw [← hm] at h
  obtain ⟨hsign, ⟨rfl, hmantissa, hexponent⟩ | ⟨-, hmantissa, hexponent⟩⟩ := ofRounded?_eq_some h
  · push_cast at habove hbelow
    exact ⟨hsign, near_of_carry (by omega) hmantissa hexponent habove hbelow⟩
  · have hquarter : x.quarter = 2 ^ (e - 2) := by rw [quarter, hexponent]
    rw [← hquarter, ← hmantissa] at habove hbelow hodd
    by_cases hleast : x.mantissa = 2 ^ 52 ∧ x.exponent ≠ -1074
    · have hlog := two_zpow_binaryLog_le hnum hden
      rw [show binaryLog num den = x.exponent + 52 by omega] at hlog
      rw [hleast.1] at habove
      push_cast at habove
      exact ⟨hsign, near_of_least hleast.1 hlog habove⟩
    · exact ⟨hsign, near_of_between hleast (by positivity) habove hbelow hodd⟩

end Rounding

section Integers

variable {n : ℕ} {i : ℤ} {x : Binary64}

theorem ofRounded?_isSome {negative : Bool} {m : ℕ} {e : ℤ} (hleast : -1074 ≤ e) (he : e < 971)
    (hlow : e = -1074 ∨ 2 ^ 52 ≤ m) (hhigh : m ≤ 2 ^ 53) :
    ∃ x, ofRounded? negative m e = some x := by
  simp only [ofRounded?]
  by_cases hmax : m = 2 ^ 53
  · have hcanonical : Canonical (2 ^ 52) (e + 1) := ⟨by norm_num, by omega, by omega, .inr le_rfl⟩
    exact ⟨_, by rw [if_pos hmax]; exact dif_pos hcanonical⟩
  · have hcanonical : Canonical m e := ⟨by omega, hleast, he.le, hlow⟩
    exact ⟨_, by rw [if_neg hmax]; exact dif_pos hcanonical⟩

/-- Comparing with a power of two without leaving the whole numbers. -/
theorem scaled_le_iff {num den k : ℕ} (hden : 0 < den) (e : ℤ) :
    (num / den : ℚ) ≤ k * 2 ^ e ↔ num * 2 ^ (-e).toNat ≤ k * (den * 2 ^ e.toNat) := by
  rw [two_zpow_eq_div, ← mul_div_assoc, div_le_div_iff₀ (by positivity) (by positivity), mul_assoc,
    mul_comm _ (den : ℚ)]
  exact_mod_cast Iff.rfl

theorem le_scaled_iff {num den k : ℕ} (hden : 0 < den) (e : ℤ) :
    (k * 2 ^ e : ℚ) ≤ num / den ↔ k * (den * 2 ^ e.toNat) ≤ num * 2 ^ (-e).toNat := by
  rw [two_zpow_eq_div, ← mul_div_assoc, div_le_div_iff₀ (by positivity) (by positivity), mul_assoc,
    mul_comm _ (den : ℚ)]
  exact_mod_cast Iff.rfl

/-- Below the largest power of two that is a double, rounding finds one. -/
theorem nearest?_isSome {negative : Bool} {num den : ℕ} (hnum : 0 < num) (hden : 0 < den)
    (h : (num / den : ℚ) < 2 ^ 1023) : ∃ x, nearest? negative num den = some x := by
  have hbelow := two_zpow_binaryLog_le hnum hden
  have habove := @lt_two_zpow_binaryLog num den hden
  have hlog : binaryLog num den < 1023 := by
    have hpower : (2 : ℚ) ^ binaryLog num den < 2 ^ (1023 : ℤ) := by
      exact_mod_cast hbelow.trans_lt h
    exact (zpow_lt_zpow_iff_right₀ (by norm_num)).1 hpower
  rw [nearest?, if_neg (by omega)]
  obtain ⟨e, he⟩ : ∃ e : ℤ, e = max (binaryLog num den - 52) (-1074) := ⟨_, rfl⟩
  simp only [← he]
  have hpos : 0 < den * 2 ^ e.toNat := by positivity
  refine ofRounded?_isSome (by omega) (by omega) ?_ (roundQuotient_le hpos ?_)
  · by_cases hleast : e = -1074
    · exact .inl hleast
    · refine .inr (le_roundQuotient hpos ((le_scaled_iff hden e).1 ?_))
      have hpower : ((2 ^ 52 : ℕ) * 2 ^ e : ℚ) = 2 ^ binaryLog num den := by
        rw [show binaryLog num den = 52 + e by omega, zpow_add₀ (by norm_num)]
        norm_num
      exact hpower ▸ hbelow
  · refine (scaled_le_iff hden e).1 (habove.le.trans ?_)
    have hpower : ((2 ^ 53 : ℕ) * 2 ^ e : ℚ) = 2 ^ (53 + e) := by
      rw [zpow_add₀ (by norm_num)]
      norm_num
    rw [hpower]
    exact zpow_le_zpow_right₀ (by norm_num) (by omega)

/-- An integer of at most 64 bits becomes a double. -/
theorem ofInt?_isSome (h : i.natAbs < 2 ^ 64) : ∃ x, ofInt? i = some x := by
  rcases eq_or_ne i 0 with rfl | hne
  · exact ⟨zero false, rfl⟩
  · refine nearest?_isSome (Int.natAbs_pos.2 hne) one_pos ?_
    have hfits : (i.natAbs : ℚ) < 2 ^ 64 := by exact_mod_cast h
    rw [Nat.cast_one, div_one]
    exact hfits.trans (pow_lt_pow_right₀ (by norm_num) (by norm_num))

theorem near_ofInt? (h : ofInt? i = some x) : x.negative = decide (i < 0) ∧ x.Near |(i : ℚ)| := by
  rcases eq_or_ne i 0 with rfl | hne
  · obtain rfl : zero false = x := Option.some.inj h
    have hzero : (zero false).magnitude = |((0 : ℤ) : ℚ)| := by simp
    exact ⟨rfl, hzero ▸ near_magnitude (zero false)⟩
  · obtain ⟨hsign, hnear⟩ := near_nearest? (Int.natAbs_pos.2 hne) one_pos h
    rw [Nat.cast_one, div_one, Nat.cast_natAbs, Int.cast_abs] at hnear
    exact ⟨hsign, hnear⟩

/-- The double of an integer is the one of its sign that the integer is near. -/
theorem ofInt?_eq_some_iff (h : i.natAbs < 2 ^ 64) :
    ofInt? i = some x ↔ x.negative = decide (i < 0) ∧ x.Near |(i : ℚ)| := by
  refine ⟨near_ofInt?, fun ⟨hsign, hnear⟩ => ?_⟩
  obtain ⟨y, hy⟩ := ofInt?_isSome h
  obtain ⟨hysign, hynear⟩ := near_ofInt? hy
  rw [hy, eq_of_near_of_sign hynear hnear (hysign.trans hsign.symm)]

/-- Up to `2 ^ 53` every integer is the value of a double. -/
theorem exists_magnitude_eq (negative : Bool) (h : n ≤ 2 ^ 53) :
    ∃ x : Binary64, x.negative = negative ∧ x.magnitude = n := by
  rcases Nat.eq_zero_or_pos n with rfl | hpos
  · exact ⟨zero negative, rfl, by simp⟩
  rcases h.eq_or_lt with rfl | hlt
  · refine ⟨⟨negative, 2 ^ 52, 1, by decide⟩, rfl, ?_⟩
    norm_num [magnitude]
  · have hlog : n.log2 ≤ 52 := by
      have := (Nat.log2_lt (by omega)).2 hlt
      omega
    have hlow : 2 ^ 52 ≤ n * 2 ^ (52 - n.log2) := by
      calc 2 ^ 52 = 2 ^ n.log2 * 2 ^ (52 - n.log2) := by rw [← pow_add]; congr 1; omega
        _ ≤ n * 2 ^ (52 - n.log2) := Nat.mul_le_mul_right _ (Nat.log2_self_le (by omega))
    have hhigh : n * 2 ^ (52 - n.log2) < 2 ^ 53 := by
      calc n * 2 ^ (52 - n.log2) < 2 ^ (n.log2 + 1) * 2 ^ (52 - n.log2) :=
            Nat.mul_lt_mul_of_pos_right Nat.lt_log2_self (by positivity)
        _ = 2 ^ 53 := by rw [← pow_add]; congr 1; omega
    refine ⟨⟨negative, n * 2 ^ (52 - n.log2), n.log2 - 52, hhigh, by omega, by omega, .inr hlow⟩,
      rfl, ?_⟩
    have hexp : (2 : ℚ) ^ ((n.log2 : ℤ) - 52) * 2 ^ (52 - n.log2) = 1 := by
      rw [← zpow_natCast, ← zpow_add₀ (by norm_num), Nat.cast_sub hlog]
      simp
    simp only [magnitude]
    push_cast
    rw [mul_assoc, mul_comm (2 ^ _ : ℚ), hexp, mul_one]

end Integers

end Triage.Binary64
