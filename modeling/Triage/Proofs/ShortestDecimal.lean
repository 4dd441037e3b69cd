import Mathlib.Algebra.Order.Field.Power
import Mathlib.Algebra.Order.Field.Rat
import Mathlib.Tactic.FieldSimp
import Mathlib.Tactic.NormNum
import Mathlib.Tactic.Positivity
import Mathlib.Tactic.Ring
import Triage.Binary64.Shortest

/-!
# The shortest decimal is near its double

Among the grids that `shortest` tries, one is finer than a quarter of the double's last place, so
the decimal that it finds rounds to the double (`near_shortest`). No number rounds to two doubles
of different magnitude (`eq_of_near`), so the decimal says which double it is.
-/

namespace Triage.Binary64

/-- The number that a decimal stands for. -/
def Decimal.value (d : Decimal) : ℚ := d.digits * 10 ^ d.power

/-- A quarter of the last place of a double, which its neighbourhood is counted in. -/
def quarter (x : Binary64) : ℚ := 2 ^ (x.exponent - 2)

/-- The number lies in the neighbourhood of the double. -/
structure Near (x : Binary64) (v : ℚ) : Prop where
  low_le : x.neighbourhood.low * x.quarter ≤ v
  le_high : v ≤ x.neighbourhood.high * x.quarter
  low_lt : x.neighbourhood.closed = false → x.neighbourhood.low * x.quarter < v
  lt_high : x.neighbourhood.closed = false → v < x.neighbourhood.high * x.quarter

theorem zpow_eq_div (b : ℕ) (hb : 0 < b) (p : ℤ) :
    (b : ℚ) ^ p = (b ^ p.toNat : ℕ) / (b ^ (-p).toNat : ℕ) := by
  have hb : (b : ℚ) ≠ 0 := by positivity
  rw [Nat.cast_pow, Nat.cast_pow, ← zpow_natCast, ← zpow_natCast, ← zpow_sub₀ hb]
  congr 1
  omega

theorem two_zpow_eq_div (p : ℤ) : (2 : ℚ) ^ p = (2 ^ p.toNat : ℕ) / (2 ^ (-p).toNat : ℕ) := by
  exact_mod_cast zpow_eq_div 2 (by omega) p

section Grid

variable {num den a b : ℕ} {p : ℤ}

/-- Both sides of a comparison with a point of a grid become whole by the same factor. -/
theorem exists_common_scale (num : ℕ) (hden : 0 < den) (p : ℤ) : ∃ scale : ℚ, 0 < scale
    ∧ (∀ a : ℕ, ((a * (num * 10 ^ (-p).toNat) : ℕ) : ℚ) = a * (num / den) * scale)
    ∧ ∀ b : ℕ, ((b * (den * 10 ^ p.toNat) : ℕ) : ℚ) = b * 10 ^ p * scale := by
  have hten : (10 : ℚ) ^ p = (10 ^ p.toNat : ℕ) / (10 ^ (-p).toNat : ℕ) := by
    exact_mod_cast zpow_eq_div 10 (by omega) p
  refine ⟨den * 10 ^ (-p).toNat, by positivity, fun a => ?_, fun b => ?_⟩
  · push_cast
    field_simp
  · rw [hten]
    push_cast
    field_simp

/-- Comparing with a point of a grid without leaving the whole numbers. -/
theorem ratio_le_grid_iff (hden : 0 < den) :
    a * (num * 10 ^ (-p).toNat) ≤ b * (den * 10 ^ p.toNat) ↔
      (a : ℚ) * (num / den) ≤ b * 10 ^ p := by
  obtain ⟨scale, hpos, hratio, hgrid⟩ := exists_common_scale num hden p
  rw [← Nat.cast_le (α := ℚ), hratio, hgrid, mul_le_mul_iff_left₀ hpos]

theorem grid_le_ratio_iff (hden : 0 < den) :
    b * (den * 10 ^ p.toNat) ≤ a * (num * 10 ^ (-p).toNat) ↔
      (b : ℚ) * 10 ^ p ≤ a * (num / den) := by
  obtain ⟨scale, hpos, hratio, hgrid⟩ := exists_common_scale num hden p
  rw [← Nat.cast_le (α := ℚ), hratio, hgrid, mul_le_mul_iff_left₀ hpos]

end Grid

section Logarithms

variable {num den : ℕ}

theorem two_zpow_binaryLog_le (hnum : 0 < num) (hden : 0 < den) :
    (2 : ℚ) ^ binaryLog num den ≤ num / den := by
  rw [binaryLog]
  split
  · rename_i h
    rw [two_zpow_eq_div, div_le_div_iff₀ (by positivity) (by positivity)]
    exact_mod_cast (mul_comm den _) ▸ h
  · have hlow : 2 ^ num.log2 ≤ num := Nat.log2_self_le (by omega)
    have hhigh : den < 2 ^ (den.log2 + 1) := Nat.lt_log2_self
    rw [sub_sub, zpow_sub₀ (by norm_num), zpow_natCast, ← Nat.cast_add_one, zpow_natCast]
    refine div_le_div₀ (by positivity) (by exact_mod_cast hlow) (by positivity) ?_
    exact_mod_cast hhigh.le

theorem lt_two_zpow_binaryLog (hden : 0 < den) : (num / den : ℚ) < 2 ^ (binaryLog num den + 1) := by
  rw [binaryLog]
  split
  · have hhigh : num < 2 ^ (num.log2 + 1) := Nat.lt_log2_self
    have hlow : 2 ^ den.log2 ≤ den := Nat.log2_self_le (by omega)
    rw [sub_add_eq_add_sub, zpow_sub₀ (by norm_num), zpow_natCast, ← Nat.cast_add_one, zpow_natCast]
    refine div_lt_div₀ (by exact_mod_cast hhigh) (by exact_mod_cast hlow) (by positivity)
      (by positivity)
  · rename_i h
    rw [sub_add_cancel, two_zpow_eq_div, div_lt_div_iff₀ (by positivity) (by positivity)]
    exact_mod_cast mul_comm den _ ▸ Nat.not_le.1 h

/-- The first guess at a decimal logarithm is not too large. -/
theorem ten_zpow_guess_le {l : ℤ} (hlow : -1100 ≤ l) (hhigh : l ≤ 1100) :
    (10 : ℚ) ^ (l * 30103 / 100000 - 2) ≤ 2 ^ l := by
  obtain ⟨k, hk⟩ : ∃ k, k = l * 30103 / 100000 - 2 := ⟨_, rfl⟩
  rw [← hk]
  rcases le_or_gt 0 k with hnonneg | hneg
  · obtain ⟨n, rfl⟩ := Int.eq_ofNat_of_zero_le hnonneg
    obtain ⟨m, rfl⟩ := Int.eq_ofNat_of_zero_le (show 0 ≤ l by omega)
    rw [zpow_natCast, zpow_natCast]
    have hcube : ((10 : ℚ) ^ n) ^ 3 ≤ (2 ^ m) ^ 3 := by
      rw [← pow_mul, ← pow_mul, mul_comm n, pow_mul]
      calc ((10 : ℚ) ^ 3) ^ n ≤ (2 ^ 10) ^ n := by gcongr; norm_num
        _ = 2 ^ (10 * n) := by rw [← pow_mul]
        _ ≤ 2 ^ (m * 3) := by
          refine pow_le_pow_right₀ (by norm_num) ?_
          omega
    exact le_of_pow_le_pow_left₀ (by norm_num) (by positivity) hcube
  · rcases le_or_gt 0 l with hl | hl
    · exact (zpow_le_one_of_nonpos₀ (by norm_num) hneg.le).trans
        (one_le_zpow₀ (by norm_num) hl)
    · obtain ⟨n, hn⟩ := Int.eq_ofNat_of_zero_le (show 0 ≤ -k by omega)
      obtain ⟨m, hm⟩ := Int.eq_ofNat_of_zero_le (show 0 ≤ -l by omega)
      obtain rfl : k = -(n : ℤ) := by omega
      obtain rfl : l = -(m : ℤ) := by omega
      rw [zpow_neg, zpow_neg, zpow_natCast, zpow_natCast]
      refine inv_anti₀ (by positivity) ?_
      have hpower : ((2 : ℚ) ^ m) ^ 93 ≤ (10 ^ n) ^ 93 := by
        rw [← pow_mul, ← pow_mul, mul_comm m, pow_mul]
        calc ((2 : ℚ) ^ 93) ^ m ≤ (10 ^ 28) ^ m := by gcongr; norm_num
          _ = 10 ^ (28 * m) := by rw [← pow_mul]
          _ ≤ 10 ^ (n * 93) := by
            refine pow_le_pow_right₀ (by norm_num) ?_
            omega
      exact le_of_pow_le_pow_left₀ (by norm_num) (by positivity) hpower

theorem ten_zpow_decimalLogFrom_le (hden : 0 < den) : ∀ (fuel : ℕ) {p : ℤ},
    (10 : ℚ) ^ p ≤ num / den → (10 : ℚ) ^ decimalLogFrom num den fuel p ≤ num / den
  | 0, p, h => h
  | fuel + 1, p, h => by
    rw [decimalLogFrom]
    split
    · rename_i hstep
      have := (@grid_le_ratio_iff num den 1 1 (p + 1) hden).1 (by simpa using hstep)
      exact ten_zpow_decimalLogFrom_le hden fuel (by simpa using this)
    · exact h

theorem ten_zpow_decimalLog_le (hnum : 0 < num) (hden : 0 < den)
    (hlow : -1100 ≤ binaryLog num den) (hhigh : binaryLog num den ≤ 1100) :
    (10 : ℚ) ^ decimalLog num den ≤ num / den :=
  ten_zpow_decimalLogFrom_le hden 4
    ((ten_zpow_guess_le hlow hhigh).trans (two_zpow_binaryLog_le hnum hden))

end Logarithms

section Search

variable {n : Neighbourhood} {num den : ℕ}

/-- What `onGrid?` gives lies in the neighbourhood. -/
theorem onGrid?_bounds (hden : 0 < den) {p : ℤ} {digits : ℕ} (h : onGrid? n num den p = some digits) :
    n.low * (num / den) ≤ (digits * 10 ^ p : ℚ) ∧ (digits * 10 ^ p : ℚ) ≤ n.high * (num / den)
    ∧ (n.closed = false → n.low * (num / den) < (digits * 10 ^ p : ℚ)
      ∧ (digits * 10 ^ p : ℚ) < n.high * (num / den)) := by
  have hwithin (d : ℕ) (hd : (if n.closed then
        n.low * (num * 10 ^ (-p).toNat) ≤ d * (den * 10 ^ p.toNat)
          && d * (den * 10 ^ p.toNat) ≤ n.high * (num * 10 ^ (-p).toNat)
      else n.low * (num * 10 ^ (-p).toNat) < d * (den * 10 ^ p.toNat)
          && d * (den * 10 ^ p.toNat) < n.high * (num * 10 ^ (-p).toNat)) = true) :
      n.low * (num / den) ≤ (d * 10 ^ p : ℚ) ∧ (d * 10 ^ p : ℚ) ≤ n.high * (num / den)
      ∧ (n.closed = false → n.low * (num / den) < (d * 10 ^ p : ℚ)
        ∧ (d * 10 ^ p : ℚ) < n.high * (num / den)) := by
    rw [← ratio_le_grid_iff hden, ← grid_le_ratio_iff hden, ← not_le, ← not_le,
      ← ratio_le_grid_iff hden, ← grid_le_ratio_iff hden]
    cases hclosed : n.closed
    · simp only [hclosed, Bool.false_eq_true, if_false, Bool.and_eq_true, decide_eq_true_eq] at hd
      omega
    · simp only [hclosed, if_true, Bool.and_eq_true, decide_eq_true_eq] at hd
      simpa using hd
  simp only [onGrid?] at h
  split at h
  · rename_i hbelow habove
    split_ifs at h
    · obtain rfl := Option.some.inj h
      exact hwithin _ hbelow
    · obtain rfl := Option.some.inj h
      exact hwithin _ habove
  · rename_i hbelow _
    obtain rfl := Option.some.inj h
    exact hwithin _ hbelow
  · rename_i habove
    obtain rfl := Option.some.inj h
    exact hwithin _ habove
  · simp at h

/-- A grid finer than the unit has a point in the neighbourhood. -/
theorem exists_onGrid? (hden : 0 < den) {p : ℤ} (hlow : n.low + 1 ≤ n.value)
    (hhigh : n.value < n.high) (hfine : (10 : ℚ) ^ p < num / den) :
    ∃ digits, onGrid? n num den p = some digits := by
  have hstep : den * 10 ^ p.toNat < num * 10 ^ (-p).toNat := by
    have := not_le.2 hfine
    rw [← one_mul ((10 : ℚ) ^ p), ← one_mul ((num : ℚ) / den), ← Nat.cast_one,
      ← ratio_le_grid_iff hden] at this
    simpa using this
  have hscale : 0 < den * 10 ^ p.toNat := by positivity
  obtain ⟨scale, hs⟩ : ∃ scale, scale = den * 10 ^ p.toNat := ⟨_, rfl⟩
  obtain ⟨unit, hu⟩ : ∃ unit, unit = num * 10 ^ (-p).toNat := ⟨_, rfl⟩
  rw [← hs] at hscale hstep
  rw [← hu] at hstep
  have hfloor : n.value * unit / scale * scale ≤ n.value * unit := Nat.div_mul_le_self _ _
  have hceil : n.value * unit < n.value * unit / scale * scale + scale := by
    have := Nat.lt_div_mul_add hscale (a := n.value * unit)
    omega
  have hl : n.low * unit + unit ≤ n.value * unit := by
    rw [← Nat.succ_mul]
    exact Nat.mul_le_mul_right unit hlow
  have hh : n.value * unit < n.high * unit := Nat.mul_lt_mul_of_pos_right hhigh (by omega)
  simp only [onGrid?]
  rw [← hs, ← hu]
  generalize n.value * unit / scale = below at *
  have hbelow : (if n.closed then
        n.low * unit ≤ below * scale && below * scale ≤ n.high * unit
      else n.low * unit < below * scale && below * scale < n.high * unit) = true := by
    split <;> simp only [Bool.and_eq_true, decide_eq_true_eq] <;> omega
  rw [hbelow]
  split
  · split_ifs
    · exact ⟨_, rfl⟩
    · exact ⟨_, rfl⟩
  · exact ⟨_, rfl⟩
  · exact ⟨_, rfl⟩
  · rename_i hfalse _
    cases hfalse

theorem shortestFrom_onGrid? (hden : 0 < den) (hlow : n.low + 1 ≤ n.value)
    (hhigh : n.value < n.high) : ∀ (count : ℕ) {p : ℤ}, (10 : ℚ) ^ (p - count) < num / den →
      onGrid? n num den (shortestFrom n num den (count + 1) p).power =
        some (shortestFrom n num den (count + 1) p).digits
  | 0, p, hfine => by
    obtain ⟨digits, h⟩ := exists_onGrid? hden hlow hhigh (by simpa using hfine)
    simp [shortestFrom, h]
  | count + 1, p, hfine => by
    rw [shortestFrom]
    split
    · rename_i digits h
      exact h
    · refine shortestFrom_onGrid? hden hlow hhigh count ?_
      rwa [show p - 1 - count = p - (count + 1 : ℕ) by push_cast; ring]

end Search

section Near

variable {x y : Binary64} {v : ℚ}

theorem quarter_eq (x : Binary64) : x.quarter =
    ((2 ^ (x.exponent - 2).toNat : ℕ) : ℚ) / ((2 ^ (-(x.exponent - 2)).toNat : ℕ) : ℚ) := by
  rw [quarter, two_zpow_eq_div]

theorem quarter_pos (x : Binary64) : 0 < x.quarter := by
  rw [quarter]
  positivity

theorem mantissa_lt (x : Binary64) : x.mantissa < 2 ^ 53 := x.canonical.1

theorem low_add_one_le (hpos : 0 < x.mantissa) :
    x.neighbourhood.low + 1 ≤ x.neighbourhood.value := by
  simp only [neighbourhood]
  split <;> omega

theorem value_lt_high (x : Binary64) : x.neighbourhood.value < x.neighbourhood.high := by
  simp only [neighbourhood]
  omega

/-- The exponents that `shortest` works with. -/
theorem binaryLog_bounds (x : Binary64) :
    -1100 ≤ binaryLog (x.neighbourhood.value * 2 ^ (x.exponent - 2).toNat)
      (2 ^ (-(x.exponent - 2)).toNat)
    ∧ binaryLog (x.neighbourhood.value * 2 ^ (x.exponent - 2).toNat)
      (2 ^ (-(x.exponent - 2)).toNat) ≤ 1100 := by
  obtain ⟨hm, hlow, hhigh, -⟩ := x.canonical
  have hlt : x.neighbourhood.value * 2 ^ (x.exponent - 2).toNat <
      2 ^ (55 + (x.exponent - 2).toNat) := by
    rw [pow_add]
    gcongr
    simp only [neighbourhood]
    omega
  have hlog : (x.neighbourhood.value * 2 ^ (x.exponent - 2).toNat).log2 <
      55 + (x.exponent - 2).toNat := by
    by_cases hzero : x.neighbourhood.value * 2 ^ (x.exponent - 2).toNat = 0
    · simp [hzero]
    · exact (Nat.log2_lt hzero).2 hlt
  simp only [binaryLog, Nat.log2_two_pow]
  split <;> omega

/-- The shortest decimal of a double rounds to it. -/
theorem near_shortest (x : Binary64) : x.Near x.shortest.value := by
  by_cases hzero : x.mantissa = 0
  · have hq := x.quarter_pos
    have hshortest : x.shortest = ⟨0, 0⟩ := by rw [shortest, if_pos hzero]
    rw [hshortest]
    constructor <;> simp [Decimal.value, neighbourhood, hzero, hq.le]
  have hpos : 0 < x.mantissa := by omega
  have hden : 0 < 2 ^ (-(x.exponent - 2)).toNat := by positivity
  have hvalue : 0 < x.neighbourhood.value := by simpa [neighbourhood] using hpos
  obtain ⟨hlow, hhigh⟩ := x.binaryLog_bounds
  have hlog := ten_zpow_decimalLog_le (Nat.mul_pos hvalue (by positivity)) hden hlow hhigh
  have hfound : onGrid? x.neighbourhood (2 ^ (x.exponent - 2).toNat)
      (2 ^ (-(x.exponent - 2)).toNat) x.shortest.power = some x.shortest.digits := by
    rw [shortest, if_neg hzero]
    refine shortestFrom_onGrid? hden (low_add_one_le hpos) x.value_lt_high 17 ?_
    -- the last grid is `10 ^ 17` times finer than the first, which is no coarser than the double
    have hsmall : (x.neighbourhood.value : ℚ) < 10 ^ 17 := by
      have : x.neighbourhood.value < 10 ^ 17 := by
        have := x.mantissa_lt
        simp only [neighbourhood]
        omega
      exact_mod_cast this
    have hquarter := x.quarter_pos
    rw [← quarter_eq, zpow_sub₀ (by norm_num), div_lt_iff₀ (by positivity)]
    rw [Nat.cast_mul, mul_div_assoc, ← quarter_eq] at hlog
    calc _ ≤ x.neighbourhood.value * x.quarter := hlog
      _ < 10 ^ 17 * x.quarter := by gcongr
      _ = x.quarter * 10 ^ ((17 : ℕ) : ℤ) := by rw [zpow_natCast, mul_comm]
  obtain ⟨h1, h2, h3⟩ := onGrid?_bounds hden hfound
  rw [← quarter_eq] at h1 h2 h3
  exact ⟨h1, h2, fun h => (h3 h).1, fun h => (h3 h).2⟩

/-- The neighbourhood of a smaller double ends before that of a larger one begins, or where it
begins when one of them leaves that point out. -/
theorem high_le_low (h : x.exponent < y.exponent
      ∨ x.exponent = y.exponent ∧ x.mantissa < y.mantissa) :
    x.neighbourhood.high * x.quarter ≤ y.neighbourhood.low * y.quarter
    ∧ (x.neighbourhood.closed = true → y.neighbourhood.closed = true →
      x.neighbourhood.high * x.quarter < y.neighbourhood.low * y.quarter) := by
  obtain ⟨hxm, hxe, -, -⟩ := x.canonical
  obtain ⟨-, -, -, hym⟩ := y.canonical
  have hpos := x.quarter_pos
  rcases h with h | ⟨he, hm⟩
  · have hy : 2 ^ 52 ≤ y.mantissa := hym.resolve_left (by omega)
    have hdouble : 2 * x.quarter ≤ y.quarter := by
      rw [quarter, quarter, ← zpow_one_add₀ (by norm_num)]
      exact zpow_le_zpow_right₀ (by norm_num) (by omega)
    have hends : x.neighbourhood.high ≤ y.neighbourhood.low * 2
        ∧ (x.neighbourhood.closed = true → x.neighbourhood.high < y.neighbourhood.low * 2) := by
      simp only [neighbourhood, beq_iff_eq]
      split <;> omega
    have hscaled : (y.neighbourhood.low * 2 : ℕ) * x.quarter
        ≤ y.neighbourhood.low * y.quarter := by
      rw [Nat.cast_mul, mul_assoc]
      gcongr
      exact hdouble
    refine ⟨le_trans ?_ hscaled, fun hx _ => lt_of_lt_of_le ?_ hscaled⟩
    · gcongr
      exact hends.1
    · gcongr
      exact hends.2 hx
  · have hsame : y.quarter = x.quarter := by rw [quarter, quarter, he]
    have hends : x.neighbourhood.high ≤ y.neighbourhood.low
        ∧ (x.neighbourhood.closed = true → y.neighbourhood.closed = true →
          x.neighbourhood.high < y.neighbourhood.low) := by
      simp only [neighbourhood, beq_iff_eq]
      split <;> omega
    rw [hsame]
    refine ⟨?_, fun hx hy => ?_⟩
    · gcongr
      exact hends.1
    · gcongr
      exact hends.2 hx hy

theorem not_near_of_lt (h : x.exponent < y.exponent
      ∨ x.exponent = y.exponent ∧ x.mantissa < y.mantissa) (hx : x.Near v) (hy : y.Near v) :
    False := by
  obtain ⟨hle, hlt⟩ := high_le_low h
  cases hcx : x.neighbourhood.closed with
  | false => exact absurd (hle.trans hy.low_le) (not_le.2 (hx.lt_high hcx))
  | true =>
    cases hcy : y.neighbourhood.closed with
    | false => exact absurd (hx.le_high.trans hle) (not_le.2 (hy.low_lt hcy))
    | true => exact absurd (hx.le_high.trans_lt (hlt hcx hcy)) (not_lt.2 hy.low_le)

/-- A number is near doubles of one magnitude only. -/
theorem eq_of_near (hx : x.Near v) (hy : y.Near v) :
    x.mantissa = y.mantissa ∧ x.exponent = y.exponent := by
  rcases lt_trichotomy x.exponent y.exponent with he | he | he
  · exact (not_near_of_lt (.inl he) hx hy).elim
  · rcases lt_trichotomy x.mantissa y.mantissa with hm | hm | hm
    · exact (not_near_of_lt (.inr ⟨he, hm⟩) hx hy).elim
    · exact ⟨hm, he⟩
    · exact (not_near_of_lt (.inr ⟨he.symm, hm⟩) hy hx).elim
  · exact (not_near_of_lt (.inl he) hy hx).elim

/-- Doubles with the same sign and the same shortest decimal are the same. -/
theorem eq_of_shortest_value (hsign : x.negative = y.negative)
    (h : x.shortest.value = y.shortest.value) : x = y := by
  obtain ⟨hm, he⟩ := eq_of_near x.near_shortest (h ▸ y.near_shortest)
  cases x
  cases y
  simp_all

end Near

end Triage.Binary64
