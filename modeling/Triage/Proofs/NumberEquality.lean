import Triage.Json.Equality
import Triage.Proofs.NearestDouble

/-!
# When two numbers are equal

Numbers are equal within their kind, or when they round to the same double. That is equality of
their values, but for two exceptions (`equal_iff_agree`): the integer zero does not equal minus
zero, and different numbers are equal where they round to one double. The second can only happen to
an integer beyond `2 ^ 53` (`Merged.beyond`).
-/

namespace Triage.Json.Number

/-- Integers are kept in 64 bits, with a sign or without. -/
def Stored : Number → Prop
  | .int i => -2 ^ 63 ≤ i ∧ i < 2 ^ 64
  | .float _ => True

instance : (n : Number) → Decidable n.Stored
  | .int _ => inferInstanceAs (Decidable (_ ∧ _))
  | .float _ => inferInstanceAs (Decidable True)

/-- The exact number. -/
def value : Number → ℚ
  | .int i => i
  | .float x => x.value

/-- The number becomes this double: the one of its sign that it is near. -/
def RoundsTo : Number → Binary64 → Prop
  | .int i, x => x.negative = decide (i < 0) ∧ x.Near |(i : ℚ)|
  | .float y, x => y = x

/-- One is the integer zero and the other is minus zero. -/
def ZeroClash (m n : Number) : Prop :=
  m = .int 0 ∧ n = .float (Binary64.zero true) ∨ m = .float (Binary64.zero true) ∧ n = .int 0

/-- Different numbers that round to one double. -/
structure Merged (m n : Number) : Prop where
  ne : m.value ≠ n.value
  shared : ∃ x, m.RoundsTo x ∧ n.RoundsTo x

/-- An integer so large that the doubles lie further apart than the integers. -/
def Beyond : Number → Prop
  | .int i => 2 ^ 53 < i.natAbs
  | .float _ => False

/-- What comparing two numbers finds. -/
def Agree (m n : Number) : Prop :=
  m.value = n.value ∧ ¬ZeroClash m n ∨ Merged m n

variable {m n : Number} {i : ℤ} {x : Binary64}

theorem Stored.natAbs_lt (h : (Number.int i).Stored) : i.natAbs < 2 ^ 64 := by
  obtain ⟨hlow, hhigh⟩ := h
  omega

theorem toFloat?_eq_some_iff (h : m.Stored) : m.toFloat? = some x ↔ m.RoundsTo x := by
  cases m with
  | int i => exact Binary64.ofInt?_eq_some_iff h.natAbs_lt
  | float y => exact Option.some_inj

theorem exists_roundsTo (h : m.Stored) : ∃ x, m.RoundsTo x := by
  cases m with
  | int i =>
    obtain ⟨x, hx⟩ := Binary64.ofInt?_isSome h.natAbs_lt
    exact ⟨x, Binary64.near_ofInt? hx⟩
  | float x => exact ⟨x, rfl⟩

theorem RoundsTo.unique {y : Binary64} (hx : m.RoundsTo x) (hy : m.RoundsTo y) : x = y := by
  cases m with
  | int i => exact Binary64.eq_of_near_of_sign hx.2 hy.2 (hx.1.trans hy.1.symm)
  | float z => exact hx.symm.trans hy

theorem toFloat?_eq_iff (hm : m.Stored) (hn : n.Stored) :
    m.toFloat? = n.toFloat? ↔ ∃ x, m.RoundsTo x ∧ n.RoundsTo x := by
  obtain ⟨x, hx⟩ := exists_roundsTo hm
  obtain ⟨y, hy⟩ := exists_roundsTo hn
  rw [(toFloat?_eq_some_iff hm).2 hx, (toFloat?_eq_some_iff hn).2 hy, Option.some_inj]
  constructor
  · rintro rfl
    exact ⟨x, hx, hy⟩
  · rintro ⟨z, hxz, hyz⟩
    rw [hx.unique hxz, hy.unique hyz]

/-- Equality is equality within the kind, or of the doubles that the numbers round to. -/
theorem equal_iff (hm : m.Stored) (hn : n.Stored) :
    m.equal n = true ↔ m.same n = true ∨ ∃ x, m.RoundsTo x ∧ n.RoundsTo x := by
  obtain ⟨x, hx⟩ := exists_roundsTo hm
  have hsome : m.toFloat?.isSome = true := by
    rw [(toFloat?_eq_some_iff hm).2 hx]
    rfl
  rw [equal, hsome, Bool.true_and, Bool.or_eq_true, beq_iff_eq, toFloat?_eq_iff hm hn]

/-- Rounding changes no double, and no integer up to `2 ^ 53`. -/
theorem RoundsTo.value_eq (h : m.RoundsTo x) (hbeyond : ¬m.Beyond) : m.value = x.value := by
  cases m with
  | float y => rw [value, show y = x from h]
  | int i =>
    obtain ⟨y, hsign, hmagnitude⟩ :=
      Binary64.exists_magnitude_eq (decide (i < 0)) (not_lt.1 hbeyond)
    have habs : |(i : ℚ)| = y.magnitude := by
      rw [hmagnitude, Nat.cast_natAbs, Int.cast_abs]
    have hy : (Number.int i).RoundsTo y := ⟨hsign, habs ▸ y.near_magnitude⟩
    rw [h.unique hy, value, Binary64.value, hsign, ← habs]
    by_cases hneg : i < 0
    · have hneg : (i : ℚ) < 0 := by exact_mod_cast hneg
      simp_all [abs_of_neg]
    · have hnonneg : (0 : ℚ) ≤ i := by exact_mod_cast not_lt.1 hneg
      simp_all [abs_of_nonneg]

theorem Merged.beyond (h : Merged m n) : m.Beyond ∨ n.Beyond := by
  obtain ⟨x, hm, hn⟩ := h.shared
  by_contra hnone
  rw [not_or] at hnone
  exact h.ne ((hm.value_eq hnone.1).trans (hn.value_eq hnone.2).symm)

theorem value_eq_of_same (h : m.same n = true) : m.value = n.value := by
  cases m with
  | int i =>
    cases n with
    | int j => rw [show i = j from beq_iff_eq.1 h]
    | float y => exact absurd h (by simp [same])
  | float x =>
    cases n with
    | int j => exact absurd h (by simp [same])
    | float y => exact Binary64.order_eq_iff.1 (beq_iff_eq.1 h)

/-- An integer becomes the double of its value, unless that is minus zero. -/
theorem roundsTo_of_value (h : (i : ℚ) = x.value)
    (hclash : ¬(i = 0 ∧ x = Binary64.zero true)) : (Number.int i).RoundsTo x := by
  have hne : x ≠ Binary64.zero true := by
    rintro rfl
    rw [Binary64.value_zero, Int.cast_eq_zero] at h
    exact hclash ⟨h, rfl⟩
  constructor
  · rw [Binary64.negative_eq hne, ← h]
    simp
  · rw [h, Binary64.abs_value]
    exact x.near_magnitude

theorem same_or_shared_of_value (h : m.value = n.value) (hclash : ¬ZeroClash m n) :
    m.same n = true ∨ ∃ x, m.RoundsTo x ∧ n.RoundsTo x := by
  cases m with
  | int i =>
    cases n with
    | int j => exact .inl (beq_iff_eq.2 (Int.cast_inj.1 h))
    | float y =>
      refine .inr ⟨y, roundsTo_of_value h fun hzero => hclash (.inl ?_), rfl⟩
      rw [hzero.1, hzero.2]
      exact ⟨rfl, rfl⟩
  | float x =>
    cases n with
    | int j =>
      refine .inr ⟨x, rfl, roundsTo_of_value h.symm fun hzero => hclash (.inr ?_)⟩
      rw [hzero.1, hzero.2]
      exact ⟨rfl, rfl⟩
    | float y => exact .inl (beq_iff_eq.2 (Binary64.order_eq_iff.2 h))

theorem equal_of_zeroClash (h : ZeroClash m n) : m.equal n = false := by
  rcases h with ⟨rfl, rfl⟩ | ⟨rfl, rfl⟩
  · decide
  · decide

theorem equal_iff_agree (hm : m.Stored) (hn : n.Stored) : m.equal n = true ↔ Agree m n := by
  rw [equal_iff hm hn]
  constructor
  · intro h
    by_cases hvalue : m.value = n.value
    · refine .inl ⟨hvalue, fun hclash => ?_⟩
      have hequal := (equal_iff hm hn).2 h
      rw [equal_of_zeroClash hclash] at hequal
      exact absurd hequal (by decide)
    · rcases h with hsame | hshared
      · exact absurd (value_eq_of_same hsame) hvalue
      · exact .inr ⟨hvalue, hshared⟩
  · rintro (⟨hvalue, hclash⟩ | hmerged)
    · exact same_or_shared_of_value hvalue hclash
    · exact .inr hmerged.shared

theorem ZeroClash.value_eq (h : ZeroClash m n) : m.value = n.value := by
  rcases h with ⟨rfl, rfl⟩ | ⟨rfl, rfl⟩
  · simp [value]
  · simp [value]

/-- Where numbers neither clash nor are merged they are equal by their values, and only there. -/
theorem agree_iff_value_iff :
    (Agree m n ↔ m.value = n.value) ↔ ¬ZeroClash m n ∧ ¬Merged m n := by
  constructor
  · intro h
    refine ⟨fun hclash => ?_, fun hmerged => hmerged.ne (h.1 (.inr hmerged))⟩
    rcases h.2 hclash.value_eq with ⟨-, hnone⟩ | hmerged
    · exact hnone hclash
    · exact hmerged.ne hclash.value_eq
  · rintro ⟨hclash, hmerged⟩
    constructor
    · rintro (⟨hvalue, -⟩ | h)
      · exact hvalue
      · exact absurd h hmerged
    · intro hvalue
      exact .inl ⟨hvalue, hclash⟩

end Triage.Json.Number
