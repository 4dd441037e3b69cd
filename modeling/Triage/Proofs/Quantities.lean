import Mathlib.Data.Rat.Cast.Order
import Mathlib.Tactic.FieldSimp
import Mathlib.Tactic.Ring
import Triage.Clause.Basic
import Triage.Proofs.Clauses
import Triage.Proofs.NumberText

/-!
# Quantities stand for exact numbers of bytes

A quantity is a decimal number and a unit, and stands for a rational number of bytes (`Spells`).
Reading succeeds exactly when this is a whole number below `2 ^ 64`, which is then the answer
(`parse_eq_ok`): no step on the way loses anything, and none is out of range unless the whole number
is. So a clause about a quantity compares with the exact value (`quantity_eq_ok`), and quantities of
one magnitude can stand for each other in it (`quantities_exact`).
-/

namespace Triage

namespace Text

theorem cutAt?_cons (c d : Char) (s : List Char) : cutAt? [c] (d :: s) =
    if c = d then some ([], s) else (cutAt? [c] s).map fun p => (d :: p.1, p.2) := by
  by_cases h : c = d <;> simp [cutAt?, dropFront?, List.isPrefixOf?, h]

/-- A text is cut at the first of its marks. -/
theorem cutAt?_append {c : Char} {before : List Char} (h : c ∉ before) (after : List Char) :
    cutAt? [c] (before ++ c :: after) = some (before, after) := by
  induction before with
  | nil => simp [cutAt?_cons]
  | cons d before ih =>
    rw [List.mem_cons, not_or] at h
    rw [List.cons_append, cutAt?_cons, if_neg h.1, ih h.2]
    rfl

theorem cutAt?_of_not_mem {c : Char} {s : List Char} (h : c ∉ s) : cutAt? [c] s = none := by
  induction s with
  | nil => rfl
  | cons d s ih =>
    rw [List.mem_cons, not_or] at h
    rw [cutAt?_cons, if_neg h.1, ih h.2]
    rfl

end Text

namespace Quantity

open Text (digitsValue)

/-- The units and how many bytes one of each is. -/
def units : List (String × ℕ) :=
  [("", 1), ("Ki", 1024), ("Mi", 1024 ^ 2), ("Gi", 1024 ^ 3), ("Ti", 1024 ^ 4), ("Pi", 1024 ^ 5),
    ("Ei", 1024 ^ 6), ("k", 1000), ("K", 1000), ("M", 1000 ^ 2), ("G", 1000 ^ 3), ("T", 1000 ^ 4),
    ("P", 1000 ^ 5), ("E", 1000 ^ 6)]

/-- The digits of a decimal number before and after its point. -/
structure IsDecimal (whole fraction : List Char) : Prop where
  ne_nil : ¬ (whole = [] ∧ fraction = [])
  whole_digits : ∀ c ∈ whole, c.isDigit = true
  fraction_digits : ∀ c ∈ fraction, c.isDigit = true
  short : fraction.length ≤ 18

/-- The exact number of bytes that a decimal number of a unit stands for. -/
def amount (unit : ℕ) (whole fraction : List Char) : ℚ :=
  (digitsValue whole + digitsValue fraction / 10 ^ fraction.length) * unit

/-- A decimal number and its unit as they are written, and what they stand for. -/
inductive Spells : List Char → ℚ → Prop
  | integer {whole suffix : List Char} {unit : ℕ} (h : IsDecimal whole [])
    (hunit : (String.ofList suffix, unit) ∈ units) : Spells (whole ++ suffix) (amount unit whole [])
  | decimal {whole fraction suffix : List Char} {unit : ℕ} (h : IsDecimal whole fraction)
    (hunit : (String.ofList suffix, unit) ∈ units) :
    Spells (whole ++ '.' :: fraction ++ suffix) (amount unit whole fraction)

section Units

variable {suffix : String} {unit : ℕ}

theorem unit?_eq_some_iff : unit? suffix = some unit ↔ (suffix, unit) ∈ units := by
  constructor
  · intro h
    unfold unit? at h
    split at h <;> cases h <;> decide
  · have hall : ∀ p ∈ units, unit? p.1 = some p.2 := by decide
    exact hall (suffix, unit)

theorem unit_bounds (h : (suffix, unit) ∈ units) : 1 ≤ unit ∧ unit ≤ 2 ^ 60 := by
  have hall : ∀ p ∈ units, 1 ≤ p.2 ∧ p.2 ≤ 2 ^ 60 := by decide
  exact hall _ h

/-- A suffix never goes on where a number could. -/
theorem head_suffix (h : (suffix, unit) ∈ units) :
    ∀ c ∈ suffix.toList.head?, isNumberChar c = false := by
  have hall : ∀ p ∈ units, p.1.toList.head?.all (!isNumberChar ·) = true := by decide
  intro c hc
  have hhead := hall _ h
  rw [Option.mem_def.1 hc] at hhead
  simpa using hhead

end Units

section Scale

variable {unit n : ℕ} {whole fraction : List Char}

theorem amount_eq_iff : amount unit whole fraction = n ↔
    digitsValue whole * unit * 10 ^ fraction.length + digitsValue fraction * unit =
      n * 10 ^ fraction.length := by
  have hten : (10 : ℚ) ^ fraction.length ≠ 0 := by positivity
  rw [amount, ← Nat.cast_inj (R := ℚ)]
  push_cast
  rw [← mul_left_inj' hten]
  field_simp

theorem scale_eq_ok : scale unit whole fraction = .ok n ↔
    (¬ (whole = [] ∧ fraction = []) ∧ '.' ∉ fraction ∧ fraction.length ≤ 18)
    ∧ (digitsValue whole < 2 ^ 128 ∧ digitsValue whole * unit < 2 ^ 128
      ∧ digitsValue fraction * unit < 2 ^ 128)
    ∧ digitsValue fraction * unit % 10 ^ fraction.length = 0
    ∧ n = digitsValue whole * unit + digitsValue fraction * unit / 10 ^ fraction.length
    ∧ n < 2 ^ 64 := by
  unfold scale scaledLimit maxFractionDigits Text.powerOfTwo
  simp only [check_eq_ok, pure_eq_ok, Except.ok.injEq, Bool.and_eq_true, List.isEmpty_iff,
    Bool.or_eq_true, List.contains_iff_mem, decide_eq_true_eq, not_or, not_not, Nat.not_lt,
    Nat.not_le]
  constructor
  · rintro ⟨hempty, ⟨hpoint, hshort⟩, hwhole, hscaled, hparts, hdivides, -, hfits, rfl⟩
    exact ⟨⟨hempty, hpoint, hshort⟩, ⟨hwhole, hscaled, hparts⟩, hdivides, rfl, hfits⟩
  · rintro ⟨⟨hempty, hpoint, hshort⟩, ⟨hwhole, hscaled, hparts⟩, hdivides, rfl, hfits⟩
    exact ⟨hempty, ⟨hpoint, hshort⟩, hwhole, hscaled, hparts, hdivides, by omega, hfits, rfl⟩

theorem fraction_bounds (h : IsDecimal whole fraction) (hunit : unit ≤ 2 ^ 60) :
    10 ^ fraction.length < 2 ^ 128 ∧ digitsValue fraction * unit < 2 ^ 128 := by
  have hten : 10 ^ fraction.length ≤ 10 ^ 18 := Nat.pow_le_pow_right (by norm_num) h.short
  have hvalue := Text.digitsValue_lt h.fraction_digits
  refine ⟨by omega, ?_⟩
  calc digitsValue fraction * unit ≤ 10 ^ 18 * 2 ^ 60 := Nat.mul_le_mul (by omega) hunit
    _ < 2 ^ 128 := by norm_num

theorem point_not_mem {digits : List Char} (h : ∀ c ∈ digits, c.isDigit = true) : '.' ∉ digits :=
  fun hpoint => by simpa using h '.' hpoint

/-- No step loses anything, and none is out of range unless the number of bytes is. -/
theorem scale_eq_ok_iff (h : IsDecimal whole fraction) (hunit : 1 ≤ unit ∧ unit ≤ 2 ^ 60) :
    scale unit whole fraction = .ok n ↔ amount unit whole fraction = n ∧ n < 2 ^ 64 := by
  obtain ⟨-, hparts⟩ := fraction_bounds h hunit.2
  have hpoint := point_not_mem h.fraction_digits
  have hten : 0 < 10 ^ fraction.length := by positivity
  rw [scale_eq_ok, amount_eq_iff]
  constructor
  · rintro ⟨-, -, hdivides, rfl, hfits⟩
    refine ⟨?_, hfits⟩
    rw [add_mul, Nat.div_mul_cancel (Nat.dvd_of_mod_eq_zero hdivides)]
  · rintro ⟨hvalue, hfits⟩
    -- The wholes are divisible, and so is the sum: then the parts are.
    have hdvd : 10 ^ fraction.length ∣ digitsValue fraction * unit :=
      (Nat.dvd_add_right (Nat.dvd_mul_left _ _)).1 (hvalue ▸ Nat.dvd_mul_left _ n)
    have hsum : n = digitsValue whole * unit + digitsValue fraction * unit / 10 ^ fraction.length := by
      refine Nat.eq_of_mul_eq_mul_right hten ?_
      rw [add_mul, Nat.div_mul_cancel hdvd, hvalue]
    -- Every value on the way is at most the number of bytes, which fits.
    have hwhole : digitsValue whole ≤ digitsValue whole * unit := Nat.le_mul_of_pos_right _ hunit.1
    have hscaled : digitsValue whole * unit ≤ n := hsum ▸ Nat.le_add_right _ _
    exact ⟨⟨h.ne_nil, hpoint, h.short⟩, ⟨by omega, by omega, hparts⟩, Nat.mod_eq_zero_of_dvd hdvd,
      hsum, hfits⟩

end Scale

section Read

variable {text : List Char} {q : ℚ} {n : ℕ}

/-- The digits before and after the first point of the number at the front of a text. -/
def digitsOf (text : List Char) : List Char × List Char :=
  (Text.cutAt? ['.'] (text.takeWhile isNumberChar)).getD (text.takeWhile isNumberChar, [])

theorem read_eq (text : List Char) : read text =
    match unit? (.ofList (text.dropWhile isNumberChar)) with
    | none => .error (.unknownSuffix (.ofList (text.dropWhile isNumberChar)))
    | some unit => scale unit (digitsOf text).1 (digitsOf text).2 := rfl

theorem isNumberChar_of_isDigit {c : Char} (h : c.isDigit = true) : isNumberChar c = true := by
  simp [isNumberChar, h]

theorem isDigit_of_isNumberChar {c : Char} (h : isNumberChar c = true) (hpoint : c ≠ '.') :
    c.isDigit = true := by
  simpa [isNumberChar, hpoint] using h

theorem digitsOf_spec (text : List Char) :
    (∀ c ∈ (digitsOf text).1, c.isDigit = true) ∧ (∀ c ∈ (digitsOf text).2, isNumberChar c = true)
    ∧ (text.takeWhile isNumberChar = (digitsOf text).1 ∧ (digitsOf text).2 = []
      ∨ text.takeWhile isNumberChar = (digitsOf text).1 ++ '.' :: (digitsOf text).2) := by
  have hchars : ∀ c ∈ text.takeWhile isNumberChar, isNumberChar c = true := fun c hc =>
    List.all_eq_true.1 List.all_takeWhile c hc
  have hdigits {digits : List Char} (hnumber : ∀ c ∈ digits, isNumberChar c = true)
      (hpoint : '.' ∉ digits) : ∀ c ∈ digits, c.isDigit = true := fun c hc =>
    isDigit_of_isNumberChar (hnumber c hc) fun h => hpoint (h ▸ hc)
  by_cases hpoint : '.' ∈ text.takeWhile isNumberChar
  · obtain ⟨whole, fraction, hnumber, hwhole⟩ := List.eq_append_cons_of_mem hpoint
    rw [digitsOf, hnumber, Text.cutAt?_append hwhole]
    rw [hnumber, List.forall_mem_append, List.forall_mem_cons] at hchars
    exact ⟨hdigits hchars.1 hwhole, hchars.2.2, .inr rfl⟩
  · rw [digitsOf, Text.cutAt?_of_not_mem hpoint]
    exact ⟨hdigits hchars hpoint, nofun, .inl ⟨rfl, rfl⟩⟩

/-- A text is read the only way it can be spelled. -/
theorem spells_iff : Spells text q ↔ ∃ unit,
    unit? (.ofList (text.dropWhile isNumberChar)) = some unit
    ∧ IsDecimal (digitsOf text).1 (digitsOf text).2
    ∧ q = amount unit (digitsOf text).1 (digitsOf text).2 := by
  constructor
  · rintro (@⟨whole, suffix, unit, h, hunit⟩ | @⟨whole, fraction, suffix, unit, h, hunit⟩)
    · have hsuffix := head_suffix hunit
      rw [String.toList_ofList] at hsuffix
      obtain ⟨hnumber, hrest⟩ := Text.span_append
        (fun c hc => isNumberChar_of_isDigit (h.whole_digits c hc)) hsuffix
      have hdigits : digitsOf (whole ++ suffix) = (whole, []) := by
        rw [digitsOf, hnumber, Text.cutAt?_of_not_mem (point_not_mem h.whole_digits)]
        rfl
      rw [hrest, hdigits]
      exact ⟨unit, unit?_eq_some_iff.2 hunit, h, rfl⟩
    · have hsuffix := head_suffix hunit
      rw [String.toList_ofList] at hsuffix
      have hchars : ∀ c ∈ whole ++ '.' :: fraction, isNumberChar c = true := by
        intro c hc
        rcases List.mem_append.1 hc with hc | hc
        · exact isNumberChar_of_isDigit (h.whole_digits c hc)
        · rcases List.mem_cons.1 hc with rfl | hc
          · rfl
          · exact isNumberChar_of_isDigit (h.fraction_digits c hc)
      obtain ⟨hnumber, hrest⟩ := Text.span_append hchars hsuffix
      have hdigits : digitsOf (whole ++ '.' :: fraction ++ suffix) = (whole, fraction) := by
        rw [digitsOf, hnumber, Text.cutAt?_append (point_not_mem h.whole_digits)]
        rfl
      rw [hrest, hdigits]
      exact ⟨unit, unit?_eq_some_iff.2 hunit, h, rfl⟩
  · rintro ⟨unit, hunit, h, rfl⟩
    have hsplit := List.takeWhile_append_dropWhile (p := isNumberChar) (l := text)
    obtain ⟨-, -, hshape⟩ := digitsOf_spec text
    generalize digitsOf text = parts at h hshape ⊢
    rcases hshape with ⟨hnumber, hnone⟩ | hnumber
    · rw [hnone] at h ⊢
      rw [← hsplit, hnumber]
      exact .integer h (unit?_eq_some_iff.1 hunit)
    · rw [← hsplit, hnumber]
      exact .decimal h (unit?_eq_some_iff.1 hunit)

/-- A text stands for one number of bytes. -/
theorem Spells.unique {p : ℚ} (h : Spells text p) (h' : Spells text q) : p = q := by
  obtain ⟨unit, hunit, -, rfl⟩ := spells_iff.1 h
  obtain ⟨unit', hunit', -, rfl⟩ := spells_iff.1 h'
  rw [hunit] at hunit'
  cases hunit'
  rfl

theorem read_eq_ok_iff : read text = .ok n ↔ Spells text n ∧ n < 2 ^ 64 := by
  rw [read_eq, spells_iff]
  cases hunit : unit? (.ofList (text.dropWhile isNumberChar)) with
  | none => simp
  | some unit =>
    have hbounds := unit_bounds (unit?_eq_some_iff.1 hunit)
    have hdecimal (h : scale unit (digitsOf text).1 (digitsOf text).2 = .ok n) :
        IsDecimal (digitsOf text).1 (digitsOf text).2 := by
      obtain ⟨⟨hne, hpoint, hshort⟩, -⟩ := scale_eq_ok.1 h
      obtain ⟨hwhole, hfraction, -⟩ := digitsOf_spec text
      exact ⟨hne, hwhole, fun c hc => isDigit_of_isNumberChar (hfraction c hc) fun h =>
        hpoint (h ▸ hc), hshort⟩
    constructor
    · intro h
      have hd := hdecimal h
      obtain ⟨hvalue, hfits⟩ := (scale_eq_ok_iff hd hbounds).1 h
      exact ⟨⟨unit, rfl, hd, hvalue.symm⟩, hfits⟩
    · rintro ⟨⟨_, ⟨rfl⟩, hd, hvalue⟩, hfits⟩
      exact (scale_eq_ok_iff hd hbounds).2 ⟨hvalue.symm, hfits⟩

theorem parse_eq_ok {text : String} : parse text = .ok n ↔
    Spells (Text.trim text.toList) n ∧ n < 2 ^ 64 := by
  unfold parse
  rw [mapError_eq_ok, read_eq_ok_iff, trimmed, String.toList_ofList]

end Read

section Clause

variable {clause other operand operand' : String} {op : Comparison} {actual : ℕ} {answer : Bool}

theorem quantity_eq_ok : Clause.quantity clause actual = .ok answer ↔
    ∃ op operand, ∃ n : ℕ, Condition.Puts clause op operand ∧ Spells operand.toList n ∧ n < 2 ^ 64
      ∧ (answer = true ↔ op.Relates actual n) := by
  unfold Clause.quantity Clause.bytes
  simp only [bind_eq_ok, Prod.exists, Condition.parseUnselected_eq_ok_iff, parse_eq_ok,
    pure_eq_ok, Except.ok.injEq]
  constructor
  · rintro ⟨op, operand, hclause, n, ⟨hspells, hfits⟩, rfl⟩
    rw [Text.trim_of_solid hclause.solid] at hspells
    exact ⟨op, operand, n, hclause, hspells, hfits, Comparison.compare_iff⟩
  · rintro ⟨op, operand, n, hclause, hspells, hfits, hanswer⟩
    rw [← Text.trim_of_solid hclause.solid] at hspells
    exact ⟨op, operand, hclause, n, ⟨hspells, hfits⟩,
      Bool.eq_iff_iff.2 (Comparison.compare_iff.trans hanswer.symm)⟩

theorem quantity_congr {q : ℚ} (h : Condition.Puts clause op operand)
    (h' : Condition.Puts other op operand') (hq : Spells operand.toList q)
    (hq' : Spells operand'.toList q) : Clause.quantity clause actual = .ok answer →
      Clause.quantity other actual = .ok answer := by
  rw [quantity_eq_ok, quantity_eq_ok]
  rintro ⟨op'', operand'', n, hclause, hspells, hfits, hanswer⟩
  obtain ⟨rfl, rfl⟩ := h.unique hclause
  rw [← hspells.unique hq] at hq'
  exact ⟨op, operand', n, h', hq', hfits, hanswer⟩

/-- A text is a quantity exactly when it spells a whole number of bytes below `2 ^ 64`, and this is
what is read; neither a fraction nor the power of ten that it counts in is out of range. A clause is
answered by comparing with the exact value, so operands of one magnitude are answered alike. -/
theorem quantities_exact :
    (∀ (text : String) (n : ℕ), parse text = .ok n ↔
      Spells (Text.trim text.toList) n ∧ n < 2 ^ 64)
    ∧ (∀ (whole fraction : List Char) (unit : ℕ), IsDecimal whole fraction →
      unit ∈ units.map (·.2) →
      10 ^ fraction.length < 2 ^ 128 ∧ digitsValue fraction * unit < 2 ^ 128)
    ∧ (∀ (clause : String) (actual : ℕ) (answer : Bool), Clause.quantity clause actual = .ok answer ↔
      ∃ op operand, ∃ n : ℕ, Condition.Puts clause op operand ∧ Spells operand.toList n ∧ n < 2 ^ 64
        ∧ (answer = true ↔ op.Relates actual n))
    ∧ ∀ (clause other operand operand' : String) (op : Comparison) (q : ℚ),
      Condition.Puts clause op operand → Condition.Puts other op operand' →
      Spells operand.toList q → Spells operand'.toList q → ∀ (actual : ℕ) (answer : Bool),
        Clause.quantity clause actual = .ok answer ↔ Clause.quantity other actual = .ok answer := by
  refine ⟨fun text n => parse_eq_ok, fun whole fraction unit h hunit => ?_,
    fun clause actual answer => quantity_eq_ok, fun clause other operand operand' op q h h' hq hq'
      actual answer => ⟨quantity_congr h h' hq hq', quantity_congr h' h hq' hq⟩⟩
  obtain ⟨⟨suffix, unit⟩, hmem, rfl⟩ := List.mem_map.1 hunit
  exact fraction_bounds h (unit_bounds hmem).2

/-- One and a half kibibytes in two units. -/
theorem quantities_exact_of_kibibytes :
    IsDecimal ['1'] ['5'] ∧ 1024 ∈ units.map (·.2)
    ∧ Condition.Puts "<= 1.5Ki" .lessOrEqual "1.5Ki" ∧ Condition.Puts " <=  1536" .lessOrEqual "1536"
    ∧ Spells "1.5Ki".toList 1536 ∧ Spells "1536".toList 1536
    ∧ 10 ^ ['5'].length < 2 ^ 128 ∧ parse " 1.5Ki " = .ok 1536
    ∧ ∀ (actual : ℕ) (answer : Bool), Clause.quantity "<= 1.5Ki" actual = .ok answer ↔
      Clause.quantity " <=  1536" actual = .ok answer := by
  have hdecimal : IsDecimal ['1'] ['5'] :=
    ⟨by decide, List.all_eq_true.1 rfl, List.all_eq_true.1 rfl, by decide⟩
  have hunit : 1024 ∈ units.map (·.2) := by decide
  have hclause : Condition.Puts "<= 1.5Ki" .lessOrEqual "1.5Ki" :=
    Condition.parseUnselected_eq_ok_iff.1 (by decide +kernel)
  have hother : Condition.Puts " <=  1536" .lessOrEqual "1536" :=
    Condition.parseUnselected_eq_ok_iff.1 (by decide +kernel)
  have hkibi : Spells "1.5Ki".toList 1536 := by
    have hvalue : amount 1024 ['1'] ['5'] = 1536 := by
      rw [amount, show digitsValue ['1'] = 1 from rfl, show digitsValue ['5'] = 5 from rfl]
      norm_num
    have hunit : (String.ofList ['K', 'i'], 1024) ∈ units := by decide
    exact hvalue ▸ Spells.decimal hdecimal hunit
  have hplain : Spells "1536".toList 1536 := by
    have hinteger : IsDecimal ['1', '5', '3', '6'] [] :=
      ⟨by decide, List.all_eq_true.1 rfl, nofun, by decide⟩
    have hvalue : amount 1 ['1', '5', '3', '6'] [] = 1536 := by
      rw [amount, show digitsValue ['1', '5', '3', '6'] = 1536 from rfl,
        show digitsValue [] = 0 from rfl]
      norm_num
    have hunit : (String.ofList [], 1) ∈ units := by decide
    exact hvalue ▸ Spells.integer hinteger hunit
  obtain ⟨hparse, hbounds, -, hsame⟩ := quantities_exact
  exact ⟨hdecimal, hunit, hclause, hother, hkibi, hplain, (hbounds _ _ _ hdecimal hunit).1,
    (hparse _ _).2 ⟨hkibi, by norm_num⟩, hsame _ _ _ _ _ _ hclause hother hkibi hplain⟩

end Clause

end Quantity

end Triage
