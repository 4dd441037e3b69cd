import Triage.Json.Compact
import Triage.Proofs.ShortestDecimal
import Triage.Text.Integer

/-!
# The text of a number

The text of a double stands for its shortest decimal (`decimalOf_magnitudeText`), and only texts of
doubles have a point or an exponent, so a number is known from its text (`Number.text_inj`).
-/

namespace Triage

namespace Text

theorem digitsValue_eq (s : List Char) : digitsValue s = Nat.ofDigitChars 10 s 0 := rfl

theorem digitsValue_append_zeros (s : List Char) (n : Nat) :
    digitsValue (s ++ List.replicate n '0') = 10 ^ n * digitsValue s := by
  rw [digitsValue_eq, Nat.ofDigitChars_append, Nat.ofDigitChars_replicate_zero]
  rfl

theorem digitsValue_zeros_append (s : List Char) (n : Nat) :
    digitsValue (List.replicate n '0' ++ s) = digitsValue s := by
  rw [digitsValue_eq, Nat.ofDigitChars_append, Nat.ofDigitChars_replicate_zero]
  rfl

theorem digitsValue_zero_cons (s : List Char) : digitsValue ('0' :: s) = digitsValue s :=
  digitsValue_zeros_append s 1

theorem digitValue_lt {c : Char} (h : c.isDigit = true) : digitValue c < 10 := by
  simp only [Char.isDigit, ge_iff_le, Bool.and_eq_true, decide_eq_true_eq] at h
  have hle : c.toNat ≤ 57 := h.2
  have hzero : '0'.toNat = 48 := rfl
  unfold digitValue
  omega

theorem digitsValue_concat (s : List Char) (c : Char) :
    digitsValue (s ++ [c]) = 10 * digitsValue s + digitValue c := by
  simp [digitsValue, digitsValueFrom]

theorem digitsValue_lt {s : List Char} (h : ∀ c ∈ s, c.isDigit = true) :
    digitsValue s < 10 ^ s.length := by
  induction s using List.reverseRecOn with
  | nil => simp [digitsValue, digitsValueFrom]
  | append_singleton s c ih =>
    rw [List.forall_mem_append, List.forall_mem_singleton] at h
    have hs := ih h.1
    have hc := digitValue_lt h.2
    rw [digitsValue_concat, List.length_append, List.length_singleton, pow_succ]
    omega

theorem natural?_eq_some_iff {s : List Char} {n : ℕ} : natural? s = some n ↔
    s ≠ [] ∧ (∀ c ∈ s, c.isDigit = true) ∧ digitsValue s = n := by
  unfold natural?
  split_ifs with h
  · simp_all
  · simp_all

/-- A natural number as it is written in decimal, perhaps after a plus. -/
inductive SpellsNatural : List Char → ℕ → Prop
  | plain {digits : List Char} (hne : digits ≠ []) (hdigits : ∀ c ∈ digits, c.isDigit = true) :
    SpellsNatural digits (digitsValue digits)
  | plus {digits : List Char} (hne : digits ≠ []) (hdigits : ∀ c ∈ digits, c.isDigit = true) :
    SpellsNatural ('+' :: digits) (digitsValue digits)

theorem unsigned?_eq_some_iff {s : List Char} {n : ℕ} :
    unsigned? s = some n ↔ SpellsNatural s n := by
  constructor
  · intro h
    unfold unsigned? at h
    split at h
    · obtain ⟨hne, hdigits, rfl⟩ := natural?_eq_some_iff.1 h
      exact .plus hne hdigits
    · obtain ⟨hne, hdigits, rfl⟩ := natural?_eq_some_iff.1 h
      exact .plain hne hdigits
  · intro h
    obtain ⟨hne, hdigits⟩ | @⟨digits, hne, hdigits⟩ := h
    · unfold unsigned?
      split
      · -- a run of digits does not start with a plus
        exact absurd (hdigits '+' List.mem_cons_self) (by decide)
      · exact natural?_eq_some_iff.2 ⟨hne, hdigits, rfl⟩
    · exact natural?_eq_some_iff.2 ⟨hne, hdigits, rfl⟩

end Text

namespace Json

open Text (digitsValue)

/-- The power of ten that a text gives after its digits. -/
def powerOf : List Char → ℤ
  | 'e' :: '-' :: s => -(digitsValue s : ℤ)
  | 'e' :: '+' :: s => digitsValue s
  | _ => 0

/-- The number that the text of a magnitude stands for. -/
def decimalOf (s : List Char) : ℚ :=
  match s.dropWhile Char.isDigit with
  | '.' :: t => digitsValue (s.takeWhile Char.isDigit ++ t.takeWhile Char.isDigit) *
      10 ^ (powerOf (t.dropWhile Char.isDigit) - (t.takeWhile Char.isDigit).length)
  | t => digitsValue (s.takeWhile Char.isDigit) * 10 ^ powerOf t

section Parts

variable {whole fraction rest digits : List Char}

theorem natText_isDigit (n : Nat) : ∀ c ∈ natText n, c.isDigit = true := fun _ h =>
  Nat.isDigit_of_mem_toDigits (by omega) (by omega) h

theorem natText_ne_nil (n : Nat) : natText n ≠ [] := Nat.toDigits_ne_nil

theorem digitsValue_natText (n : Nat) : digitsValue (natText n) = n :=
  Nat.ofDigitChars_ten_toDigits

theorem natText_inj {m n : Nat} (h : natText m = natText n) : m = n := by
  rw [← digitsValue_natText m, h, digitsValue_natText]

theorem powerOf_exponentText (e : ℤ) : powerOf (exponentText e) = e := by
  rw [exponentText]
  split
  · rw [powerOf, digitsValue_natText]
    omega
  · rw [powerOf, digitsValue_natText]
    omega

theorem takeWhile_isDigit_exponentText (e : ℤ) : (exponentText e).takeWhile Char.isDigit = [] := by
  simp [exponentText]

theorem takeWhile_append_of_digits (hdigits : ∀ c ∈ digits, c.isDigit = true)
    (hrest : rest.takeWhile Char.isDigit = []) :
    (digits ++ rest).takeWhile Char.isDigit = digits
    ∧ (digits ++ rest).dropWhile Char.isDigit = rest := by
  have hdrop := List.takeWhile_append_dropWhile (p := Char.isDigit) (l := rest)
  rw [hrest, List.nil_append] at hdrop
  rw [List.takeWhile_append_of_pos hdigits, List.dropWhile_append_of_pos hdigits, hrest, hdrop]
  simp

theorem decimalOf_point (hwhole : ∀ c ∈ whole, c.isDigit = true)
    (hfraction : ∀ c ∈ fraction, c.isDigit = true) (hrest : rest.takeWhile Char.isDigit = []) :
    decimalOf (whole ++ '.' :: (fraction ++ rest)) =
      digitsValue (whole ++ fraction) * 10 ^ (powerOf rest - fraction.length) := by
  obtain ⟨htake, hdrop⟩ :=
    @takeWhile_append_of_digits ('.' :: (fraction ++ rest)) whole hwhole (by simp)
  obtain ⟨htake', hdrop'⟩ := takeWhile_append_of_digits hfraction hrest
  simp only [decimalOf, htake, hdrop, htake', hdrop']

theorem decimalOf_exponent (hwhole : ∀ c ∈ whole, c.isDigit = true) (e : ℤ) :
    decimalOf (whole ++ exponentText e) = digitsValue whole * 10 ^ e := by
  obtain ⟨htake, hdrop⟩ := takeWhile_append_of_digits hwhole (takeWhile_isDigit_exponentText e)
  have hpower := powerOf_exponentText e
  rw [decimalOf, htake, hdrop]
  rw [exponentText] at hpower ⊢
  exact congrArg (fun p : ℤ => (digitsValue whole : ℚ) * 10 ^ p) hpower

/-- What a text of digits stands for whose first digit stands for `10 ^ leading`. -/
theorem decimalOf_positionalText (hdigits : ∀ c ∈ digits, c.isDigit = true) (leading : ℤ) :
    decimalOf (positionalText digits leading) =
      digitsValue digits * 10 ^ (leading + 1 - digits.length) := by
  have hzeros (n : ℕ) : ∀ c ∈ List.replicate n '0', c.isDigit = true := by
    intro c hc
    rw [List.eq_of_mem_replicate hc]
    rfl
  have happend {s t : List Char} (hs : ∀ c ∈ s, c.isDigit = true)
      (ht : ∀ c ∈ t, c.isDigit = true) : ∀ c ∈ s ++ t, c.isDigit = true := fun c hc =>
    (List.mem_append.1 hc).elim (hs c) (ht c)
  rw [positionalText]
  split
  · have hpoint := @decimalOf_point ['0'] (List.replicate ((-leading).toNat - 1) '0' ++ digits) []
      (hzeros 1) (happend (hzeros _) hdigits) rfl
    rw [List.append_nil] at hpoint
    refine hpoint.trans ?_
    rw [List.singleton_append, Text.digitsValue_zero_cons, Text.digitsValue_zeros_append]
    congr 2
    simp only [powerOf, List.length_append, List.length_replicate]
    omega
  · dsimp only
    by_cases hlong : leading.toNat + 1 < digits.length
    · have hfraction : digits.drop (leading.toNat + 1) ≠ [] := by simpa using hlong
      have hpoint := @decimalOf_point (digits.take (leading.toNat + 1))
        (digits.drop (leading.toNat + 1)) [] (fun c hc => hdigits c (List.mem_of_mem_take hc))
        (fun c hc => hdigits c (List.mem_of_mem_drop hc)) rfl
      rw [List.append_nil, List.take_append_drop] at hpoint
      rw [if_neg (by simpa using hfraction), Nat.sub_eq_zero_of_le (by omega), List.replicate_zero,
        List.append_nil, hpoint]
      congr 2
      simp only [powerOf, List.length_drop]
      omega
    · have hpoint := @decimalOf_point
        (digits ++ List.replicate (leading.toNat + 1 - digits.length) '0') ['0'] []
        (happend hdigits (hzeros _)) (hzeros 1) rfl
      rw [List.drop_of_length_le (by omega), List.take_of_length_le (by omega)]
      refine hpoint.trans ?_
      rw [List.append_assoc, show ['0'] = List.replicate 1 '0' from rfl, ← List.replicate_add,
        Text.digitsValue_append_zeros]
      have hpower : leading + 1 - digits.length =
          ((leading.toNat + 1 - digits.length + 1 : ℕ) : ℤ) + (0 - 1) := by omega
      rw [hpower, zpow_add₀ (by norm_num), zpow_natCast, Nat.cast_mul, Nat.cast_pow]
      simp only [powerOf, List.length_replicate]
      ring

theorem decimalOf_scientificText (hdigits : ∀ c ∈ digits, c.isDigit = true) (hne : digits ≠ [])
    (leading : ℤ) : decimalOf (scientificText digits leading) =
      digitsValue digits * 10 ^ (leading + 1 - digits.length) := by
  cases digits with
  | nil => exact absurd rfl hne
  | cons d rest =>
    obtain ⟨hd, hrest⟩ := List.forall_mem_cons.1 hdigits
    cases rest with
    | nil =>
      rw [scientificText, ← List.singleton_append, decimalOf_exponent hdigits]
      simp
    | cons next rest =>
      rw [scientificText]
      · rw [← List.singleton_append, decimalOf_point (by simpa using hd) hrest
          (takeWhile_isDigit_exponentText leading), powerOf_exponentText]
        simp
      · simp

end Parts

section Float

variable {digits : List Char}

theorem significant_ne_nil (digits : List Char) : significant digits ≠ [] := by
  rw [significant]
  split
  · simp
  · assumption

/-- Only zeros at the end are left out. -/
theorem exists_significant_append_zeros (hne : digits ≠ []) :
    ∃ n, digits = significant digits ++ List.replicate n '0' := by
  have hzeros : digits.reverse.takeWhile (· == '0') =
      List.replicate (digits.reverse.takeWhile (· == '0')).length '0' := by
    refine List.eq_replicate_iff.2 ⟨rfl, fun c hc => ?_⟩
    have := List.all_eq_true.1 (List.all_takeWhile (p := (· == '0')) (l := digits.reverse)) c hc
    exact eq_of_beq this
  have hsplit : digits = (digits.reverse.dropWhile (· == '0')).reverse ++
      List.replicate (digits.reverse.takeWhile (· == '0')).length '0' := by
    have := congrArg List.reverse
      (List.takeWhile_append_dropWhile (p := (· == '0')) (l := digits.reverse))
    rw [List.reverse_append, hzeros, List.reverse_replicate, List.reverse_reverse] at this
    exact this.symm
  generalize (digits.reverse.takeWhile (· == '0')).length = n at hsplit
  rw [significant]
  split
  · rename_i hnil
    rw [hnil, List.nil_append] at hsplit
    cases n with
    | zero => exact absurd hsplit hne
    | succ n => exact ⟨n, hsplit⟩
  · exact ⟨n, hsplit⟩

theorem significant_isDigit (hdigits : ∀ c ∈ digits, c.isDigit = true) :
    ∀ c ∈ significant digits, c.isDigit = true := by
  intro c hc
  by_cases hne : digits = []
  · subst hne
    obtain rfl := List.mem_singleton.1 hc
    rfl
  · obtain ⟨n, hn⟩ := exists_significant_append_zeros hne
    exact hdigits c (hn ▸ List.mem_append_left _ hc)

/-- The significant digits stand for the decimal when their first one stands for the same power of
ten as before. -/
theorem significant_value (d : Binary64.Decimal) :
    digitsValue (significant (natText d.digits)) * (10 : ℚ) ^
      (d.power + (natText d.digits).length - 1 + 1 - (significant (natText d.digits)).length) =
      d.value := by
  obtain ⟨n, hn⟩ := exists_significant_append_zeros (natText_ne_nil d.digits)
  have hvalue := digitsValue_natText d.digits
  generalize significant (natText d.digits) = kept at hn ⊢
  have hpower : d.power + (natText d.digits).length - 1 + 1 - kept.length = n + d.power := by
    rw [hn, List.length_append, List.length_replicate]
    push_cast
    ring
  rw [hn, Text.digitsValue_append_zeros] at hvalue
  rw [hpower, Binary64.Decimal.value, ← hvalue, zpow_add₀ (by norm_num), zpow_natCast]
  push_cast
  ring

/-- The text of a double without its sign. -/
def magnitudeText (x : Binary64) : List Char :=
  let written := natText x.shortest.digits
  let leading := x.shortest.power + written.length - 1
  if leastPositional ≤ leading ∧ leading ≤ greatestPositional then
    positionalText (significant written) leading
  else scientificText (significant written) leading

theorem floatText_eq (x : Binary64) :
    floatText x = if x.negative then '-' :: magnitudeText x else magnitudeText x := rfl

theorem decimalOf_magnitudeText (x : Binary64) :
    decimalOf (magnitudeText x) = x.shortest.value := by
  have hdigits := significant_isDigit (natText_isDigit x.shortest.digits)
  rw [magnitudeText, ← significant_value]
  split
  · exact decimalOf_positionalText hdigits _
  · exact decimalOf_scientificText hdigits (significant_ne_nil _) _

/-- The first character of a magnitude is a digit, so it is no sign. -/
theorem head_magnitudeText (x : Binary64) : ∃ c s, magnitudeText x = c :: s ∧ c.isDigit = true := by
  have hdigits := significant_isDigit (natText_isDigit x.shortest.digits)
  have hne := significant_ne_nil (natText x.shortest.digits)
  rw [magnitudeText]
  generalize significant (natText x.shortest.digits) = digits at hdigits hne ⊢
  obtain ⟨d, rest, rfl⟩ := List.exists_cons_of_ne_nil hne
  have hd := hdigits d List.mem_cons_self
  split
  · rw [positionalText]
    split
    · exact ⟨'0', _, rfl, rfl⟩
    · exact ⟨d, _, rfl, hd⟩
  · cases rest <;> exact ⟨d, _, rfl, hd⟩

/-- What tells a double from an integer. -/
theorem point_or_exponent_mem (x : Binary64) : '.' ∈ floatText x ∨ 'e' ∈ floatText x := by
  have hmagnitude : '.' ∈ magnitudeText x ∨ 'e' ∈ magnitudeText x := by
    rw [magnitudeText]
    split
    · rw [positionalText]
      split <;> simp
    · have hne := significant_ne_nil (natText x.shortest.digits)
      rw [scientificText.eq_def]
      split
      · contradiction
      · simp [exponentText]
      · simp
  rw [floatText_eq]
  split
  · simpa using hmagnitude
  · exact hmagnitude

/-- The characters of numbers. -/
def isNumberChar (c : Char) : Bool := c.isDigit || c == '-' || c == '+' || c == '.' || c == 'e'

theorem isNumberChar_of_isDigit {c : Char} (h : c.isDigit = true) : isNumberChar c = true := by
  simp [isNumberChar, h]

theorem exponentText_isNumberChar (e : ℤ) : ∀ c ∈ exponentText e, isNumberChar c = true := by
  intro c hc
  simp only [exponentText, List.mem_cons] at hc
  rcases hc with rfl | rfl | hc
  · rfl
  · split <;> rfl
  · exact isNumberChar_of_isDigit (natText_isDigit _ c hc)

theorem positionalText_isNumberChar (hdigits : ∀ c ∈ digits, c.isDigit = true) (leading : ℤ) :
    ∀ c ∈ positionalText digits leading, isNumberChar c = true := by
  intro c hc
  have hzero {n : ℕ} (h : c ∈ List.replicate n '0') : isNumberChar c = true := by
    rw [List.eq_of_mem_replicate h]
    rfl
  simp only [positionalText] at hc
  split at hc
  · simp only [List.mem_cons, List.mem_append] at hc
    rcases hc with rfl | rfl | hc | hc
    · rfl
    · rfl
    · exact hzero hc
    · exact isNumberChar_of_isDigit (hdigits c hc)
  · simp only [List.mem_cons, List.mem_append] at hc
    rcases hc with (hc | hc) | rfl | hc
    · exact isNumberChar_of_isDigit (hdigits c (List.mem_of_mem_take hc))
    · exact hzero hc
    · rfl
    · split at hc
      · exact hzero (n := 1) hc
      · exact isNumberChar_of_isDigit (hdigits c (List.mem_of_mem_drop hc))

theorem scientificText_isNumberChar (hdigits : ∀ c ∈ digits, c.isDigit = true) (leading : ℤ) :
    ∀ c ∈ scientificText digits leading, isNumberChar c = true := by
  intro c hc
  rw [scientificText.eq_def] at hc
  split at hc
  · simp at hc
  · rcases List.mem_cons.1 hc with rfl | hc
    · exact isNumberChar_of_isDigit (hdigits _ List.mem_cons_self)
    · exact exponentText_isNumberChar leading c hc
  · rename_i d rest _
    simp only [List.mem_cons, List.mem_append] at hc
    rcases hc with rfl | rfl | hc | hc
    · exact isNumberChar_of_isDigit (hdigits _ List.mem_cons_self)
    · rfl
    · exact isNumberChar_of_isDigit (hdigits c (List.mem_cons_of_mem d hc))
    · exact exponentText_isNumberChar leading c hc

theorem magnitudeText_isNumberChar (x : Binary64) :
    ∀ c ∈ magnitudeText x, isNumberChar c = true := by
  have hdigits := significant_isDigit (natText_isDigit x.shortest.digits)
  rw [magnitudeText]
  split
  · exact positionalText_isNumberChar hdigits _
  · exact scientificText_isNumberChar hdigits _

/-- A double is known from its text. -/
theorem floatText_inj {x y : Binary64} (h : floatText x = floatText y) : x = y := by
  obtain ⟨c, s, hx, hc⟩ := head_magnitudeText x
  obtain ⟨d, t, hy, hd⟩ := head_magnitudeText y
  have hminus : ('-').isDigit = false := rfl
  have hsame (hm : magnitudeText x = magnitudeText y) (hn : x.negative = y.negative) : x = y := by
    refine Binary64.eq_of_shortest_value hn ?_
    rw [← decimalOf_magnitudeText, hm, decimalOf_magnitudeText]
  rw [floatText_eq, floatText_eq] at h
  cases hnx : x.negative <;> cases hny : y.negative <;>
    simp only [hnx, hny, Bool.false_eq_true, if_false, if_true] at h
  · exact hsame h (by rw [hnx, hny])
  · rw [hx, List.cons.injEq] at h
    rw [h.1, hminus] at hc
    cases hc
  · rw [hy, List.cons.injEq] at h
    rw [← h.1, hminus] at hd
    cases hd
  · exact hsame (List.cons.inj h).2 (by rw [hnx, hny])

end Float

section Number

theorem isDigit_or_minus_of_mem_intText (i : ℤ) :
    ∀ c ∈ intText i, c.isDigit = true ∨ c = '-' := by
  intro c hc
  rw [intText] at hc
  split at hc
  · exact (List.mem_cons.1 hc).elim .inr fun hc => .inl (natText_isDigit _ c hc)
  · exact .inl (natText_isDigit _ c hc)

theorem intText_inj {i j : ℤ} (h : intText i = intText j) : i = j := by
  have hminus (n : ℕ) (s : List Char) : natText n ≠ '-' :: s := by
    intro hs
    have := natText_isDigit n '-' (by simp [hs])
    simp at this
  rw [intText, intText] at h
  split at h <;> split at h
  · have := natText_inj (List.cons.inj h).2
    omega
  · exact absurd h.symm (hminus _ _)
  · exact absurd h (hminus _ _)
  · have := natText_inj h
    omega

/-- No double has the text of an integer. -/
theorem intText_ne_floatText (i : ℤ) (x : Binary64) : intText i ≠ floatText x := by
  intro h
  rcases point_or_exponent_mem x with hmem | hmem <;> rw [← h] at hmem <;>
    rcases isDigit_or_minus_of_mem_intText i _ hmem with hc | hc <;> simp at hc

theorem Number.text_isNumberChar (n : Number) : ∀ c ∈ n.text, isNumberChar c = true := by
  cases n with
  | int i =>
    intro c hc
    rcases isDigit_or_minus_of_mem_intText i c hc with hc | rfl
    · exact isNumberChar_of_isDigit hc
    · rfl
  | float x =>
    intro c hc
    rw [text, floatText_eq] at hc
    split at hc
    · rcases List.mem_cons.1 hc with rfl | hc
      · rfl
      · exact magnitudeText_isNumberChar x c hc
    · exact magnitudeText_isNumberChar x c hc

theorem Number.text_ne_nil (n : Number) : n.text ≠ [] := by
  cases n with
  | int i =>
    rw [text, intText]
    split
    · simp
    · exact natText_ne_nil _
  | float x =>
    obtain ⟨c, s, hx, -⟩ := head_magnitudeText x
    rw [text, floatText_eq, hx]
    split <;> simp

/-- A number is known from its text, and so is its kind. -/
theorem Number.text_inj {m n : Number} (h : m.text = n.text) : m = n := by
  cases m with
  | int i =>
    cases n with
    | int j => rw [intText_inj h]
    | float y => exact absurd h (intText_ne_floatText i y)
  | float x =>
    cases n with
    | int j => exact absurd h.symm (intText_ne_floatText j x)
    | float y => rw [floatText_inj h]

end Number

end Json

end Triage
