import Triage.Proofs.ArrayPairing
import Triage.Proofs.DocumentEquality

/-!
# Equality has no sides, and arrays no arrangement

Being the same up to the order of members is reflexive and symmetric as soon as the relation between
the numbers is (`Same.refl`, `Same.symm`), so comparing documents does not depend on which of them
comes first. Putting the elements of an array into the order of their texts forgets how they were
arranged (`arranged_congr`), so comparing arrays without their order does not depend on it
(`equality_symmetric_and_blind_to_arrangement`).
-/

namespace Triage.Json

namespace Number

variable {m n : Number}

theorem ZeroClash.symm (h : ZeroClash m n) : ZeroClash n m := by
  rcases h with ⟨hm, hn⟩ | ⟨hm, hn⟩
  · exact .inr ⟨hn, hm⟩
  · exact .inl ⟨hn, hm⟩

theorem not_zeroClash_self (m : Number) : ¬ ZeroClash m m := by
  rintro (⟨rfl, h⟩ | ⟨rfl, h⟩)
  · cases h
  · cases h

theorem Merged.symm (h : Merged m n) : Merged n m where
  ne := h.ne.symm
  shared := by
    obtain ⟨x, hm, hn⟩ := h.shared
    exact ⟨x, hn, hm⟩

theorem agree_self (m : Number) : Agree m m := .inl ⟨rfl, not_zeroClash_self m⟩

theorem Agree.symm (h : Agree m n) : Agree n m := by
  rcases h with ⟨hvalue, hclash⟩ | hmerged
  · exact .inl ⟨hvalue.symm, mt ZeroClash.symm hclash⟩
  · exact .inr hmerged.symm

end Number

section Same

variable {r : Number → Number → Prop} {x y : Json}

theorem Same.refl (hrefl : ∀ n, r n n) (x : Json) : Same r x x := by
  induction x using induction with
  | null => exact .null
  | bool b => exact .bool b
  | number n => exact .number (hrefl n)
  | string s => exact .string s
  | array items ih => exact .array (List.forall₂_same.2 ih)
  | object members ih => exact .object rfl (List.forall₂_same.2 ih) (.refl members)

theorem forall₂_symm_of_mem {α : Type*} {r : α → α → Prop} {xs ys : List α}
    (hsymm : ∀ x ∈ xs, ∀ y, r x y → r y x) (h : List.Forall₂ r xs ys) : List.Forall₂ r ys xs :=
  (forall₂_imp_of_mem (s := flip r) (fun x hx y _ => hsymm x hx y) h).flip

theorem Same.symm (hsymm : ∀ m n, r m n → r n m) (h : Same r x y) : Same r y x := by
  induction x using induction generalizing y with
  | null =>
    cases h
    exact .null
  | bool b =>
    cases h
    exact .bool b
  | number m =>
    rcases h with _ | _ | h
    exact .number (hsymm _ _ h)
  | string s =>
    cases h
    exact .string s
  | array items ih =>
    rcases h with _ | _ | _ | _ | hitems
    exact .array (forall₂_symm_of_mem (fun x hx y => ih x hx) hitems)
  | object members ih =>
    rcases h with _ | _ | _ | _ | _ | ⟨hkeys, hvalues, hperm⟩
    -- the members are put into the order of the other document's in place of the other way round
    obtain ⟨arranged, hsame, harranged⟩ := List.perm_comp_forall₂ hperm.symm
      (forall₂_members_iff.2 ⟨hkeys.symm, forall₂_symm_of_mem (fun x hx y => ih x hx) hvalues⟩)
    obtain ⟨hkeys', hvalues'⟩ := forall₂_members_iff.1 hsame
    exact .object hkeys' hvalues' harranged

end Same

section Documents

variable {x y : Json}

theorem equal_self (hx : x.IsDocument) : equal x x = true :=
  (equal_iff_same_agree hx hx).2 (.refl Number.agree_self x)

theorem equal_symm (hx : x.IsDocument) (hy : y.IsDocument) (h : equal x y = true) :
    equal y x = true :=
  (equal_iff_same_agree hy hx).2 (((equal_iff_same_agree hx hy).1 h).symm fun _ _ =>
    Number.Agree.symm)

theorem IsDocument.of_mem {items : List Json} (h : IsDocument (.array items)) (hx : x ∈ items) :
    x.IsDocument := by
  rcases h with _ | _ | _ | _ | hitems
  exact hitems x hx

end Documents

section Arrays

variable {xs ys xs' ys' : List Json}

/-- The order of the texts forgets how the values were arranged. -/
theorem arranged_congr (h : xs.Perm ys) : arranged xs = arranged ys :=
  eq_arranged ((arranged_perm xs).trans h) (textSorted_arranged xs)

theorem equalIgnoringOrder_congr (hx : xs.Perm xs') (hy : ys.Perm ys') :
    equalIgnoringOrder (array xs) (array ys) = equalIgnoringOrder (array xs') (array ys') := by
  rw [equalIgnoringOrder, equalIgnoringOrder, arranged_congr hx, arranged_congr hy, hx.length_eq,
    hy.length_eq]

/-- Arrays are found equal when their elements are equal in the order of their texts. -/
theorem equalIgnoringOrder_array_iff : equalIgnoringOrder (array xs) (array ys) = true ↔
    List.Forall₂ (fun x y => equal x y = true) (arranged xs) (arranged ys) := by
  have hlengths : (arranged xs).length = (arranged ys).length ↔ xs.length = ys.length := by
    rw [(arranged_perm xs).length_eq, (arranged_perm ys).length_eq]
  rw [equalIgnoringOrder, Bool.and_eq_true, beq_iff_eq, sameItemsBy_iff_forall₂, ← hlengths]
  exact ⟨fun h => h.2, fun h => ⟨h.length_eq, h⟩⟩

theorem equalIgnoringOrder_eq_equal {x y : Json} (h : ¬ ∃ xs ys, x = array xs ∧ y = array ys) :
    equalIgnoringOrder x y = equal x y := by
  unfold equalIgnoringOrder
  split
  · exact absurd ⟨_, _, rfl, rfl⟩ h
  · rfl

theorem equalIgnoringOrder_self {x : Json} (hx : x.IsDocument) : equalIgnoringOrder x x = true := by
  by_cases harray : ∃ xs ys, x = array xs ∧ x = array ys
  · obtain ⟨xs, -, rfl, -⟩ := harray
    rw [equalIgnoringOrder_array_iff, List.forall₂_same]
    exact fun x hmem => equal_self (hx.of_mem ((arranged_perm xs).subset hmem))
  · rw [equalIgnoringOrder_eq_equal harray]
    exact equal_self hx

theorem equalIgnoringOrder_symm {x y : Json} (hx : x.IsDocument) (hy : y.IsDocument)
    (h : equalIgnoringOrder x y = true) : equalIgnoringOrder y x = true := by
  by_cases harrays : ∃ xs ys, x = array xs ∧ y = array ys
  · obtain ⟨xs, ys, rfl, rfl⟩ := harrays
    rw [equalIgnoringOrder_array_iff] at h ⊢
    refine (forall₂_imp_of_mem (fun x hmem y hmem' => ?_) h).flip
    exact equal_symm (hx.of_mem ((arranged_perm xs).subset hmem))
      (hy.of_mem ((arranged_perm ys).subset hmem'))
  · rw [equalIgnoringOrder_eq_equal harrays] at h
    rw [equalIgnoringOrder_eq_equal fun ⟨ys, xs, hy, hx⟩ => harrays ⟨xs, ys, hx, hy⟩]
    exact equal_symm hx hy h

end Arrays

/-- Both ways of comparing find a document equal to itself, and find the same of two documents
whichever comes first; and comparing two arrays without their order finds the same however the
elements of either are arranged. -/
theorem equality_symmetric_and_blind_to_arrangement :
    (∀ x : Json, x.IsDocument → equal x x = true ∧ equalIgnoringOrder x x = true)
    ∧ (∀ x y : Json, x.IsDocument → y.IsDocument →
      equal x y = equal y x ∧ equalIgnoringOrder x y = equalIgnoringOrder y x)
    ∧ ∀ xs ys xs' ys' : List Json, xs.Perm xs' → ys.Perm ys' →
      equalIgnoringOrder (array xs) (array ys) = equalIgnoringOrder (array xs') (array ys') := by
  refine ⟨fun x hx => ⟨equal_self hx, equalIgnoringOrder_self hx⟩, fun x y hx hy => ⟨?_, ?_⟩, ?_⟩
  · exact Bool.eq_iff_iff.2 ⟨equal_symm hx hy, equal_symm hy hx⟩
  · exact Bool.eq_iff_iff.2 ⟨equalIgnoringOrder_symm hx hy, equalIgnoringOrder_symm hy hx⟩
  · intro xs ys xs' ys' hxs hys
    exact equalIgnoringOrder_congr hxs hys

theorem isDocument_pair {k l : String} (hne : k ≠ l) {x y : Json} (hx : x.IsDocument)
    (hy : y.IsDocument) : (object [(k, x), (l, y)]).IsDocument := by
  refine .object (by simpa using hne) ?_
  simp only [List.map_cons, List.map_nil, List.forall_mem_cons]
  exact ⟨hx, hy, by simp⟩

/-- Members in two orders with one number spelled in two ways, and arrays of them in two orders. -/
theorem equality_symmetric_and_blind_to_arrangement_of_spellings :
    let x := object [("a", ofInt 1), ("b", null)]
    let y := object [("b", null), ("a", number (.float floatOne))]
    x.IsDocument ∧ y.IsDocument ∧ equal x y = true ∧ equal y x = true
      ∧ equalIgnoringOrder (array [x, null]) (array [null, y]) = true := by
  intro x y
  have hx : x.IsDocument := isDocument_pair (by decide) (.number (by decide)) .null
  have hy : y.IsDocument := isDocument_pair (by decide) .null (.number trivial)
  have hxy : equal x y = true := by decide +kernel
  obtain ⟨hself, hsymm, harranged⟩ := equality_symmetric_and_blind_to_arrangement
  refine ⟨hx, hy, hxy, (hsymm x y hx hy).1 ▸ hxy, ?_⟩
  have hnull (z : Json) (h : null.compact ≤ z.compact) : [null, z] = arranged [null, z] :=
    eq_arranged (.refl _) (List.pairwise_pair.2 h)
  rw [harranged [x, null] [null, y] [null, x] [null, y] (.swap _ _ _) (.refl _),
    equalIgnoringOrder_array_iff, ← hnull x (by decide +kernel), ← hnull y (by decide +kernel)]
  exact .cons (hself null .null).1 (.cons hxy .nil)

end Triage.Json
