import Mathlib.Data.List.Pairwise
import Mathlib.Data.Prod.Lex
import Mathlib.Data.String.Basic
import Triage.Json.Equality
import Triage.Proofs.CompactText

/-!
# What comparing two arrays without their order finds

Both arrays are put into the order of their texts and then compared place by place. A pairing of
equal elements that keeps the order of the texts is found (`equalIgnoringOrder_of_pairing`), and no
other is (`exists_pairing_of_equalIgnoringOrder`). Equal elements may have different texts, so there
may be a pairing where none is found; where equal elements have equal texts there is none like that
(`equalIgnoringOrder_iff_of_texts`).
-/

namespace Triage.Json

/-- The elements of two arrays in pairs of equal ones. -/
structure IsPairing (xs ys : List Json) (pairs : List (Json × Json)) : Prop where
  left : (pairs.map (·.1)).Perm xs
  right : (pairs.map (·.2)).Perm ys
  equal : ∀ pair ∈ pairs, equal pair.1 pair.2 = true

/-- The pair that comes first by its left text does not come last by its right one. -/
def KeepsOrder (pairs : List (Json × Json)) : Prop :=
  ∀ p ∈ pairs, ∀ q ∈ pairs, p.1.compact < q.1.compact → p.2.compact ≤ q.2.compact

/-- The texts do not descend. -/
def TextSorted (values : List Json) : Prop :=
  values.Pairwise fun x y => x.compact ≤ y.compact

theorem pairwise_mergeSort_key {α β : Type*} [LinearOrder β] (key : α → β) (l : List α) :
    (l.mergeSort fun x y => key x ≤ key y).Pairwise fun x y => key x ≤ key y := by
  have h := @List.pairwise_mergeSort α (fun x y => key x ≤ key y)
    (fun x y z hxy hyz => by simpa using le_trans (by simpa using hxy) (by simpa using hyz))
    (fun x y => by simpa using le_total (key x) (key y)) l
  simpa using h

variable {xs ys : List Json} {pairs : List (Json × Json)}

theorem arranged_perm (xs : List Json) : (arranged xs).Perm xs := by
  have h := ((xs.map fun value => (value.compact, value)).mergeSort_perm
    fun x y => x.1 ≤ y.1).map (·.2)
  rwa [List.map_map, show ((·.2) ∘ fun value : Json => (value.compact, value)) = id from rfl,
    List.map_id] at h

theorem textSorted_arranged (xs : List Json) : TextSorted (arranged xs) := by
  rw [TextSorted, arranged, List.pairwise_map]
  refine (pairwise_mergeSort_key Prod.fst _).imp_of_mem fun {x y} hx hy hxy => ?_
  have hkey {z : String × Json} (hz : z ∈ (xs.map fun value => (value.compact, value)).mergeSort
      fun x y => x.1 ≤ y.1) : z.1 = z.2.compact := by
    obtain ⟨value, -, rfl⟩ := List.mem_map.1 (List.mem_mergeSort.1 hz)
    rfl
  rwa [hkey hx, hkey hy] at hxy

/-- There is one way to put values into the order of their texts. -/
theorem eq_arranged {values : List Json} (hperm : values.Perm xs) (hsorted : TextSorted values) :
    values = arranged xs :=
  (hperm.trans (arranged_perm xs).symm).eq_of_pairwise
    (fun _ _ _ _ hle hge => compact_inj (le_antisymm hle hge)) hsorted (textSorted_arranged xs)

theorem sameItemsBy_map (eq : Number → Number → Bool) : ∀ pairs : List (Json × Json),
    sameItemsBy eq (pairs.map (·.1)) (pairs.map (·.2)) = pairs.all fun p => sameBy eq p.1 p.2
  | [] => rfl
  | p :: pairs => by simp [sameItemsBy, sameItemsBy_map eq pairs]

theorem equalIgnoringOrder_of_pairing (h : IsPairing xs ys pairs) (hkeeps : KeepsOrder pairs) :
    equalIgnoringOrder (array xs) (array ys) = true := by
  -- ties between left texts are broken by the right ones, so that both columns ascend
  obtain ⟨sorted, hsorted⟩ : ∃ sorted, sorted = pairs.mergeSort fun p q =>
    toLex (p.1.compact, p.2.compact) ≤ toLex (q.1.compact, q.2.compact) := ⟨_, rfl⟩
  have hperm : sorted.Perm pairs := hsorted ▸ List.mergeSort_perm pairs _
  have hpairwise : sorted.Pairwise fun p q =>
      toLex (p.1.compact, p.2.compact) ≤ toLex (q.1.compact, q.2.compact) :=
    hsorted ▸ pairwise_mergeSort_key _ pairs
  have hleft : sorted.map (·.1) = arranged xs := by
    refine eq_arranged ((hperm.map _).trans h.left) (List.pairwise_map.2 ?_)
    refine hpairwise.imp fun {p q} hle => ?_
    rcases Prod.Lex.toLex_le_toLex.1 hle with hlt | ⟨heq, -⟩
    · exact hlt.le
    · exact heq.le
  have hright : sorted.map (·.2) = arranged ys := by
    refine eq_arranged ((hperm.map _).trans h.right) (List.pairwise_map.2 ?_)
    refine hpairwise.imp_of_mem fun {p q} hp hq hle => ?_
    rcases Prod.Lex.toLex_le_toLex.1 hle with hlt | ⟨-, hle⟩
    · exact hkeeps p (hperm.subset hp) q (hperm.subset hq) hlt
    · exact hle
  have hlength : xs.length = ys.length := by
    rw [← h.left.length_eq, ← h.right.length_eq, List.length_map, List.length_map]
  rw [equalIgnoringOrder, hlength, ← hleft, ← hright, sameItemsBy_map, beq_self_eq_true,
    Bool.true_and]
  exact List.all_eq_true.2 fun p hp => h.equal p (hperm.subset hp)

theorem pairwise_zip {α β : Type*} {r : α → α → Prop} {s : β → β → Prop} : ∀ {xs : List α}
    {ys : List β}, xs.Pairwise r → ys.Pairwise s →
      (xs.zip ys).Pairwise fun p q => r p.1 q.1 ∧ s p.2 q.2
  | [], _, _, _ => by simp
  | _ :: _, [], _, _ => by simp
  | x :: xs, y :: ys, hx, hy => by
    rw [List.pairwise_cons] at hx hy
    rw [List.zip_cons_cons, List.pairwise_cons]
    refine ⟨fun p hp => ?_, pairwise_zip hx.2 hy.2⟩
    obtain ⟨hl, hr⟩ := List.of_mem_zip hp
    exact ⟨hx.1 _ hl, hy.1 _ hr⟩

theorem exists_pairing_of_equalIgnoringOrder
    (h : equalIgnoringOrder (array xs) (array ys) = true) :
    ∃ pairs, IsPairing xs ys pairs ∧ KeepsOrder pairs := by
  rw [equalIgnoringOrder, Bool.and_eq_true, beq_iff_eq] at h
  obtain ⟨hlength, hsame⟩ := h
  have hlengths : (arranged xs).length = (arranged ys).length := by
    rw [(arranged_perm xs).length_eq, (arranged_perm ys).length_eq, hlength]
  have hleft : ((arranged xs).zip (arranged ys)).map (·.1) = arranged xs :=
    List.map_fst_zip hlengths.le
  have hright : ((arranged xs).zip (arranged ys)).map (·.2) = arranged ys :=
    List.map_snd_zip hlengths.ge
  refine ⟨(arranged xs).zip (arranged ys), ⟨?_, ?_, ?_⟩, ?_⟩
  · rw [hleft]
    exact arranged_perm xs
  · rw [hright]
    exact arranged_perm ys
  · have hall := sameItemsBy_map Number.equal ((arranged xs).zip (arranged ys))
    rw [hleft, hright, hsame] at hall
    exact List.all_eq_true.1 hall.symm
  · have hsorted := pairwise_zip (textSorted_arranged xs) (textSorted_arranged ys)
    exact List.Pairwise.forall_of_forall_of_flip (fun p _ _ => le_rfl)
      (hsorted.imp fun hle _ => hle.2)
      (hsorted.imp fun hle hlt => absurd hlt (not_lt.2 hle.1))

/-- Where equal elements have the same text, arrays are found equal just when they can be paired. -/
theorem equalIgnoringOrder_iff_of_texts
    (htexts : ∀ x ∈ xs, ∀ y ∈ ys, equal x y = true → x.compact = y.compact) :
    equalIgnoringOrder (array xs) (array ys) = true ↔ ∃ pairs, IsPairing xs ys pairs := by
  constructor
  · intro h
    obtain ⟨pairs, hpairing, -⟩ := exists_pairing_of_equalIgnoringOrder h
    exact ⟨pairs, hpairing⟩
  · rintro ⟨pairs, hpairing⟩
    have hsame (p : Json × Json) (hp : p ∈ pairs) : p.1.compact = p.2.compact :=
      htexts _ (hpairing.left.subset (List.mem_map_of_mem hp)) _
        (hpairing.right.subset (List.mem_map_of_mem hp)) (hpairing.equal p hp)
    refine equalIgnoringOrder_of_pairing hpairing fun p hp q hq hlt => ?_
    rw [← hsame p hp, ← hsame q hq]
    exact hlt.le

/-- Comparing two arrays without their order finds the pairings that keep the order of the texts,
and only these. So it finds whether there is a pairing at all exactly where there is none, or one
that keeps this order. -/
theorem equalIgnoringOrder_iff_pairing_keepsOrder (xs ys : List Json) :
    (equalIgnoringOrder (array xs) (array ys) = true ↔
      ∃ pairs, IsPairing xs ys pairs ∧ KeepsOrder pairs)
    ∧ ((equalIgnoringOrder (array xs) (array ys) = true ↔ ∃ pairs, IsPairing xs ys pairs) ↔
      ((∃ pairs, IsPairing xs ys pairs) → ∃ pairs, IsPairing xs ys pairs ∧ KeepsOrder pairs)) := by
  have hiff : equalIgnoringOrder (array xs) (array ys) = true ↔
      ∃ pairs, IsPairing xs ys pairs ∧ KeepsOrder pairs := by
    constructor
    · exact exists_pairing_of_equalIgnoringOrder
    · rintro ⟨pairs, hpairing, hkeeps⟩
      exact equalIgnoringOrder_of_pairing hpairing hkeeps
  refine ⟨hiff, ?_⟩
  rw [hiff]
  constructor
  · exact fun h => h.2
  · intro h
    refine ⟨?_, h⟩
    rintro ⟨pairs, hpairing, -⟩
    exact ⟨pairs, hpairing⟩

/-- Two arrays that are equal place by place, but whose first elements write their members in
different orders, one before and one after the text of the second element. -/
theorem equalIgnoringOrder_misses_pairing :
    let xs := [object [("a", ofNat 1), ("b", ofNat 2)], object [("a", ofNat 2)]]
    let ys := [object [("b", ofNat 2), ("a", ofNat 1)], object [("a", ofNat 2)]]
    equal (array xs) (array ys) = true ∧ (∃ pairs, IsPairing xs ys pairs)
      ∧ equalIgnoringOrder (array xs) (array ys) = false := by
  intro xs ys
  have hpair : ∀ pair ∈ xs.zip ys, equal pair.1 pair.2 = true := by decide +kernel
  have hleft : xs = arranged xs :=
    eq_arranged (.refl xs) (List.pairwise_pair.2 (by decide +kernel))
  have hright : ys.reverse = arranged ys :=
    eq_arranged (List.reverse_perm ys) (List.pairwise_pair.2 (by decide +kernel))
  refine ⟨by decide +kernel, ⟨xs.zip ys, .refl _, .refl _, hpair⟩, ?_⟩
  rw [equalIgnoringOrder, ← hleft, ← hright]
  decide +kernel

end Triage.Json
