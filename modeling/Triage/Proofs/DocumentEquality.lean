import Mathlib.Data.List.Perm.Basic
import Triage.Proofs.NumberEquality
import Triage.Proofs.Places

/-!
# When two documents are equal

Comparing documents finds whether they are the same up to the order of members, with their numbers
related by what comparing two numbers finds (`sameBy_iff_same`). Where no number of one document is
taken for another number of the other, they are equal when they are the same by the values of their
numbers (`equal_iff_same`). Equality is transitive there (`equal_trans`), but not in general.
-/

namespace Triage.Json

/-- The same document up to the order of members, with numbers related by `r`. -/
inductive Same (r : Number → Number → Prop) : Json → Json → Prop
  | null : Same r null null
  | bool (b : Bool) : Same r (bool b) (bool b)
  | number {m n : Number} (related : r m n) : Same r (number m) (number n)
  | string (s : String) : Same r (string s) (string s)
  | array {xs ys : List Json} (items : List.Forall₂ (Same r) xs ys) : Same r (array xs) (array ys)
  | object {members arranged others : Members} (keys : members.map (·.1) = arranged.map (·.1))
      (values : List.Forall₂ (Same r) (members.map (·.2)) (arranged.map (·.2)))
      (perm : arranged.Perm others) : Same r (object members) (object others)

/-- No object has a key twice, and integers are stored in 64 bits. -/
inductive IsDocument : Json → Prop
  | null : IsDocument null
  | bool (b : Bool) : IsDocument (bool b)
  | number {n : Number} (stored : n.Stored) : IsDocument (number n)
  | string (s : String) : IsDocument (string s)
  | array {items : List Json} (documents : ∀ x ∈ items, IsDocument x) : IsDocument (array items)
  | object {members : Members} (nodup : (members.map (·.1)).Nodup)
      (documents : ∀ x ∈ members.map (·.2), IsDocument x) : IsDocument (object members)

/-- The number occurs in the document. -/
inductive Contains (n : Number) : Json → Prop
  | number : Contains n (number n)
  | array {items : List Json} {x : Json} (mem : x ∈ items) (inner : Contains n x) :
    Contains n (array items)
  | object {members : Members} {x : Json} (mem : x ∈ members.map (·.2)) (inner : Contains n x) :
    Contains n (object members)

section Contains

variable {k n : Number}

@[simp]
theorem not_contains_null : ¬Contains n null := nofun

@[simp]
theorem contains_number : Contains n (number k) ↔ n = k := by
  constructor
  · rintro ⟨⟩
    rfl
  · rintro rfl
    exact .number

@[simp]
theorem contains_array {items : List Json} :
    Contains n (array items) ↔ ∃ x ∈ items, Contains n x := by
  constructor
  · rintro (_ | ⟨hmem, hinner⟩)
    exact ⟨_, hmem, hinner⟩
  · rintro ⟨x, hmem, hinner⟩
    exact .array hmem hinner

@[simp]
theorem contains_object {members : Members} :
    Contains n (object members) ↔ ∃ x ∈ members.map (·.2), Contains n x := by
  constructor
  · rintro (_ | _ | ⟨hmem, hinner⟩)
    exact ⟨_, hmem, hinner⟩
  · rintro ⟨x, hmem, hinner⟩
    exact .object hmem hinner

end Contains

/-- No number of the one document is taken for another one of the other, or for a different zero. -/
def ComparesByValue (x y : Json) : Prop :=
  ∀ m n, Contains m x → Contains n y →
    ¬Number.ZeroClash m n ∧ (m.Beyond ∨ n.Beyond → ¬Number.Merged m n)

/-- What holds of a value whenever it holds of all values directly inside holds of every value. -/
@[elab_as_elim]
theorem induction {p : Json → Prop} (null : p null) (bool : ∀ b, p (bool b))
    (number : ∀ n, p (number n)) (string : ∀ s, p (string s))
    (array : ∀ items, (∀ x ∈ items, p x) → p (array items))
    (object : ∀ members : Members, (∀ x ∈ members.map (·.2), p x) → p (object members))
    (x : Json) : p x :=
  @Json.rec p (fun items => ∀ x ∈ items, p x)
    (fun members : Members => ∀ x ∈ members.map Prod.snd, p x)
    (fun member => p member.2) null bool number string array object
    (fun _ h => absurd h List.not_mem_nil)
    (fun _ _ hfirst hrest => List.forall_mem_cons.2 ⟨hfirst, hrest⟩)
    (fun _ h => absurd h List.not_mem_nil)
    (fun _ _ hfirst hrest => List.forall_mem_cons.2 ⟨hfirst, hrest⟩)
    (fun _ _ hvalue => hvalue) x

theorem forall₂_trans_of_mem {α : Type*} {r : α → α → Prop} : ∀ {xs ys zs : List α}
    (_ : ∀ x ∈ xs, ∀ y z, r x y → r y z → r x z), List.Forall₂ r xs ys → List.Forall₂ r ys zs →
      List.Forall₂ r xs zs
  | [], _, _, _, .nil, .nil => .nil
  | x :: xs, _, _, htrans, .cons hxy hxys, .cons hyz hyzs => by
    rw [List.forall_mem_cons] at htrans
    exact .cons (htrans.1 _ _ hxy hyz) (forall₂_trans_of_mem htrans.2 hxys hyzs)

section Comparison

variable {eq : Number → Number → Bool} {r s : Number → Number → Prop}

theorem sameItemsBy_iff_forall₂ : ∀ {xs ys : List Json},
    sameItemsBy eq xs ys = true ↔ List.Forall₂ (fun x y => sameBy eq x y = true) xs ys
  | [], [] => by simp [sameItemsBy]
  | [], y :: ys => by simp [sameItemsBy]
  | x :: xs, [] => by simp [sameItemsBy]
  | x :: xs, y :: ys => by
    rw [sameItemsBy, Bool.and_eq_true, sameItemsBy_iff_forall₂, List.forall₂_cons]

theorem sameMembersBy_iff_lookup {others : Members} : ∀ {members : Members},
    sameMembersBy eq others members = true ↔
      ∀ p ∈ members, ∃ y, others.lookup p.1 = some y ∧ sameBy eq p.2 y = true
  | [] => by simp [sameMembersBy]
  | (key, x) :: members => by
    rw [sameMembersBy, Bool.and_eq_true, sameMembersBy_iff_lookup, List.forall_mem_cons]
    cases others.lookup key <;> simp

theorem forall₂_members_iff : ∀ {members others : Members},
    List.Forall₂ (fun p q => p.1 = q.1 ∧ Same r p.2 q.2) members others ↔
      members.map (·.1) = others.map (·.1)
        ∧ List.Forall₂ (Same r) (members.map (·.2)) (others.map (·.2))
  | [], [] => by simp
  | [], _ :: _ => by simp
  | _ :: _, [] => by simp
  | p :: members, q :: others => by
    simp only [List.forall₂_cons, List.map_cons, List.cons.injEq]
    rw [forall₂_members_iff]
    tauto

/-- Two objects are the same when each member of the one is found in the other, and no more are
there. -/
theorem same_object_iff {members others : Members} (hnodup : (members.map (·.1)).Nodup)
    (hothers : (others.map (·.1)).Nodup) :
    Same r (object members) (object others) ↔ members.length = others.length
      ∧ ∀ p ∈ members, ∃ y, others.lookup p.1 = some y ∧ Same r p.2 y := by
  constructor
  · rintro (_ | _ | _ | _ | _ | @⟨_, arranged, _, hkeys, hvalues, hperm⟩)
    have hlength : members.length = arranged.length := by
      simpa using congrArg List.length hkeys
    refine ⟨hlength.trans hperm.length_eq, fun p hp => ?_⟩
    obtain ⟨i, hi, rfl⟩ := List.mem_iff_getElem.1 hp
    have hkey : members[i].1 = arranged[i].1 := by
      have := List.getElem_of_eq hkeys (by simpa using hi)
      rwa [List.getElem_map, List.getElem_map] at this
    have hvalue := hvalues.get (by simpa using hi) (by simpa using hlength ▸ hi)
    have hmem : arranged[i] ∈ others := hperm.subset (List.getElem_mem _)
    refine ⟨arranged[i].2, ?_, by simpa using hvalue⟩
    rw [hkey]
    exact lookup_of_mem hothers hmem
  · rintro ⟨hlength, hfound⟩
    choose! found hlookup hsame using hfound
    have hkeys : members.map (·.1) = (members.map fun p => (p.1, found p)).map (·.1) := by
      simp
    refine .object hkeys ?_ ?_
    · rw [List.map_map, List.forall₂_map_left_iff, List.forall₂_map_right_iff]
      exact List.forall₂_same.2 hsame
    · have hdistinct : (members.map fun p => (p.1, found p)).Nodup :=
        (hkeys ▸ hnodup).of_map
      have hsubset : (members.map fun p => (p.1, found p)) ⊆ others := by
        intro q hq
        obtain ⟨p, hp, rfl⟩ := List.mem_map.1 hq
        exact mem_of_lookup (hlookup p hp)
      refine (List.subperm_of_subset hdistinct hsubset).perm_of_length_le ?_
      rw [List.length_map, hlength]

variable {x y z : Json}

/-- Comparing finds whether two documents are the same, given what comparing two numbers finds. -/
theorem sameBy_iff_same (hnumbers : ∀ m n, m.Stored → n.Stored → (eq m n = true ↔ r m n))
    (hx : x.IsDocument) (hy : y.IsDocument) : sameBy eq x y = true ↔ Same r x y := by
  induction x using induction generalizing y with
  | null =>
    cases y with
    | null => exact ⟨fun _ => .null, fun _ => by rw [sameBy]⟩
    | _ => exact ⟨fun h => by simp [sameBy] at h, nofun⟩
  | bool a =>
    cases y with
    | bool b =>
      rw [sameBy, beq_iff_eq]
      constructor
      · rintro rfl
        exact .bool a
      · rintro ⟨⟩
        rfl
    | _ => exact ⟨fun h => by simp [sameBy] at h, nofun⟩
  | number m =>
    cases y with
    | number n =>
      rcases hx with _ | _ | hm
      rcases hy with _ | _ | hn
      rw [sameBy, hnumbers m n hm hn]
      exact ⟨.number, fun (.number h) => h⟩
    | _ => exact ⟨fun h => by simp [sameBy] at h, nofun⟩
  | string s =>
    cases y with
    | string t =>
      rw [sameBy, beq_iff_eq]
      constructor
      · rintro rfl
        exact .string s
      · rintro ⟨⟩
        rfl
    | _ => exact ⟨fun h => by simp [sameBy] at h, nofun⟩
  | array xs ih =>
    cases y with
    | array ys =>
      rcases hx with _ | _ | _ | _ | hxs
      rcases hy with _ | _ | _ | _ | hys
      rw [sameBy, sameItemsBy_iff_forall₂]
      constructor
      · intro h
        exact .array (forall₂_imp_of_mem (fun x hx y hy => (ih x hx (hxs x hx) (hys y hy)).1) h)
      · rintro (_ | _ | _ | _ | h)
        exact forall₂_imp_of_mem (fun x hx y hy => (ih x hx (hxs x hx) (hys y hy)).2) h
    | _ => exact ⟨fun h => by simp [sameBy] at h, nofun⟩
  | object members ih =>
    cases y with
    | object others =>
      rcases hx with _ | _ | _ | _ | _ | ⟨hnodup, hmembers⟩
      rcases hy with _ | _ | _ | _ | _ | ⟨hnodup', hothers⟩
      rw [sameBy, Bool.and_eq_true, beq_iff_eq, sameMembersBy_iff_lookup,
        same_object_iff hnodup hnodup']
      refine and_congr_right fun _ => forall₂_congr fun p hp => exists_congr fun y => ?_
      refine and_congr_right fun hlookup => ?_
      have hx := List.mem_map_of_mem (f := (·.2)) hp
      exact ih _ hx (hmembers _ hx) (hothers _ (List.mem_map_of_mem (mem_of_lookup hlookup)))
    | _ => exact ⟨fun h => by simp [sameBy] at h, nofun⟩

/-- Numbers only count where they occur. -/
theorem Same.imp (h : Same r x y) (himp : ∀ m n, Contains m x → Contains n y → r m n → s m n) :
    Same s x y := by
  induction x using induction generalizing y with
  | null =>
    cases h
    exact .null
  | bool b =>
    cases h
    exact .bool b
  | number m =>
    rcases h with _ | _ | h
    exact .number (himp _ _ .number .number h)
  | string s =>
    cases h
    exact .string s
  | array xs ih =>
    rcases h with _ | _ | _ | _ | hitems
    refine .array (forall₂_imp_of_mem (fun x hx y hy hsame => ih x hx hsame ?_) hitems)
    exact fun m n hm hn => himp m n (.array hx hm) (.array hy hn)
  | object members ih =>
    rcases h with _ | _ | _ | _ | _ | ⟨hkeys, hvalues, hperm⟩
    refine .object hkeys (forall₂_imp_of_mem (fun x hx y hy hsame => ih x hx hsame ?_) hvalues)
      hperm
    exact fun m n hm hn =>
      himp m n (.object hx hm) (.object ((hperm.map _).subset hy) hn)

theorem Same.trans (htrans : ∀ k m n, r k m → r m n → r k n) (hxy : Same r x y)
    (hyz : Same r y z) : Same r x z := by
  induction x using induction generalizing y z with
  | null =>
    cases hxy
    exact hyz
  | bool b =>
    cases hxy
    exact hyz
  | number k =>
    rcases hxy with _ | _ | hkm
    rcases hyz with _ | _ | hmn
    exact .number (htrans _ _ _ hkm hmn)
  | string s =>
    cases hxy
    exact hyz
  | array xs ih =>
    rcases hxy with _ | _ | _ | _ | hxy
    rcases hyz with _ | _ | _ | _ | hyz
    exact .array (forall₂_trans_of_mem (fun x hx y z => ih x hx) hxy hyz)
  | object members ih =>
    rcases hxy with _ | _ | _ | _ | _ | ⟨hkeys, hvalues, hperm⟩
    rcases hyz with _ | _ | _ | _ | _ | ⟨hkeys', hvalues', hperm'⟩
    -- the last document's members go into the order of the first one's in two steps
    obtain ⟨arranged, hsame, harranged⟩ :=
      List.perm_comp_forall₂ hperm (forall₂_members_iff.2 ⟨hkeys', hvalues'⟩)
    obtain ⟨hkeys'', hvalues''⟩ := forall₂_members_iff.1 hsame
    exact .object (hkeys.trans hkeys'')
      (forall₂_trans_of_mem (fun x hx y z => ih x hx) hvalues hvalues'') (harranged.trans hperm')

end Comparison

section Numbers

variable {x y z : Json}

theorem same_agree_iff_of_comparesByValue (h : ComparesByValue x y) :
    Same Number.Agree x y ↔ Same (fun m n => m.value = n.value) x y := by
  have hagree (m n : Number) (hm : Contains m x) (hn : Contains n y) :
      m.Agree n ↔ m.value = n.value := by
    obtain ⟨hclash, hmerged⟩ := h m n hm hn
    exact Number.agree_iff_value_iff.2 ⟨hclash, fun h => hmerged h.beyond h⟩
  exact ⟨fun h => h.imp fun m n hm hn => (hagree m n hm hn).1,
    fun h => h.imp fun m n hm hn => (hagree m n hm hn).2⟩

theorem equal_iff_same_agree (hx : x.IsDocument) (hy : y.IsDocument) :
    equal x y = true ↔ Same Number.Agree x y :=
  sameBy_iff_same (fun _ _ => Number.equal_iff_agree) hx hy

theorem equal_iff_same_value (hx : x.IsDocument) (hy : y.IsDocument) (h : ComparesByValue x y) :
    equal x y = true ↔ Same (fun m n => m.value = n.value) x y :=
  (equal_iff_same_agree hx hy).trans (same_agree_iff_of_comparesByValue h)

/-- Two documents are equal when they are the same up to the order of members and their numbers
agree: as values, where no number is taken for another one. -/
theorem equal_iff_same (hx : x.IsDocument) (hy : y.IsDocument) :
    (equal x y = true ↔ Same Number.Agree x y)
    ∧ (ComparesByValue x y → (equal x y = true ↔ Same (fun m n => m.value = n.value) x y)) :=
  ⟨equal_iff_same_agree hx hy, equal_iff_same_value hx hy⟩

/-- The double of value one. -/
def floatOne : Binary64 := ⟨false, 2 ^ 52, -52, by decide⟩

/-- Members in two orders with one number spelled in two ways, and two integers that are merged. -/
theorem equal_iff_same_on_spellings :
    let x := object [("a", ofInt 1), ("b", null)]
    let y := object [("b", null), ("a", number (.float floatOne))]
    let large := array [ofInt 9007199254740993]
    let even := array [ofInt 9007199254740992]
    Same (fun m n => m.value = n.value) x y ∧ Same Number.Agree large even := by
  intro x y large even
  have hx : x.IsDocument := by
    refine .object (by decide) ?_
    simp only [List.map_cons, List.map_nil, List.forall_mem_cons]
    exact ⟨.number (by decide), .null, by simp⟩
  have hy : y.IsDocument := by
    refine .object (by decide) ?_
    simp only [List.map_cons, List.map_nil, List.forall_mem_cons]
    exact ⟨.null, .number trivial, by simp⟩
  have hlarge : large.IsDocument :=
    .array (List.forall_mem_singleton.2 (.number (by decide)))
  have heven : even.IsDocument :=
    .array (List.forall_mem_singleton.2 (.number (by decide)))
  have hvalues : ComparesByValue x y := by
    intro m n hm hn
    obtain rfl : m = .int 1 := by simpa [x, ofInt] using hm
    obtain rfl : n = .float floatOne := by simpa [y] using hn
    refine ⟨by simp [Number.ZeroClash], fun hbeyond => absurd hbeyond ?_⟩
    simp [Number.Beyond]
  exact ⟨((equal_iff_same hx hy).2 hvalues).1 (by decide +kernel),
    (equal_iff_same hlarge heven).1.1 (by decide +kernel)⟩

/-- Equality is neither equality by value nor transitive. -/
theorem equal_merges_integers_and_splits_zeros :
    equal (ofInt 9007199254740993) (ofInt 9007199254740992) = true
    ∧ ¬Same (fun m n => m.value = n.value) (ofInt 9007199254740993) (ofInt 9007199254740992)
    ∧ equal (ofInt 0) (number (.float (Binary64.zero false))) = true
    ∧ equal (number (.float (Binary64.zero false))) (number (.float (Binary64.zero true))) = true
    ∧ equal (ofInt 0) (number (.float (Binary64.zero true))) = false := by
  refine ⟨by decide +kernel, ?_, by decide +kernel, by decide +kernel, by decide +kernel⟩
  rintro (_ | _ | h)
  norm_num [Number.value] at h

theorem equal_trans (hx : x.IsDocument) (hy : y.IsDocument) (hz : z.IsDocument)
    (hxy : ComparesByValue x y) (hyz : ComparesByValue y z) (hxz : ComparesByValue x z)
    (h : equal x y = true) (h' : equal y z = true) : equal x z = true := by
  rw [equal_iff_same_value hx hy hxy] at h
  rw [equal_iff_same_value hy hz hyz] at h'
  rw [equal_iff_same_value hx hz hxz]
  exact h.trans (fun _ _ _ => Eq.trans) h'

end Numbers

end Triage.Json
