import Triage.Json.Written
import Triage.Proofs.DocumentEquality

/-!
# What is read is a document

Reading keeps integers that fit into 64 bits and makes doubles of all other numbers, and it merges
members of one key, so the documents that comparing is about are those that are read
(`isDocument_of_ofBytes?`).
-/

namespace Triage.Json

namespace Number

theorem Significand.digits_addWhole : ∀ {s : Significand} {whole : List Char},
    s.digits < 2 ^ 64 → (s.addWhole whole).digits < 2 ^ 64
  | _, [], h => h
  | s, c :: rest, h => by
    rw [addWhole]
    split
    · rename_i hfits
      exact digits_addWhole (of_decide_eq_true hfits)
    · exact h

theorem stored_of_toFloat? {s : Significand} {negative : Bool} {n : Number}
    (h : s.toFloat? negative = some n) : n.Stored := by
  simp only [Significand.toFloat?, Option.bind_eq_bind, Option.bind_eq_some_iff] at h
  obtain ⟨-, -, x, -, h⟩ := h
  obtain rfl := Option.some.inj h
  trivial

theorem stored_of_value? {l : Lexeme} {n : Number} (h : l.value? = some n) : n.Stored := by
  have hdigits : (Significand.addWhole ⟨0, 0⟩ l.whole).digits < 2 ^ 64 :=
    Significand.digits_addWhole (by norm_num)
  simp only [Lexeme.value?] at h
  split at h
  · split_ifs at h with hpower hsign hfits
    · exact stored_of_toFloat? h
    · obtain rfl := Option.some.inj h
      exact ⟨by omega, by omega⟩
    · obtain rfl := Option.some.inj h
      rw [Text.powerOfTwo] at hfits
      exact ⟨by omega, by omega⟩
    · exact stored_of_toFloat? h
  · exact stored_of_toFloat? h

end Number

namespace Members

variable {key : String} {value : Json} {members : Members}

theorem key_mem_set {k : String} : ∀ {members : Members},
    k ∈ (set key value members).map (·.1) → k = key ∨ k ∈ members.map (·.1)
  | [], h => by simpa [set] using h
  | (k', v) :: rest, h => by
    rw [set] at h
    split at h
    · exact .inr (by simpa using h)
    · rw [List.map_cons, List.mem_cons] at h
      rcases h with rfl | h
      · exact .inr (by simp)
      · rcases key_mem_set h with hkey | hrest
        · exact .inl hkey
        · exact .inr (List.mem_cons_of_mem _ hrest)

theorem nodup_set : ∀ {members : Members}, (members.map (·.1)).Nodup →
    ((set key value members).map (·.1)).Nodup
  | [], _ => by simp [set]
  | (k, v) :: rest, h => by
    rw [List.map_cons, List.nodup_cons] at h
    rw [set]
    split
    · rw [List.map_cons, List.nodup_cons]
      exact h
    · rename_i hne
      rw [List.map_cons, List.nodup_cons]
      refine ⟨fun hmem => ?_, nodup_set h.2⟩
      rcases key_mem_set hmem with hkey | hrest
      · exact hne hkey
      · exact h.1 hrest

theorem value_mem_set {x : Json} : ∀ {members : Members},
    x ∈ (set key value members).map (·.2) → x = value ∨ x ∈ members.map (·.2)
  | [], h => by simpa [set] using h
  | (k, v) :: rest, h => by
    rw [set] at h
    split at h
    · rw [List.map_cons, List.mem_cons] at h
      exact h.imp_right (List.mem_cons_of_mem _)
    · rw [List.map_cons, List.mem_cons] at h
      rcases h with rfl | h
      · exact .inr (by simp)
      · exact (value_mem_set h).imp_right (List.mem_cons_of_mem _)

end Members

theorem isDocument_set {key : String} {value : Json} {members : Members}
    (hvalue : value.IsDocument) (h : (object members).IsDocument) :
    (object (Members.set key value members)).IsDocument := by
  rcases h with _ | _ | _ | _ | _ | ⟨hnodup, hvalues⟩
  refine .object (Members.nodup_set hnodup) fun x hx => ?_
  rcases Members.value_mem_set hx with rfl | hx
  · exact hvalue
  · exact hvalues x hx

theorem isDocument_ofList {written : Members} (h : ∀ x ∈ written.map (·.2), x.IsDocument) :
    (object (Members.ofList written)).IsDocument := by
  have hempty : (object []).IsDocument := .object (by simp) (by simp)
  refine List.foldlRecOn (motive := fun members => (object members).IsDocument) written _ hempty ?_
  intro members hmembers p hp
  exact isDocument_set (h p.2 (List.mem_map_of_mem hp)) hmembers

namespace Written

/-- All numbers that have a value are stored. -/
inductive NumbersStored : Written → Prop
  | null : NumbersStored null
  | bool (b : Bool) : NumbersStored (bool b)
  | number {value : Option Number} (stored : ∀ n ∈ value, n.Stored) : NumbersStored (number value)
  | string (value : Option String) : NumbersStored (string value)
  | array {items : List Written} (inner : ∀ w ∈ items, NumbersStored w) :
    NumbersStored (array items)
  | object {members : List (Option String × Written)}
      (inner : ∀ w ∈ members.map (·.2), NumbersStored w) : NumbersStored (object members)

variable {w : Written} {s rest : Source} {items : List Written}
  {members : List (Option String × Written)}

theorem numbersStored_of_readNumber? {negative : Bool}
    (h : readNumber? negative s = some (w, rest)) : w.NumbersStored := by
  simp only [readNumber?, Option.bind_eq_bind, Option.bind_eq_some_iff] at h
  obtain ⟨_, -, _, -, _, -, h⟩ := h
  obtain ⟨rfl, -⟩ := Prod.mk.inj (Option.some.inj h)
  exact .number fun n hn => Number.stored_of_value? hn

mutual
theorem numbersStored_of_readValue? : ∀ {fuel : ℕ} {s rest : Source} {w : Written},
    readValue? fuel s = some (w, rest) → w.NumbersStored
  | fuel + 1, s, rest, w, h => by
    rw [readValue?] at h
    split at h
    · split at h
      · obtain ⟨rfl, -⟩ := Prod.mk.inj (Option.some.inj h)
        exact .array (by simp)
      · obtain ⟨⟨items, _⟩, hitems, h⟩ := Option.map_eq_some_iff.1 h
        obtain ⟨rfl, -⟩ := Prod.mk.inj h
        exact .array (numbersStored_of_readItems? hitems)
    · split at h
      · obtain ⟨rfl, -⟩ := Prod.mk.inj (Option.some.inj h)
        exact .object (by simp)
      · obtain ⟨⟨members, _⟩, hmembers, h⟩ := Option.map_eq_some_iff.1 h
        obtain ⟨rfl, -⟩ := Prod.mk.inj h
        exact .object (numbersStored_of_readMembers? hmembers)
    · obtain ⟨⟨text, _⟩, -, h⟩ := Option.map_eq_some_iff.1 h
      obtain ⟨rfl, -⟩ := Prod.mk.inj h
      exact .string text
    · exact numbersStored_of_readNumber? h
    · obtain ⟨_, -, h⟩ := Option.map_eq_some_iff.1 h
      obtain ⟨rfl, -⟩ := Prod.mk.inj h
      exact .null
    · obtain ⟨_, -, h⟩ := Option.map_eq_some_iff.1 h
      obtain ⟨rfl, -⟩ := Prod.mk.inj h
      exact .bool true
    · obtain ⟨_, -, h⟩ := Option.map_eq_some_iff.1 h
      obtain ⟨rfl, -⟩ := Prod.mk.inj h
      exact .bool false
    · exact numbersStored_of_readNumber? h

theorem numbersStored_of_readItems? : ∀ {fuel : ℕ} {s rest : Source} {items : List Written},
    readItems? fuel s = some (items, rest) → ∀ w ∈ items, w.NumbersStored
  | fuel + 1, s, rest, items, h => by
    rw [readItems?, Option.bind_eq_bind, Option.bind_eq_some_iff] at h
    obtain ⟨⟨item, rest'⟩, hitem, h⟩ := h
    have hfirst := numbersStored_of_readValue? hitem
    simp only at h
    split at h
    · rw [Option.bind_eq_bind, Option.bind_eq_some_iff] at h
      obtain ⟨⟨items', _⟩, hitems, h⟩ := h
      obtain ⟨rfl, -⟩ := Prod.mk.inj (Option.some.inj h)
      exact List.forall_mem_cons.2 ⟨hfirst, numbersStored_of_readItems? hitems⟩
    · obtain ⟨rfl, -⟩ := Prod.mk.inj (Option.some.inj h)
      exact List.forall_mem_singleton.2 hfirst
    · exact absurd h (by simp)

theorem numbersStored_of_readMembers? : ∀ {fuel : ℕ} {s rest : Source}
    {members : List (Option String × Written)}, readMembers? fuel s = some (members, rest) →
      ∀ w ∈ members.map (·.2), w.NumbersStored
  | fuel + 1, s, rest, members, h => by
    rw [readMembers?] at h
    split at h
    · rw [Option.bind_eq_bind, Option.bind_eq_some_iff] at h
      obtain ⟨⟨key, rest'⟩, -, h⟩ := h
      simp only at h
      split at h
      · rw [Option.bind_eq_bind, Option.bind_eq_some_iff] at h
        obtain ⟨⟨value, rest''⟩, hvalue, h⟩ := h
        have hfirst := numbersStored_of_readValue? hvalue
        simp only at h
        split at h
        · rw [Option.bind_eq_bind, Option.bind_eq_some_iff] at h
          obtain ⟨⟨members', _⟩, hmembers, h⟩ := h
          obtain ⟨rfl, -⟩ := Prod.mk.inj (Option.some.inj h)
          exact List.forall_mem_cons.2 ⟨hfirst, numbersStored_of_readMembers? hmembers⟩
        · obtain ⟨rfl, -⟩ := Prod.mk.inj (Option.some.inj h)
          exact List.forall_mem_singleton.2 hfirst
        · exact absurd h (by simp)
      · exact absurd h (by simp)
    · exact absurd h (by simp)
end

mutual
theorem isDocument_of_toJson? : ∀ {w : Written} {limit : ℕ} {x : Json}, w.NumbersStored →
    w.toJson? limit = some x → x.IsDocument
  | .null, _, _, _, h => by
    obtain rfl := Option.some.inj h
    exact .null
  | .bool b, _, _, _, h => by
    obtain rfl := Option.some.inj h
    exact .bool b
  | .number _, _, _, .number hstored, h => by
    obtain ⟨n, hn, rfl⟩ := Option.map_eq_some_iff.1 h
    exact .number (hstored n hn)
  | .string _, _, _, _, h => by
    obtain ⟨s, -, rfl⟩ := Option.map_eq_some_iff.1 h
    exact .string s
  | .array items, limit, _, .array hinner, h => by
    rw [toJson?, Option.ite_none_left_eq_some] at h
    obtain ⟨xs, hxs, rfl⟩ := Option.map_eq_some_iff.1 h.2
    exact .array (isDocument_of_itemsToJson? hinner hxs)
  | .object members, limit, _, .object hinner, h => by
    rw [toJson?, Option.ite_none_left_eq_some] at h
    obtain ⟨written, hwritten, rfl⟩ := Option.map_eq_some_iff.1 h.2
    exact isDocument_ofList (isDocument_of_membersToJson? hinner hwritten)

theorem isDocument_of_itemsToJson? : ∀ {items : List Written} {limit : ℕ} {xs : List Json},
    (∀ w ∈ items, w.NumbersStored) → itemsToJson? limit items = some xs →
      ∀ x ∈ xs, x.IsDocument
  | [], _, _, _, h => by
    obtain rfl := Option.some.inj h
    simp
  | item :: items, limit, xs, hinner, h => by
    rw [List.forall_mem_cons] at hinner
    rw [itemsToJson?, Option.bind_eq_bind, Option.bind_eq_some_iff] at h
    obtain ⟨x, hx, h⟩ := h
    rw [Option.bind_eq_bind, Option.bind_eq_some_iff] at h
    obtain ⟨xs', hxs, h⟩ := h
    obtain rfl := Option.some.inj h
    exact List.forall_mem_cons.2
      ⟨isDocument_of_toJson? hinner.1 hx, isDocument_of_itemsToJson? hinner.2 hxs⟩

theorem isDocument_of_membersToJson? : ∀ {members : List (Option String × Written)} {limit : ℕ}
    {written : Members}, (∀ w ∈ members.map (·.2), w.NumbersStored) →
      membersToJson? limit members = some written → ∀ x ∈ written.map (·.2), x.IsDocument
  | [], _, _, _, h => by
    obtain rfl := Option.some.inj h
    simp
  | (key, value) :: members, limit, written, hinner, h => by
    rw [List.map_cons, List.forall_mem_cons] at hinner
    simp only [membersToJson?, Option.bind_eq_bind, Option.bind_eq_some_iff] at h
    obtain ⟨k, -, x, hx, written', hwritten, h⟩ := h
    obtain rfl := Option.some.inj h
    exact List.forall_mem_cons.2
      ⟨isDocument_of_toJson? hinner.1 hx, isDocument_of_membersToJson? hinner.2 hwritten⟩
end

theorem numbersStored_of_read? (h : read? s = some w) : w.NumbersStored := by
  rw [read?, Option.bind_eq_bind, Option.bind_eq_some_iff] at h
  obtain ⟨⟨value, rest⟩, hvalue, h⟩ := h
  simp only [Option.ite_none_right_eq_some] at h
  obtain rfl := Option.some.inj h.2
  exact numbersStored_of_readValue? hvalue

end Written

theorem isDocument_of_ofBytes? {bytes : Bytes} {x : Json} (h : ofBytes? bytes = some x) :
    x.IsDocument := by
  obtain ⟨w, hw, h⟩ := Option.bind_eq_some_iff.1 h
  exact Written.isDocument_of_toJson? (Written.numbersStored_of_read? hw) h

theorem isDocument_of_ofText? {text : String} {x : Json} (h : ofText? text = some x) :
    x.IsDocument := by
  obtain ⟨w, hw, h⟩ := Option.bind_eq_some_iff.1 h
  exact Written.isDocument_of_toJson? (Written.numbersStored_of_read? hw) h

end Triage.Json
