import Mathlib.Data.List.Nodup
import Triage.Analyzer.Check

/-!
# Records that read back

A decoder reads back what an encoder writes (`ReadsBack`). For records this comes down to their
members: the members that an encoder writes, one group after another, turn the default record into
the one that is written (`Stores`, `Stores.append`), and as no key is written twice, the decoder of
the record does the same (`record_written`, `shared_written`, `complete_written`).
-/

namespace Triage.Json.Decode

variable {α β : Type}

/-- What an encoder writes is read back. -/
def ReadsBack (decode : Decoder β) (encode : β → Json) : Prop :=
  ∀ x, decodeValue decode (encode x) = some x

theorem ReadsBack.decode_written {decode : Decoder β} {encode : β → Json}
    (h : ReadsBack decode encode) (x : β) : decode (encode x).written = some x :=
  h x

theorem ReadsBack.injective {decode : Decoder β} {encode : β → Json}
    (h : ReadsBack decode encode) : Function.Injective encode := by
  intro x y hxy
  have hx := h x
  rw [hxy, h y] at hx
  exact (Option.some.inj hx).symm

theorem readsBack_text : ReadsBack text string := fun _ => rfl

theorem readsBack_flag : ReadsBack flag bool := fun _ => rfl

theorem mapM_writtenItems {decode : Decoder β} {encode : β → Json} (h : ReadsBack decode encode) :
    ∀ xs : List β, (writtenItems (xs.map encode)).mapM decode = some xs
  | [] => rfl
  | x :: xs => by
    rw [List.map_cons, writtenItems, List.mapM_cons, h.decode_written, mapM_writtenItems h xs]
    rfl

theorem ReadsBack.list {decode : Decoder β} {encode : β → Json} (h : ReadsBack decode encode) :
    ReadsBack (list decode) fun xs => array (xs.map encode) :=
  mapM_writtenItems h

theorem optional_of_ne_null {decode : Decoder β} {value : Written} (h : value ≠ .null) :
    Decode.optional decode value = (decode value).map some := by
  cases value with
  | null => exact absurd rfl h
  | _ => rfl

/-- What a decoder that refuses null reads back is read as something that is there. -/
theorem ReadsBack.optional {decode : Decoder β} {encode : β → Json} (h : ReadsBack decode encode)
    (hnull : decode .null = none) (x : β) :
    Decode.optional decode (encode x).written = some (some x) := by
  have hx := h.decode_written x
  have hne : (encode x).written ≠ .null := by
    intro hwritten
    rw [hwritten, hnull] at hx
    cases hx
  rw [optional_of_ne_null hne, hx, Option.map_some]

/-- Stores a member in the field of its key. -/
def storeMember (fields : List (Field α)) (record : α) (member : String × Json) : Option α :=
  (fields.find? (·.key == member.1)).bind fun field => field.store member.2.written record

/-- The members have some of these keys, in their order, and turn one record into another. -/
structure Stores (fields : List (Field α)) (keys : List String) (members : Members)
    (start finish : α) : Prop where
  keys : (members.map Prod.fst).Sublist keys
  stored : members.foldlM (storeMember fields) start = some finish

namespace Stores

variable {fields : List (Field α)} {keys : List String} {members : Members} {start finish : α}

theorem append {more : List String} {others : Members} {final : α}
    (h : Stores fields keys members start finish) (h' : Stores fields more others finish final) :
    Stores fields (keys ++ more) (members ++ others) start final where
  keys := by
    rw [List.map_append]
    exact h.keys.append h'.keys
  stored := by
    rw [List.foldlM_append, h.stored]
    exact h'.stored

theorem nil (record : α) : Stores fields [] [] record record := ⟨List.Sublist.refl _, rfl⟩

theorem cons {key : String} {member : String × Json} {others : Members} {more : List String}
    {final : α} (h : Stores fields [key] [member] start finish)
    (h' : Stores fields more others finish final) :
    Stores fields (key :: more) (member :: others) start final :=
  h.append h'

/-- A member that is left out changes nothing. -/
theorem absent (key : String) (record : α) : Stores fields [key] [] record record :=
  ⟨List.nil_sublist _, rfl⟩

theorem of_store {key : String} {value : Json} {field : Field α}
    (hfind : fields.find? (·.key == key) = some field)
    (hstore : field.store value.written start = some finish) :
    Stores fields [key] [(key, value)] start finish where
  keys := List.Sublist.refl _
  stored := by simp [storeMember, hfind, hstore]

theorem member {key : String} {decode : Decoder β} {set : β → α → α} {value : Json} {x : β}
    (hfind : fields.find? (·.key == key) = some (field key decode set))
    (hread : decodeValue decode value = some x) (hset : set x start = finish) :
    Stores fields [key] [(key, value)] start finish := by
  refine of_store hfind ?_
  show (decode value.written).map (fun x => set x start) = some finish
  rw [decodeValue] at hread
  rw [hread, Option.map_some, hset]

/-- A member that is written only when there is something to write. -/
theorem optionalMember {key : String} {decode : Decoder β} {encode : β → Json}
    {set : Option β → α → α} {x : Option β}
    (hfind : fields.find? (·.key == key) = some (optionalField key decode set))
    (hread : ReadsBack decode encode) (hnull : decode .null = none)
    (hnone : set none start = start) (hset : set x start = finish) :
    Stores fields [key] (x.map fun y => (key, encode y)).toList start finish := by
  cases x with
  | none =>
    rw [← hset, hnone]
    exact absent key start
  | some y =>
    refine of_store hfind ?_
    show (Decode.optional decode (encode y).written).map (fun x => set x start) = some finish
    rw [hread.optional hnull y, Option.map_some, hset]

/-- A member that is written as null when there is nothing to write. -/
theorem nullableMember {key : String} {decode : Decoder β} {encode : β → Json}
    {set : Option β → α → α} {x : Option β}
    (hfind : fields.find? (·.key == key) = some (optionalField key decode set))
    (hread : ReadsBack decode encode) (hnull : decode .null = none)
    (hset : set x start = finish) :
    Stores fields [key] [(key, (x.map encode).getD .null)] start finish := by
  refine of_store hfind ?_
  cases x with
  | none =>
    show some (set none start) = some finish
    rw [hset]
  | some y =>
    show (Decode.optional decode (encode y).written).map (fun x => set x start) = some finish
    rw [hread.optional hnull y, Option.map_some, hset]

/-- A text that is written only when it is not empty. -/
theorem textMember {key : String} {set : String → α → α} {x : String}
    (hfind : fields.find? (·.key == key) = some (field key text set))
    (hempty : set "" start = start) (hset : set x start = finish) :
    Stores fields [key] (Json.textMember key x) start finish := by
  rw [Json.textMember]
  split
  · rename_i h
    rw [← hset, String.isEmpty_iff.1 h, hempty]
    exact absent key start
  · exact member hfind (readsBack_text x) hset

/-- Texts that are written only when there are any. -/
theorem textsMember {key : String} {set : List String → α → α} {xs : List String}
    (hfind : fields.find? (·.key == key) = some (field key (list text) set))
    (hempty : set [] start = start) (hset : set xs start = finish) :
    Stores fields [key] (Json.textsMember key xs) start finish := by
  rw [Json.textsMember]
  split
  · rename_i h
    rw [← hset, List.isEmpty_iff.1 h, hempty]
    exact absent key start
  · exact member hfind (readsBack_text.list xs) hset

theorem nodup (h : Stores fields keys members start finish) (hnodup : keys.Nodup) :
    (members.map Prod.fst).Nodup :=
  h.keys.nodup hnodup

end Stores

section Records

variable {fields : List (Field α)} {keys : List String} {members : Members} {start finish : α}

theorem foldlM_storeMember_cons {key : String} {value : Json} :
    ((key, value) :: members).foldlM (storeMember fields) start = some finish ↔
      ∃ field next, fields.find? (·.key == key) = some field
        ∧ field.store value.written start = some next
        ∧ members.foldlM (storeMember fields) next = some finish := by
  simp only [List.foldlM_cons, storeMember, Option.bind_eq_bind, Option.bind_eq_some_iff]
  constructor
  · rintro ⟨next, ⟨field, hfind, hstore⟩, hrest⟩
    exact ⟨field, next, hfind, hstore, hrest⟩
  · rintro ⟨field, next, hfind, hstore, hrest⟩
    exact ⟨next, ⟨field, hfind, hstore⟩, hrest⟩

/-- Keys that differ and were not seen before are stored one after another. -/
theorem storeMembers_written : ∀ {members : Members} {seen : List String} {start : α},
    (members.map Prod.fst).Nodup → (∀ key ∈ members.map Prod.fst, key ∉ seen) →
    members.foldlM (storeMember fields) start = some finish →
    storeMembers fields seen (writtenMembers members) start =
      some ((members.map Prod.fst).reverse ++ seen, finish)
  | [], seen, start, _, _, h => by
    simp only [List.foldlM_nil, Option.pure_def, Option.some.injEq] at h
    rw [writtenMembers, storeMembers, h]
    rfl
  | (key, value) :: members, seen, start, hnodup, hseen, h => by
    obtain ⟨field, next, hfind, hstore, hrest⟩ := foldlM_storeMember_cons.1 h
    rw [List.map_cons, List.nodup_cons] at hnodup
    rw [List.map_cons, List.forall_mem_cons] at hseen
    have hkeys : ∀ other ∈ members.map Prod.fst, other ∉ key :: seen := by
      intro other hother
      rw [List.mem_cons, not_or]
      exact ⟨fun heq => hnodup.1 (heq ▸ hother), hseen.2 other hother⟩
    rw [writtenMembers, storeMembers, hfind]
    simp only [List.contains_eq_mem, hseen.1, decide_false, Bool.false_eq_true, if_false, hstore,
      Option.bind_some]
    rw [storeMembers_written hnodup.2 hkeys hrest]
    simp

theorem exists_field_of_stored : ∀ {members : Members} {start : α},
    members.foldlM (storeMember fields) start = some finish →
    ∀ key ∈ members.map Prod.fst, ∃ field ∈ fields, field.key = key
  | [], _, _, key, hkey => by simp at hkey
  | (first, value) :: members, start, h, key, hkey => by
    obtain ⟨field, next, hfind, -, hrest⟩ := foldlM_storeMember_cons.1 h
    rcases List.mem_cons.1 hkey with rfl | hkey
    · exact ⟨field, List.mem_of_find?_eq_some hfind, by simpa using List.find?_some hfind⟩
    · exact exists_field_of_stored hrest key hkey

theorem otherMembersOk_written (limit : Nat) : ∀ {members : Members},
    (∀ key ∈ members.map Prod.fst, ∃ field ∈ fields, field.key = key) →
    otherMembersOk limit fields (writtenMembers members) = true
  | [], _ => rfl
  | (key, value) :: members, h => by
    obtain ⟨⟨field, hfield, rfl⟩, hmembers⟩ := List.forall_mem_cons.1 h
    have hrest := otherMembersOk_written limit hmembers
    rw [otherMembersOk] at hrest ⊢
    rw [writtenMembers, List.all_cons, hrest, Bool.and_true, Bool.or_eq_true]
    exact .inl (List.any_eq_true.2 ⟨field, hfield, by simp⟩)

theorem record_written (h : Stores fields keys members start finish) (hnodup : keys.Nodup) :
    decodeValue (record fields start) (object members) = some finish := by
  rw [decodeValue, written, record,
    storeMembers_written (h.nodup hnodup) (fun _ _ => List.not_mem_nil) h.stored]
  rfl

theorem shared_written (limit : Nat) (h : Stores fields keys members start finish)
    (hnodup : keys.Nodup) :
    decodeValue (shared limit fields start) (object members) = some finish := by
  rw [decodeValue, written, shared,
    if_pos (otherMembersOk_written limit (exists_field_of_stored h.stored)),
    storeMembers_written (h.nodup hnodup) (fun _ _ => List.not_mem_nil) h.stored]
  rfl

/-- A record that must be written in full is read back when no field is missing. -/
theorem complete_written (h : Stores fields keys members start finish) (hnodup : keys.Nodup)
    (hall : ∀ field ∈ fields, field.optional = true ∨ field.key ∈ members.map Prod.fst) :
    decodeValue (complete fields start) (object members) = some finish := by
  have hmembers := storeMembers_written (h.nodup hnodup) (fun _ _ => List.not_mem_nil) h.stored
  have hseen : (fields.all fun field => field.optional
      || ((members.map Prod.fst).reverse ++ []).contains field.key) = true := by
    rw [List.all_eq_true]
    intro field hfield
    simpa using hall field hfield
  rw [decodeValue, written, complete, hmembers, Option.bind_eq_bind, Option.bind_some]
  exact if_pos hseen

end Records

end Triage.Json.Decode
