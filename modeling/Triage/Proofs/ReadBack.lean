import Mathlib.Data.Nat.Digits.Defs
import Triage.Proofs.Clauses
import Triage.Proofs.CompactText
import Triage.Proofs.EncodedText

/-!
# A record reads back

The text of a whole number ends where its reader says (`readNumber?_natText`), as that of a string
does. So an object whose members are texts and whole numbers is read back member by member from its
compact text (`readMembers?_text`), and from the bytes of the text (`ofBytes?_encode_text`).
-/

namespace Triage.Json

open Written (skipBlanks takeDigits readValue? readMembers? readNumber? isDigitUnit)

section Numbers

variable {digits rest : List Char}

/-- A digit neither follows directly nor is there anything else that goes on with a number. -/
theorem Ends.head (h : Ends rest) :
    ∀ c ∈ rest.head?, c.isDigit = false ∧ c ≠ '.' ∧ c ≠ 'e' ∧ c ≠ 'E' := by
  intro c hc
  rcases h c hc with rfl | rfl | rfl <;> decide

theorem takeDigits_append (hdigits : ∀ c ∈ digits, c.isDigit = true)
    (hrest : ∀ c ∈ rest.head?, c.isDigit = false) :
    takeDigits ((digits ++ rest).map some) = (digits, rest.map some) := by
  have hspan := @Text.span_append (Option Char) isDigitUnit (digits.map some) (rest.map some)
    (by simpa [isDigitUnit] using hdigits) (by simpa [isDigitUnit] using hrest)
  rw [takeDigits, List.map_append, hspan.1, hspan.2]
  simp

/-- A run of digits without its leading zero has the same value, so a number is not written with
one. -/
theorem eq_nil_of_natText {n : ℕ} (h : natText n = '0' :: rest) : rest = [] := by
  by_contra hne
  have hdigits : ∀ c ∈ rest, c.isDigit = true := fun c hc =>
    natText_isDigit n c (h ▸ List.mem_cons_of_mem _ hc)
  have hvalue : n < 10 ^ rest.length := by
    have hn := digitsValue_natText n
    rw [h, Text.digitsValue_zero_cons] at hn
    exact hn ▸ Text.digitsValue_lt hdigits
  have hlength : (natText n).length ≤ rest.length :=
    Nat.toDigits_length 10 n rest.length (List.length_pos_iff.2 hne) hvalue
  rw [h, List.length_cons] at hlength
  omega

theorem whole?_natText (n : ℕ) (hrest : Ends rest) :
    Written.whole? ((natText n ++ rest).map some) = some (natText n, rest.map some) := by
  have htake := takeDigits_append (natText_isDigit n) fun c hc => (hrest.head c hc).1
  have hne : (natText n).isEmpty = false := by simpa using natText_ne_nil n
  have hzero : (natText n).head? = some '0' → (natText n).length ≤ 1 := by
    intro hhead
    obtain ⟨tail, htail⟩ := List.head?_eq_some_iff.1 hhead
    rw [htail, eq_nil_of_natText htail]
    rfl
  rw [Written.whole?, Written.digits?, htake]
  simpa [hne] using hzero

theorem readNumber?_natText (n : ℕ) (hrest : Ends rest) :
    readNumber? false ((natText n ++ rest).map some) =
      some (.number (Number.Lexeme.value? ⟨false, natText n, none, none⟩), rest.map some) := by
  obtain ⟨hfraction, hexponent⟩ : Written.fraction? (rest.map some) = some (none, rest.map some)
      ∧ Written.exponent? (rest.map some) = some (none, rest.map some) := by
    rcases rest with _ | ⟨c, rest⟩
    · exact ⟨rfl, rfl⟩
    · rcases hrest c rfl with rfl | rfl | rfl <;> exact ⟨rfl, rfl⟩
  rw [readNumber?, whole?_natText n hrest]
  simp [hfraction, hexponent]

end Numbers

/-- The text of a value reads as a value: one without members, and with a whole number only if it is
not too large. -/
inductive ReadsAs : Json → Json → Prop
  | string (s : String) : ReadsAs (string s) (string s)
  | natural {n : ℕ} {m : Number}
    (value : Number.Lexeme.value? ⟨false, natText n, none, none⟩ = some m) :
    ReadsAs (ofNat n) (number m)

/-- The members are read under the same keys. -/
def ReadsMember (member found : String × Json) : Prop :=
  member.1 = found.1 ∧ ReadsAs member.2 found.2

section Members

variable {v w : Json} {members found : Members} {rest : List Char} {fuel : ℕ}

theorem text_ofNat (n : ℕ) : text (ofNat n) = natText n := by
  rw [ofNat, text, Number.text, intText, if_neg (by omega), Int.natAbs_natCast]

theorem readValue?_quote {s after : Source} (h : skipBlanks s = some '"' :: after) :
    readValue? (fuel + 1) s =
      (Written.readString? after).map fun (text, rest) => (.string text, rest) := by
  rw [readValue?, h]
  rfl

theorem readValue?_brace {s after : Source} (h : skipBlanks s = some '{' :: some '"' :: after) :
    readValue? (fuel + 1) s =
      (readMembers? fuel (some '"' :: after)).map
        fun (members, rest) => (.object members, rest) := by
  rw [readValue?, h]
  rfl

theorem readValue?_digit {s after : Source} {c : Char} (hc : c.isDigit = true)
    (h : skipBlanks s = some c :: after) :
    readValue? (fuel + 1) s = readNumber? false (some c :: after) := by
  rw [readValue?, h]
  split
  -- only a number begins with a digit
  all_goals first
    | rfl
    | (rename_i heq; cases heq; exact absurd hc (by decide))

theorem readValue?_text (h : ReadsAs v w) (hrest : Ends rest) (fuel : ℕ) :
    readValue? (fuel + 1) ((text v ++ rest).map some) = some (written w, rest.map some) := by
  cases h with
  | string s =>
    obtain ⟨tail, htext, hread⟩ := readString?_stringText s rest
    have hskip : skipBlanks ((text (string s) ++ rest).map some) =
        some '"' :: (tail ++ rest).map some := by
      rw [text, htext]
      rfl
    rw [readValue?_quote hskip, hread]
    rfl
  | @natural n m value =>
    obtain ⟨c, digits, hdigits⟩ := List.exists_cons_of_ne_nil (natText_ne_nil n)
    have hc : c.isDigit = true := natText_isDigit n c (hdigits ▸ List.mem_cons_self)
    have hskip : skipBlanks ((text (ofNat n) ++ rest).map some) =
        some c :: (digits ++ rest).map some := by
      rw [text_ofNat, hdigits]
      refine List.dropWhile_cons_of_neg ?_
      rintro h
      simp only [Bool.or_eq_true, beq_iff_eq, Option.some.injEq] at h
      rcases h with ((rfl | rfl) | rfl) | rfl <;> exact absurd hc (by decide)
    have hnumber := readNumber?_natText n hrest
    rw [hdigits, List.cons_append, List.map_cons, ← hdigits, value] at hnumber
    rw [readValue?_digit hc hskip, hnumber]
    rfl

/-- What follows a member says whether another one is read. -/
theorem readMembers?_member (key : String) (h : ReadsAs v w) (hrest : Ends rest) (fuel : ℕ) :
    readMembers? (fuel + 2) ((stringText key ++ ':' :: (text v ++ rest)).map some) =
      match rest.map some with
      | some ',' :: more => (readMembers? (fuel + 1) more).map fun (members, rest) =>
        ((some key, written w) :: members, rest)
      | some '}' :: more => some ([(some key, written w)], more)
      | _ => none := by
  obtain ⟨tail, htext, hread⟩ := readString?_stringText key (':' :: (text v ++ rest))
  have hvalue := readValue?_text h hrest fuel
  have hskip : skipBlanks ((stringText key ++ ':' :: (text v ++ rest)).map some) =
      some '"' :: (tail ++ ':' :: (text v ++ rest)).map some := by
    rw [htext]
    rfl
  have hcolon (s : Source) : skipBlanks (some ':' :: s) = some ':' :: s := rfl
  rw [readMembers?, hskip]
  simp only [hread, Option.bind_eq_bind, Option.bind_some, List.map_cons, hcolon, hvalue]
  rcases rest with _ | ⟨c, rest⟩
  · rfl
  · rcases hrest c rfl with rfl | rfl | rfl
    · show (readMembers? (fuel + 1) (rest.map some)).bind _ = (readMembers? _ _).map _
      cases readMembers? (fuel + 1) (rest.map some) <;> rfl
    · rfl
    · rfl

theorem readMembers?_text {key : String} (h : List.Forall₂ ReadsMember ((key, v) :: members) found)
    (hfuel : members.length + 2 ≤ fuel) :
    readMembers? fuel
      ((stringText key ++ ':' :: (text v ++ (membersText members ++ rest))).map some) =
      some (writtenMembers found, rest.map some) := by
  induction members generalizing key v found fuel with
  | nil =>
    obtain ⟨⟨-, w⟩, -, ⟨rfl, hvalue⟩, ⟨⟩, rfl⟩ := List.forall₂_cons_left_iff.1 h
    obtain ⟨fuel, rfl⟩ : ∃ n, fuel = n + 2 := ⟨fuel - 2, by omega⟩
    rw [readMembers?_member key hvalue (ends_membersText [] rest)]
    rfl
  | cons member members ih =>
    obtain ⟨next, value⟩ := member
    obtain ⟨⟨-, w⟩, others, ⟨rfl, hvalue⟩, hothers, rfl⟩ := List.forall₂_cons_left_iff.1 h
    obtain ⟨fuel, rfl⟩ : ∃ n, fuel = n + 2 := ⟨fuel - 2, by omega⟩
    have hmore := @ih value others (fuel + 1) next hothers (by simpa using hfuel)
    have hends := ends_membersText ((next, value) :: members) rest
    have hmember := readMembers?_member key hvalue hends fuel
    simp only [membersText, List.cons_append, List.append_assoc, List.map_cons] at hmember hmore ⊢
    rw [hmember, hmore]
    rfl

theorem length_le_length_membersText : ∀ members : Members,
    members.length ≤ (membersText members).length
  | [] => by simp
  | (key, value) :: members => by
    have := length_le_length_membersText members
    simp only [membersText, List.length_cons, List.length_append]
    omega

theorem read?_text (hne : members ≠ []) (h : List.Forall₂ ReadsMember members found) :
    Written.read? ((text (object members)).map some) = some (written (object found)) := by
  obtain ⟨⟨key, v⟩, members, rfl⟩ := List.exists_cons_of_ne_nil hne
  have hlength := length_le_length_membersText members
  obtain ⟨tail, hkey, -⟩ := readString?_stringText key []
  have hskip : skipBlanks ((text (object ((key, v) :: members))).map some) =
      some '{' :: some '"' :: (tail ++ ':' :: (text v ++ membersText members)).map some := by
    rw [text, hkey]
    rfl
  have hmembers : readMembers? (2 * (text (object ((key, v) :: members))).length + 1)
      (some '"' :: (tail ++ ':' :: (text v ++ membersText members)).map some) =
      some (writtenMembers found, []) := by
    have htext := @readMembers?_text v members found [] _ key h
      (show members.length + 2 ≤ 2 * (text (object ((key, v) :: members))).length + 1 by
        simp only [text, List.length_cons, List.length_append]
        omega)
    rw [List.append_nil, hkey] at htext
    exact htext
  rw [Written.read?, List.length_map, readValue?_brace hskip, hmembers]
  rfl

theorem toJson?_of_readsAs {limit : ℕ} (h : ReadsAs v w) :
    (written w).toJson? limit = some w := by
  cases h <;> rfl

theorem membersToJson?_of_readsMember {limit : ℕ} (h : List.Forall₂ ReadsMember members found) :
    Written.membersToJson? limit (writtenMembers found) = some found := by
  induction h with
  | nil => rfl
  | @cons member found _ _ hmember _ ih =>
    obtain ⟨key, w⟩ := found
    rw [writtenMembers, Written.membersToJson?, toJson?_of_readsAs hmember.2, ih]
    rfl

theorem Members.set_of_not_mem {key : String} : ∀ {members : Members},
    key ∉ members.map (·.1) → Members.set key v members = members ++ [(key, v)]
  | [], _ => rfl
  | (k, x) :: members, h => by
    rw [List.map_cons, List.mem_cons, not_or] at h
    rw [Members.set, if_neg (Ne.symm h.1), Members.set_of_not_mem h.2]
    rfl

theorem Members.foldl_set_of_nodup : ∀ {before after : Members},
    ((before ++ after).map (·.1)).Nodup →
    after.foldl (fun members member => Members.set member.1 member.2 members) before =
      before ++ after
  | before, [], _ => (List.append_nil before).symm
  | before, (key, value) :: after, h => by
    have hnew : key ∉ before.map (·.1) := by
      rw [List.map_append, List.nodup_append] at h
      exact fun hmem => h.2.2 _ hmem _ List.mem_cons_self rfl
    have hmore : (((before ++ [(key, value)]) ++ after).map (·.1)).Nodup := by simpa using h
    rw [List.foldl_cons, Members.set_of_not_mem hnew, foldl_set_of_nodup hmore, List.append_assoc,
      List.singleton_append]

theorem Members.ofList_of_nodup (h : (members.map (·.1)).Nodup) :
    Members.ofList members = members :=
  @Members.foldl_set_of_nodup [] members h

/-- An object of texts and whole numbers is read back from its bytes. -/
theorem ofBytes?_encode_text (hne : members ≠ []) (h : List.Forall₂ ReadsMember members found)
    (hnodup : (members.map (·.1)).Nodup) :
    ofBytes? (Utf8.encode (text (object members))) = some (object found) := by
  have hkeys : members.map (·.1) = found.map (·.1) :=
    List.forall₂_eq_eq_eq ▸ List.forall₂_map_left_iff.2 (List.forall₂_map_right_iff.2
      (h.imp fun _ _ hmember => hmember.1))
  rw [ofBytes?, Written.ofBytes?, Utf8.units_encode, read?_text hne h, Option.bind_some, written,
    Written.toJson?, if_neg (by decide), membersToJson?_of_readsMember h, Option.map_some,
    Members.ofList_of_nodup (hkeys ▸ hnodup)]

end Members

section Lines

theorem lineFeed_not_mem_stringText (s : String) : '\n' ∉ stringText s := by
  have hhex (n : ℕ) : '\n' ≠ hexDigit n := by
    have hall : ∀ k < 16, '\n' ≠ Nat.digitChar k := by decide
    exact hall _ (Nat.mod_lt _ (by omega))
  have hescape (c : Char) : '\n' ∉ escapeChar c := by
    rw [escapeChar.eq_def]
    split
    case h_8 hfeed _ _ _ _ =>
      split
      · simp [hhex]
      · simpa using Ne.symm hfeed
    all_goals decide
  simp [stringText, hescape]

mutual

/-- The text of a value is one line. -/
theorem lineFeed_not_mem_text : ∀ x : Json, '\n' ∉ text x
  | null => by decide
  | bool true => by decide
  | bool false => by decide
  | number n => fun h => absurd (n.text_isNumberChar _ h) (by decide)
  | string s => lineFeed_not_mem_stringText s
  | array [] => by decide
  | array (x :: xs) => by
    simp [text, lineFeed_not_mem_text x, lineFeed_not_mem_itemsText xs]
  | object [] => by decide
  | object ((k, v) :: members) => by
    simp [text, lineFeed_not_mem_stringText k, lineFeed_not_mem_text v,
      lineFeed_not_mem_membersText members]

theorem lineFeed_not_mem_itemsText : ∀ xs : List Json, '\n' ∉ itemsText xs
  | [] => by decide
  | x :: xs => by
    simp [itemsText, lineFeed_not_mem_text x, lineFeed_not_mem_itemsText xs]

theorem lineFeed_not_mem_membersText : ∀ members : List (String × Json), '\n' ∉ membersText members
  | [] => by decide
  | (k, v) :: members => by
    simp [membersText, lineFeed_not_mem_stringText k, lineFeed_not_mem_text v,
      lineFeed_not_mem_membersText members]

end

end Lines

end Triage.Json
