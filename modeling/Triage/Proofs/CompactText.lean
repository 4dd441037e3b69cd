import Triage.Json.Written
import Triage.Proofs.NumberText

/-!
# A value is known from its compact text

The text of a string ends where its reader says, and reads back as the string
(`readString?_stringText`). The text of a value ends at a comma or a bracket, so by induction on the
value nothing else has the same text (`text_append_inj`), and compact texts of different values
differ (`compact_inj`).
-/

namespace Triage.Json

section Strings

open Written (Piece readPieces? shortEscape? hexValue? hexCode?)

theorem readPieces?_short {c d : Char} (hu : c ≠ 'u') (h : shortEscape? c = some d)
    (rest : Source) : readPieces? (some '\\' :: some c :: rest) =
      (readPieces? rest).map fun (pieces, rest) => (Piece.char d :: pieces, rest) := by
  rw [readPieces?]
  · rw [h]
    cases readPieces? rest <;> rfl
  · intros
    contradiction

theorem readPieces?_plain {c : Char} (hquote : c ≠ '"') (hslash : c ≠ '\\') (hc : 0x20 ≤ c.toNat)
    (rest : Source) : readPieces? (some c :: rest) =
      (readPieces? rest).map fun (pieces, rest) => (Piece.char c :: pieces, rest) := by
  rw [readPieces?]
  · rw [if_neg]
    simp only [Bool.or_eq_true, beq_iff_eq, decide_eq_true_eq, not_or]
    exact ⟨hslash, by omega⟩
  · exact hquote
  · intros
    contradiction
  · intros
    contradiction

theorem hexValue?_hexDigit (n : Nat) : hexValue? (hexDigit n) = some (n % 16) := by
  have hall : ∀ k < 16, hexValue? (Nat.digitChar k) = some k := by decide
  exact hall _ (Nat.mod_lt _ (by omega))

theorem readPieces?_code {c : Char} (hc : c.toNat < 0x20) (rest : Source) :
    readPieces? (some '\\' :: some 'u' :: some '0' :: some '0' ::
      some (hexDigit (c.toNat / 16)) :: some (hexDigit c.toNat) :: rest) =
      (readPieces? rest).map fun (pieces, rest) => (Piece.char c :: pieces, rest) := by
  have hcode : hexCode? '0' '0' (hexDigit (c.toNat / 16)) (hexDigit c.toNat) = some c.toNat := by
    have hzero : hexValue? '0' = some 0 := by decide
    simp only [hexCode?, hexValue?_hexDigit, hzero, Option.bind_eq_bind, Option.bind_some,
      Option.pure_def, Option.some.injEq]
    omega
  have hpiece : Written.codePiece c.toNat = Piece.char c := by
    have hhigh : Written.isHighHalf c.toNat = false := by simp [Written.isHighHalf]; omega
    have hlow : Written.isLowHalf c.toNat = false := by simp [Written.isLowHalf]; omega
    rw [Written.codePiece, hhigh, hlow, Char.ofNat_toNat]
    rfl
  rw [readPieces?, hcode, Option.bind_eq_bind, Option.bind_some, hpiece]
  cases readPieces? rest <;> rfl

/-- An escaped character reads back as one piece. -/
theorem readPieces?_escapeChar (c : Char) (rest : List Char) :
    readPieces? ((escapeChar c ++ rest).map some) =
      (readPieces? (rest.map some)).map fun (pieces, rest) => (Piece.char c :: pieces, rest) := by
  rw [escapeChar.eq_def]
  split
  · exact readPieces?_short (by decide) rfl _
  · exact readPieces?_short (by decide) rfl _
  · exact readPieces?_short (by decide) rfl _
  · exact readPieces?_short (by decide) rfl _
  · exact readPieces?_short (by decide) rfl _
  · exact readPieces?_short (by decide) rfl _
  · exact readPieces?_short (by decide) rfl _
  · rename_i hquote hslash _ _ _ _ _
    split
    · exact readPieces?_code (by assumption) _
    · exact readPieces?_plain hquote hslash (by omega) _

theorem readPieces?_flatMap_escapeChar (rest : List Char) : ∀ s : List Char,
    readPieces? ((s.flatMap escapeChar ++ '"' :: rest).map some) =
      some (s.map Piece.char, rest.map some)
  | [] => by simp [readPieces?]
  | c :: s => by
    rw [List.flatMap_cons, List.append_assoc, readPieces?_escapeChar,
      readPieces?_flatMap_escapeChar rest s]
    rfl

theorem join?_map_char : ∀ s : List Char, Written.join? (s.map Piece.char) = some s
  | [] => rfl
  | c :: s => by rw [List.map_cons, Written.join?, join?_map_char s]; rfl

/-- The text of a string reads back as the string, whatever follows it. -/
theorem readString?_stringText (s : String) (rest : List Char) :
    ∃ text, stringText s = '"' :: text ∧
      Written.readString? ((text ++ rest).map some) = some (some s, rest.map some) := by
  refine ⟨_, rfl, ?_⟩
  rw [Written.readString?, List.append_assoc, List.singleton_append,
    readPieces?_flatMap_escapeChar, Option.map_some]
  simp [join?_map_char]

theorem stringText_append_inj {s t : String} {r r' : List Char}
    (h : stringText s ++ r = stringText t ++ r') : s = t ∧ r = r' := by
  obtain ⟨text, hs, hread⟩ := readString?_stringText s r
  obtain ⟨text', ht, hread'⟩ := readString?_stringText t r'
  rw [hs, ht, List.cons_append, List.cons_append, List.cons.injEq] at h
  rw [h.2, hread'] at hread
  simp only [Option.some.injEq, Prod.mk.injEq] at hread
  exact ⟨hread.1.symm, List.map_injective_iff.2 (Option.some_injective _) hread.2.symm⟩

end Strings

section Values

/-- What the text of a value can be followed by: nothing, a comma or a closing bracket. -/
def Ends (rest : List Char) : Prop := ∀ c ∈ rest.head?, c = ',' ∨ c = ']' ∨ c = '}'

/-- The kinds of values that differ in the first character of their text. -/
def kind : Json → Nat
  | null => 0
  | bool true => 1
  | bool false => 2
  | number _ => 3
  | string _ => 4
  | array _ => 5
  | object _ => 6

/-- The kind of the values whose text begins with a character; 7 stands for none. -/
def kindOf (c : Char) : Nat :=
  match c with
  | 'n' => 0
  | 't' => 1
  | 'f' => 2
  | '"' => 4
  | '[' => 5
  | '{' => 6
  | ']' => 7
  | _ => 3

theorem kindOf_isNumberChar {c : Char} (h : isNumberChar c = true) : kindOf c = 3 := by
  rw [kindOf.eq_def]
  split <;> first | rfl | (exact absurd h (by decide))

theorem exists_text_eq_cons : ∀ x : Json, ∃ c s, text x = c :: s ∧ kindOf c = x.kind
  | null => ⟨'n', _, rfl, rfl⟩
  | bool true => ⟨'t', _, rfl, rfl⟩
  | bool false => ⟨'f', _, rfl, rfl⟩
  | number n => by
    obtain ⟨c, s, hn⟩ := List.exists_cons_of_ne_nil n.text_ne_nil
    exact ⟨c, s, hn, kindOf_isNumberChar (n.text_isNumberChar c (hn ▸ List.mem_cons_self))⟩
  | string s => ⟨'"', _, rfl, rfl⟩
  | array [] => ⟨'[', _, rfl, rfl⟩
  | array (_ :: _) => ⟨'[', _, rfl, rfl⟩
  | object [] => ⟨'{', _, rfl, rfl⟩
  | object (_ :: _) => ⟨'{', _, rfl, rfl⟩

theorem kind_eq_of_text_append {x y : Json} {r r' : List Char}
    (h : text x ++ r = text y ++ r') : x.kind = y.kind := by
  obtain ⟨c, s, hx, hc⟩ := exists_text_eq_cons x
  obtain ⟨d, t, hy, hd⟩ := exists_text_eq_cons y
  rw [hx, hy, List.cons_append, List.cons_append, List.cons.injEq] at h
  rw [← hc, h.1, hd]

/-- No text of a value begins with a closing bracket. -/
theorem text_append_ne_bracket (x : Json) (r r' : List Char) : text x ++ r ≠ ']' :: r' := by
  obtain ⟨c, s, hx, hc⟩ := exists_text_eq_cons x
  intro h
  rw [hx, List.cons_append, List.cons.injEq] at h
  rw [h.1] at hc
  cases x with
  | bool b => cases b <;> cases hc
  | _ => cases hc

theorem Ends.takeWhile {rest : List Char} (h : Ends rest) : rest.takeWhile isNumberChar = [] := by
  cases rest with
  | nil => rfl
  | cons c rest =>
    rw [List.takeWhile_cons_of_neg]
    rcases h c rfl with rfl | rfl | rfl <;> decide

theorem ends_itemsText (xs : List Json) (r : List Char) : Ends (itemsText xs ++ r) := by
  cases xs <;> simp [Ends, itemsText]

theorem ends_membersText (members : List (String × Json)) (r : List Char) :
    Ends (membersText members ++ r) := by
  cases members <;> simp [Ends, membersText]

theorem number_text_append_inj {m n : Number} {r r' : List Char} (hr : Ends r) (hr' : Ends r')
    (h : m.text ++ r = n.text ++ r') : m = n ∧ r = r' := by
  have htake := congrArg (List.takeWhile isNumberChar) h
  rw [List.takeWhile_append_of_pos m.text_isNumberChar,
    List.takeWhile_append_of_pos n.text_isNumberChar, hr.takeWhile, hr'.takeWhile,
    List.append_nil, List.append_nil] at htake
  rw [htake] at h
  exact ⟨Number.text_inj htake, List.append_cancel_left h⟩

mutual

/-- A value and what follows its text are known from both together. -/
theorem text_append_inj : ∀ {x y : Json} {r r' : List Char}, Ends r → Ends r' →
    text x ++ r = text y ++ r' → x = y ∧ r = r'
  | null, y, r, r', _, _, h => by
    have hkind := kind_eq_of_text_append h
    cases y with
    | null => exact ⟨rfl, List.append_cancel_left h⟩
    | bool b => cases b <;> cases hkind
    | _ => cases hkind
  | bool b, y, r, r', _, _, h => by
    have hkind := kind_eq_of_text_append h
    cases y with
    | bool b' =>
      obtain rfl : b = b' := by cases b <;> cases b' <;> first | rfl | cases hkind
      exact ⟨rfl, List.append_cancel_left h⟩
    | _ => cases b <;> cases hkind
  | number m, y, r, r', hr, hr', h => by
    have hkind := kind_eq_of_text_append h
    cases y with
    | number n =>
      obtain ⟨rfl, hrest⟩ := number_text_append_inj hr hr' h
      exact ⟨rfl, hrest⟩
    | bool b => cases b <;> cases hkind
    | _ => cases hkind
  | string s, y, r, r', _, _, h => by
    have hkind := kind_eq_of_text_append h
    cases y with
    | string t =>
      obtain ⟨rfl, hrest⟩ := stringText_append_inj h
      exact ⟨rfl, hrest⟩
    | bool b => cases b <;> cases hkind
    | _ => cases hkind
  | array xs, y, r, r', _, _, h => by
    have hkind := kind_eq_of_text_append h
    cases y with
    | array ys =>
      match xs, ys, h with
      | [], [], h => exact ⟨rfl, List.append_cancel_left h⟩
      | [], y :: ys, h =>
        simp only [text, List.cons_append, List.cons.injEq, List.append_assoc, true_and] at h
        exact absurd h.symm (text_append_ne_bracket y _ _)
      | x :: xs, [], h =>
        simp only [text, List.cons_append, List.cons.injEq, List.append_assoc, true_and] at h
        exact absurd h (text_append_ne_bracket x _ _)
      | x :: xs, y :: ys, h =>
        rw [text, text, List.cons_append, List.cons_append, List.cons.injEq,
          List.append_assoc, List.append_assoc] at h
        obtain ⟨rfl, hitems⟩ := text_append_inj (ends_itemsText xs r) (ends_itemsText ys r') h.2
        obtain ⟨rfl, hrest⟩ := itemsText_append_inj hitems
        exact ⟨rfl, hrest⟩
    | bool b => cases b <;> cases hkind
    | _ => cases hkind
  | object members, y, r, r', _, _, h => by
    have hkind := kind_eq_of_text_append h
    cases y with
    | object others =>
      match members, others, h with
      | [], [], h => exact ⟨rfl, List.append_cancel_left h⟩
      | [], (k, v) :: others, h => simp [text, stringText] at h
      | (k, v) :: members, [], h => simp [text, stringText] at h
      | (k, v) :: members, (k', v') :: others, h =>
        rw [text, text, List.cons_append, List.cons_append, List.cons.injEq] at h
        obtain ⟨rfl, hvalue⟩ := stringText_append_inj (by simpa using h.2)
        rw [List.cons.injEq] at hvalue
        obtain ⟨rfl, hmembers⟩ := text_append_inj (ends_membersText members r)
          (ends_membersText others r') hvalue.2
        obtain ⟨rfl, hrest⟩ := membersText_append_inj hmembers
        exact ⟨rfl, hrest⟩
    | bool b => cases b <;> cases hkind
    | _ => cases hkind

theorem itemsText_append_inj : ∀ {xs ys : List Json} {r r' : List Char},
    itemsText xs ++ r = itemsText ys ++ r' → xs = ys ∧ r = r'
  | [], [], r, r', h => ⟨rfl, List.append_cancel_left h⟩
  | [], y :: ys, r, r', h => by simp [itemsText] at h
  | x :: xs, [], r, r', h => by simp [itemsText] at h
  | x :: xs, y :: ys, r, r', h => by
    rw [itemsText, itemsText, List.cons_append, List.cons_append, List.cons.injEq,
      List.append_assoc, List.append_assoc] at h
    obtain ⟨rfl, hitems⟩ := text_append_inj (ends_itemsText xs r) (ends_itemsText ys r') h.2
    obtain ⟨rfl, hrest⟩ := itemsText_append_inj hitems
    exact ⟨rfl, hrest⟩

theorem membersText_append_inj : ∀ {members others : List (String × Json)} {r r' : List Char},
    membersText members ++ r = membersText others ++ r' → members = others ∧ r = r'
  | [], [], r, r', h => ⟨rfl, List.append_cancel_left h⟩
  | [], (k, v) :: others, r, r', h => by simp [membersText] at h
  | (k, v) :: members, [], r, r', h => by simp [membersText] at h
  | (k, v) :: members, (k', v') :: others, r, r', h => by
    rw [membersText, membersText, List.cons_append, List.cons_append, List.cons.injEq] at h
    obtain ⟨rfl, hvalue⟩ := stringText_append_inj (by simpa using h.2)
    rw [List.cons.injEq] at hvalue
    obtain ⟨rfl, hmembers⟩ := text_append_inj (ends_membersText members r)
      (ends_membersText others r') hvalue.2
    obtain ⟨rfl, hrest⟩ := membersText_append_inj hmembers
    exact ⟨rfl, hrest⟩

end

/-- A value is known from its compact text, the order of its members included. -/
theorem compact_inj {x y : Json} (h : x.compact = y.compact) : x = y := by
  have htext : text x = text y := String.ofList_injective h
  have hends : Ends [] := by simp [Ends]
  exact (text_append_inj hends hends (congrArg (· ++ []) htext)).1

end Values

end Triage.Json
