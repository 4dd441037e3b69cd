import Mathlib.Data.List.Basic
import Triage.Evidence.Glob

/-!
# What a glob stands for

Each token of a glob stands for some texts (`Token.Spells`), and a list of tokens for the texts that
can be cut into one piece for each (`Spelled`). The positions that `accepts` keeps are those where
the texts spelled so far can end (`Token.ends_iff`), so a glob accepts just the paths that its tokens
spell (`accepts_iff`).
-/

namespace Triage

namespace Glob

/-- The texts that a token stands for. -/
def Token.Spells : Token → List Char → Prop
  | literal c, s => s = [c]
  | one, s => ∃ c, c ≠ '/' ∧ s = [c]
  | name, s => '/' ∉ s
  | any, s => '\n' ∉ s
  | dirs, s => s = [] ∨ ∃ path, '\n' ∉ path ∧ s = path ++ ['/']

/-- The texts that can be cut into one piece for each token. -/
def Spelled : List Token → List Char → Prop
  | [], s => s = []
  | token :: tokens, s => ∃ front back, s = front ++ back ∧ token.Spells front ∧ Spelled tokens back

section Positions

variable {p : Char → Bool} {path : List Char} {starts : List Bool} {i j : Nat}

/-- The part of a path between two positions. -/
def between (path : List Char) (i j : Nat) : List Char := (path.take j).drop i

theorem between_self (path : List Char) (i : Nat) : between path i i = [] := by
  simp [between]

theorem between_succ {c : Char} (hij : i ≤ j) (hc : path[j]? = some c) :
    between path i (j + 1) = between path i j ++ [c] := by
  have hj : j < path.length := (List.getElem?_eq_some_iff.1 hc).1
  rw [between, List.take_add_one, hc, Option.toList_some, between,
    List.drop_append_of_le_length (by simp; omega)]

theorem between_append_drop (path : List Char) (hij : i ≤ j) :
    between path i j ++ path.drop j = path.drop i := by
  obtain ⟨n, rfl⟩ := Nat.exists_eq_add_of_le hij
  rw [between, List.drop_take, Nat.add_sub_cancel_left, ← List.drop_drop, List.take_append_drop]

theorem between_add {front back : List Char} (h : path.drop i = front ++ back) :
    between path i (i + front.length) = front ∧ path.drop (i + front.length) = back := by
  rw [between, List.drop_take, ← List.drop_drop, h]
  simp

theorem between_succ_succ (c : Char) (path : List Char) (i j : Nat) :
    between (c :: path) (i + 1) (j + 1) = between path i j := by
  simp [between]

theorem shift_iff :
    (shift p path starts)[j]? = some true ↔
      ∃ i c, j = i + 1 ∧ path[i]? = some c ∧ p c = true ∧ starts[i]? = some true := by
  cases j with
  | zero => simp [shift]
  | succ j =>
    rw [shift, List.getElem?_cons_succ, List.getElem?_zipWith]
    cases hc : path[j]? with
    | none => simp [hc]
    | some c => cases hs : starts[j]? <;> simp [hc, hs]

/-- A position is kept when a start lies before it, or comes from before the path, and the
characters between are fine. -/
theorem spread_iff (p : Char → Bool) : ∀ (carry : Bool) (path : List Char) (starts : List Bool)
    (j : Nat), starts.length = path.length + 1 →
    ((spread p carry path starts)[j]? = some true ↔ j ≤ path.length
      ∧ (carry = true ∧ (path.take j).all p = true
        ∨ ∃ i ≤ j, starts[i]? = some true ∧ (between path i j).all p = true))
  | carry, [], [here], j, _ => by
    cases j with
    | zero => simp [spread, between]
    | succ j => simp [spread]
  | carry, c :: path, here :: starts, 0, _ => by simp [spread, between]
  | carry, c :: path, here :: starts, j + 1, h => by
    have ih := spread_iff p ((carry || here) && p c) path starts j (by simpa using h)
    rw [spread, List.getElem?_cons_succ, ih, List.length_cons, Nat.add_le_add_iff_right]
    refine and_congr_right fun _ => ?_
    have hstart : (∃ i ≤ j + 1, (here :: starts)[i]? = some true
        ∧ (between (c :: path) i (j + 1)).all p = true) ↔
        here = true ∧ (p c && (path.take j).all p) = true
        ∨ ∃ i ≤ j, starts[i]? = some true ∧ (between path i j).all p = true := by
      constructor
      · rintro ⟨i, hi, hs, hall⟩
        cases i with
        | zero => exact .inl ⟨by simpa using hs, by simpa [between] using hall⟩
        | succ i =>
          rw [between_succ_succ] at hall
          exact .inr ⟨i, by omega, by simpa using hs, hall⟩
      · rintro (⟨hs, hall⟩ | ⟨i, hi, hs, hall⟩)
        · exact ⟨0, by omega, by simpa using hs, by simpa [between] using hall⟩
        · exact ⟨i + 1, by omega, by simpa using hs, by rwa [between_succ_succ]⟩
    rw [hstart]
    cases carry <;> cases here <;> simp
  | _, [], [], j, h => by simp at h
  | _, [], _ :: _ :: _, j, h => by simp at h
  | _, _ :: _, [], j, h => by simp at h

theorem length_spread : ∀ {path : List Char} {starts : List Bool} {carry : Bool},
    starts.length = path.length + 1 → (spread p carry path starts).length = path.length + 1
  | [], [here], _, _ => by simp [spread]
  | c :: path, here :: starts, carry, h => by
    simpa [spread] using length_spread (by simpa using h)
  | [], [], _, h => by simp at h
  | [], _ :: _ :: _, _, h => by simp at h
  | _ :: _, [], _, h => by simp at h

theorem length_shift (h : starts.length = path.length + 1) :
    (shift p path starts).length = path.length + 1 := by
  simp [shift, h]

theorem Token.length_ends (token : Token) (h : starts.length = path.length + 1) :
    (token.ends path starts).length = path.length + 1 := by
  cases token with
  | literal c => exact length_shift h
  | one => exact length_shift h
  | name => exact length_spread h
  | any => exact length_spread h
  | dirs =>
    have hshift := @length_shift (· == '/') path _ (@length_spread inLine path starts false h)
    simp [ends, h, hshift]

theorem between_eq_singleton {c : Char} (hj : j ≤ path.length) :
    i ≤ j ∧ between path i j = [c] ↔ j = i + 1 ∧ path[i]? = some c := by
  constructor
  · rintro ⟨hij, h⟩
    have hlength := congrArg List.length h
    simp only [between, List.length_drop, List.length_take, List.length_singleton] at hlength
    obtain rfl : j = i + 1 := by omega
    have hget : path[i]? = some path[i] := List.getElem?_eq_getElem (by omega)
    rw [between_succ (Nat.le_refl i) hget, between_self, List.nil_append, List.singleton_inj] at h
    exact ⟨rfl, h ▸ hget⟩
  · rintro ⟨rfl, h⟩
    exact ⟨by omega, by rw [between_succ (Nat.le_refl i) h, between_self, List.nil_append]⟩

/-- The characters up to `j` are some fine ones and a slash. -/
theorem between_eq_append_slash (hj : j ≤ path.length) :
    (i ≤ j ∧ ∃ front, '\n' ∉ front ∧ between path i j = front ++ ['/']) ↔
      ∃ k, j = k + 1 ∧ path[k]? = some '/' ∧ i ≤ k ∧ '\n' ∉ between path i k := by
  constructor
  · rintro ⟨hij, front, hfront, h⟩
    have hlength := congrArg List.length h
    simp only [between, List.length_drop, List.length_take, List.length_append,
      List.length_singleton] at hlength
    obtain ⟨k, rfl⟩ : ∃ k, j = k + 1 := ⟨j - 1, by omega⟩
    have hget : path[k]? = some path[k] := List.getElem?_eq_getElem (by omega)
    rw [between_succ (by omega) hget] at h
    obtain ⟨rfl, hslash⟩ := List.append_inj' h rfl
    rw [List.singleton_inj] at hslash
    exact ⟨k, rfl, hslash ▸ hget, by omega, hfront⟩
  · rintro ⟨k, rfl, hget, hik, hfine⟩
    exact ⟨by omega, _, hfine, between_succ hik hget⟩

theorem all_inName_iff (s : List Char) : s.all inName = true ↔ '/' ∉ s := by
  simp only [List.all_eq_true, inName, bne_iff_ne]
  exact ⟨fun h hmem => h _ hmem rfl, fun h c hc e => h (e ▸ hc)⟩

theorem all_inLine_iff (s : List Char) : s.all inLine = true ↔ '\n' ∉ s := by
  simp only [List.all_eq_true, inLine, bne_iff_ne]
  exact ⟨fun h hmem => h _ hmem rfl, fun h c hc e => h (e ▸ hc)⟩

/-- A single character leads from one place to the next. -/
theorem shift_iff_between (hj : j ≤ path.length) :
    (shift p path starts)[j]? = some true ↔
      ∃ i ≤ j, starts[i]? = some true ∧ ∃ c, p c = true ∧ between path i j = [c] := by
  rw [shift_iff]
  constructor
  · rintro ⟨i, c, rfl, hc, hp, hs⟩
    obtain ⟨hle, hb⟩ := (between_eq_singleton hj).2 ⟨rfl, hc⟩
    exact ⟨i, hle, hs, c, hp, hb⟩
  · rintro ⟨i, hle, hs, c, hp, hb⟩
    obtain ⟨rfl, hc⟩ := (between_eq_singleton hj).1 ⟨hle, hb⟩
    exact ⟨i, c, rfl, hc, hp, hs⟩

theorem spread_iff_between (h : starts.length = path.length + 1)
    (hj : j ≤ path.length) : (spread p false path starts)[j]? = some true ↔
      ∃ i ≤ j, starts[i]? = some true ∧ (between path i j).all p = true := by
  simp [spread_iff p false path starts j h, hj]

/-- Directories end where they start, or at a slash after any characters. -/
theorem ends_dirs_iff (h : starts.length = path.length + 1) (hj : j ≤ path.length) :
    (Token.dirs.ends path starts)[j]? = some true ↔ starts[j]? = some true
      ∨ ∃ i ≤ j, starts[i]? = some true
        ∧ ∃ front, '\n' ∉ front ∧ between path i j = front ++ ['/'] := by
  have hor : (Token.dirs.ends path starts)[j]? = some true ↔ starts[j]? = some true
      ∨ (shift (· == '/') path (spread inLine false path starts))[j]? = some true := by
    have hlength := @length_shift (· == '/') path _ (@length_spread inLine path starts false h)
    rw [Token.ends, List.getElem?_zipWith, List.getElem?_eq_getElem (by omega : j < starts.length),
      List.getElem?_eq_getElem (by omega :
        j < (shift (· == '/') path (spread inLine false path starts)).length)]
    simp
  rw [hor, shift_iff]
  refine or_congr_right ⟨?_, ?_⟩
  · rintro ⟨k, c, rfl, hc, hp, hs⟩
    obtain rfl := eq_of_beq hp
    obtain ⟨i, hik, hs, hfine⟩ := (spread_iff_between h (by omega)).1 hs
    obtain ⟨hle, hfront⟩ :=
      (between_eq_append_slash hj).2 ⟨k, rfl, hc, hik, (all_inLine_iff _).1 hfine⟩
    exact ⟨i, hle, hs, hfront⟩
  · rintro ⟨i, hle, hs, hfront⟩
    obtain ⟨k, rfl, hc, hik, hfine⟩ := (between_eq_append_slash hj).1 ⟨hle, hfront⟩
    exact ⟨k, '/', rfl, hc, by simp,
      (spread_iff_between h (by omega)).2 ⟨i, hik, hs, (all_inLine_iff _).2 hfine⟩⟩

/-- A token can end where a text that it stands for ends. -/
theorem Token.ends_iff (token : Token) (h : starts.length = path.length + 1)
    (hj : j ≤ path.length) : (token.ends path starts)[j]? = some true ↔
      ∃ i ≤ j, starts[i]? = some true ∧ token.Spells (between path i j) := by
  cases token with
  | literal c => simp only [ends, shift_iff_between hj, Spells, beq_iff_eq, exists_eq_left]
  | one => simp only [ends, shift_iff_between hj, Spells, inName, bne_iff_ne]
  | name => simp only [ends, spread_iff_between h hj, Spells, all_inName_iff]
  | any => simp only [ends, spread_iff_between h hj, Spells, all_inLine_iff]
  | dirs =>
    rw [ends_dirs_iff h hj]
    constructor
    · rintro (hs | ⟨i, hle, hs, hfront⟩)
      · exact ⟨j, Nat.le_refl _, hs, .inl (between_self path j)⟩
      · exact ⟨i, hle, hs, .inr hfront⟩
    · rintro ⟨i, hle, hs, hempty | hfront⟩
      · have hlength := congrArg List.length hempty
        simp only [between, List.length_drop, List.length_take, List.length_nil] at hlength
        obtain rfl : i = j := by omega
        exact .inl hs
      · exact .inr ⟨i, hle, hs, hfront⟩

theorem foldl_ends_iff : ∀ (tokens : List Token) {starts : List Bool},
    starts.length = path.length + 1 →
    ((tokens.foldl (fun starts token => token.ends path starts) starts).getLastD false = true ↔
      ∃ i ≤ path.length, starts[i]? = some true ∧ Spelled tokens (path.drop i))
  | [], starts, h => by
    rw [List.foldl_nil, List.getLastD_eq_getLast?, List.getLast?_eq_getElem?, h,
      Nat.add_sub_cancel, List.getElem?_eq_getElem (by omega : path.length < starts.length)]
    simp only [Option.getD_some, Spelled, List.drop_eq_nil_iff]
    constructor
    · intro hlast
      exact ⟨path.length, Nat.le_refl _, by rw [List.getElem?_eq_getElem (by omega), hlast],
        Nat.le_refl _⟩
    · rintro ⟨i, hle, hs, hge⟩
      obtain rfl : i = path.length := by omega
      rw [List.getElem?_eq_getElem (by omega), Option.some.injEq] at hs
      exact hs
  | token :: tokens, starts, h => by
    rw [List.foldl_cons, foldl_ends_iff tokens (token.length_ends h)]
    constructor
    · rintro ⟨j, hj, hends, hrest⟩
      obtain ⟨i, hij, hs, hspells⟩ := (token.ends_iff h hj).1 hends
      exact ⟨i, by omega, hs, _, _, (between_append_drop path hij).symm, hspells, hrest⟩
    · rintro ⟨i, hi, hs, front, back, hcut, hspells, hrest⟩
      obtain ⟨hfront, hback⟩ := between_add hcut
      have hj : i + front.length ≤ path.length := by
        have := congrArg List.length hcut
        simp only [List.length_drop, List.length_append] at this
        omega
      exact ⟨i + front.length, hj, (token.ends_iff h hj).2 ⟨i, by omega, hs, hfront.symm ▸ hspells⟩,
        hback.symm ▸ hrest⟩

end Positions

/-- A glob accepts the paths that its tokens spell. -/
theorem accepts_iff (glob : Glob) (path : String) :
    glob.accepts path = true ↔ Spelled (tokens glob.pattern.toList) path.toList := by
  rw [accepts, tokensMatch, foldl_ends_iff _ (by simp [atStart])]
  constructor
  · rintro ⟨i, -, hs, hrest⟩
    cases i with
    | zero => exact hrest
    | succ i => simp [atStart, List.getElem?_replicate] at hs
  · intro h
    exact ⟨0, by omega, by simp [atStart], h⟩

end Glob

end Triage
