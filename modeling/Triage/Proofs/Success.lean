import Mathlib.Data.List.Forall2

/-!
# When a computation that may fail succeeds

A step after another succeeds exactly when both do, so a chain of steps is taken apart from its
answer. Steps over a list succeed exactly when each does, and fail with the first that fails. What
every success has in common (`Gives`) passes from step to step.
-/

namespace Triage

variable {ε ε' α β γ : Type _}

@[simp]
theorem pure_eq_ok (a : α) : (pure a : Except ε α) = .ok a := rfl

theorem ok_bind (a : α) (f : α → Except ε β) : ((.ok a : Except ε α) >>= f) = f a := rfl

theorem bind_eq_ok {x : Except ε α} {f : α → Except ε β} {b : β} :
    (x >>= f) = .ok b ↔ ∃ a, x = .ok a ∧ f a = .ok b := by
  cases x with
  | error e => simp [bind, Except.bind]
  | ok a => simp [bind, Except.bind]

theorem map_eq_ok {x : Except ε α} {f : α → β} {b : β} :
    x.map f = .ok b ↔ ∃ a, x = .ok a ∧ f a = b := by
  cases x with
  | error e => simp [Except.map]
  | ok a => simp [Except.map]

theorem mapError_eq_ok {x : Except ε α} {f : ε → ε'} {a : α} :
    x.mapError f = .ok a ↔ x = .ok a := by
  cases x with
  | error e => exact ⟨nofun, nofun⟩
  | ok b =>
    show (.ok b : Except ε' α) = .ok a ↔ (.ok b : Except ε α) = .ok a
    simp only [Except.ok.injEq]

theorem bind_eq_error {x : Except ε α} {f : α → Except ε β} {e : ε} :
    (x >>= f) = .error e ↔ x = .error e ∨ ∃ a, x = .ok a ∧ f a = .error e := by
  cases x with
  | error e' => simp [bind, Except.bind]
  | ok a => simp [bind, Except.bind]

theorem mapError_eq_error {x : Except ε α} {f : ε → ε'} {e' : ε'} :
    x.mapError f = .error e' ↔ ∃ e, x = .error e ∧ f e = e' := by
  cases x with
  | error e => simp [Except.mapError]
  | ok a => simp [Except.mapError]

/-- A step that only succeeds or fails, in front of a computation. -/
theorem unit_bind_eq_ok {x : Except ε Unit} {f : Unit → Except ε β} {b : β} :
    (x >>= f) = .ok b ↔ x = .ok () ∧ f () = .ok b := by
  rw [bind_eq_ok]
  exact ⟨fun ⟨_, hx, hf⟩ => ⟨hx, hf⟩, fun ⟨hx, hf⟩ => ⟨(), hx, hf⟩⟩

section Checks

variable {c : Prop} [Decidable c] {e : ε} {x : Except ε α} {a : α}

/-- A check in front of a computation. -/
theorem check_eq_ok : (do
      if c then throw e
      x : Except ε α) = .ok a ↔ ¬ c ∧ x = .ok a := by
  by_cases hc : c <;> simp [hc, throw, throwThe, MonadExceptOf.throw, bind, Except.bind]

theorem check_eq_error {e' : ε} : (do
      if c then throw e
      x : Except ε α) = .error e' ↔ c ∧ e = e' ∨ ¬ c ∧ x = .error e' := by
  by_cases hc : c <;> simp [hc, throw, throwThe, MonadExceptOf.throw, bind, Except.bind]

/-- A check at the end. -/
theorem last_check_eq_ok : (do if c then throw e : Except ε Unit) = .ok () ↔ ¬ c := by
  by_cases hc : c <;> simp [hc, throw, throwThe, MonadExceptOf.throw]

end Checks

/-- Whatever the computation succeeds with has the property. -/
def Gives (x : Except ε α) (P : α → Prop) : Prop := ∀ a, x = .ok a → P a

namespace Gives

variable {P : α → Prop} {Q : β → Prop}

theorem pure {a : α} (h : P a) : Gives (Pure.pure a : Except ε α) P := by
  rintro _ ⟨⟩
  exact h

theorem nothing : Gives (Pure.pure [] : Except ε (List α)) fun xs => ∀ x ∈ xs, P x :=
  .pure (List.forall_mem_nil P)

theorem bind {x : Except ε α} {f : α → Except ε β} (h : ∀ a, x = .ok a → Gives (f a) Q) :
    Gives (x >>= f) Q := by
  intro b hb
  obtain ⟨a, ha, hb⟩ := bind_eq_ok.1 hb
  exact h a ha b hb

theorem map {x : Except ε α} {f : α → β} (h : Gives x fun a => Q (f a)) : Gives (x.map f) Q := by
  intro b hb
  obtain ⟨a, ha, rfl⟩ := map_eq_ok.1 hb
  exact h a ha

end Gives

/-- Whatever the computation fails with has the property. -/
def Fails (x : Except ε α) (P : ε → Prop) : Prop := ∀ e, x = .error e → P e

namespace Fails

variable {P : ε → Prop}

theorem pure {a : α} : Fails (Pure.pure a : Except ε α) P := nofun

theorem bind {x : Except ε α} {f : α → Except ε β} (hx : Fails x P)
    (hf : ∀ a, x = .ok a → Fails (f a) P) : Fails (x >>= f) P := by
  intro e he
  rcases bind_eq_error.1 he with hxe | ⟨a, ha, hfe⟩
  · exact hx e hxe
  · exact hf a ha e hfe

theorem mapError {x : Except ε' α} {f : ε' → ε} (h : ∀ e, P (f e)) : Fails (x.mapError f) P := by
  intro e he
  obtain ⟨e', -, rfl⟩ := mapError_eq_error.1 he
  exact h e'

end Fails

section Lists

variable {f : α → Except ε β}

theorem mapM_cons_eq (f : α → Except ε β) (x : α) (xs : List α) :
    (x :: xs).mapM f = f x >>= fun y => (xs.mapM f).map (y :: ·) := by
  rw [List.mapM_cons]
  cases f x with
  | error e => rfl
  | ok y => cases xs.mapM f <;> rfl

theorem mapM_eq_ok : ∀ {xs : List α} {ys : List β},
    xs.mapM f = .ok ys ↔ List.Forall₂ (fun x y => f x = .ok y) xs ys
  | [], ys => by simp [eq_comm]
  | x :: xs, ys => by
    simp only [mapM_cons_eq, bind_eq_ok, map_eq_ok, mapM_eq_ok, List.forall₂_cons_left_iff]
    constructor
    · rintro ⟨y, hy, ys, hys, rfl⟩
      exact ⟨y, ys, hy, hys, rfl⟩
    · rintro ⟨y, ys, hy, hys, rfl⟩
      exact ⟨y, hy, ys, hys, rfl⟩

theorem exists_of_mapM_eq_ok {xs : List α} {ys : List β} (h : xs.mapM f = .ok ys) :
    ∀ x ∈ xs, ∃ y, f x = .ok y := by
  intro x hx
  rw [mapM_eq_ok] at h
  induction h with
  | nil => simp at hx
  | cons hhead _ ih =>
    rcases List.mem_cons.1 hx with rfl | hx
    · exact ⟨_, hhead⟩
    · exact ih hx

theorem exists_mapM_eq_ok_iff {xs : List α} :
    (∃ ys, xs.mapM f = .ok ys) ↔ ∀ x ∈ xs, ∃ y, f x = .ok y := by
  constructor
  · rintro ⟨ys, hys⟩
    exact exists_of_mapM_eq_ok hys
  · intro h
    induction xs with
    | nil => exact ⟨[], rfl⟩
    | cons x xs ih =>
      obtain ⟨⟨y, hy⟩, hxs⟩ := List.forall_mem_cons.1 h
      obtain ⟨ys, hys⟩ := ih hxs
      exact ⟨y :: ys, by rw [mapM_cons_eq, hy, hys]; rfl⟩

theorem Gives.mapM {Q : β → Prop} {xs : List α} (h : ∀ x ∈ xs, Gives (f x) Q) :
    Gives (xs.mapM f) fun ys => ∀ y ∈ ys, Q y := by
  intro ys hys
  rw [mapM_eq_ok] at hys
  induction hys with
  | nil => simp
  | cons hhead _ ih =>
    obtain ⟨hx, hxs⟩ := List.forall_mem_cons.1 h
    exact List.forall_mem_cons.2 ⟨hx _ hhead, ih hxs⟩

theorem Gives.mapM_flatten {Q : γ → Prop} {f : α → Except ε (List γ)} {xs : List α}
    (h : ∀ x ∈ xs, Gives (f x) fun ys => ∀ y ∈ ys, Q y) :
    Gives (xs.mapM f) fun yss => ∀ y ∈ yss.flatten, Q y := by
  intro yss hyss y hy
  obtain ⟨ys, hys, hy⟩ := List.mem_flatten.1 hy
  exact Gives.mapM h yss hyss ys hys y hy

theorem mapM_cons_eq_error {e : ε} {x : α} {xs : List α} : (x :: xs).mapM f = .error e ↔
    f x = .error e ∨ ∃ b, f x = .ok b ∧ xs.mapM f = .error e := by
  rw [mapM_cons_eq]
  cases f x with
  | error e' => simp [bind, Except.bind]
  | ok b => cases xs.mapM f <;> simp [bind, Except.bind, Except.map]

/-- Steps over a list fail with the first of them that fails. -/
theorem mapM_eq_error {e : ε} : ∀ {xs : List α}, xs.mapM f = .error e ↔
    ∃ before x after, xs = before ++ x :: after ∧ (∀ y ∈ before, ∃ b, f y = .ok b)
      ∧ f x = .error e
  | [] => by simp
  | x :: xs => by
    rw [mapM_cons_eq_error, mapM_eq_error]
    constructor
    · rintro (hx | ⟨b, hx, before, z, after, rfl, hbefore, hz⟩)
      · exact ⟨[], x, xs, rfl, by simp, hx⟩
      · exact ⟨x :: before, z, after, rfl, List.forall_mem_cons.2 ⟨⟨b, hx⟩, hbefore⟩, hz⟩
    · rintro ⟨_ | ⟨y, before⟩, z, after, heq, hbefore, hz⟩
      · obtain ⟨rfl, -⟩ := List.cons.inj heq
        exact .inl hz
      · obtain ⟨rfl, rfl⟩ := List.cons.inj heq
        obtain ⟨⟨b, hb⟩, hbefore⟩ := List.forall_mem_cons.1 hbefore
        exact .inr ⟨b, hb, before, z, after, rfl, hbefore, hz⟩

theorem Fails.mapM {P : ε → Prop} {xs : List α} (h : ∀ x ∈ xs, Fails (f x) P) :
    Fails (xs.mapM f) P := by
  intro e he
  obtain ⟨before, x, after, rfl, -, hx⟩ := mapM_eq_error.1 he
  exact h x List.mem_append_cons_self e hx

theorem mapM_map (g : β → γ) : ∀ xs : List α,
    (xs.mapM fun x => (f x).map g) = (xs.mapM f).map (List.map g)
  | [] => rfl
  | x :: xs => by
    rw [mapM_cons_eq, mapM_cons_eq, mapM_map g xs]
    cases f x with
    | error e => rfl
    | ok y => cases xs.mapM f <;> rfl

/-- Two rounds over a list are one when no step of the first round fails. -/
theorem mapM_bind_mapM (g : β → Except ε γ) : ∀ {xs : List α}, (∀ x ∈ xs, ∃ y, f x = .ok y) →
    (xs.mapM f >>= fun ys => ys.mapM g) = xs.mapM fun x => f x >>= g
  | [], _ => rfl
  | x :: xs, h => by
    obtain ⟨⟨y, hy⟩, hxs⟩ := List.forall_mem_cons.1 h
    rw [mapM_cons_eq, mapM_cons_eq, hy, ← mapM_bind_mapM g hxs]
    cases hys : xs.mapM f with
    | error e =>
      obtain ⟨before, z, after, rfl, -, hz⟩ := mapM_eq_error.1 hys
      obtain ⟨b, hb⟩ := hxs z (by simp)
      simp [hz] at hb
    | ok ys => exact mapM_cons_eq g y ys

end Lists

section Options

variable {f : α → Option β}

theorem mapM_eq_some : ∀ {xs : List α} {ys : List β},
    xs.mapM f = some ys ↔ List.Forall₂ (fun x y => f x = some y) xs ys
  | [], ys => by simp [eq_comm]
  | x :: xs, ys => by
    simp only [List.mapM_cons, Option.bind_eq_bind, Option.bind_eq_some_iff, mapM_eq_some,
      Option.pure_def, Option.some.injEq, List.forall₂_cons_left_iff]
    constructor
    · rintro ⟨y, hy, ys, hys, rfl⟩
      exact ⟨y, ys, hy, hys, rfl⟩
    · rintro ⟨y, ys, hy, hys, rfl⟩
      exact ⟨y, hy, ys, hys, rfl⟩

theorem mapM_eq_none : ∀ {xs : List α}, xs.mapM f = none ↔ ∃ x ∈ xs, f x = none
  | [] => by simp
  | x :: xs => by
    rw [List.mapM_cons, List.exists_mem_cons_iff, ← mapM_eq_none]
    cases f x with
    | none => simp
    | some y => cases xs.mapM f <;> simp

end Options

theorem forall₂_eq_map {f : α → β} {xs : List α} {ys : List β} :
    List.Forall₂ (fun x y => f x = y) xs ys ↔ xs.map f = ys := by
  rw [← List.forall₂_map_left_iff, List.forall₂_eq_eq_eq]

theorem forall₂_imp_of_mem {r s : α → β → Prop} {xs : List α} {ys : List β}
    (himp : ∀ x ∈ xs, ∀ y ∈ ys, r x y → s x y) (h : List.Forall₂ r xs ys) :
    List.Forall₂ s xs ys := by
  obtain ⟨hlength, hzip⟩ := List.forall₂_iff_zip.1 h
  refine List.forall₂_iff_zip.2 ⟨hlength, fun {x y} hmem => ?_⟩
  obtain ⟨hx, hy⟩ := List.of_mem_zip hmem
  exact himp x hx y hy (hzip hmem)

theorem forall₂_congr_of_mem {r s : α → β → Prop} {xs : List α} {ys : List β}
    (h : ∀ x ∈ xs, ∀ y, r x y ↔ s x y) : List.Forall₂ r xs ys ↔ List.Forall₂ s xs ys :=
  ⟨forall₂_imp_of_mem fun x hx y _ => (h x hx y).1, forall₂_imp_of_mem fun x hx y _ => (h x hx y).2⟩

theorem forall₂_comp {r : α → β → Prop} {s : β → γ → Prop} {xs : List α} {zs : List γ} :
    (∃ ys, List.Forall₂ r xs ys ∧ List.Forall₂ s ys zs) ↔
      List.Forall₂ (fun x z => ∃ y, r x y ∧ s y z) xs zs := by
  constructor
  · rintro ⟨ys, hxy, hyz⟩
    induction hxy generalizing zs with
    | nil =>
      cases hyz
      exact .nil
    | cons hhead _ ih =>
      cases hyz with
      | cons hnext htail => exact .cons ⟨_, hhead, hnext⟩ (ih htail)
  · intro h
    induction h with
    | nil => exact ⟨[], .nil, .nil⟩
    | cons hhead _ ih =>
      obtain ⟨y, hxy, hyz⟩ := hhead
      obtain ⟨ys, hxys, hyzs⟩ := ih
      exact ⟨y :: ys, .cons hxy hxys, .cons hyz hyzs⟩

end Triage
