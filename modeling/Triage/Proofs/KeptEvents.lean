import Triage.Analysis.Pods
import Triage.Proofs.Success

/-!
# Events that are kept are events that are read

A step that keeps what it has read gives what a step gives that keeps nothing, as long as what is
kept is what would be read (`Agrees`). This passes from single steps to their sequences
(`Agrees.bind`, `Agrees.mapM`). Taking the events of a namespace is such a step, whatever was read
before (`agrees_eventsOf`).
-/

namespace Triage

open Cluster

section Agreement

variable {σ ε α β : Type} {sound : σ → Prop}

/-- From sound states a step gives what one without a state gives, and the state it leaves is
sound. -/
structure Agrees (sound : σ → Prop) (x : StateT σ (Except ε) α) (y : Except ε α) : Prop where
  value : ∀ s, sound s → (x.run s).map Prod.fst = y
  state : ∀ s, sound s → ∀ a t, x.run s = .ok (a, t) → sound t

namespace Agrees

theorem ok_of_run {x : StateT σ (Except ε) α} {y : Except ε α} (h : Agrees sound x y) {s t : σ}
    {a : α} (hs : sound s) (hrun : x.run s = .ok (a, t)) : y = .ok a := by
  rw [← h.value s hs, hrun]
  rfl

theorem error_of_run {x : StateT σ (Except ε) α} {y : Except ε α} (h : Agrees sound x y) {s : σ}
    {e : ε} (hs : sound s) (hrun : x.run s = .error e) : y = .error e := by
  rw [← h.value s hs, hrun]
  rfl

theorem run_bind {x : StateT σ (Except ε) α} {y : Except ε α} (h : Agrees sound x y) {s : σ}
    (hs : sound s) (next : α → Except ε β) : (x.run s >>= fun p => next p.1) = y >>= next := by
  rw [← h.value s hs]
  cases x.run s <;> rfl

theorem pure (a : α) : Agrees (ε := ε) sound (Pure.pure a) (Pure.pure a) := by
  refine ⟨fun _ _ => rfl, fun s hs b t h => ?_⟩
  rw [StateT.run_pure, pure_eq_ok, Except.ok.injEq, Prod.mk.injEq] at h
  exact h.2 ▸ hs

/-- A step that does not look at the state. -/
theorem lift (y : Except ε α) : Agrees sound (liftM y : StateT σ (Except ε) α) y := by
  cases y with
  | error e => exact ⟨fun _ _ => rfl, nofun⟩
  | ok a => exact .pure a

theorem bind {x : StateT σ (Except ε) α} {y : Except ε α} {f : α → StateT σ (Except ε) β}
    {g : α → Except ε β} (hx : Agrees sound x y) (hf : ∀ a, Agrees sound (f a) (g a)) :
    Agrees sound (x >>= f) (y >>= g) := by
  constructor
  · intro s hs
    rw [StateT.run_bind]
    cases hrun : x.run s with
    | error e =>
      rw [hx.error_of_run hs hrun]
      rfl
    | ok first =>
      obtain ⟨a, t⟩ := first
      rw [hx.ok_of_run hs hrun]
      exact (hf a).value t (hx.state s hs a t hrun)
  · intro s hs b u h
    rw [StateT.run_bind, bind_eq_ok] at h
    obtain ⟨⟨a, t⟩, hrun, hnext⟩ := h
    exact (hf a).state t (hx.state s hs a t hrun) b u hnext

theorem mapM {f : α → StateT σ (Except ε) β} {g : α → Except ε β}
    (h : ∀ a, Agrees sound (f a) (g a)) : ∀ xs : List α, Agrees sound (xs.mapM f) (xs.mapM g)
  | [] => .pure []
  | x :: xs => by
    rw [List.mapM_cons, List.mapM_cons]
    exact (h x).bind fun y => (mapM h xs).bind fun ys => .pure (y :: ys)

end Agrees

end Agreement

section Events

variable {store : EvidenceStore}

/-- What is kept of each namespace is what the store gives. -/
def EventCache.Sound (store : EvidenceStore) (cache : EventCache) : Prop :=
  ∀ nspace events, cache.lookup nspace = some events → store.eventsOf nspace = .ok events

theorem EventCache.sound_nil : EventCache.Sound store [] := nofun

theorem EventCache.Sound.cons {cache : EventCache} (h : cache.Sound store) {nspace : String}
    {events : List Event} (hread : store.eventsOf nspace = .ok events) :
    EventCache.Sound store ((nspace, events) :: cache) := by
  intro other found hlookup
  rw [List.lookup_cons] at hlookup
  split at hlookup
  · rename_i heq
    rw [eq_of_beq heq, hread, Option.some.inj hlookup]
  · exact h other found hlookup

namespace WithEvents

theorem run_eventsOf (store : EvidenceStore) (nspace : String) (cache : EventCache) :
    (eventsOf store nspace).run cache =
      match cache.lookup nspace with
      | some events => .ok (events, cache)
      | none => (store.eventsOf nspace).map fun events => (events, (nspace, events) :: cache) := by
  change ((match cache.lookup nspace with
    | some events => pure events
    | none => do
      let events ← store.eventsOf nspace
      modify ((nspace, events) :: ·)
      return events : WithEvents (List Event))).run cache = _
  cases cache.lookup nspace with
  | some events => rfl
  | none => cases store.eventsOf nspace <;> rfl

theorem agrees_eventsOf (nspace : String) :
    Agrees (EventCache.Sound store) (eventsOf store nspace) (store.eventsOf nspace) := by
  constructor
  · intro cache hcache
    rw [run_eventsOf]
    cases hlookup : cache.lookup nspace with
    | some events => exact (hcache nspace events hlookup).symm
    | none => cases store.eventsOf nspace <;> rfl
  · intro cache hcache events after h
    rw [run_eventsOf] at h
    cases hlookup : cache.lookup nspace with
    | some kept =>
      simp only [hlookup, Except.ok.injEq, Prod.mk.injEq] at h
      exact h.2 ▸ hcache
    | none =>
      simp only [hlookup, map_eq_ok, Prod.mk.injEq] at h
      obtain ⟨read, hread, -, rfl⟩ := h
      exact hcache.cons hread

end WithEvents

end Events

end Triage
