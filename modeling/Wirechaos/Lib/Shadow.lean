/-
  Wirechaos.Lib.Shadow — computations that a machine follows.

  A program that shares its state with others is described by a machine: the actions say
  what any of the parties may do, and what holds after every run of the machine holds
  whatever the order. `Shadows step P x Q` ties one party's code to it. Wherever `P` links
  a state of the program to one of the machine, some actions of the machine lead to a
  state that `Q` links to the end of the run of `x`, however that run ends. The state of
  the machine is a ghost: the code does not see it.

  `Stays step I x` is the case of a link that the code keeps.
-/

import Wirechaos.Lib.Async
import Wirechaos.Lib.Machine

namespace Async

open Proc Machine

variable {σ τ act ε ε' α β : Type} (step : τ → act → τ)

def Shadows (P : σ → τ → Prop) (x : Proc σ ε α) (Q : Outcome ε α → σ → τ → Prop) : Prop :=
  ∀ s t, P s t → ∃ as, Q (x s).1 (x s).2 (run step t as)

/-- The code keeps the link. -/
def Stays (I : σ → τ → Prop) (x : Proc σ ε α) : Prop := Shadows step I x fun _ => I

variable {step} {P : σ → τ → Prop} {I : σ → τ → Prop}

/-! ## Triples -/

theorem Shadows.mono {x : Proc σ ε α} {Q Q' : Outcome ε α → σ → τ → Prop} {P' : σ → τ → Prop}
    (h : Shadows step P x Q) (hP : ∀ s t, P' s t → P s t) (hQ : ∀ o s t, Q o s t → Q' o s t) : Shadows step P' x Q' := by
  intro s t hs
  obtain ⟨as, hq⟩ := h s t (hP s t hs)
  exact ⟨as, hQ _ _ _ hq⟩

theorem Stays.shadows {x : Proc σ ε α} {Q : Outcome ε α → σ → τ → Prop} (h : Stays step I x)
    (hQ : ∀ o s t, I s t → Q o s t) : Shadows step I x Q := h.mono (fun _ _ hi => hi) hQ

/-- No action of the machine is needed. -/
theorem shadows_still {x : Proc σ ε α} {Q : Outcome ε α → σ → τ → Prop} (h : ∀ s t, P s t → Q (x s).1 (x s).2 t) :
    Shadows step P x Q := fun s t hs => ⟨[], h s t hs⟩

theorem shadows_bind {x : Proc σ ε α} {f : α → Proc σ ε β} {Q : Outcome ε α → σ → τ → Prop}
    {Q' : Outcome ε β → σ → τ → Prop} (hx : Shadows step P x Q) (hf : ∀ a, Shadows step (Q (.ok a)) (f a) Q')
    (herr : ∀ e s t, Q (.err e) s t → Q' (.err e) s t) (hdrop : ∀ n s t, Q (.dropped n) s t → Q' (.dropped n) s t) :
    Shadows step P (x >>= f) Q' := by
  intro s t hs
  obtain ⟨as, hq⟩ := hx s t hs
  rcases h : x s with ⟨a | e | n, s'⟩ <;> rw [h] at hq
  · obtain ⟨bs, hq'⟩ := hf a s' _ hq
    rw [bind_of_ok h]
    exact ⟨as ++ bs, by rw [run_append]; exact hq'⟩
  · rw [bind_of_err h]
    exact ⟨as, herr e s' _ hq⟩
  · rw [bind_of_dropped h]
    exact ⟨as, hdrop n s' _ hq⟩

/-- Behind a part that keeps the link, a stop is where that part stopped. -/
theorem Stays.bind {x : Proc σ ε α} {f : α → Proc σ ε β} {Q : Outcome ε β → σ → τ → Prop} (hx : Stays step I x)
    (hf : ∀ a, Shadows step I (f a) Q) (herr : ∀ e s t, I s t → Q (.err e) s t)
    (hdrop : ∀ n s t, I s t → Q (.dropped n) s t) : Shadows step I (x >>= f) Q := shadows_bind hx hf herr hdrop

theorem shadows_attempt {x : Proc σ ε α} {Q : Outcome ε α → σ → τ → Prop} (hx : Shadows step P x Q) :
    Shadows step P (attempt x : Proc σ ε' _) fun o s t =>
      (∃ a, o = .ok (.ok a) ∧ Q (.ok a) s t) ∨ (∃ e, o = .ok (.error e) ∧ Q (.err e) s t) ∨
        ∃ n, o = .dropped n ∧ Q (.dropped n) s t := by
  intro s t hs
  obtain ⟨as, hq⟩ := hx s t hs
  refine ⟨as, ?_⟩
  rcases h : x s with ⟨a | e | n, s'⟩ <;> rw [h] at hq
  · rw [attempt_of_ok h]
    exact Or.inl ⟨a, rfl, hq⟩
  · rw [attempt_of_err h]
    exact Or.inr (Or.inl ⟨e, rfl, hq⟩)
  · rw [attempt_of_dropped h]
    exact Or.inr (Or.inr ⟨n, rfl, hq⟩)

/-- The guard is dropped whichever way the computation ended. -/
theorem shadows_ensure {x : Proc σ ε α} {cleanup : σ → σ} {J : σ → τ → Prop} (hx : Shadows step P x fun _ => I)
    (hcleanup : ∀ s t, I s t → ∃ as, J (cleanup s) (run step t as)) : Shadows step P (ensure x cleanup) fun _ => J := by
  intro s t hs
  obtain ⟨as, hi⟩ := hx s t hs
  obtain ⟨bs, hj⟩ := hcleanup _ _ hi
  refine ⟨as ++ bs, ?_⟩
  rw [ensure_apply, run_append]
  exact hj

/-! ## Links that are kept -/

theorem stays_pure (a : α) : Stays step I (pure a : Proc σ ε α) := shadows_still fun _ _ h => h

theorem stays_get : Stays step I (get : Proc σ ε σ) := shadows_still fun _ _ h => h

theorem stays_throw (e : ε) : Stays step I (throw e : Proc σ ε α) := shadows_still fun _ _ h => h

theorem stays_drop (n : Nat) : Stays step I (drop n : Proc σ ε α) := shadows_still fun _ _ h => h

theorem stays_lift (r : Except ε α) : Stays step I (lift r) := by
  apply shadows_still
  intro s t h
  cases r <;> exact h

theorem stays_modify {f : σ → σ} (hf : ∀ s t, I s t → I (f s) t) : Stays step I (modify f : Proc σ ε Unit) :=
  shadows_still hf

theorem stays_bind {x : Proc σ ε α} {f : α → Proc σ ε β} (hx : Stays step I x) (hf : ∀ a, Stays step I (f a)) :
    Stays step I (x >>= f) := hx.bind hf (fun _ _ _ h => h) fun _ _ _ h => h

theorem stays_ite {p : Prop} [Decidable p] {x y : Proc σ ε α} (hx : Stays step I x) (hy : Stays step I y) :
    Stays step I (if p then x else y) := by
  by_cases hp : p
  · rw [if_pos hp]
    exact hx
  · rw [if_neg hp]
    exact hy

theorem stays_mapErr {f : ε → ε'} {x : Proc σ ε α} (hx : Stays step I x) : Stays step I (mapErr f x) := by
  intro s t h
  rw [mapErr_snd]
  exact hx s t h

theorem stays_attempt {x : Proc σ ε α} (hx : Stays step I x) : Stays step I (attempt x : Proc σ ε' _) := by
  intro s t h
  rw [attempt_snd]
  exact hx s t h

/-- What an operation on a part does to that part does not break the link. -/
theorem stays_zoom {ρ : Type} {part : σ → ρ} {put : σ → ρ → σ} {x : Proc ρ ε α} (hput : ∀ s r t, I s t → I (put s r) t) :
    Stays step I (zoom part put x) := by
  apply shadows_still
  intro s t h
  rw [zoom_apply]
  exact hput s _ t h

end Async
