/-
  Wirechaos.Lib.Fatal — log entries that decide how a run ends.

  `fatal t e` says that a run that logs `t` has nothing more to do than to fail with `e`.
  `Fatal log I fatal x` says that the runs of `x` that begin in `I` keep to that: once such
  an entry is logged, the run ends with its error. So the entry is known from the error's
  being there and the other way round, however deep in `x` it is logged.
-/

import Wirechaos.Lib.Async

namespace Async

open Proc

variable {σ ε ε' α β τ : Type} {log : σ → List τ} {I : σ → Prop} {fatal : τ → ε → Prop}

def Fatal (log : σ → List τ) (I : σ → Prop) (fatal : τ → ε → Prop) (x : Proc σ ε α) : Prop :=
  Emits log x fun s o es _ => I s → ∀ t ∈ es, ∀ e, fatal t e → o = .err e

/-- Nothing to decide. -/
def Harmless (fatal : τ → ε → Prop) (t : τ) : Prop := ∀ e, ¬ fatal t e

theorem fatal_of_appends {x : Proc σ ε α} (hx : Keeps (Appends log (Harmless fatal)) x) : Fatal log I fatal x := by
  intro s
  obtain ⟨es, hl, hes⟩ := hx s
  exact ⟨es, hl, fun _ t ht e he => absurd he (hes t ht e)⟩

theorem fatal_bind {x : Proc σ ε α} {f : α → Proc σ ε β} (hx : Fatal log I fatal x) (hI : Keeps (Maintains I) x)
    (hf : ∀ a, Fatal log I fatal (f a)) : Fatal log I fatal (x >>= f) := by
  intro s
  obtain ⟨es, hl, hes⟩ := hx s
  rcases hrun : x s with ⟨a | e | n, s'⟩ <;> rw [hrun] at hl hes
  · -- the first part returned, so that it logged nothing fatal
    obtain ⟨es', hl', hes'⟩ := hf a s'
    rw [bind_of_ok hrun]
    refine ⟨es ++ es', by rw [hl', hl, List.append_assoc], fun hs t ht e he => ?_⟩
    rcases List.mem_append.mp ht with ht | ht
    · cases hes hs t ht e he
    · exact hes' (hI.run hrun hs) t ht e he
  · rw [bind_of_err hrun]
    refine ⟨es, hl, fun hs t ht e' he => ?_⟩
    cases hes hs t ht e' he
    rfl
  · rw [bind_of_dropped hrun]
    refine ⟨es, hl, fun hs t ht e he => ?_⟩
    cases hes hs t ht e he

theorem fatal_get {f : σ → Proc σ ε β} (hf : ∀ s, Fatal log I fatal (f s)) : Fatal log I fatal (get >>= f) :=
  fatal_bind (fatal_of_appends keeps_get) keeps_get hf

theorem fatal_ite {c : Prop} [Decidable c] {x y : Proc σ ε α} (hx : Fatal log I fatal x) (hy : Fatal log I fatal y) :
    Fatal log I fatal (if c then x else y) := by
  split
  · exact hx
  · exact hy

/-- A deadline around a part whose error is handed on. -/
theorem fatal_timeout {x : Proc σ ε α} {f : Option (Except ε α) → Proc σ ε β} (hx : Fatal log I fatal x)
    (hI : Keeps (Maintains I) x) (hf : ∀ r, Fatal log I fatal (f r)) (hthrow : ∀ e, f (some (.error e)) = throw e) :
    Fatal log I fatal (timeout x >>= f) := by
  intro s
  obtain ⟨es, hl, hes⟩ := hx s
  have hon := hI s
  have go {r : Option (Except ε α)} {s' : σ} (hr : (timeout x : Proc σ ε _) s = (.ok r, s'))
      (hs' : Maintains I s s') (hl : log s' = log s ++ es) (hno : I s → ∀ t ∈ es, Harmless fatal t) :
      ∃ es', log ((timeout x >>= f) s).2 = log s ++ es' ∧
        (I s → ∀ t ∈ es', ∀ e, fatal t e → ((timeout x >>= f) s).1 = .err e) := by
    obtain ⟨es', hl', hes'⟩ := hf r s'
    rw [bind_of_ok hr]
    refine ⟨es ++ es', by rw [hl', hl, List.append_assoc], fun hs t ht e he => ?_⟩
    rcases List.mem_append.mp ht with ht | ht
    · exact absurd he (hno hs t ht e)
    · exact hes' (hs' hs) t ht e he
  rcases hrun : x s with ⟨a | e | _ | n, s'⟩ <;> rw [hrun] at hl hes hon
  · exact go (by rw [timeout, hrun]) hon hl fun hs t ht e he => by cases hes hs t ht e he
  · have hr : (timeout x : Proc σ ε _) s = (.ok (some (.error e)), s') := by rw [timeout, hrun]
    rw [bind_of_ok hr, hthrow]
    refine ⟨es, hl, fun hs t ht e' he => ?_⟩
    cases hes hs t ht e' he
    rfl
  · exact go (by rw [timeout, hrun]) hon hl fun hs t ht e he => by cases hes hs t ht e he
  · have hr : (timeout x : Proc σ ε (Option (Except ε α))) s = (.dropped n, s') := by rw [timeout, hrun]
    rw [bind_of_dropped hr]
    refine ⟨es, hl, fun hs t ht e he => ?_⟩
    cases hes hs t ht e he

end Async
