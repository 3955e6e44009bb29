/-
  Wirechaos.Lib.TwoRuns — two runs next to each other.

  `Agree R R' x y` says that `x` and `y`, started in states related by `R`, end in the
  same way and in states related by `R'`. What an observer reads off the outcome and off
  whatever `R'` keeps equal then does not tell which of the two ran. The two may differ in
  their states and in the code; the rules go along two sequences step by step.

  `Follows R W x y` is one-sided: what `x` does, `y` does too. It looks at the runs of `x`
  that return and are still in `W` then. `W` is a bound on how far a run may go (`x` left so
  much unread), so that a run that ends in `W` has been in `W` all the time, and the two
  states need to be related no further than `W` reaches.

  `Blind φ x` is about one computation and a change `φ` of its state: `x` does not see
  whether the change was made, and leaves it as it is. `Hides I H E φ x` says so of the runs
  that begin in `I` and end in `H`, and up to `E` in the error they end with; where an error
  is handled, what handles it need only be the same for errors that `E` relates.
-/

import Wirechaos.Lib.Async

namespace Async

open Proc

variable {σ σ' τ ε ε' α β : Type} {R R' R'' : σ → σ' → Prop}

def Agree (R R' : σ → σ' → Prop) (x : Proc σ ε α) (y : Proc σ' ε α) : Prop :=
  ∀ s s', R s s' → (x s).1 = (y s').1 ∧ R' (x s).2 (y s').2

theorem Agree.mono {x : Proc σ ε α} {y : Proc σ' ε α} (h : Agree R R' x y) (hR : ∀ s s', R' s s' → R'' s s') :
    Agree R R'' x y := by
  intro s s' hs
  obtain ⟨hout, hstate⟩ := h s s' hs
  exact ⟨hout, hR _ _ hstate⟩

theorem agree_pure (a : α) : Agree R R (pure a : Proc σ ε α) (pure a) := fun _ _ h => ⟨rfl, h⟩

theorem agree_throw (e : ε) : Agree R R (throw e : Proc σ ε α) (throw e) := fun _ _ h => ⟨rfl, h⟩

theorem agree_lift (r : Except ε α) : Agree R R (lift r) (lift r) := by
  intro s s' h
  cases r <;> exact ⟨rfl, h⟩

theorem agree_modify {f : σ → σ} {g : σ' → σ'} (h : ∀ s s', R s s' → R' (f s) (g s')) :
    Agree R R' (modify f : Proc σ ε Unit) (modify g) := fun s s' hs => ⟨rfl, h s s' hs⟩

/-- Where the first parts stop, so do both sequences. -/
theorem agree_bind {x : Proc σ ε α} {y : Proc σ' ε α} {f : α → Proc σ ε β} {g : α → Proc σ' ε β} (hx : Agree R R' x y)
    (hstop : ∀ s s', R' s s' → R'' s s') (hf : ∀ a, Agree R' R'' (f a) (g a)) : Agree R R'' (x >>= f) (y >>= g) := by
  intro s s' hs
  obtain ⟨hout, hstate⟩ := hx s s' hs
  rcases hrun : x s with ⟨a | e | n, t⟩ <;> rw [hrun] at hout hstate
  · rw [bind_of_ok hrun, bind_of_ok (eq_of_fst hout.symm)]
    exact hf a t _ hstate
  · rw [bind_of_err hrun, bind_of_err (eq_of_fst hout.symm)]
    exact ⟨rfl, hstop _ _ hstate⟩
  · rw [bind_of_dropped hrun, bind_of_dropped (eq_of_fst hout.symm)]
    exact ⟨rfl, hstop _ _ hstate⟩

theorem agree_then {x : Proc σ ε α} {y : Proc σ' ε α} {f : α → Proc σ ε β} {g : α → Proc σ' ε β} (hx : Agree R R x y)
    (hf : ∀ a, Agree R R (f a) (g a)) : Agree R R (x >>= f) (y >>= g) := agree_bind hx (fun _ _ h => h) hf

theorem agree_drop (n : Nat) : Agree R R (drop n : Proc σ ε α) (drop n) := fun _ _ h => ⟨rfl, h⟩

/-- What is read off the two states makes no difference to what follows. -/
theorem agree_get {R R' : σ → σ → Prop} {f : σ → Proc σ ε β} (hsame : ∀ s s', R s s' → f s' = f s)
    (hf : ∀ s s', R s s' → Agree R R' (f s) (f s)) : Agree R R' (get >>= f) (get >>= f) := by
  intro s s' hs
  rw [bind_of_ok (get_apply s), bind_of_ok (get_apply s'), hsame s s' hs]
  exact hf s s' hs s s' hs

theorem agree_ite {p : Prop} [Decidable p] {x₁ x₂ : Proc σ ε α} {y₁ y₂ : Proc σ' ε α} (h₁ : Agree R R' x₁ y₁)
    (h₂ : Agree R R' x₂ y₂) : Agree R R' (if p then x₁ else x₂) (if p then y₁ else y₂) := by
  split
  · exact h₁
  · exact h₂

theorem agree_timeout {x : Proc σ ε α} {y : Proc σ' ε α} (hx : Agree R R' x y) :
    Agree R R' (timeout x : Proc σ ε' _) (timeout y) := by
  intro s s' hs
  obtain ⟨hout, hstate⟩ := hx s s' hs
  rw [timeout_snd, timeout_snd]
  refine ⟨?_, hstate⟩
  unfold timeout
  rcases hrun : x s with ⟨a | e | _ | n, t⟩ <;> rw [hrun] at hout <;> rw [eq_of_fst hout.symm]

theorem agree_ensure {x : Proc σ ε α} {y : Proc σ' ε α} {cleanup : σ → σ} {cleanup' : σ' → σ'} (hx : Agree R R' x y)
    (hcleanup : ∀ s s', R' s s' → R'' (cleanup s) (cleanup' s')) : Agree R R'' (ensure x cleanup) (ensure y cleanup') := by
  intro s s' hs
  obtain ⟨hout, hstate⟩ := hx s s' hs
  rw [ensure_apply, ensure_apply]
  exact ⟨hout, hcleanup _ _ hstate⟩

theorem agree_mapErr {x : Proc σ ε α} {y : Proc σ' ε α} (f : ε → ε') (hx : Agree R R' x y) :
    Agree R R' (mapErr f x) (mapErr f y) := by
  intro s s' hs
  obtain ⟨hout, hstate⟩ := hx s s' hs
  rw [mapErr_snd, mapErr_snd]
  refine ⟨?_, hstate⟩
  unfold mapErr
  rcases hrun : x s with ⟨a | e | n, t⟩ <;> rw [hrun] at hout <;> rw [eq_of_fst hout.symm]

theorem agree_attempt {x : Proc σ ε α} {y : Proc σ' ε α} (hx : Agree R R' x y) :
    Agree R R' (attempt x : Proc σ ε' _) (attempt y) := by
  intro s s' hs
  obtain ⟨hout, hstate⟩ := hx s s' hs
  rw [attempt_snd, attempt_snd]
  refine ⟨?_, hstate⟩
  unfold attempt
  rcases hrun : x s with ⟨a | e | n, t⟩ <;> rw [hrun] at hout <;> rw [eq_of_fst hout.symm]

/-- One computation over the same part of two states. -/
theorem agree_zoom {part : σ → τ} {part' : σ' → τ} {put : σ → τ → σ} {put' : σ' → τ → σ'} (x : Proc τ ε α)
    (hpart : ∀ s s', R s s' → part s = part' s') (hput : ∀ s s' t, R s s' → R' (put s t) (put' s' t)) :
    Agree R R' (zoom part put x) (zoom part' put' x) := by
  intro s s' hs
  rw [zoom_apply, zoom_apply, hpart s s' hs]
  exact ⟨rfl, hput s s' _ hs⟩

/-! ## One run after another -/

def Follows (R : σ → σ' → Prop) (W : σ → Prop) (x : Proc σ ε α) (y : Proc σ' ε α) : Prop :=
  ∀ s a t, x s = (.ok a, t) → W t → W s ∧ ∀ s', R s s' → ∃ t', y s' = (.ok a, t') ∧ R t t'

variable {W : σ → Prop}

theorem follows_pure (a : α) : Follows R W (pure a : Proc σ ε α) (pure a) := by
  intro s b t h hW
  cases h
  exact ⟨hW, fun s' hs => ⟨s', rfl, hs⟩⟩

theorem follows_throw (e : ε) (y : Proc σ' ε α) : Follows R W (throw e) y := by
  intro s a t h
  cases h

theorem follows_lift (r : Except ε α) : Follows R W (lift r) (lift r) := by
  cases r with
  | ok a => exact follows_pure a
  | error e => exact follows_throw e _

theorem follows_modify {f : σ → σ} {g : σ' → σ'} (hW : ∀ s, W (f s) → W s) (hR : ∀ s s', R s s' → R (f s) (g s')) :
    Follows R W (modify f : Proc σ ε Unit) (modify g) := by
  intro s u t h ht
  cases h
  exact ⟨hW s ht, fun s' hs => ⟨g s', rfl, hR s s' hs⟩⟩

theorem follows_bind {x : Proc σ ε α} {y : Proc σ' ε α} {f : α → Proc σ ε β} {g : α → Proc σ' ε β} (hx : Follows R W x y)
    (hf : ∀ a, Follows R W (f a) (g a)) : Follows R W (x >>= f) (y >>= g) := by
  intro s b t h ht
  obtain ⟨a, s₁, hrun, hrest⟩ := bind_ok.mp h
  obtain ⟨hW₁, hR₁⟩ := hf a s₁ b t hrest ht
  obtain ⟨hW, hR⟩ := hx s a s₁ hrun hW₁
  refine ⟨hW, fun s' hs => ?_⟩
  obtain ⟨s₁', hrun', hs₁⟩ := hR s' hs
  rw [bind_of_ok hrun']
  exact hR₁ s₁' hs₁

/-- What is read off the two states makes no difference to what follows. -/
theorem follows_get {R : σ → σ → Prop} {f : σ → Proc σ ε β} (hsame : ∀ s s', R s s' → f s' = f s)
    (hf : ∀ s, Follows R W (f s) (f s)) : Follows R W (get >>= f) (get >>= f) := by
  intro s b t h ht
  rw [bind_of_ok (get_apply s)] at h
  obtain ⟨hW, hR⟩ := hf s s b t h ht
  refine ⟨hW, fun s' hs => ?_⟩
  rw [bind_of_ok (get_apply s'), hsame s s' hs]
  exact hR s' hs

theorem follows_ite {p : Prop} [Decidable p] {x₁ x₂ : Proc σ ε α} {y₁ y₂ : Proc σ' ε α} (h₁ : Follows R W x₁ y₁)
    (h₂ : Follows R W x₂ y₂) : Follows R W (if p then x₁ else x₂) (if p then y₁ else y₂) := by
  split
  · exact h₁
  · exact h₂

theorem follows_mapErr {x : Proc σ ε α} {y : Proc σ' ε α} (f : ε → ε') (hx : Follows R W x y) :
    Follows R W (mapErr f x) (mapErr f y) := by
  intro s a t h ht
  obtain ⟨hW, hR⟩ := hx s a t (mapErr_ok.mp h) ht
  refine ⟨hW, fun s' hs => ?_⟩
  obtain ⟨t', hrun, hst⟩ := hR s' hs
  exact ⟨t', mapErr_ok.mpr hrun, hst⟩

/-! ## A change that is not seen -/

def Blind (φ : σ → σ) (x : Proc σ ε α) : Prop := ∀ s, x (φ s) = ((x s).1, φ (x s).2)

variable {φ : σ → σ}

theorem blind_pure (a : α) : Blind φ (pure a : Proc σ ε α) := fun _ => rfl

theorem blind_throw (e : ε) : Blind φ (throw e : Proc σ ε α) := fun _ => rfl

theorem blind_drop (n : Nat) : Blind φ (drop n : Proc σ ε α) := fun _ => rfl

theorem blind_lift (r : Except ε α) : Blind φ (lift r) := by
  intro s
  cases r <;> rfl

theorem blind_modify {f : σ → σ} (h : ∀ s, f (φ s) = φ (f s)) : Blind φ (modify f : Proc σ ε Unit) := by
  intro s
  exact Prod.ext rfl (h s)

/-- At one state. -/
def BlindAt (φ : σ → σ) (x : Proc σ ε α) (s : σ) : Prop := x (φ s) = ((x s).1, φ (x s).2)

theorem blindAt_bind {x : Proc σ ε α} {f : α → Proc σ ε β} {s : σ} (hs : BlindAt φ x s) (hf : ∀ a, Blind φ (f a)) :
    BlindAt φ (x >>= f) s := by
  unfold BlindAt at hs ⊢
  rcases hrun : x s with ⟨a | e | n, t⟩ <;> rw [hrun] at hs
  · rw [bind_of_ok hs, bind_of_ok hrun]
    exact hf a t
  · rw [bind_of_err hs, bind_of_err hrun]
  · rw [bind_of_dropped hs, bind_of_dropped hrun]

theorem blind_bind {x : Proc σ ε α} {f : α → Proc σ ε β} (hx : Blind φ x) (hf : ∀ a, Blind φ (f a)) : Blind φ (x >>= f) :=
  fun s => blindAt_bind (hx s) hf

/-- What is read off the state is the same with the change. -/
theorem blind_get {f : σ → Proc σ ε β} (hsame : ∀ s, f (φ s) = f s) (hf : ∀ s, Blind φ (f s)) : Blind φ (get >>= f) := by
  intro s
  rw [bind_of_ok (get_apply _), bind_of_ok (get_apply _), hsame]
  exact hf s s

theorem blind_ite {p : Prop} [Decidable p] {x y : Proc σ ε α} (hx : Blind φ x) (hy : Blind φ y) :
    Blind φ (if p then x else y) := by
  split
  · exact hx
  · exact hy

theorem blind_mapErr (f : ε → ε') {x : Proc σ ε α} (hx : Blind φ x) : Blind φ (mapErr f x) := by
  intro s
  unfold mapErr
  rw [hx s]
  rcases x s with ⟨a | e | n, t⟩ <;> rfl

theorem blind_attempt {x : Proc σ ε α} (hx : Blind φ x) : Blind φ (attempt x : Proc σ ε' _) := by
  intro s
  unfold attempt
  rw [hx s]
  rcases x s with ⟨a | e | n, t⟩ <;> rfl

theorem blindAt_timeout {x : Proc σ ε α} {s : σ} (hs : BlindAt φ x s) : BlindAt φ (timeout x : Proc σ ε' _) s := by
  unfold BlindAt timeout
  rw [hs]
  rcases x s with ⟨a | e | _ | n, t⟩ <;> rfl

theorem blind_timeout {x : Proc σ ε α} (hx : Blind φ x) : Blind φ (timeout x : Proc σ ε' _) := fun s => blindAt_timeout (hx s)

/-- A part of the state that the change leaves alone. -/
theorem blind_zoom {part : σ → τ} {put : σ → τ → σ} (x : Proc τ ε α) (hpart : ∀ s, part (φ s) = part s)
    (hput : ∀ s t, put (φ s) t = φ (put s t)) : Blind φ (zoom part put x) := by
  intro s
  rw [zoom_apply, zoom_apply, hpart, hput]

/-- A part of the state in which the change is another one. -/
theorem blind_zoom_of {part : σ → τ} {put : σ → τ → σ} {x : Proc τ ε α} {ψ : τ → τ} (hx : Blind ψ x)
    (hpart : ∀ s, part (φ s) = ψ (part s)) (hput : ∀ s t, put (φ s) (ψ t) = φ (put s t)) : Blind φ (zoom part put x) := by
  intro s
  rw [zoom_apply, zoom_apply, hpart, hx, hput]

/-- A part that could be any other without being seen is left as it was. -/
theorem blind_part (part : σ → τ) (put : τ → σ → σ) {x : Proc σ ε α} (hx : ∀ t, Blind (put t) x)
    (hself : ∀ s, put (part s) s = s) (hpart : ∀ t s, part (put t s) = t) (s : σ) : part (x s).2 = part s := by
  have h := congrArg Prod.snd (hx (part s) s)
  rw [hself] at h
  rw [h, hpart]

/-! ## A change that is seen in an error at most -/

inductive SameEnd (E : ε → ε → Prop) : Outcome ε α → Outcome ε α → Prop
  | ok (a : α) : SameEnd E (.ok a) (.ok a)
  | err {e e' : ε} : E e e' → SameEnd E (.err e) (.err e')
  | dropped (n : Nat) : SameEnd E (.dropped n) (.dropped n)

variable {E : ε → ε → Prop} {I H : σ → Prop}

theorem SameEnd.refl (hE : ∀ e, E e e) (o : Outcome ε α) : SameEnd E o o := by
  cases o with
  | ok a => exact .ok a
  | err e => exact .err (hE e)
  | dropped n => exact .dropped n

theorem SameEnd.eq {o o' : Outcome ε α} (h : SameEnd Eq o o') : o' = o := by
  cases h with
  | ok a => rfl
  | err he => rw [he]
  | dropped n => rfl

def Hides (I H : σ → Prop) (E : ε → ε → Prop) (φ : σ → σ) (x : Proc σ ε α) : Prop :=
  ∀ s, I s → H (x s).2 → SameEnd E (x s).1 (x (φ s)).1 ∧ (x (φ s)).2 = φ (x s).2

theorem hides_of_blind (hE : ∀ e, E e e) {x : Proc σ ε α} (hx : Blind φ x) : Hides I H E φ x := by
  intro s _ _
  rw [hx s]
  exact ⟨.refl hE _, rfl⟩

/-- What comes before does not see the change at all. -/
theorem hides_bind (hE : ∀ e, E e e) {x : Proc σ ε α} {f : α → Proc σ ε β} (hx : Blind φ x)
    (hI : Keeps (Maintains I) x) (hf : ∀ a, Hides I H E φ (f a)) : Hides I H E φ (x >>= f) := by
  intro s hs
  have hblind := hx s
  rcases hrun : x s with ⟨a | e | n, t⟩ <;> rw [hrun] at hblind
  · rw [bind_of_ok hblind, bind_of_ok hrun]
    exact hf a t (hI.run hrun hs)
  · rw [bind_of_err hblind, bind_of_err hrun]
    exact fun _ => ⟨.err (hE e), rfl⟩
  · rw [bind_of_dropped hblind, bind_of_dropped hrun]
    exact fun _ => ⟨.dropped n, rfl⟩

theorem hides_get {f : σ → Proc σ ε β} (hsame : ∀ s, f (φ s) = f s) (hf : ∀ s, Hides I H E φ (f s)) :
    Hides I H E φ (get >>= f) := by
  intro s
  rw [bind_of_ok (get_apply _), bind_of_ok (get_apply _), hsame]
  exact hf s s

theorem hides_ite {p : Prop} [Decidable p] {x y : Proc σ ε α} (hx : Hides I H E φ x) (hy : Hides I H E φ y) :
    Hides I H E φ (if p then x else y) := by
  split
  · exact hx
  · exact hy

/-- The handler does the same for errors that are related, and cannot bring a run back to `H`. -/
theorem hides_attempt {E' : ε' → ε' → Prop} (hE' : ∀ e, E' e e) {x : Proc σ ε α} {f : Except ε α → Proc σ ε' β}
    (hx : Hides I H E φ x) (hH : ∀ r, Keeps (Backward H) (f r))
    (hok : ∀ a, Hides (fun t => ∃ s, I s ∧ x s = (.ok a, t)) H E' φ (f (.ok a)))
    (hsame : ∀ e e', E e e' → f (.error e') = f (.error e)) (herr : ∀ e, Blind φ (f (.error e))) :
    Hides I H E' φ (attempt x >>= f) := by
  intro s hs
  have hhides := hx s hs
  rcases hrun : x s with ⟨a | e | n, t⟩ <;> rw [hrun] at hhides
  · rw [bind_of_ok (attempt_of_ok hrun)]
    intro hend
    obtain ⟨hsameEnd, hstate⟩ := hhides (hH _ t hend)
    rcases hrun' : x (φ s) with ⟨o', t'⟩
    rw [hrun'] at hsameEnd hstate
    cases hsameEnd
    cases hstate
    rw [bind_of_ok (attempt_of_ok hrun')]
    exact hok a t ⟨s, hs, hrun⟩ hend
  · rw [bind_of_ok (attempt_of_err hrun)]
    intro hend
    obtain ⟨hsameEnd, hstate⟩ := hhides (hH _ t hend)
    rcases hrun' : x (φ s) with ⟨o', t'⟩
    rw [hrun'] at hsameEnd hstate
    cases hstate
    cases hsameEnd with
    | err he =>
      rw [bind_of_ok (attempt_of_err hrun'), hsame _ _ he, herr e t]
      exact ⟨.refl hE' _, rfl⟩
  · rw [bind_of_dropped (attempt_of_dropped hrun)]
    intro hend
    obtain ⟨hsameEnd, hstate⟩ := hhides hend
    rcases hrun' : x (φ s) with ⟨o', t'⟩
    rw [hrun'] at hsameEnd hstate
    cases hsameEnd
    cases hstate
    rw [bind_of_dropped (attempt_of_dropped hrun')]
    exact ⟨.dropped n, rfl⟩

theorem hides_timeout {x : Proc σ ε α} {f : Option (Except ε α) → Proc σ ε' β} (hx : Hides I H Eq φ x)
    (hH : ∀ r, Keeps (Backward H) (f r)) (hf : ∀ r, Blind φ (f r)) : Hides I H Eq φ (timeout x >>= f) := by
  intro s hs hend
  have hmid : H (timeout x s : Outcome ε' _ × σ).2 := keeps_second (timeout x) hH s hend
  rw [timeout_snd] at hmid
  obtain ⟨hsameEnd, hstate⟩ := hx s hs hmid
  have hat : BlindAt φ x s := Prod.ext hsameEnd.eq hstate
  have hrun := blindAt_bind (blindAt_timeout hat) hf
  rw [BlindAt] at hrun
  rw [hrun]
  exact ⟨.refl (fun _ => rfl) _, rfl⟩

theorem hides_ensure {x : Proc σ ε α} {cleanup : σ → σ} (hx : Hides I H E φ x)
    (hH : ∀ s, H (cleanup s) → H s) (hcleanup : ∀ s, cleanup (φ s) = φ (cleanup s)) :
    Hides I H E φ (ensure x cleanup) := by
  intro s hs hend
  rw [ensure_apply] at hend ⊢
  rw [ensure_apply]
  obtain ⟨hsameEnd, hstate⟩ := hx s hs (hH _ hend)
  exact ⟨hsameEnd, by rw [hstate, hcleanup]⟩

end Async
