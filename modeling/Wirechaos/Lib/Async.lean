/-
  Wirechaos.Lib.Async — computations that may fail or be dropped.

  An async computation over a state `σ` ends in one of three ways: it returns, it
  returns an error, or its future is dropped while it is pending, because a deadline
  fired. Deadlines nest: `dropped n` is the one `n` scopes out, so `timeout` catches
  `dropped 0` and hands the others on with one scope less. State changes made before
  an error or a drop stay. `attempt` and `mapErr` see errors only.

  Three logics follow. `Proceeds I x Q` says that `x` returns from every state in `I`, with
  `Q` of its result and of the state after. `Keeps R x` says that every run of `x`, however
  it ends, relates the state before to the state after by `R` (a preorder: a frame
  condition, or `Appends log p`, a log that grows by entries in `p`). `Emits log x P` says
  that every run of `x` appends some entries to a log that, with the state before, the
  outcome and the state after, satisfy `P`; `emits_bind` composes such facts along a
  sequence.

  Code that cannot wait is in `Except`; `require` and `okOr` are its early returns.
-/

import Mathlib.Order.Defs.Unbundled

namespace Async

/-! ## Early returns -/

/-- `if !p { return Err(e) }`. -/
def require {ε : Type} (p : Prop) [Decidable p] (e : ε) : Except ε Unit := if p then .ok () else .error e

/-- `Option::ok_or`. -/
def okOr {ε α : Type} (o : Option α) (e : ε) : Except ε α :=
  match o with
  | some a => .ok a
  | none => .error e

section EarlyReturns

variable {ε α β : Type}

theorem require_eq_ok {p : Prop} [Decidable p] {e : ε} {u : Unit} : require p e = .ok u ↔ p := by
  unfold require
  split <;> simp [*]

theorem okOr_eq_ok {o : Option α} {e : ε} {a : α} : okOr o e = .ok a ↔ o = some a := by
  cases o <;> simp [okOr]

theorem except_bind_eq_ok {x : Except ε α} {f : α → Except ε β} {b : β} :
    (x >>= f) = .ok b ↔ ∃ a, x = .ok a ∧ f a = .ok b := by
  cases x <;> simp [bind, Except.bind]

theorem except_bind_ok {a : α} {f : α → Except ε β} : ((.ok a : Except ε α) >>= f) = f a := rfl

theorem except_bind_error {e : ε} {f : α → Except ε β} : ((.error e : Except ε α) >>= f) = .error e := rfl

theorem except_pure_eq_ok {a b : α} : (pure a : Except ε α) = .ok b ↔ a = b := by
  simp [pure, Except.pure]

end EarlyReturns

/-! ## Outcomes -/

inductive Outcome (ε α : Type) where
  | ok (a : α)
  | err (e : ε)
  /-- The deadline `scope` timeouts further out fired. -/
  | dropped (scope : Nat)
  deriving DecidableEq, Repr

def Proc (σ ε α : Type) : Type := σ → Outcome ε α × σ

namespace Proc

variable {σ ε ε' α β : Type}

def ret (a : α) : Proc σ ε α := fun s => (.ok a, s)

def bind (x : Proc σ ε α) (f : α → Proc σ ε β) : Proc σ ε β := fun s =>
  match x s with
  | (.ok a, s') => f a s'
  | (.err e, s') => (.err e, s')
  | (.dropped n, s') => (.dropped n, s')

instance : Monad (Proc σ ε) where
  pure := ret
  bind := bind

def get : Proc σ ε σ := fun s => (.ok s, s)

def modify (f : σ → σ) : Proc σ ε Unit := fun s => (.ok (), f s)

def throw (e : ε) : Proc σ ε α := fun s => (.err e, s)

def drop (scope : Nat) : Proc σ ε α := fun s => (.dropped scope, s)

def lift : Except ε α → Proc σ ε α
  | .ok a => ret a
  | .error e => throw e

def mapErr (f : ε → ε') (x : Proc σ ε α) : Proc σ ε' α := fun s =>
  match x s with
  | (.ok a, s') => (.ok a, s')
  | (.err e, s') => (.err (f e), s')
  | (.dropped n, s') => (.dropped n, s')

/-- `match x.await { Ok(a) => .., Err(e) => .. }`. -/
def attempt (x : Proc σ ε α) : Proc σ ε' (Except ε α) := fun s =>
  match x s with
  | (.ok a, s') => (.ok (.ok a), s')
  | (.err e, s') => (.ok (.error e), s')
  | (.dropped n, s') => (.dropped n, s')

/-- `tokio::time::timeout`: `none` when this deadline dropped `x`. -/
def timeout (x : Proc σ ε α) : Proc σ ε' (Option (Except ε α)) := fun s =>
  match x s with
  | (.ok a, s') => (.ok (some (.ok a)), s')
  | (.err e, s') => (.ok (some (.error e)), s')
  | (.dropped 0, s') => (.ok none, s')
  | (.dropped (n + 1), s') => (.dropped n, s')

/-- A guard dropped on the way out, whichever way that is. -/
def ensure (x : Proc σ ε α) (cleanup : σ → σ) : Proc σ ε α := fun s =>
  match x s with
  | (o, s') => (o, cleanup s')

/-- Run a computation over a part of the state. -/
def zoom {τ : Type} (part : σ → τ) (put : σ → τ → σ) (x : Proc τ ε α) : Proc σ ε α := fun s =>
  match x (part s) with
  | (o, t) => (o, put s t)

/-! ## Running a sequence -/

@[simp] theorem pure_apply (a : α) (s : σ) : (pure a : Proc σ ε α) s = (.ok a, s) := rfl
@[simp] theorem get_apply (s : σ) : (get : Proc σ ε σ) s = (.ok s, s) := rfl
@[simp] theorem modify_apply (f : σ → σ) (s : σ) : (modify f : Proc σ ε Unit) s = (.ok (), f s) := rfl
@[simp] theorem throw_apply (e : ε) (s : σ) : (throw e : Proc σ ε α) s = (.err e, s) := rfl
@[simp] theorem drop_apply (n : Nat) (s : σ) : (drop n : Proc σ ε α) s = (.dropped n, s) := rfl
@[simp] theorem lift_ok (a : α) (s : σ) : (lift (.ok a) : Proc σ ε α) s = (.ok a, s) := rfl
@[simp] theorem lift_error (e : ε) (s : σ) : (lift (.error e) : Proc σ ε α) s = (.err e, s) := rfl

theorem bind_apply (x : Proc σ ε α) (f : α → Proc σ ε β) (s : σ) :
    (x >>= f) s = match x s with
      | (.ok a, s') => f a s'
      | (.err e, s') => (.err e, s')
      | (.dropped n, s') => (.dropped n, s') := rfl

theorem bind_of_ok {x : Proc σ ε α} {s s' : σ} {a : α} (h : x s = (.ok a, s')) (f : α → Proc σ ε β) :
    (x >>= f) s = f a s' := by
  rw [bind_apply, h]

theorem bind_of_err {x : Proc σ ε α} {s s' : σ} {e : ε} (h : x s = (.err e, s')) (f : α → Proc σ ε β) :
    (x >>= f) s = (.err e, s') := by
  rw [bind_apply, h]

theorem bind_of_dropped {x : Proc σ ε α} {s s' : σ} {n : Nat} (h : x s = (.dropped n, s')) (f : α → Proc σ ε β) :
    (x >>= f) s = (.dropped n, s') := by
  rw [bind_apply, h]

theorem bind_assoc {γ : Type} (x : Proc σ ε α) (f : α → Proc σ ε β) (g : β → Proc σ ε γ) :
    ((x >>= f) >>= g) = x >>= fun a => f a >>= g := by
  funext s
  rcases h : x s with ⟨a | e | n, s'⟩
  · rw [bind_of_ok h, bind_apply, bind_of_ok h, ← bind_apply]
  · rw [bind_of_err h, bind_of_err (bind_of_err h f)]
  · rw [bind_of_dropped h, bind_of_dropped (bind_of_dropped h f)]

/-- A sequence that returned ran both of its parts. -/
theorem bind_ok {x : Proc σ ε α} {f : α → Proc σ ε β} {s s'' : σ} {b : β} :
    (x >>= f) s = (.ok b, s'') ↔ ∃ a s', x s = (.ok a, s') ∧ f a s' = (.ok b, s'') := by
  rcases h : x s with ⟨a | e | n, s'⟩
  · rw [bind_of_ok h]
    constructor
    · intro hf; exact ⟨a, s', rfl, hf⟩
    · rintro ⟨a', t, he, hf⟩; cases he; exact hf
  · rw [bind_of_err h]; simp
  · rw [bind_of_dropped h]; simp

/-- Where a sequence ends: where its first part stopped, or where the rest ends. -/
theorem bind_state {x : Proc σ ε α} {f : α → Proc σ ε β} {s : σ} {Q : σ → Prop}
    (hstop : (∀ a, (x s).1 ≠ .ok a) → Q (x s).2) (hnext : ∀ a s', x s = (.ok a, s') → Q (f a s').2) :
    Q ((x >>= f) s).2 := by
  rcases h : x s with ⟨a | e | n, s'⟩
  · rw [bind_of_ok h]
    exact hnext a s' h
  · rw [bind_of_err h]
    rw [h] at hstop
    exact hstop (by simp)
  · rw [bind_of_dropped h]
    rw [h] at hstop
    exact hstop (by simp)

theorem eq_of_fst {x : Proc σ ε α} {s : σ} {o : Outcome ε α} (h : (x s).1 = o) : x s = (o, (x s).2) := by
  rw [← h]

theorem mapErr_ok {f : ε → ε'} {x : Proc σ ε α} {s s' : σ} {a : α} :
    mapErr f x s = (.ok a, s') ↔ x s = (.ok a, s') := by
  unfold mapErr
  rcases x s with ⟨b | e | _, t⟩ <;> simp

/-- What comes behind `attempt` sees the outcome and the state only. -/
theorem attempt_bind_congr {x y : Proc σ ε α} {s s' : σ} (h : x s = y s') (f : Except ε α → Proc σ ε' β) :
    (attempt x >>= f) s = (attempt y >>= f) s' := by
  rw [bind_apply, bind_apply, attempt, attempt, h]

theorem attempt_of_ok {x : Proc σ ε α} {s s' : σ} {a : α} (h : x s = (.ok a, s')) :
    (attempt x : Proc σ ε' _) s = (.ok (.ok a), s') := by
  rw [attempt, h]

theorem attempt_of_err {x : Proc σ ε α} {s s' : σ} {e : ε} (h : x s = (.err e, s')) :
    (attempt x : Proc σ ε' _) s = (.ok (.error e), s') := by
  rw [attempt, h]

theorem attempt_of_dropped {x : Proc σ ε α} {s s' : σ} {n : Nat} (h : x s = (.dropped n, s')) :
    (attempt x : Proc σ ε' _) s = (.dropped n, s') := by
  rw [attempt, h]

theorem zoom_apply {τ : Type} (part : σ → τ) (put : σ → τ → σ) (x : Proc τ ε α) (s : σ) :
    zoom part put x s = ((x (part s)).1, put s (x (part s)).2) := by
  unfold zoom
  rcases x (part s) with ⟨o, t⟩
  rfl

theorem ensure_apply (x : Proc σ ε α) (cleanup : σ → σ) (s : σ) : ensure x cleanup s = ((x s).1, cleanup (x s).2) := by
  unfold ensure
  rcases x s with ⟨o, t⟩
  rfl

theorem lift_eq_ok {r : Except ε α} {s s' : σ} {a : α} :
    lift r s = (.ok a, s') ↔ r = .ok a ∧ s' = s := by
  cases r with
  | ok b => simp [eq_comm]
  | error e => simp

end Proc

/-! ## Results -/

/-- Whatever `x` returns satisfies `P`. -/
def Returns {σ ε α : Type} (P : α → Prop) (x : Proc σ ε α) : Prop := ∀ s a s', x s = (.ok a, s') → P a

section Results

open Proc

variable {σ ε α β : Type}

theorem returns_pure {P : α → Prop} {a : α} (h : P a) : Returns P (pure a : Proc σ ε α) := by
  intro s a' s' hs
  cases hs
  exact h

theorem returns_bind {P : β → Prop} {x : Proc σ ε α} {f : α → Proc σ ε β} (hf : ∀ a, Returns P (f a)) :
    Returns P (x >>= f) := by
  intro s b s' h
  obtain ⟨a, s₁, -, h₁⟩ := bind_ok.mp h
  exact hf a s₁ b s' h₁

end Results

/-! ## Progress -/

/-- From `I`, the run returns. -/
def Proceeds {σ ε α : Type} (I : σ → Prop) (x : Proc σ ε α) (Q : α → σ → Prop) : Prop :=
  ∀ s, I s → ∃ a s', x s = (.ok a, s') ∧ Q a s'

section Progress

open Proc

variable {σ ε α β : Type} {I : σ → Prop} {Q : α → σ → Prop} {Q' : β → σ → Prop}

theorem proceeds_pure {a : α} (h : ∀ s, I s → Q a s) : Proceeds I (pure a : Proc σ ε α) Q := fun s hs => ⟨a, s, rfl, h s hs⟩

theorem proceeds_bind {x : Proc σ ε α} {f : α → Proc σ ε β} (hx : Proceeds I x Q) (hf : ∀ a, Proceeds (Q a) (f a) Q') :
    Proceeds I (x >>= f) Q' := by
  intro s hs
  obtain ⟨a, s₁, hrun, hQ⟩ := hx s hs
  rw [bind_of_ok hrun]
  exact hf a s₁ hQ

/-- What reads the state goes on from that very state. -/
theorem proceeds_get {f : σ → Proc σ ε β} (hf : ∀ s, I s → Proceeds (fun t => t = s) (f s) Q') : Proceeds I (get >>= f) Q' := by
  intro s hs
  rw [bind_of_ok (get_apply s)]
  exact hf s hs s rfl

theorem proceeds_modify {f : σ → σ} {Q : Unit → σ → Prop} (h : ∀ s, I s → Q () (f s)) :
    Proceeds I (modify f : Proc σ ε Unit) Q := fun s hs => ⟨(), f s, rfl, h s hs⟩

theorem Proceeds.mono {x : Proc σ ε α} {I' : σ → Prop} {P : α → σ → Prop} (hx : Proceeds I x Q) (hI : ∀ s, I' s → I s)
    (hQ : ∀ a s, Q a s → P a s) : Proceeds I' x P := by
  intro s hs
  obtain ⟨a, s', hrun, h⟩ := hx s (hI s hs)
  exact ⟨a, s', hrun, hQ a s' h⟩

end Progress

/-! ## Frames -/

section Frames

open Proc

variable {σ ε ε' α β τ : Type} {R : σ → σ → Prop}

def Keeps (R : σ → σ → Prop) (x : Proc σ ε α) : Prop := ∀ s, R s (x s).2

theorem Keeps.run {x : Proc σ ε α} (hx : Keeps R x) {s s' : σ} {o : Outcome ε α} (h : x s = (o, s')) : R s s' := by
  have := hx s
  rwa [h] at this

section Sequences

variable [IsPreorder σ R]

theorem keeps_pure (a : α) : Keeps R (pure a : Proc σ ε α) := refl_of R

theorem keeps_get : Keeps R (get : Proc σ ε σ) := refl_of R

theorem keeps_throw (e : ε) : Keeps R (throw e : Proc σ ε α) := refl_of R

theorem keeps_drop (n : Nat) : Keeps R (drop n : Proc σ ε α) := refl_of R

theorem keeps_lift (r : Except ε α) : Keeps R (lift r) := by
  intro s
  cases r <;> exact refl_of R s

theorem keeps_bind {x : Proc σ ε α} {f : α → Proc σ ε β} (hx : Keeps R x) (hf : ∀ a, Keeps R (f a)) :
    Keeps R (x >>= f) := by
  intro s
  have h1 := hx s
  rcases h : x s with ⟨a | e | n, s'⟩ <;> rw [h] at h1
  · rw [bind_of_ok h]
    exact trans_of R h1 (hf a s')
  · rw [bind_of_err h]
    exact h1
  · rw [bind_of_dropped h]
    exact h1

/-- Behind its first part a sequence keeps what the second one does. -/
theorem keeps_second (x : Proc σ ε α) {f : α → Proc σ ε β} (hf : ∀ a, Keeps R (f a)) (s : σ) : R (x s).2 ((x >>= f) s).2 := by
  refine bind_state (Q := R (x s).2) (fun _ => refl_of R _) fun a s' h => ?_
  rw [h]
  exact hf a s'

end Sequences

/-- A run that begins in `I` stays there, and one that ends in `H` has been there. -/
def Maintains (I : σ → Prop) (s t : σ) : Prop := I s → I t

def Backward (H : σ → Prop) (s t : σ) : Prop := H t → H s

instance {I : σ → Prop} : IsPreorder σ (Maintains I) where
  refl _ h := h
  trans _ _ _ h h' hs := h' (h hs)

instance {H : σ → Prop} : IsPreorder σ (Backward H) where
  refl _ h := h
  trans _ _ _ h h' ht := h (h' ht)

theorem keeps_modify {f : σ → σ} (hf : ∀ s, R s (f s)) : Keeps R (modify f : Proc σ ε Unit) := hf

theorem keeps_ite {p : Prop} [Decidable p] {x y : Proc σ ε α} (hx : Keeps R x) (hy : Keeps R y) :
    Keeps R (if p then x else y) := by
  split
  · exact hx
  · exact hy

theorem mapErr_snd (f : ε → ε') (x : Proc σ ε α) (s : σ) : (mapErr f x s).2 = (x s).2 := by
  unfold mapErr
  rcases x s with ⟨a | e | n, s'⟩ <;> rfl

theorem attempt_snd (x : Proc σ ε α) (s : σ) : (attempt x s : Outcome ε' _ × σ).2 = (x s).2 := by
  unfold attempt
  rcases x s with ⟨a | e | n, s'⟩ <;> rfl

theorem timeout_snd (x : Proc σ ε α) (s : σ) : (timeout x s : Outcome ε' _ × σ).2 = (x s).2 := by
  unfold timeout
  rcases x s with ⟨a | e | _ | n, s'⟩ <;> rfl

theorem keeps_mapErr {f : ε → ε'} {x : Proc σ ε α} (hx : Keeps R x) : Keeps R (mapErr f x) := fun s => by
  rw [mapErr_snd]; exact hx s

theorem keeps_attempt {x : Proc σ ε α} (hx : Keeps R x) : Keeps R (attempt x : Proc σ ε' _) := fun s => by
  rw [attempt_snd]; exact hx s

theorem keeps_zoom {part : σ → τ} {put : σ → τ → σ} {T : τ → τ → Prop} {x : Proc τ ε α} (hx : Keeps T x)
    (hput : ∀ s t, T (part s) t → R s (put s t)) : Keeps R (zoom part put x) := by
  intro s
  have := hx (part s)
  unfold zoom
  rcases h : x (part s) with ⟨o, t⟩
  rw [h] at this
  exact hput s t this

end Frames

/-! ## Logs -/

open Proc

variable {σ ε ε' α β τ : Type} (log : σ → List τ)

/-- Every run of `x` appends entries to the log, related by `P` to the state before,
    the outcome and the state after. -/
def Emits (x : Proc σ ε α) (P : σ → Outcome ε α → List τ → σ → Prop) : Prop :=
  ∀ s, ∃ es, log (x s).2 = log s ++ es ∧ P s (x s).1 es (x s).2

variable {log}

theorem Emits.mono {x : Proc σ ε α} {P Q : σ → Outcome ε α → List τ → σ → Prop} (h : Emits log x P)
    (hpq : ∀ s o es s', P s o es s' → Q s o es s') : Emits log x Q := by
  intro s
  obtain ⟨es, hl, hp⟩ := h s
  exact ⟨es, hl, hpq _ _ _ _ hp⟩

theorem Emits.and {x : Proc σ ε α} {P Q : σ → Outcome ε α → List τ → σ → Prop} (hp : Emits log x P)
    (hq : Emits log x Q) : Emits log x fun s o es s' => P s o es s' ∧ Q s o es s' := by
  intro s
  obtain ⟨es, hl, hes⟩ := hp s
  obtain ⟨es', hl', hes'⟩ := hq s
  rw [hl, List.append_cancel_left_eq] at hl'
  subst hl'
  exact ⟨es, hl, hes, hes'⟩

variable {p : τ → Prop}

/-- The log has grown, by entries of one kind. -/
def Appends (log : σ → List τ) (p : τ → Prop) (s t : σ) : Prop := ∃ es, log t = log s ++ es ∧ ∀ e ∈ es, p e

instance : IsPreorder σ (Appends log p) where
  refl s := ⟨[], by simp, by simp⟩
  trans s t u h h' := by
    obtain ⟨es, hl, hes⟩ := h
    obtain ⟨es', hl', hes'⟩ := h'
    refine ⟨es ++ es', by rw [hl', hl, List.append_assoc], ?_⟩
    intro e he
    rcases List.mem_append.mp he with he | he
    · exact hes e he
    · exact hes' e he

theorem appends_of_eq {s t : σ} (h : log t = log s) : Appends log p s t := ⟨[], by rw [h, List.append_nil], by simp⟩

theorem Appends.mono {q : τ → Prop} {s t : σ} (h : Appends log p s t) (hpq : ∀ e, p e → q e) : Appends log q s t := by
  obtain ⟨es, hl, hes⟩ := h
  exact ⟨es, hl, fun e he => hpq e (hes e he)⟩

theorem emits_of_appends {x : Proc σ ε α} (hx : Keeps (Appends log p) x) : Emits log x fun _ _ es _ => ∀ e ∈ es, p e := hx

/-- A log and what is known of a result. -/
theorem Emits.and_ok {x : Proc σ ε α} {P : σ → Outcome ε α → List τ → σ → Prop} {R : σ → α → Prop}
    (h : Emits log x P) (hr : ∀ s a s', x s = (.ok a, s') → R s a) :
    Emits log x fun s o es s' => P s o es s' ∧ ∀ a, o = .ok a → R s a := by
  intro s
  obtain ⟨es, hl, hp⟩ := h s
  exact ⟨es, hl, hp, fun a ha => hr s a _ (eq_of_fst ha)⟩

/-- What a sequence appends: the entries of the first part, then, when it returned,
    those of the second. -/
def Seq (P : σ → Outcome ε α → List τ → σ → Prop) (Q : α → σ → Outcome ε β → List τ → σ → Prop) :
    σ → Outcome ε β → List τ → σ → Prop := fun s o es s'' =>
  (∃ a s' e₁ e₂, P s (.ok a) e₁ s' ∧ Q a s' o e₂ s'' ∧ es = e₁ ++ e₂) ∨
  (∃ e, P s (.err e) es s'' ∧ o = .err e) ∨ ∃ n, P s (.dropped n) es s'' ∧ o = .dropped n

theorem emits_bind {x : Proc σ ε α} {f : α → Proc σ ε β} {P : σ → Outcome ε α → List τ → σ → Prop}
    {Q : α → σ → Outcome ε β → List τ → σ → Prop} (hx : Emits log x P) (hf : ∀ a, Emits log (f a) (Q a)) :
    Emits log (x >>= f) (Seq P Q) := by
  intro s
  obtain ⟨e₁, hl, hp⟩ := hx s
  rcases h : x s with ⟨a | e | n, s'⟩
  · rw [bind_of_ok h]
    rw [h] at hl hp
    obtain ⟨e₂, hl₂, hq⟩ := hf a s'
    exact ⟨e₁ ++ e₂, by rw [hl₂, hl, List.append_assoc], Or.inl ⟨a, s', e₁, e₂, hp, hq, rfl⟩⟩
  · rw [bind_of_err h]
    rw [h] at hl hp
    exact ⟨e₁, hl, Or.inr (Or.inl ⟨e, hp, rfl⟩)⟩
  · rw [bind_of_dropped h]
    rw [h] at hl hp
    exact ⟨e₁, hl, Or.inr (Or.inr ⟨n, hp, rfl⟩)⟩

/-- Whatever only the second part can do tells that the first one returned. -/
theorem Seq.reached {P : σ → Outcome ε α → List τ → σ → Prop} {Q : α → σ → Outcome ε β → List τ → σ → Prop}
    {s s'' : σ} {o : Outcome ε β} {es : List τ} {mark : τ → Prop} (h : Seq P Q s o es s'')
    (hfirst : ∀ o e₁ s', P s o e₁ s' → ∀ e ∈ e₁, ¬ mark e) (hmark : (∃ e ∈ es, mark e) ∨ ∃ b, o = .ok b) :
    ∃ a s' e₁ e₂, P s (.ok a) e₁ s' ∧ Q a s' o e₂ s'' ∧ es = e₁ ++ e₂ ∧ ((∃ e ∈ e₂, mark e) ∨ ∃ b, o = .ok b) := by
  rcases h with ⟨a, s', e₁, e₂, hp, hq, rfl⟩ | ⟨e, hp, rfl⟩ | ⟨n, hp, rfl⟩
  · refine ⟨a, s', e₁, e₂, hp, hq, rfl, ?_⟩
    rcases hmark with ⟨e, he, hm⟩ | ho
    · rcases List.mem_append.mp he with he | he
      · exact absurd hm (hfirst _ _ _ hp e he)
      · exact Or.inl ⟨e, he, hm⟩
    · exact Or.inr ho
  · rcases hmark with ⟨e, he, hm⟩ | ⟨b, ho⟩
    · exact absurd hm (hfirst _ _ _ hp e he)
    · cases ho
  · rcases hmark with ⟨e, he, hm⟩ | ⟨b, ho⟩
    · exact absurd hm (hfirst _ _ _ hp e he)
    · cases ho

theorem Seq.ok {P : σ → Outcome ε α → List τ → σ → Prop} {Q : α → σ → Outcome ε β → List τ → σ → Prop}
    {s s'' : σ} {b : β} {es : List τ} (h : Seq P Q s (.ok b) es s'') :
    ∃ a s' e₁ e₂, P s (.ok a) e₁ s' ∧ Q a s' (.ok b) e₂ s'' ∧ es = e₁ ++ e₂ := by
  rcases h with h | ⟨e, -, h⟩ | ⟨n, -, h⟩
  · exact h
  · cases h
  · cases h

/-- When both parts append entries of one kind, so does the sequence. -/
theorem Seq.all {P : σ → Outcome ε α → List τ → σ → Prop} {Q : α → σ → Outcome ε β → List τ → σ → Prop}
    {s s'' : σ} {o : Outcome ε β} {es : List τ} {p : τ → Prop} (h : Seq P Q s o es s'')
    (hfirst : ∀ o e₁ s', P s o e₁ s' → ∀ e ∈ e₁, p e) (hrest : ∀ a s' e₂, Q a s' o e₂ s'' → ∀ e ∈ e₂, p e) :
    ∀ e ∈ es, p e := by
  rcases h with ⟨a, s', e₁, e₂, hp, hq, rfl⟩ | ⟨e, hp, -⟩ | ⟨n, hp, -⟩
  · intro e he
    rcases List.mem_append.mp he with he | he
    · exact hfirst _ _ _ hp e he
    · exact hrest _ _ _ hq e he
  · exact hfirst _ _ _ hp
  · exact hfirst _ _ _ hp

theorem emits_pure (a : α) : Emits log (pure a : Proc σ ε α) fun s o es s' => o = .ok a ∧ es = [] ∧ s' = s :=
  fun _ => ⟨[], by simp, rfl, rfl, rfl⟩

theorem emits_get : Emits log (get : Proc σ ε σ) fun s o es s' => o = .ok s ∧ es = [] ∧ s' = s :=
  fun _ => ⟨[], by simp, rfl, rfl, rfl⟩

theorem emits_throw (e : ε) : Emits log (throw e : Proc σ ε α) fun s o es s' => o = .err e ∧ es = [] ∧ s' = s :=
  fun _ => ⟨[], by simp, rfl, rfl, rfl⟩

theorem emits_lift (r : Except ε α) : Emits log (lift r : Proc σ ε α) fun s o es s' =>
    o = (match r with | .ok a => .ok a | .error e => .err e) ∧ es = [] ∧ s' = s := by
  intro s
  cases r <;> exact ⟨[], by simp, rfl, rfl, rfl⟩

/-- An update that leaves the log alone. -/
theorem emits_modify {f : σ → σ} (hf : ∀ s, log (f s) = log s) :
    Emits log (modify f : Proc σ ε Unit) fun s o es s' => o = .ok () ∧ es = [] ∧ s' = f s :=
  fun s => ⟨[], by simp [hf s], rfl, rfl, rfl⟩

theorem emits_ite {p : Prop} [Decidable p] {x y : Proc σ ε α} {P Q : σ → Outcome ε α → List τ → σ → Prop}
    (hx : Emits log x P) (hy : Emits log y Q) :
    Emits log (if p then x else y) fun s o es s' => p ∧ P s o es s' ∨ ¬ p ∧ Q s o es s' := by
  split
  · exact hx.mono fun _ _ _ _ h => Or.inl ⟨‹_›, h⟩
  · exact hy.mono fun _ _ _ _ h => Or.inr ⟨‹_›, h⟩

theorem emits_mapErr {f : ε → ε'} {x : Proc σ ε α} {P : σ → Outcome ε α → List τ → σ → Prop}
    (hx : Emits log x P) : Emits log (mapErr f x) fun s o es s' =>
      ∃ o', P s o' es s' ∧ o = (match o' with | .ok a => .ok a | .err e => .err (f e) | .dropped n => .dropped n) := by
  intro s
  obtain ⟨es, hl, hp⟩ := hx s
  unfold mapErr
  rcases h : x s with ⟨a | e | n, s'⟩ <;> rw [h] at hl hp <;> exact ⟨es, hl, _, hp, rfl⟩

theorem emits_attempt {x : Proc σ ε α} {P : σ → Outcome ε α → List τ → σ → Prop}
    (hx : Emits log x P) : Emits log (attempt x : Proc σ ε' _) fun s o es s' =>
      ∃ o', P s o' es s' ∧
        o = (match o' with | .ok a => .ok (.ok a) | .err e => .ok (.error e) | .dropped n => .dropped n) := by
  intro s
  obtain ⟨es, hl, hp⟩ := hx s
  unfold attempt
  rcases h : x s with ⟨a | e | n, s'⟩ <;> rw [h] at hl hp <;> exact ⟨es, hl, _, hp, rfl⟩

theorem emits_ensure {x : Proc σ ε α} {cleanup : σ → σ} {P : σ → Outcome ε α → List τ → σ → Prop} (hx : Emits log x P)
    (hcleanup : ∀ s, log (cleanup s) = log s) : Emits log (ensure x cleanup) fun s o es _ => ∃ s', P s o es s' := by
  intro s
  obtain ⟨es, hl, hp⟩ := hx s
  unfold ensure
  rcases h : x s with ⟨o, s'⟩
  rw [h] at hl hp
  exact ⟨es, (hcleanup s').trans hl, s', hp⟩

theorem emits_timeout {x : Proc σ ε α} {P : σ → Outcome ε α → List τ → σ → Prop}
    (hx : Emits log x P) : Emits log (timeout x : Proc σ ε' _) fun s o es s' =>
      ∃ o', P s o' es s' ∧
        o = (match o' with
          | .ok a => .ok (some (.ok a))
          | .err e => .ok (some (.error e))
          | .dropped 0 => .ok none
          | .dropped (n + 1) => .dropped n) := by
  intro s
  obtain ⟨es, hl, hp⟩ := hx s
  unfold timeout
  rcases h : x s with ⟨a | e | _ | n, s'⟩ <;> rw [h] at hl hp <;> exact ⟨es, hl, _, hp, rfl⟩

end Async
