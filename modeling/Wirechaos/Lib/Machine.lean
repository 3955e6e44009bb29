/-
  Wirechaos.Lib.Machine — runs of a machine that takes one action after another.

  `run step s as` is the state after the actions `as`. What every action preserves holds
  after any run (`run_invariant`). `Always P` says that `P` holds at the beginning and
  after each action, `Allowed ok` that each action was taken in a state that allows it.
  When an action preserves `P` exactly where it is allowed, the two are the same
  (`always_iff_allowed`); an invariant may be assumed on the way.

  `Path next s as s'` is the same for a relation: the labels `as` lead from `s` to `s'`.

  A machine that answers each action gives a list of answers (`outputs`). Two machines under
  actions that go together answer alike for ever, if a relation links their states that
  the actions keep and never tell apart (`outputs_eq_of_forall₂`); so do two states of one
  machine (`outputs_eq`).
-/

import Mathlib.Data.List.Forall2
import Mathlib.Data.List.Infix

namespace Machine

variable {σ α : Type} (step : σ → α → σ)

def run (s : σ) (as : List α) : σ := as.foldl step s

@[simp] theorem run_nil (s : σ) : run step s [] = s := rfl

@[simp] theorem run_cons (s : σ) (a : α) (as : List α) : run step s (a :: as) = run step (step s a) as := rfl

theorem run_append (s : σ) (as bs : List α) : run step s (as ++ bs) = run step (run step s as) bs :=
  List.foldl_append

theorem run_concat (s : σ) (as : List α) (a : α) : run step s (as ++ [a]) = step (run step s as) a :=
  run_append step s as [a]

variable {step}

theorem run_invariant {I : σ → Prop} (hstep : ∀ s a, I s → I (step s a)) {s : σ} (hs : I s) (as : List α) :
    I (run step s as) := by
  induction as generalizing s with
  | nil => exact hs
  | cons a as ih => exact ih (hstep s a hs)

variable (step) in
/-- After every action, and before the first. -/
def Always (P : σ → Prop) (s : σ) (as : List α) : Prop := ∀ pre, pre <+: as → P (run step s pre)

variable (step) in
/-- Every action was taken in a state that allows it. -/
def Allowed (ok : σ → α → Prop) (s : σ) (as : List α) : Prop := ∀ pre a, pre ++ [a] <+: as → ok (run step s pre) a

theorem allowed_nil {ok : σ → α → Prop} (s : σ) : Allowed step ok s [] := by
  intro pre a h
  cases List.append_eq_nil_iff.mp (List.prefix_nil.mp h) |>.2

theorem Allowed.cons {ok : σ → α → Prop} {s : σ} {a : α} {as : List α} (ha : ok s a) (h : Allowed step ok (step s a) as) :
    Allowed step ok s (a :: as) := by
  intro pre b hpre
  cases pre with
  | nil =>
    obtain ⟨rfl, -⟩ := List.cons_prefix_cons.mp hpre
    exact ha
  | cons c pre =>
    obtain ⟨rfl, htail⟩ := List.cons_prefix_cons.mp hpre
    exact h pre b htail

theorem Always.last {P : σ → Prop} {s : σ} {as : List α} (h : Always step P s as) : P (run step s as) :=
  h as (List.prefix_refl as)

theorem always_of_allowed {P : σ → Prop} {ok : σ → α → Prop} (hstep : ∀ s a, P s → ok s a → P (step s a)) {s : σ}
    (hs : P s) {as : List α} (h : Allowed step ok s as) : Always step P s as := by
  intro pre hpre
  induction pre using List.reverseRecOn with
  | nil => exact hs
  | append_singleton pre a ih =>
    rw [run_concat]
    exact hstep _ a (ih ((List.prefix_append pre [a]).trans hpre)) (h pre a hpre)

theorem always_iff_allowed {I P : σ → Prop} {ok : σ → α → Prop} (hinv : ∀ s a, I s → I (step s a))
    (hstep : ∀ s a, I s → P s → (P (step s a) ↔ ok s a)) {s : σ} (hi : I s) (hs : P s) (as : List α) :
    Always step P s as ↔ Allowed step ok s as := by
  constructor
  · intro h pre a hpre
    have hbefore : P (run step s pre) := h pre ((List.prefix_append pre [a]).trans hpre)
    have hafter := h (pre ++ [a]) hpre
    rw [run_concat] at hafter
    exact (hstep _ a (run_invariant hinv hi pre) hbefore).mp hafter
  · intro h
    have hboth := always_of_allowed (P := fun s => I s ∧ P s)
      (fun s a hip hok => ⟨hinv s a hip.1, (hstep s a hip.1 hip.2).mpr hok⟩) ⟨hi, hs⟩ h
    exact fun pre hpre => (hboth pre hpre).2

/-! ## Paths of a relation -/

inductive Path (next : σ → α → σ → Prop) : σ → List α → σ → Prop
  | nil (s : σ) : Path next s [] s
  | cons {s s' s'' : σ} {a : α} {as : List α} : next s a s' → Path next s' as s'' → Path next s (a :: as) s''

variable {next : σ → α → σ → Prop}

theorem Path.one {s s' : σ} {a : α} (h : next s a s') : Path next s [a] s' := .cons h (.nil s')

theorem Path.append {s s' s'' : σ} {as bs : List α} (h : Path next s as s') (h' : Path next s' bs s'') :
    Path next s (as ++ bs) s'' := by
  induction h with
  | nil => exact h'
  | cons hnext _ ih => exact .cons hnext (ih h')

theorem Path.labels {p : α → Prop} (hp : ∀ s a s', next s a s' → p a) {s s' : σ} {as : List α} (h : Path next s as s') :
    ∀ a ∈ as, p a := by
  induction h with
  | nil => simp
  | cons hnext _ ih => exact List.forall_mem_cons.mpr ⟨hp _ _ _ hnext, ih⟩

/-- Where every state can be completed, a path is the beginning of a complete one. -/
theorem Path.completes {final : σ} (hfinal : ∀ s, ∃ as, Path next s as final) {s s' : σ} {as : List α}
    (h : Path next s as s') : ∃ full, Path next s full final ∧ as <+: full := by
  obtain ⟨bs, hbs⟩ := hfinal s'
  exact ⟨as ++ bs, h.append hbs, List.prefix_append as bs⟩

/-! ## Answers -/

section Outputs

variable {β : Type}

def outputs (react : σ → α → β × σ) : σ → List α → List β
  | _, [] => []
  | s, a :: as => (react s a).1 :: outputs react (react s a).2 as

/-- Two machines whose actions go together one by one. -/
theorem outputs_eq_of_forall₂ {σ' α' : Type} {react : σ → α → β × σ} {react' : σ' → α' → β × σ'} {R : σ → σ' → Prop}
    {A : α → α' → Prop}
    (hreact : ∀ s t a b, R s t → A a b → (react s a).1 = (react' t b).1 ∧ R (react s a).2 (react' t b).2)
    {s : σ} {t : σ'} (h : R s t) {as : List α} {bs : List α'} (has : List.Forall₂ A as bs) :
    outputs react s as = outputs react' t bs := by
  induction has generalizing s t with
  | nil => rfl
  | cons ha has ih =>
    obtain ⟨hanswer, hnext⟩ := hreact s t _ _ h ha
    rw [outputs, outputs, hanswer, ih hnext]

/-- Two states of one machine. -/
theorem outputs_eq {react : σ → α → β × σ} {R : σ → σ → Prop}
    (hreact : ∀ s t a, R s t → (react s a).1 = (react t a).1 ∧ R (react s a).2 (react t a).2) {s t : σ} (h : R s t)
    (as : List α) : outputs react s as = outputs react t as :=
  outputs_eq_of_forall₂ (fun s t a _ hr hab => hab ▸ hreact s t a hr) h (List.forall₂_same.mpr fun _ _ => rfl)

end Outputs

end Machine
