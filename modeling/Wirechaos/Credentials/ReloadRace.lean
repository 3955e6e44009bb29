/-
  Wirechaos.Credentials.ReloadRace — two reloads of one store at the same time (see
  `Wirechaos.Credentials.Store`).

  `advance` is a reload cut at its accesses to what it shares: the file, the snapshot,
  the error slot, the counters. Without anything in between it is `reload` (`alone`). A
  `Race` is two reloads whose steps, and changes of the file, come in any order.

  Two reloads that overlap may both load generation 1 and both install generation 2, and
  the one that read the file first may win (`a_reload_is_lost`). `InOrder` is what it
  takes to prevent that: the reload that read second loads the snapshot when the other
  has stored its own, stores when the other has counted its users, and writes the error
  slot when the other has written it. Then the two are one after the other, in the order
  in which they read the file (`reloads_serialise`).
-/

import Wirechaos.Credentials.ReloadProofs

namespace Wirechaos

open Text Async Machine

/-! ## A reload in steps -/

/-- Where a reload is, and what it remembers. -/
inductive Phase where
  | called
  | read (content : Option Str)
  | parsed (next : Snapshot)
  | failed (e : ConfigError)
  | loaded (next : Snapshot) (previousGeneration : Nat)
  | stored (previousGeneration : Nat)
  | cleared (previousGeneration : Nat)
  /-- `reload_file` has returned; the metrics are still to come. -/
  | returned (result : Except ConfigError ReloadReport)
  | recorded (result : Except ConfigError ReloadReport)
  | done (result : Except ConfigError ReloadReport)

variable {C : Crypto} (L : Loader)

/-- One access to the shared state, with what is computed behind it. -/
def advance (salts : Nat → Bytes) (file : Option Str) (store : CredentialStore C) : Phase → Phase × CredentialStore C
  | .called => (.read file, store)
  | .read content =>
    match Reading.outcome C L ⟨content, salts⟩ with
    | .error e => (.failed e, store)
    | .ok next => (.parsed next, store)
  | .parsed next =>
    (.loaded { next with generation := store.snapshot.generation + 1 } store.snapshot.generation, store)
  | .failed e => (.returned (.error e), store.recordLoadError e)
  | .loaded next previousGeneration => (.stored previousGeneration, { store with snapshot := next })
  | .stored previousGeneration => (.cleared previousGeneration, { store with lastLoadingError := none })
  | .cleared previousGeneration =>
    (.returned (.ok ⟨store.snapshot.users.entries.length, previousGeneration⟩), store)
  | .returned (.error e) => (.recorded (.error e), { store with metrics := store.metrics.recordReload false })
  | .returned (.ok report) => (.recorded (.ok report), { store with metrics := store.metrics.recordReload true })
  | .recorded (.error e) => (.done (.error e), store)
  | .recorded (.ok report) =>
    (.done (.ok report), { store with metrics := { store.metrics with generation := report.previousGeneration + 1 } })
  | .done result => (.done result, store)

/-- The steps of one reload with nothing in between. -/
def alone (salts : Nat → Bytes) (file : Option Str) : Nat → Phase × CredentialStore C → Phase × CredentialStore C
  | 0, s => s
  | n + 1, s => alone salts file n (advance L salts file s.2 s.1)

theorem alone_eq {store : CredentialStore C} (hsource : store.source = .file) (salts : Nat → Bytes) (file : Option Str) :
    alone L salts file 8 (.called, store) = (.done (store.reload L salts file).1, (store.reload L salts file).2) := by
  rcases houtcome : Reading.outcome C L ⟨file, salts⟩ with e | next
  · rw [CredentialStore.reload_error L hsource houtcome]
    simp only [alone, advance, houtcome]
    rfl
  · rw [CredentialStore.reload_ok L hsource houtcome]
    simp only [alone, advance, houtcome]

/-! ## Two reloads -/

inductive Caller where
  | first
  | second
  deriving DecidableEq, Repr

inductive Move where
  /-- The file is changed, or made unreadable. -/
  | write (content : Option Str)
  | step (c : Caller)

/-- The shared state, the two reloads, and a log of what they read; nothing reads the log. -/
structure Race (C : Crypto) where
  store : CredentialStore C
  file : Option Str
  phase : Caller → Phase
  reads : List (Caller × Option Str)

def start (store : CredentialStore C) (file : Option Str) : Race C := ⟨store, file, fun _ => .called, []⟩

namespace Race

/-- What a step adds to the log. -/
def readBy (r : Race C) (c : Caller) : List (Caller × Option Str) :=
  match r.phase c with
  | .called => [(c, r.file)]
  | _ => []

variable (salts : Caller → Nat → Bytes)

def step (r : Race C) : Move → Race C
  | .write content => { r with file := content }
  | .step c =>
    let (phase, store) := advance L (salts c) r.file r.store (r.phase c)
    { r with store, phase := Function.update r.phase c phase, reads := r.reads ++ r.readBy c }

/-- Both have returned what reloads one after the other return, and leave the snapshot and
    the error slot as these do. -/
def OneAfterTheOther (store : CredentialStore C) (c d : Caller) (x y : Option Str) (r : Race C) : Prop :=
  let (result, store) := store.reload L (salts c) x
  let (result', store) := store.reload L (salts d) y
  r.phase c = .done result ∧ r.phase d = .done result' ∧ r.store.snapshot = store.snapshot ∧
    r.store.lastLoadingError = store.lastLoadingError

def Finished (r : Race C) : Prop := ∀ c, ∃ result, r.phase c = .done result

/-- They took effect when they read the file. -/
def Serialised (store : CredentialStore C) (r : Race C) : Prop :=
  ∃ c d x y, r.reads = [(c, x), (d, y)] ∧ OneAfterTheOther L salts store c d x y r

end Race

/-! ## What a reload does, by its outcome -/

def report (outcome : Except ConfigError Snapshot) (previousGeneration : Nat) : Except ConfigError ReloadReport :=
  outcome.map fun next => ⟨next.users.entries.length, previousGeneration⟩

/-- The snapshot it leaves. -/
def installed (outcome : Except ConfigError Snapshot) (base : Snapshot) : Snapshot :=
  match outcome with
  | .ok next => { next with generation := base.generation + 1 }
  | .error _ => base

/-- What it writes to the error slot. -/
def verdict : Except ConfigError Snapshot → Option ConfigError
  | .ok _ => none
  | .error e => some e

theorem reload_eq {store : CredentialStore C} (hsource : store.source = .file) (salts : Nat → Bytes) (file : Option Str) :
    (store.reload L salts file).1 = report (Reading.outcome C L ⟨file, salts⟩) store.snapshot.generation ∧
      (store.reload L salts file).2.snapshot = installed (Reading.outcome C L ⟨file, salts⟩) store.snapshot ∧
      (store.reload L salts file).2.lastLoadingError = verdict (Reading.outcome C L ⟨file, salts⟩) ∧
      (store.reload L salts file).2.source = .file := by
  rcases houtcome : Reading.outcome C L ⟨file, salts⟩ with e | next
  · rw [CredentialStore.reload_error L hsource houtcome]
    exact ⟨rfl, rfl, rfl, hsource⟩
  · rw [CredentialStore.reload_ok L hsource houtcome]
    exact ⟨rfl, rfl, rfl, hsource⟩

/-! ## The order -/

namespace Phase

def hasLoaded : Phase → Bool
  | .called | .read _ | .parsed _ | .failed _ => false
  | _ => true

def hasStored : Phase → Bool
  | .loaded _ _ => false
  | p => p.hasLoaded

def hasWritten : Phase → Bool
  | .stored _ => false
  | p => p.hasStored

def hasCounted : Phase → Bool
  | .cleared _ => false
  | p => p.hasWritten

end Phase

/-- May the second reload go on? `outcome` is what the first makes of what it read. -/
def MayFollow (outcome : Except ConfigError Snapshot) (first : Phase) : Phase → Prop
  | .parsed _ => ∀ next, outcome = .ok next → first.hasStored
  | .loaded next _ =>
    first.hasCounted ∨ ∀ next', outcome = .ok next' → next'.users.entries.length = next.users.entries.length
  | .stored _ => first.hasWritten ∨ verdict outcome = none
  | .failed e => first.hasWritten ∨ verdict outcome = some e
  | _ => True

/-- The reload that read second waits for the first where what they do would not commute. -/
def InOrder (salts : Caller → Nat → Bytes) (r : Race C) : Move → Prop
  | .write _ => True
  | .step c =>
    ∀ d x y, r.reads = [(d, x), (c, y)] → MayFollow (Reading.outcome C L ⟨x, salts d⟩) (r.phase d) (r.phase c)

/-! ## The invariant -/

/-- The phases of a reload that reads `content`, when the snapshot it finds has `generation`. -/
inductive Fits (content : Option Str) (outcome : Except ConfigError Snapshot) (generation : Nat) : Phase → Prop
  | called : Fits content outcome generation .called
  | read : Fits content outcome generation (.read content)
  | parsed {next : Snapshot} : outcome = .ok next → Fits content outcome generation (.parsed next)
  | failed {e : ConfigError} : outcome = .error e → Fits content outcome generation (.failed e)
  | loaded {next : Snapshot} :
    outcome = .ok next → Fits content outcome generation (.loaded { next with generation := generation + 1 } generation)
  | stored {next : Snapshot} : outcome = .ok next → Fits content outcome generation (.stored generation)
  | cleared {next : Snapshot} : outcome = .ok next → Fits content outcome generation (.cleared generation)
  | returned : Fits content outcome generation (.returned (report outcome generation))
  | recorded : Fits content outcome generation (.recorded (report outcome generation))
  | done : Fits content outcome generation (.done (report outcome generation))

/-- The snapshot when this reload is at `p`. -/
def snapshotAt (p : Phase) (outcome : Except ConfigError Snapshot) (base : Snapshot) : Snapshot :=
  if p.hasStored then installed outcome base else base

/-- The error slot when this reload is at `p`. -/
def slotAt (p : Phase) (outcome : Except ConfigError Snapshot) (base : Option ConfigError) : Option ConfigError :=
  if p.hasWritten then verdict outcome else base

/-- Two reloads of a store, `x` read first: everything is as if the first had been on its
    own, and then the second. -/
structure Following (base : CredentialStore C) (x y : Option Str) (outcome outcome' : Except ConfigError Snapshot)
    (p p' : Phase) (store : CredentialStore C) : Prop where
  first : Fits x outcome base.snapshot.generation p
  second : Fits y outcome' (installed outcome base.snapshot).generation p'
  afterStore : ∀ next next', outcome = .ok next → outcome' = .ok next' → p'.hasLoaded → p.hasStored
  afterCount : ∀ next next', outcome = .ok next → outcome' = .ok next' → p'.hasStored →
    p.hasCounted ∨ next.users.entries.length = next'.users.entries.length
  afterWrite : p'.hasWritten → p.hasWritten ∨ verdict outcome = verdict outcome'
  snapshot : store.snapshot = snapshotAt p' outcome' (snapshotAt p outcome base.snapshot)
  slot : store.lastLoadingError = slotAt p' outcome' (slotAt p outcome base.lastLoadingError)

theorem Phase.hasLoaded_of_hasStored {p : Phase} (h : p.hasStored) : p.hasLoaded := by
  cases p <;> first | exact h | rfl

/-- A reload that has not stored, or never does, shows in no snapshot. -/
theorem snapshotAt_eq {p : Phase} {outcome : Except ConfigError Snapshot}
    (h : ∀ next, outcome = .ok next → ¬ p.hasStored) (base : Snapshot) : snapshotAt p outcome base = base := by
  unfold snapshotAt
  by_cases hstored : p.hasStored
  · rw [if_pos hstored]
    rcases outcome with e | next
    · rfl
    · exact absurd hstored (h next rfl)
  · rw [if_neg hstored]

/-- And one that has stored, or never does, as if it were over. -/
theorem snapshotAt_eq_installed {p : Phase} {outcome : Except ConfigError Snapshot}
    (h : ∀ next, outcome = .ok next → p.hasStored) (base : Snapshot) :
    snapshotAt p outcome base = installed outcome base := by
  unfold snapshotAt
  by_cases hstored : p.hasStored
  · rw [if_pos hstored]
  · rw [if_neg hstored]
    rcases outcome with e | next
    · rfl
    · exact absurd (h next rfl) hstored

theorem slotAt_verdict {p : Phase} {outcome : Except ConfigError Snapshot} {slot : Option ConfigError}
    (h : p.hasWritten → slot = verdict outcome) : slotAt p outcome slot = slot := by
  unfold slotAt
  by_cases hwritten : p.hasWritten
  · rw [if_pos hwritten, h hwritten]
  · rw [if_neg hwritten]

variable {L} {base store : CredentialStore C} {x y file : Option Str} {salts salts' : Nat → Bytes} {p p' : Phase}

/-- The reload that read first goes on. -/
theorem Following.stepFirst
    (h : Following base x y (Reading.outcome C L ⟨x, salts⟩) (Reading.outcome C L ⟨y, salts'⟩) p p' store)
    (hcalled : p ≠ .called) :
    Following base x y (Reading.outcome C L ⟨x, salts⟩) (Reading.outcome C L ⟨y, salts'⟩)
      (advance L salts file store p).1 p' (advance L salts file store p).2 := by
  obtain ⟨hfirst, hsecond, hstore, hcount, hwrite, hsnapshot, hslot⟩ := h
  generalize houtcome : Reading.outcome C L ⟨x, salts⟩ = outcome at *
  generalize Reading.outcome C L ⟨y, salts'⟩ = outcome' at *
  cases hfirst with
  | called => exact absurd rfl hcalled
  | read =>
    rcases outcome with e | next
    · simp only [advance, houtcome]
      exact ⟨.failed rfl, hsecond, hstore, hcount, hwrite, hsnapshot, hslot⟩
    · simp only [advance, houtcome]
      exact ⟨.parsed rfl, hsecond, hstore, hcount, hwrite, hsnapshot, hslot⟩
  | @parsed next hnext =>
    cases hnext
    -- The second has not stored, so this is still the snapshot at the beginning.
    have hbehind : store.snapshot = base.snapshot :=
      hsnapshot.trans (snapshotAt_eq (fun next' hnext' hs =>
        absurd (hstore next next' rfl hnext' (Phase.hasLoaded_of_hasStored hs)) Bool.false_ne_true) _)
    simp only [advance, hbehind]
    exact ⟨.loaded rfl, hsecond, hstore, hcount, hwrite, hsnapshot, hslot⟩
  | @failed e he =>
    cases he
    refine ⟨.returned, hsecond, fun _ _ h => (nomatch h), fun _ _ h => (nomatch h), fun _ => .inl rfl, hsnapshot, ?_⟩
    refine (slotAt_verdict fun hw => ?_).symm
    exact (hwrite hw).resolve_left Bool.false_ne_true
  | @loaded next hnext =>
    cases hnext
    refine ⟨.stored rfl, hsecond, fun _ _ _ _ _ => rfl, hcount, hwrite, ?_, hslot⟩
    refine (snapshotAt_eq (fun next' hnext' hs => ?_) _).symm
    exact absurd (hstore next next' rfl hnext' (Phase.hasLoaded_of_hasStored hs)) Bool.false_ne_true
  | @stored next hnext =>
    cases hnext
    refine ⟨.cleared rfl, hsecond, fun _ _ _ _ _ => rfl, hcount, fun _ => .inl rfl, hsnapshot, ?_⟩
    refine (slotAt_verdict fun hw => ?_).symm
    exact (hwrite hw).resolve_left Bool.false_ne_true
  | @cleared next hnext =>
    cases hnext
    have husers : store.snapshot.users.entries.length = next.users.entries.length := by
      rw [hsnapshot, snapshotAt]
      by_cases hs : p'.hasStored
      · rw [if_pos hs]
        rcases outcome' with e | next'
        · rfl
        · exact ((hcount next next' rfl rfl hs).resolve_left Bool.false_ne_true).symm
      · rw [if_neg hs]
        rfl
    simp only [advance, husers]
    exact ⟨.returned, hsecond, fun _ _ _ _ _ => rfl, fun _ _ _ _ _ => .inl rfl, fun _ => .inl rfl, hsnapshot, hslot⟩
  | returned =>
    rcases outcome with e | next <;>
      exact ⟨.recorded, hsecond, fun _ _ _ _ _ => rfl, fun _ _ _ _ _ => .inl rfl, fun _ => .inl rfl, hsnapshot, hslot⟩
  | recorded =>
    rcases outcome with e | next <;>
      exact ⟨.done, hsecond, fun _ _ _ _ _ => rfl, fun _ _ _ _ _ => .inl rfl, fun _ => .inl rfl, hsnapshot, hslot⟩
  | done => exact ⟨.done, hsecond, hstore, hcount, hwrite, hsnapshot, hslot⟩

/-- The reload that read second goes on, where it may. -/
theorem Following.stepSecond
    (h : Following base x y (Reading.outcome C L ⟨x, salts⟩) (Reading.outcome C L ⟨y, salts'⟩) p p' store)
    (hcalled : p' = .called → file = y) (hmay : MayFollow (Reading.outcome C L ⟨x, salts⟩) p p') :
    Following base x y (Reading.outcome C L ⟨x, salts⟩) (Reading.outcome C L ⟨y, salts'⟩)
      p (advance L salts' file store p').1 (advance L salts' file store p').2 := by
  obtain ⟨hfirst, hsecond, hstore, hcount, hwrite, hsnapshot, hslot⟩ := h
  generalize Reading.outcome C L ⟨x, salts⟩ = outcome at *
  generalize houtcome : Reading.outcome C L ⟨y, salts'⟩ = outcome' at *
  cases hsecond with
  | called =>
    cases hcalled rfl
    exact ⟨hfirst, .read, hstore, hcount, hwrite, hsnapshot, hslot⟩
  | read =>
    rcases outcome' with e | next'
    · simp only [advance, houtcome]
      exact ⟨hfirst, .failed rfl, hstore, hcount, hwrite, hsnapshot, hslot⟩
    · simp only [advance, houtcome]
      exact ⟨hfirst, .parsed rfl, hstore, hcount, hwrite, hsnapshot, hslot⟩
  | @parsed next' hnext' =>
    cases hnext'
    -- The first has stored what it will, so this is the snapshot it leaves.
    have hbehind : store.snapshot = installed outcome base.snapshot :=
      hsnapshot.trans (snapshotAt_eq_installed hmay _)
    simp only [advance, hbehind]
    exact ⟨hfirst, .loaded rfl, fun next _ hnext _ _ => hmay next hnext, hcount, hwrite, hsnapshot, hslot⟩
  | @failed e he =>
    cases he
    refine ⟨hfirst, .returned, fun _ _ _ h => (nomatch h), fun _ _ _ h => (nomatch h), fun _ => hmay, hsnapshot, rfl⟩
  | @loaded next' hnext' =>
    cases hnext'
    refine ⟨hfirst, .stored rfl, hstore, ?_, hwrite, ?_, hslot⟩
    · intro next next'' hnext hnext'' _
      cases hnext''
      exact hmay.imp_right fun h => h next hnext
    · rw [snapshotAt_eq_installed (fun next hnext => hstore next next' hnext rfl rfl)]
      rfl
  | @stored next' hnext' =>
    cases hnext'
    exact ⟨hfirst, .cleared rfl, hstore, hcount, fun _ => hmay, hsnapshot, rfl⟩
  | @cleared next' hnext' =>
    cases hnext'
    have husers : store.snapshot.users.entries.length = next'.users.entries.length := by
      rw [hsnapshot]
      rfl
    simp only [advance, husers]
    exact ⟨hfirst, .returned, hstore, hcount, hwrite, hsnapshot, hslot⟩
  | returned =>
    rcases outcome' with e | next' <;> exact ⟨hfirst, .recorded, hstore, hcount, hwrite, hsnapshot, hslot⟩
  | recorded =>
    rcases outcome' with e | next' <;> exact ⟨hfirst, .done, hstore, hcount, hwrite, hsnapshot, hslot⟩
  | done => exact ⟨hfirst, .done, hstore, hcount, hwrite, hsnapshot, hslot⟩

theorem advance_ne_called (p : Phase) : (advance L salts file store p).1 ≠ .called := by
  intro h
  cases p with
  | read content =>
    simp only [advance] at h
    split at h <;> cases h
  | returned result => rcases result with e | report <;> cases h
  | recorded result => rcases result with e | report <;> cases h
  | _ => cases h

theorem Caller.eq_or_eq {c d : Caller} (h : c ≠ d) (e : Caller) : e = c ∨ e = d := by
  cases c <;> cases d <;> cases e <;> simp_all

variable (L) in
/-- How far the two are. -/
inductive ReloadStage (salts : Caller → Nat → Bytes) (base : CredentialStore C) (r : Race C) : Prop
  | fresh : r.reads = [] → (∀ c, r.phase c = .called) → r.store = base → ReloadStage salts base r
  | one {d c : Caller} {x : Option Str} :
    d ≠ c → r.reads = [(d, x)] → r.phase d ≠ .called → r.phase c = .called →
    (∀ y, Following base x y (Reading.outcome C L ⟨x, salts d⟩) (Reading.outcome C L ⟨y, salts c⟩)
      (r.phase d) (r.phase c) r.store) →
    ReloadStage salts base r
  | two {d c : Caller} {x y : Option Str} :
    d ≠ c → r.reads = [(d, x), (c, y)] → r.phase d ≠ .called → r.phase c ≠ .called →
    Following base x y (Reading.outcome C L ⟨x, salts d⟩) (Reading.outcome C L ⟨y, salts c⟩) (r.phase d) (r.phase c) r.store →
    ReloadStage salts base r

theorem readBy_called {r : Race C} {c : Caller} (h : r.phase c = .called) : r.readBy c = [(c, r.file)] := by
  rw [Race.readBy, h]

theorem readBy_of_ne {r : Race C} {c : Caller} (h : r.phase c ≠ .called) : r.readBy c = [] := by
  unfold Race.readBy
  split
  · rename_i hcalled
    exact absurd hcalled h
  · rfl

variable {callers : Caller → Nat → Bytes} {r : Race C}

theorem step_phase_self (c : Caller) :
    (r.step L callers (.step c)).phase c = (advance L (callers c) r.file r.store (r.phase c)).1 :=
  Function.update_self ..

theorem step_phase_of_ne {c d : Caller} (h : d ≠ c) : (r.step L callers (.step c)).phase d = r.phase d :=
  Function.update_of_ne h ..

theorem step_store (c : Caller) :
    (r.step L callers (.step c)).store = (advance L (callers c) r.file r.store (r.phase c)).2 := rfl

theorem step_reads (c : Caller) : (r.step L callers (.step c)).reads = r.reads ++ r.readBy c := rfl

theorem reloadStage_step (m : Move) (h : ReloadStage L callers base r) (hok : InOrder L callers r m) :
    ReloadStage L callers base (r.step L callers m) := by
  cases m with
  | write content =>
    cases h with
    | fresh hreads hcalled hstore => exact .fresh hreads hcalled hstore
    | one hne hreads hd hc hfollowing => exact .one hne hreads hd hc hfollowing
    | two hne hreads hd hc hfollowing => exact .two hne hreads hd hc hfollowing
  | step e =>
    have hcalled : (advance L (callers e) r.file r.store (r.phase e)).1 ≠ .called := advance_ne_called (r.phase e)
    rw [← step_phase_self] at hcalled
    cases h with
    | fresh hreads hphase hstore =>
      -- The first to read.
      obtain ⟨other, hne⟩ : ∃ other, e ≠ other := by
        cases e
        · exact ⟨.second, by decide⟩
        · exact ⟨.first, by decide⟩
      have hlog : (r.step L callers (.step e)).reads = [(e, r.file)] := by
        rw [step_reads, hreads, readBy_called (hphase e)]
        rfl
      apply ReloadStage.one hne hlog hcalled
      · rw [step_phase_of_ne hne.symm]
        exact hphase other
      · intro y
        rw [step_phase_of_ne hne.symm, step_phase_self, step_store, hphase e, hphase other]
        subst hstore
        exact ⟨.read, .called, fun _ _ _ _ h => absurd h Bool.false_ne_true, fun _ _ _ _ h => absurd h Bool.false_ne_true,
          fun h => absurd h Bool.false_ne_true, rfl, rfl⟩
    | @one d c x hne hreads hd hc hfollowing =>
      obtain rfl | rfl := Caller.eq_or_eq hne e
      · -- It goes on before the other has read.
        apply ReloadStage.one hne (by rw [step_reads, hreads, readBy_of_ne hd]; rfl) hcalled
        · rw [step_phase_of_ne hne.symm]
          exact hc
        · intro y
          rw [step_phase_of_ne hne.symm, step_phase_self]
          exact (hfollowing y).stepFirst hd
      · -- The second to read.
        have hlog : (r.step L callers (.step e)).reads = [(d, x), (e, r.file)] := by
          rw [step_reads, hreads, readBy_called hc]
          rfl
        apply ReloadStage.two hne hlog ?_ hcalled
        · rw [step_phase_of_ne hne, step_phase_self]
          exact (hfollowing r.file).stepSecond (fun _ => rfl) (by rw [hc]; trivial)
        · rw [step_phase_of_ne hne]
          exact hd
    | @two d c x y hne hreads hd hc hfollowing =>
      have hlog (h : r.phase e ≠ .called) : (r.step L callers (.step e)).reads = [(d, x), (c, y)] := by
        rw [step_reads, hreads, readBy_of_ne h]
        rfl
      obtain rfl | rfl := Caller.eq_or_eq hne e
      · apply ReloadStage.two hne (hlog hd) hcalled
        · rw [step_phase_of_ne hne.symm]
          exact hc
        · rw [step_phase_of_ne hne.symm, step_phase_self]
          exact hfollowing.stepFirst hd
      · apply ReloadStage.two hne (hlog hc) ?_ hcalled
        · rw [step_phase_of_ne hne, step_phase_self]
          exact hfollowing.stepSecond (fun h => absurd h hc) (hok d x y hreads)
        · rw [step_phase_of_ne hne]
          exact hd

theorem Fits.eq_of_done {content : Option Str} {outcome : Except ConfigError Snapshot} {generation : Nat}
    {result : Except ConfigError ReloadReport} (h : Fits content outcome generation (.done result)) :
    result = report outcome generation := by
  cases h
  rfl

/-- Two that are over were one after the other. -/
theorem Following.serial {c d : Caller}
    (h : Following base x y (Reading.outcome C L ⟨x, callers d⟩) (Reading.outcome C L ⟨y, callers c⟩) (r.phase d) (r.phase c)
      r.store)
    (hsource : base.source = .file) (hdone : r.Finished) : r.OneAfterTheOther L callers base d c x y := by
  obtain ⟨result, hresult⟩ := hdone d
  obtain ⟨result', hresult'⟩ := hdone c
  obtain ⟨hfirst, hsecond, -, -, -, hsnapshot, hslot⟩ := h
  rw [hresult] at hfirst hsnapshot hslot
  rw [hresult'] at hsecond hsnapshot hslot
  obtain ⟨heq, hinstalled, -, hfile⟩ := reload_eq L hsource (callers d) x
  obtain ⟨heq', hinstalled', hverdict', -⟩ := reload_eq L hfile (callers c) y
  rw [hinstalled] at heq' hinstalled'
  refine ⟨?_, ?_, hsnapshot.trans hinstalled'.symm, hslot.trans hverdict'.symm⟩
  · exact hresult.trans (congrArg Phase.done (hfirst.eq_of_done.trans heq.symm))
  · exact hresult'.trans (congrArg Phase.done (hsecond.eq_of_done.trans heq'.symm))

/-- Two reloads and any changes of the file, in any order in which the one that read
    second waits where it must. -/
theorem reloads_serialise {store : CredentialStore C} (hsource : store.source = .file) (file : Option Str) (ms : List Move)
    (hallowed : Allowed (Race.step L callers) (InOrder L callers) (start store file) ms) :
    Always (Race.step L callers) (fun r => r.Finished → r.Serialised L callers store) (start store file) ms := by
  have hfresh : ReloadStage L callers store (start store file) := .fresh rfl (fun _ => rfl) rfl
  have hstages := always_of_allowed (fun _ m h hok => reloadStage_step m h hok) hfresh hallowed
  intro pre hpre hdone
  cases hstages pre hpre with
  | fresh _ hcalled _ =>
    obtain ⟨result, hresult⟩ := hdone .first
    cases (hcalled .first).symm.trans hresult
  | @one d c x _ _ _ hcalled _ =>
    obtain ⟨result, hresult⟩ := hdone c
    cases hcalled.symm.trans hresult
  | @two d c x y _ hreads _ _ hfollowing => exact ⟨d, c, x, y, hreads, hfollowing.serial hsource hdone⟩

namespace Sample

def grownFile : Str := "users: [{name: alice, password: pencil}, {name: bob, password: pencil}]"

/-- A parser that knows two documents. -/
def listLoader : Loader where
  yaml text :=
    if text = userFile then some [⟨"alice", some "pencil", none⟩]
    else if text = grownFile then some [⟨"alice", some "pencil", none⟩, ⟨"bob", some "pencil", none⟩]
    else none
  saslprep := some

def raceSalts (_ : Caller) (_ : Nat) : Bytes := salt

def emptyStore : CredentialStore crypto := .fromSource .file ⟨1, ∅⟩ .zero

/-- The first reads and loads the snapshot, the file grows, the second reloads it, the first goes on. -/
def overtaken : List Move :=
  List.replicate 3 (.step .first) ++ .write (some grownFile) :: List.replicate 8 (.step .second) ++
    List.replicate 5 (.step .first)

/-- The second reads before the first stores, and waits. -/
def overlapping : List Move :=
  [.step .first, .step .first, .write (some grownFile), .step .second, .step .second] ++
    List.replicate 6 (.step .first) ++ List.replicate 6 (.step .second)

end Sample

theorem mayFollow_done {outcome : Except ConfigError Snapshot} {result : Except ConfigError ReloadReport} (p : Phase) :
    MayFollow outcome (.done result) p := by
  cases p with
  | parsed next => exact fun _ _ => rfl
  | loaded next previousGeneration => exact .inl rfl
  | stored previousGeneration => exact .inl rfl
  | failed e => exact .inl rfl
  | _ => trivial

theorem reloads_serialise_overlapping :
    Sample.emptyStore.source = .file ∧
      Always (Race.step Sample.listLoader Sample.raceSalts)
        (fun r => r.Finished → r.Serialised Sample.listLoader Sample.raceSalts Sample.emptyStore)
        (start Sample.emptyStore (some Sample.userFile)) Sample.overlapping ∧
      (run (Race.step Sample.listLoader Sample.raceSalts) (start Sample.emptyStore (some Sample.userFile))
        Sample.overlapping).Finished := by
  refine ⟨rfl, reloads_serialise rfl (some Sample.userFile) Sample.overlapping ?_, ?_⟩
  · have hwait : ∀ r : Race Sample.crypto, r.reads = [(.first, some Sample.userFile), (.second, some Sample.grownFile)] →
        InOrder Sample.listLoader Sample.raceSalts r (.step .first) := by
      intro r hreads d x y h
      cases hreads.symm.trans h
    have hgo : ∀ r : Race Sample.crypto, r.reads = [(.first, some Sample.userFile), (.second, some Sample.grownFile)] →
        r.phase .first = .done (.ok ⟨1, 1⟩) → InOrder Sample.listLoader Sample.raceSalts r (.step .second) := by
      intro r hreads hdone d x y h
      cases hreads.symm.trans h
      rw [hdone]
      exact mayFollow_done _
    refine .cons (fun _ _ _ h => nomatch h) (.cons (fun _ _ _ h => nomatch h) (.cons trivial
      (.cons (fun _ _ _ h => nomatch h) (.cons (fun _ _ _ _ => trivial) ?_))))
    refine .cons (hwait _ rfl) (.cons (hwait _ rfl) (.cons (hwait _ rfl) (.cons (hwait _ rfl) (.cons (hwait _ rfl)
      (.cons (hwait _ rfl) ?_)))))
    exact .cons (hgo _ rfl rfl) (.cons (hgo _ rfl rfl) (.cons (hgo _ rfl rfl) (.cons (hgo _ rfl rfl) (.cons (hgo _ rfl rfl)
      (.cons (hgo _ rfl rfl) (allowed_nil _))))))
  · intro c
    cases c
    · exact ⟨.ok ⟨1, 1⟩, rfl⟩
    · exact ⟨.ok ⟨2, 2⟩, rfl⟩

/-- Two reloads that succeed raise the generation from 1 to 2, and what was read last is
    gone: they are not one after the other in any order. -/
theorem a_reload_is_lost :
    let r := run (Race.step Sample.listLoader Sample.raceSalts) (start Sample.emptyStore (some Sample.userFile)) Sample.overtaken
    r.Finished ∧ r.reads = [(.first, some Sample.userFile), (.second, some Sample.grownFile)] ∧
      r.store.snapshot.generation = 2 ∧ r.store.snapshot.users.entries.length = 1 ∧
      ¬ r.OneAfterTheOther Sample.listLoader Sample.raceSalts Sample.emptyStore .first .second
        (some Sample.userFile) (some Sample.grownFile) ∧
      ¬ r.OneAfterTheOther Sample.listLoader Sample.raceSalts Sample.emptyStore .second .first
        (some Sample.grownFile) (some Sample.userFile) ∧
      ¬ r.Serialised Sample.listLoader Sample.raceSalts Sample.emptyStore := by
  intro r
  have hfirst : r.phase .first = .done (.ok ⟨1, 1⟩) := rfl
  have hsecond : r.phase .second = .done (.ok ⟨2, 1⟩) := rfl
  have hreads : r.reads = [(.first, some Sample.userFile), (.second, some Sample.grownFile)] := rfl
  -- The generation that the second of two reloads in a row reports is 2.
  have hnever : ¬ r.OneAfterTheOther Sample.listLoader Sample.raceSalts Sample.emptyStore .first .second
      (some Sample.userFile) (some Sample.grownFile) := by
    intro h
    have hreport := hsecond.symm.trans h.2.1
    cases hreport
  refine ⟨?_, hreads, rfl, rfl, hnever, ?_, ?_⟩
  · intro c
    cases c
    · exact ⟨_, hfirst⟩
    · exact ⟨_, hsecond⟩
  · intro h
    have hreport := hfirst.symm.trans h.2.1
    cases hreport
  · intro h
    obtain ⟨c, d, x, y, hlog, hserial⟩ := h
    cases hreads.symm.trans hlog
    exact hnever hserial

end Wirechaos
