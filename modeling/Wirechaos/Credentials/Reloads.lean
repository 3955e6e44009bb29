/-
  Wirechaos.Credentials.Reloads — any number of reloads and lookups of one store at the
  same time (see `Wirechaos.Credentials.ReloadRace`, where two reloads are compared with
  two in a row).

  `Reloads` is a store, its file and every reload that was ever called, each cut at its
  accesses to what is shared (`advance`). Reloads that overlap may undo one another. What
  holds in every run all the same:
  - `takes_effect`: lookups are answered from one whole content that was read and is
    valid. From a moment on at which no reload is under way, it is one that the file has
    held since, as soon as one reload called since has installed its snapshot; until then
    it is the snapshot of that moment. A reload that fails is never seen.
  - `metrics_count`: every counter is the number of what it counts. The generation and its
    gauge may fall behind the number of reloads that succeeded, and never exceed it.
-/

import Wirechaos.Credentials.ReloadRace

namespace Wirechaos

open Text Async Machine

variable {C : Crypto} (L : Loader)

structure ReloadCall where
  salts : Nat → Bytes
  phase : Phase

/-- The calls and what the lookups were told, in order. -/
structure Reloads (C : Crypto) where
  store : CredentialStore C
  file : Option Str
  calls : List ReloadCall
  answers : List (Except ProviderError (Option Verifier))

inductive ReloadAct where
  /-- The file is changed, or made unreadable. -/
  | write (content : Option Str)
  | call (salts : Nat → Bytes)
  /-- The next access of a reload. -/
  | go (i : Nat)
  | lookup (user : Str)

namespace ReloadAct

def written : ReloadAct → List (Option Str)
  | .write content => [content]
  | _ => []

end ReloadAct

namespace Reloads

def start (store : CredentialStore C) (file : Option Str) : Reloads C := ⟨store, file, [], []⟩

def step (r : Reloads C) : ReloadAct → Reloads C
  | .write content => { r with file := content }
  | .call salts => { r with calls := r.calls ++ [⟨salts, .called⟩] }
  | .go i =>
    match r.calls[i]? with
    | none => r
    | some call =>
      let (phase, store) := advance L call.salts r.file r.store call.phase
      { r with store, calls := r.calls.set i { call with phase } }
  | .lookup user =>
    let (answer, store) := VerifierProvider.lookup r.store user
    { r with store, answers := r.answers ++ [answer] }

/-- Every reload has returned. -/
def Quiet (r : Reloads C) : Prop := ∀ call ∈ r.calls, ∃ result, call.phase = .done result

/-- The calls since `r`, in a later state. -/
def since (r r' : Reloads C) : List ReloadCall := r'.calls.drop r.calls.length

end Reloads

namespace Phase

/-- Its snapshot was stored. -/
def hasInstalled : Phase → Bool
  | .stored _ | .cleared _ | .returned (.ok _) | .recorded (.ok _) | .done (.ok _) => true
  | _ => false

/-- It was counted as this. -/
def countedAs (succeeded : Bool) : Phase → Bool
  | .recorded result | .done result => result.isOk == succeeded
  | _ => false

end Phase

def anyInstalled (calls : List ReloadCall) : Bool := calls.any fun call => call.phase.hasInstalled

/-- What `record_lookup` is told. -/
inductive LookupResult where
  | hit
  | miss
  | unavailable
  deriving DecidableEq

def LookupResult.of : Except ProviderError (Option Verifier) → LookupResult
  | .ok (some _) => .hit
  | .ok none => .miss
  | .error _ => .unavailable

namespace CredentialMetrics

def lookups (m : CredentialMetrics) : LookupResult → Nat
  | .hit => m.lookupHit
  | .miss => m.lookupMiss
  | .unavailable => m.lookupUnavailable

def reloads (m : CredentialMetrics) : Bool → Nat
  | true => m.reloadOk
  | false => m.reloadError

end CredentialMetrics

/-! ## One access -/

/-- What an access leaves of the snapshot: it is the one that was there, or the one that
    this reload installs now. -/
theorem advance_snapshot (salts : Nat → Bytes) (file : Option Str) (store : CredentialStore C) (p : Phase) :
    ((advance L salts file store p).2.snapshot = store.snapshot ∧
      (advance L salts file store p).1.hasInstalled = p.hasInstalled) ∨
    ∃ next previousGeneration, p = .loaded next previousGeneration ∧
      advance L salts file store p = (.stored previousGeneration, { store with snapshot := next }) := by
  cases p with
  | read content =>
    left
    simp only [advance]
    split <;> exact ⟨rfl, rfl⟩
  | loaded next previousGeneration => exact .inr ⟨next, previousGeneration, rfl, rfl⟩
  | returned result => rcases result with e | report <;> exact .inl ⟨rfl, rfl⟩
  | recorded result => rcases result with e | report <;> exact .inl ⟨rfl, rfl⟩
  | _ => exact .inl ⟨rfl, rfl⟩

theorem advance_source (salts : Nat → Bytes) (file : Option Str) (store : CredentialStore C) (p : Phase) :
    (advance L salts file store p).2.source = store.source := by
  cases p with
  | read content =>
    simp only [advance]
    split <;> rfl
  | returned result => rcases result with e | report <;> rfl
  | recorded result => rcases result with e | report <;> rfl
  | _ => rfl

/-- Lookups count for themselves. -/
theorem advance_lookups (salts : Nat → Bytes) (file : Option Str) (store : CredentialStore C) (p : Phase)
    (result : LookupResult) :
    (advance L salts file store p).2.metrics.lookups result = store.metrics.lookups result := by
  cases p with
  | read content =>
    simp only [advance]
    split <;> rfl
  | returned outcome => rcases outcome with e | report <;> cases result <;> rfl
  | recorded outcome => rcases outcome with e | report <;> cases result <;> rfl
  | _ => rfl

/-- The users of one of these contents, as a reload reads it. -/
def FromOneOf (C : Crypto) (held : List (Option Str)) (users : AList fun _ : Str => Verifier) : Prop :=
  ∃ content ∈ held, ∃ salts, Reading.users C L ⟨content, salts⟩ = some users

/-- What a reload has read of these contents. -/
def Carries (C : Crypto) (held : List (Option Str)) : Phase → Prop
  | .read content => content ∈ held
  | .parsed next => FromOneOf L C held next.users
  | .loaded next _ => FromOneOf L C held next.users
  | _ => True

variable {L}

theorem FromOneOf.mono {held held' : List (Option Str)} {users : AList fun _ : Str => Verifier}
    (h : FromOneOf L C held users) (hle : ∀ content ∈ held, content ∈ held') : FromOneOf L C held' users := by
  obtain ⟨content, hmem, salts, husers⟩ := h
  exact ⟨content, hle content hmem, salts, husers⟩

theorem Carries.mono {held held' : List (Option Str)} {p : Phase} (h : Carries L C held p)
    (hle : ∀ content ∈ held, content ∈ held') : Carries L C held' p := by
  cases p with
  | read content => exact hle content h
  | parsed next => exact FromOneOf.mono h hle
  | loaded next previousGeneration => exact FromOneOf.mono h hle
  | _ => trivial

theorem Carries.advance {held : List (Option Str)} {p : Phase} (h : Carries L C held p) {file : Option Str}
    (hfile : file ∈ held) (salts : Nat → Bytes) (store : CredentialStore C) :
    Carries L C held (advance L salts file store p).1 := by
  cases p with
  | called => exact hfile
  | read content =>
    simp only [Wirechaos.advance]
    split
    · trivial
    · rename_i next houtcome
      exact ⟨content, h, salts, users_of_ok L houtcome⟩
  | parsed next => exact h
  | returned result => rcases result with e | report <;> trivial
  | recorded result => rcases result with e | report <;> trivial
  | _ => trivial

/-! ## Since a quiet moment -/

namespace Reloads

/-- Behind calls that have all returned: what the file has held, and what was made of it. -/
structure Since (L : Loader) (old : List ReloadCall) (base : Snapshot) (held : List (Option Str)) (r : Reloads C)
    (new : List ReloadCall) : Prop where
  source : r.store.source = .file
  file : r.file ∈ held
  calls : r.calls = old ++ new
  carries : ∀ call ∈ new, Carries L C held call.phase
  installed : anyInstalled new → FromOneOf L C held r.store.snapshot.users
  still : anyInstalled new = false → r.store.snapshot = base

variable {old : List ReloadCall} {base : Snapshot} {held : List (Option Str)} {r : Reloads C} {new : List ReloadCall}

theorem step_go {i : Nat} {call : ReloadCall} (h : r.calls[i]? = some call) {next : Phase × CredentialStore C}
    (hnext : advance L call.salts r.file r.store call.phase = next) :
    step L r (.go i) = { r with store := next.2, calls := r.calls.set i { call with phase := next.1 } } := by
  simp only [step, h, hnext]

theorem Since.go (hold : ∀ call ∈ old, ∃ result, call.phase = .done result) (h : Since L old base held r new) (i : Nat) :
    ∃ new', Since L old base held (step L r (.go i)) new' := by
  cases hcall : r.calls[i]? with
  | none =>
    simp only [step, hcall]
    exact ⟨new, h⟩
  | some call =>
    obtain ⟨hsource, hfile, hcalls, hcarries, hinstalled, hstill⟩ := h
    generalize hnext : advance L call.salts r.file r.store call.phase = next
    have hleft : next.2.source = .file := by
      rw [← hnext, advance_source]
      exact hsource
    rw [step_go hcall hnext]
    rw [hcalls] at hcall
    by_cases hi : i < old.length
    · -- one of those that have returned
      rw [List.getElem?_append_left hi] at hcall
      obtain ⟨result, hdone⟩ := hold call (List.mem_of_getElem? hcall)
      obtain ⟨salts, phase⟩ := call
      cases hdone
      obtain ⟨hlt, hget⟩ := List.getElem?_eq_some_iff.mp hcall
      subst hnext
      refine ⟨new, hsource, hfile, ?_, hcarries, hinstalled, hstill⟩
      show r.calls.set i ⟨salts, .done result⟩ = _
      rw [hcalls, List.set_append_left _ _ hi, ← hget, List.set_getElem_self]
    · obtain ⟨j, rfl⟩ : ∃ j, i = old.length + j := ⟨i - old.length, by omega⟩
      rw [List.getElem?_append_right (by omega), Nat.add_sub_cancel_left] at hcall
      obtain ⟨hlt, hget⟩ := List.getElem?_eq_some_iff.mp hcall
      have hmem : call ∈ new := List.mem_of_getElem? hcall
      have hcarry := (hcarries call hmem).advance hfile call.salts r.store
      have hsnapshot := advance_snapshot L call.salts r.file r.store call.phase
      rw [hnext] at hcarry hsnapshot
      obtain ⟨pre, post, hsplit, -, hset⟩ :=
        @List.exists_of_set _ j { call with phase := next.1 } new hlt
      rw [hget] at hsplit
      have hinstalls : (anyInstalled (pre ++ { call with phase := next.1 } :: post) →
          FromOneOf L C held next.2.snapshot.users) ∧
          (anyInstalled (pre ++ { call with phase := next.1 } :: post) = false → next.2.snapshot = base) := by
        rcases hsnapshot with ⟨hsame, hflag⟩ | ⟨loaded, generation, hp, hstored⟩
        · have hany : anyInstalled (pre ++ { call with phase := next.1 } :: post) = anyInstalled new := by
            simp only [hsplit, anyInstalled, List.any_append, List.any_cons, hflag]
          rw [hany, hsame]
          exact ⟨hinstalled, hstill⟩
        · have hcarried := hcarries call hmem
          rw [hp] at hcarried
          rw [hstored]
          refine ⟨fun _ => hcarried, fun hnone => ?_⟩
          simp [anyInstalled, Phase.hasInstalled] at hnone
      refine ⟨pre ++ { call with phase := next.1 } :: post, hleft, hfile, ?_, ?_, hinstalls.1, hinstalls.2⟩
      · show r.calls.set _ _ = _
        rw [hcalls, List.set_append_right _ _ (Nat.le_add_right _ _), Nat.add_sub_cancel_left, hset]
      · intro other hother
        rw [hsplit] at hcarries
        rcases List.mem_append.mp hother with hother | hother
        · exact hcarries other (List.mem_append_left _ hother)
        rcases List.mem_cons.mp hother with rfl | hother
        · exact hcarry
        · exact hcarries other (List.mem_append_right _ (List.mem_cons_of_mem _ hother))

theorem Since.step (hold : ∀ call ∈ old, ∃ result, call.phase = .done result) (h : Since L old base held r new)
    (a : ReloadAct) : ∃ new', Since L old base (held ++ a.written) (step L r a) new' := by
  cases a with
  | write content =>
    obtain ⟨hsource, hfile, hcalls, hcarries, hinstalled, hstill⟩ := h
    have hle : ∀ c ∈ held, c ∈ held ++ [content] := fun c hc => List.mem_append_left _ hc
    refine ⟨new, hsource, List.mem_append_right _ (List.mem_singleton.mpr rfl), hcalls, ?_, ?_, hstill⟩
    · exact fun call hcall => (hcarries call hcall).mono hle
    · exact fun hany => (hinstalled hany).mono hle
  | call salts =>
    obtain ⟨hsource, hfile, hcalls, hcarries, hinstalled, hstill⟩ := h
    have hany : anyInstalled (new ++ [⟨salts, .called⟩]) = anyInstalled new := by
      simp [anyInstalled, Phase.hasInstalled]
    simp only [ReloadAct.written, List.append_nil]
    refine ⟨new ++ [⟨salts, .called⟩], hsource, hfile, ?_, ?_, by rw [hany]; exact hinstalled, by rw [hany]; exact hstill⟩
    · show r.calls ++ _ = _
      rw [hcalls, List.append_assoc]
    · intro call hcall
      rcases List.mem_append.mp hcall with hcall | hcall
      · exact hcarries call hcall
      · rw [List.mem_singleton.mp hcall]
        trivial
  | go i =>
    simp only [ReloadAct.written, List.append_nil]
    exact h.go hold i
  | lookup user =>
    obtain ⟨hsource, hfile, hcalls, hcarries, hinstalled, hstill⟩ := h
    simp only [ReloadAct.written, List.append_nil, Reloads.step]
    rw [CredentialStore.lookup_eq hsource]
    exact ⟨new, hsource, hfile, hcalls, hcarries, hinstalled, hstill⟩

theorem Since.run (hold : ∀ call ∈ old, ∃ result, call.phase = .done result) (h : Since L old base held r new)
    (as : List ReloadAct) :
    ∃ new', Since L old base (held ++ as.flatMap ReloadAct.written) (run (Reloads.step L) r as) new' := by
  induction as generalizing held r new with
  | nil =>
    rw [List.flatMap_nil, List.append_nil]
    exact ⟨new, h⟩
  | cons a as ih =>
    obtain ⟨new', hnext⟩ := h.step hold a
    rw [run_cons, List.flatMap_cons, ← List.append_assoc]
    exact ih hnext

/-- From a moment on at which no reload is under way, whatever overlaps then: lookups are
    answered from the snapshot of that moment until a reload called since has installed
    its own, and from a content that the file has held since from then on. -/
theorem takes_effect {r : Reloads C} (hsource : r.store.source = .file) (hquiet : r.Quiet) (as : List ReloadAct) :
    ∃ users, (∀ user, (VerifierProvider.lookup (run (step L) r as).store user).1 = .ok (users.lookup user)) ∧
      (anyInstalled (r.since (run (step L) r as)) → FromOneOf L C (r.file :: as.flatMap ReloadAct.written) users) ∧
      (anyInstalled (r.since (run (step L) r as)) = false → users = r.store.snapshot.users) := by
  have hstart : Since L r.calls r.store.snapshot [r.file] r [] :=
    ⟨hsource, List.mem_singleton.mpr rfl, (List.append_nil _).symm, fun _ h => (nomatch h), fun h => (nomatch h),
      fun _ => rfl⟩
  obtain ⟨new, hsource', -, hcalls, -, hinstalled, hstill⟩ := hstart.run hquiet as
  have hsince : r.since (run (step L) r as) = new := by
    rw [since, hcalls, List.drop_left]
  rw [hsince]
  refine ⟨(run (step L) r as).store.snapshot.users, fun user => ?_, hinstalled, fun hnone => ?_⟩
  · rw [CredentialStore.lookup_eq hsource']
  · rw [hstill hnone]

end Reloads

namespace Sample

/-- A store after one reload. -/
def reloadedOnce : Reloads crypto :=
  run (Reloads.step listLoader) (.start emptyStore (some userFile)) (.call (fun _ => salt) :: List.replicate 8 (.go 0))

/-- A reload reads, the file grows, another reload overtakes it, the first goes on. -/
def overtakenReload : List ReloadAct :=
  [.call fun _ => salt, .go 1, .go 1, .go 1, .write (some grownFile), .call fun _ => salt] ++
    List.replicate 8 (.go 2) ++ .lookup "bob" :: List.replicate 5 (.go 1) ++ [.lookup "bob"]

end Sample

namespace Reloads

theorem takes_effect_overtaken :
    ∃ users, (∀ user, (VerifierProvider.lookup
        (run (step Sample.listLoader) Sample.reloadedOnce Sample.overtakenReload).store user).1 = .ok (users.lookup user)) ∧
      (anyInstalled (Sample.reloadedOnce.since (run (step Sample.listLoader) Sample.reloadedOnce Sample.overtakenReload)) →
        FromOneOf Sample.listLoader Sample.crypto
          (Sample.reloadedOnce.file :: Sample.overtakenReload.flatMap ReloadAct.written) users) ∧
      (anyInstalled (Sample.reloadedOnce.since
          (run (step Sample.listLoader) Sample.reloadedOnce Sample.overtakenReload)) = false →
        users = Sample.reloadedOnce.store.snapshot.users) := by
  refine takes_effect rfl (fun call hcall => ?_) Sample.overtakenReload
  rw [show Sample.reloadedOnce.calls = [⟨fun _ => Sample.salt, .done (.ok ⟨1, 1⟩)⟩] from rfl] at hcall
  exact ⟨_, congrArg ReloadCall.phase (List.mem_singleton.mp hcall)⟩

/-! ## The counters -/

/-- How many have stored a snapshot. -/
def installs (calls : List ReloadCall) : Nat := calls.countP fun call => call.phase.hasInstalled

/-- The generations that a reload knows of, when `n` snapshots were stored. -/
def Bounded (n : Nat) : Phase → Prop
  | .loaded next previousGeneration =>
    next.generation = previousGeneration + 1 ∧ 1 ≤ previousGeneration ∧ previousGeneration ≤ n + 1
  | .stored previousGeneration => 1 ≤ previousGeneration ∧ previousGeneration ≤ n
  | .cleared previousGeneration => 1 ≤ previousGeneration ∧ previousGeneration ≤ n
  | .returned (.ok report) => 1 ≤ report.previousGeneration ∧ report.previousGeneration ≤ n
  | .recorded (.ok report) => 1 ≤ report.previousGeneration ∧ report.previousGeneration ≤ n
  | _ => True

theorem Bounded.mono {n n' : Nat} {p : Phase} (h : Bounded n p) (hle : n ≤ n') : Bounded n' p := by
  cases p with
  | loaded next generation => exact ⟨h.1, h.2.1, by have := h.2.2; omega⟩
  | stored generation => exact ⟨h.1, Nat.le_trans h.2 hle⟩
  | cleared generation => exact ⟨h.1, Nat.le_trans h.2 hle⟩
  | returned result =>
    cases result with
    | error e => trivial
    | ok report => exact ⟨h.1, Nat.le_trans h.2 hle⟩
  | recorded result =>
    cases result with
    | error e => trivial
    | ok report => exact ⟨h.1, Nat.le_trans h.2 hle⟩
  | _ => trivial

/-- The reloads are counted, and the generation and its gauge are not ahead of them. -/
structure Tally (store : CredentialStore C) (calls : List ReloadCall) : Prop where
  counted : ∀ succeeded, store.metrics.reloads succeeded = calls.countP fun call => call.phase.countedAs succeeded
  generation : 1 ≤ store.snapshot.generation ∧ store.snapshot.generation ≤ 1 + installs calls
  moved : store.snapshot.generation = 1 ↔ installs calls = 0
  gauge : 1 ≤ store.metrics.generation ∧ store.metrics.generation ≤ 1 + installs calls
  bounded : ∀ call ∈ calls, Bounded (installs calls) call.phase

variable {store store' : CredentialStore C} {pre post : List ReloadCall} {call : ReloadCall}

/-- An access that neither stores nor counts. -/
theorem Tally.frame (h : Tally store (pre ++ call :: post)) {p : Phase}
    (hinstalled : p.hasInstalled = call.phase.hasInstalled)
    (hcounted : ∀ succeeded, p.countedAs succeeded = call.phase.countedAs succeeded)
    (hmetrics : store'.metrics = store.metrics) (hsnapshot : store'.snapshot = store.snapshot)
    (hbounded : Bounded (installs (pre ++ call :: post)) p) :
    Tally store' (pre ++ { call with phase := p } :: post) := by
  have hinstalls : installs (pre ++ { call with phase := p } :: post) = installs (pre ++ call :: post) := by
    simp only [installs, List.countP_append, List.countP_cons, hinstalled]
  obtain ⟨hcount, hgeneration, hmoved, hgauge, hall⟩ := h
  refine ⟨fun succeeded => ?_, ?_, ?_, ?_, fun other hother => ?_⟩
  · rw [hmetrics, hcount succeeded]
    simp only [List.countP_append, List.countP_cons, hcounted]
  · rw [hinstalls, hsnapshot]
    exact hgeneration
  · rw [hinstalls, hsnapshot]
    exact hmoved
  · rw [hinstalls, hmetrics]
    exact hgauge
  · rw [hinstalls]
    rcases List.mem_append.mp hother with hother | hother
    · exact hall other (List.mem_append_left _ hother)
    rcases List.mem_cons.mp hother with rfl | hother
    · exact hbounded
    · exact hall other (List.mem_append_right _ (List.mem_cons_of_mem _ hother))

theorem Tally.install {next : Snapshot} {previousGeneration : Nat} {salts : Nat → Bytes}
    (h : Tally store (pre ++ ⟨salts, .loaded next previousGeneration⟩ :: post)) :
    Tally (C := C) { store with snapshot := next } (pre ++ ⟨salts, .stored previousGeneration⟩ :: post) := by
  obtain ⟨hcount, hgeneration, hmoved, hgauge, hall⟩ := h
  have hone : installs (pre ++ ⟨salts, .stored previousGeneration⟩ :: post) =
      installs (pre ++ ⟨salts, .loaded next previousGeneration⟩ :: post) + 1 := by
    simp only [installs, List.countP_append, List.countP_cons, Phase.hasInstalled]
    simp only [if_true, Bool.false_eq_true, if_false]
    omega
  obtain ⟨hnext, hpos, hle⟩ : Bounded _ (.loaded next previousGeneration) :=
    hall ⟨salts, .loaded next previousGeneration⟩ (List.mem_append_right _ List.mem_cons_self)
  refine ⟨fun succeeded => ?_, ?_, ?_, ?_, fun other hother => ?_⟩
  · rw [hcount succeeded]
    simp only [List.countP_append, List.countP_cons, Phase.countedAs]
  · rw [hone]
    show 1 ≤ next.generation ∧ next.generation ≤ _
    omega
  · rw [hone]
    show next.generation = 1 ↔ _
    omega
  · rw [hone]
    show 1 ≤ store.metrics.generation ∧ store.metrics.generation ≤ _
    omega
  · rw [hone]
    rcases List.mem_append.mp hother with hother | hother
    · exact (hall other (List.mem_append_left _ hother)).mono (Nat.le_succ _)
    rcases List.mem_cons.mp hother with rfl | hother
    · exact ⟨hpos, hle⟩
    · exact (hall other (List.mem_append_right _ (List.mem_cons_of_mem _ hother))).mono (Nat.le_succ _)

theorem reloads_recordReload (m : CredentialMetrics) (done succeeded : Bool) :
    (m.recordReload done).reloads succeeded = m.reloads succeeded + if done = succeeded then 1 else 0 := by
  cases done <;> cases succeeded <;> rfl

theorem Tally.count {result : Except ConfigError ReloadReport} {salts : Nat → Bytes}
    (h : Tally store (pre ++ ⟨salts, .returned result⟩ :: post)) :
    Tally (C := C) { store with metrics := store.metrics.recordReload result.isOk }
      (pre ++ ⟨salts, .recorded result⟩ :: post) := by
  obtain ⟨hcount, hgeneration, hmoved, hgauge, hall⟩ := h
  have hinstalls : installs (pre ++ ⟨salts, .recorded result⟩ :: post) =
      installs (pre ++ ⟨salts, .returned result⟩ :: post) := by
    rcases result with e | report <;> simp only [installs, List.countP_append, List.countP_cons, Phase.hasInstalled]
  have hmetrics : (store.metrics.recordReload result.isOk).generation = store.metrics.generation := by
    rcases result with e | report <;> rfl
  refine ⟨fun succeeded => ?_, ?_, ?_, ?_, fun other hother => ?_⟩
  · rw [reloads_recordReload, hcount succeeded]
    simp only [List.countP_append, List.countP_cons, Phase.countedAs, beq_iff_eq, Bool.false_eq_true, if_false]
    omega
  · rw [hinstalls]
    exact hgeneration
  · rw [hinstalls]
    exact hmoved
  · rw [hinstalls]
    dsimp only
    rw [hmetrics]
    exact hgauge
  · rw [hinstalls]
    rcases List.mem_append.mp hother with hother | hother
    · exact hall other (List.mem_append_left _ hother)
    rcases List.mem_cons.mp hother with rfl | hother
    · have hbounded := hall ⟨salts, .returned result⟩ (List.mem_append_right _ List.mem_cons_self)
      rcases result with e | report
      · trivial
      · exact hbounded
    · exact hall other (List.mem_append_right _ (List.mem_cons_of_mem _ hother))

theorem Tally.access (h : Tally store (pre ++ call :: post)) (file : Option Str) :
    Tally (advance L call.salts file store call.phase).2
      (pre ++ { call with phase := (advance L call.salts file store call.phase).1 } :: post) := by
  have hbounded := h.bounded call (List.mem_append_right _ List.mem_cons_self)
  obtain ⟨salts, phase⟩ := call
  cases phase with
  | called => exact h.frame rfl (fun _ => rfl) rfl rfl trivial
  | read content =>
    simp only [advance]
    split
    · exact h.frame rfl (fun _ => rfl) rfl rfl trivial
    · exact h.frame rfl (fun _ => rfl) rfl rfl trivial
  | parsed next =>
    have hgeneration := h.generation
    exact h.frame rfl (fun _ => rfl) rfl rfl ⟨rfl, hgeneration.1, by omega⟩
  | failed e => exact h.frame rfl (fun _ => rfl) rfl rfl trivial
  | loaded next previousGeneration => exact h.install
  | stored previousGeneration => exact h.frame rfl (fun _ => rfl) rfl rfl hbounded
  | cleared previousGeneration => exact h.frame rfl (fun _ => rfl) rfl rfl hbounded
  | returned result =>
    have hcount := h.count
    rcases result with e | report <;> exact hcount
  | recorded result =>
    rcases result with e | report
    · exact h.frame rfl (fun _ => rfl) rfl rfl trivial
    · obtain ⟨hpos, hle⟩ : 1 ≤ report.previousGeneration ∧ report.previousGeneration ≤ _ := hbounded
      have hframe : Tally store (pre ++ ⟨salts, .done (.ok report)⟩ :: post) :=
        h.frame rfl (fun _ => rfl) rfl rfl trivial
      have hinstalls : installs (pre ++ ⟨salts, .done (.ok report)⟩ :: post) =
          installs (pre ++ ⟨salts, .recorded (.ok report)⟩ :: post) := by
        simp only [installs, List.countP_append, List.countP_cons, Phase.hasInstalled]
      have hfinal : Tally (C := C)
          { store with metrics := { store.metrics with generation := report.previousGeneration + 1 } }
          (pre ++ ⟨salts, .done (.ok report)⟩ :: post) := by
        refine ⟨?_, hframe.generation, hframe.moved, ?_, hframe.bounded⟩
        · intro succeeded
          have hcounted := hframe.counted succeeded
          cases succeeded <;> exact hcounted
        · show 1 ≤ report.previousGeneration + 1 ∧ report.previousGeneration + 1 ≤ 1 + installs _
          rw [hinstalls]
          omega
      exact hfinal
  | done result => exact h.frame rfl (fun _ => rfl) rfl rfl trivial

/-- A state whose counters count. -/
structure Counted (r : Reloads C) : Prop where
  source : r.store.source = .file
  tally : Tally r.store r.calls
  lookups : ∀ result, r.store.metrics.lookups result = r.answers.countP fun answer => LookupResult.of answer = result
  available : ∀ answer ∈ r.answers, LookupResult.of answer ≠ .unavailable

theorem Counted.lookup {r : Reloads C} (h : Counted r) (user : Str) : Counted (step L r (.lookup user)) := by
  obtain ⟨hsource, htally, hlookups, havailable⟩ := h
  simp only [step]
  rw [CredentialStore.lookup_eq hsource]
  dsimp only
  generalize r.store.snapshot.users.lookup user = entry
  have hmetrics (succeeded : Bool) :
      (r.store.metrics.recordLookup (.ok entry)).reloads succeeded = r.store.metrics.reloads succeeded := by
    rcases entry with _ | v <;> cases succeeded <;> rfl
  have hgauge : (r.store.metrics.recordLookup (.ok entry)).generation = r.store.metrics.generation := by
    rcases entry with _ | v <;> rfl
  refine ⟨hsource, ⟨?_, htally.generation, htally.moved, ?_, htally.bounded⟩, ?_, ?_⟩
  · exact fun succeeded => (hmetrics succeeded).trans (htally.counted succeeded)
  · dsimp only
    rw [hgauge]
    exact htally.gauge
  · intro result
    have hbefore := hlookups result
    dsimp only
    rw [List.countP_append, ← hbefore]
    rcases entry with _ | v <;> cases result <;> rfl
  · intro answer hanswer
    rcases List.mem_append.mp hanswer with hanswer | hanswer
    · exact havailable answer hanswer
    · rw [List.mem_singleton.mp hanswer]
      rcases entry with _ | v <;> exact fun h => nomatch h

theorem Counted.step {r : Reloads C} (h : Counted r) (a : ReloadAct) : Counted (step L r a) := by
  cases a with
  | write content => exact ⟨h.source, h.tally, h.lookups, h.available⟩
  | call salts =>
    obtain ⟨hcount, hgeneration, hmoved, hgauge, hall⟩ := h.tally
    have hinstalls : installs (r.calls ++ [⟨salts, .called⟩]) = installs r.calls := by
      simp [installs, Phase.hasInstalled]
    refine ⟨h.source, ⟨fun succeeded => ?_, ?_, ?_, ?_, fun call hcall => ?_⟩, h.lookups, h.available⟩
    · show r.store.metrics.reloads succeeded = List.countP _ (r.calls ++ _)
      rw [hcount succeeded]
      simp [Phase.countedAs]
    · exact hinstalls ▸ hgeneration
    · exact hinstalls ▸ hmoved
    · exact hinstalls ▸ hgauge
    · show Bounded (installs (r.calls ++ _)) _
      rw [hinstalls]
      rcases List.mem_append.mp hcall with hcall | hcall
      · exact hall call hcall
      · rw [List.mem_singleton.mp hcall]
        trivial
  | go i =>
    cases hcall : r.calls[i]? with
    | none =>
      simp only [Reloads.step, hcall]
      exact h
    | some call =>
      obtain ⟨hlt, hget⟩ := List.getElem?_eq_some_iff.mp hcall
      obtain ⟨pre, post, hsplit, -, hset⟩ :=
        @List.exists_of_set _ i { call with phase := (advance L call.salts r.file r.store call.phase).1 } r.calls hlt
      rw [hget] at hsplit
      have htally := h.tally
      rw [hsplit] at htally
      rw [step_go hcall rfl]
      refine ⟨(advance_source L _ _ _ _).trans h.source, ?_, ?_, h.available⟩
      · show Tally _ (r.calls.set _ _)
        rw [hset]
        exact htally.access r.file
      · exact fun result => (advance_lookups L _ _ _ _ result).trans (h.lookups result)
  | lookup user => exact h.lookup user

/-- What the metrics of a store say of the calls and the answers so far. -/
structure Metered (r : Reloads C) : Prop where
  lookups : ∀ result, r.store.metrics.lookups result = r.answers.countP fun answer => LookupResult.of answer = result
  available : r.store.metrics.lookupUnavailable = 0
  reloads : ∀ succeeded, r.store.metrics.reloads succeeded = r.calls.countP fun call => call.phase.countedAs succeeded
  generation : 1 ≤ r.store.snapshot.generation ∧ r.store.snapshot.generation ≤ 1 + installs r.calls
  /-- The generation of the beginning does not come back. -/
  moved : r.store.snapshot.generation = 1 ↔ installs r.calls = 0
  gauge : 1 ≤ r.store.metrics.generation ∧ r.store.metrics.generation ≤ 1 + installs r.calls
  quiet : r.Quiet → r.store.metrics.reloadOk = installs r.calls ∧
    r.store.metrics.reloadOk + r.store.metrics.reloadError = r.calls.length

theorem counts_of_done {calls : List ReloadCall} (h : ∀ call ∈ calls, ∃ result, call.phase = .done result) :
    (calls.countP fun call => call.phase.countedAs true) = installs calls ∧
      (calls.countP fun call => call.phase.countedAs true) + (calls.countP fun call => call.phase.countedAs false) =
        calls.length := by
  induction calls with
  | nil => exact ⟨rfl, rfl⟩
  | cons call calls ih =>
    obtain ⟨hcall, hcalls⟩ := List.forall_mem_cons.mp h
    obtain ⟨hok, hall⟩ := ih hcalls
    obtain ⟨result, hdone⟩ := hcall
    simp only [installs, List.countP_cons, List.length_cons, hdone] at hok ⊢
    rcases result with e | report
    · have hcounts : (Phase.done (.error e)).countedAs true = false ∧ (Phase.done (.error e)).countedAs false = true ∧
        (Phase.done (.error e)).hasInstalled = false := ⟨rfl, rfl, rfl⟩
      rw [hcounts.1, hcounts.2.1, hcounts.2.2]
      simp only [if_true, Bool.false_eq_true, if_false]
      omega
    · have hcounts : (Phase.done (.ok report)).countedAs true = true ∧ (Phase.done (.ok report)).countedAs false = false ∧
        (Phase.done (.ok report)).hasInstalled = true := ⟨rfl, rfl, rfl⟩
      rw [hcounts.1, hcounts.2.1, hcounts.2.2]
      simp only [if_true, Bool.false_eq_true, if_false]
      omega

theorem Counted.metered {r : Reloads C} (h : Counted r) : Metered r := by
  have hunavailable := h.lookups .unavailable
  rw [List.countP_eq_zero.mpr fun answer hanswer => by simpa using h.available answer hanswer] at hunavailable
  refine ⟨h.lookups, hunavailable, h.tally.counted, h.tally.generation, h.tally.moved, h.tally.gauge, fun hquiet => ?_⟩
  obtain ⟨hok, hall⟩ := counts_of_done hquiet
  have htrue := h.tally.counted true
  have hfalse := h.tally.counted false
  exact ⟨htrue.trans hok, by rw [← hall, ← htrue, ← hfalse]; rfl⟩

theorem tally_nil {store : CredentialStore C} (hcounters : ∀ succeeded, store.metrics.reloads succeeded = 0)
    (hgeneration : store.snapshot.generation = 1) (hgauge : store.metrics.generation = 1) : Tally store [] := by
  have hnone : installs [] = 0 := rfl
  refine ⟨hcounters, ?_, ?_, ?_, fun _ h => nomatch h⟩
  · rw [hgeneration, hnone]
    omega
  · rw [hgeneration, hnone]
    omega
  · rw [hgauge, hnone]
    omega

theorem counted_start {salts : Nat → Bytes} {file : Option Str} {clusterNonce : Key}
    (h : CredentialStore.fromFile L salts file clusterNonce = .ok store) : Counted (start store file) := by
  have hreflects := reflects_fromFile h
  simp only [CredentialStore.fromFile, except_bind_eq_ok, except_pure_eq_ok] at h
  obtain ⟨text, -, snapshot, -, rfl⟩ := h
  refine ⟨rfl, tally_nil (fun succeeded => ?_) hreflects.generation (hreflects.gauge.trans hreflects.generation),
    fun result => ?_, fun _ h => absurd h List.not_mem_nil⟩
  · cases succeeded <;> rfl
  · cases result <;> rfl

/-- A store opened from a file, in every interleaving of reloads, lookups and changes of
    the file. -/
theorem metrics_count {salts : Nat → Bytes} {file : Option Str} {clusterNonce : Key}
    (h : CredentialStore.fromFile L salts file clusterNonce = .ok store) (as : List ReloadAct) :
    Metered (run (step L) (start store file) as) :=
  (run_invariant (fun _ a hcounted => hcounted.step a) (counted_start h) as).metered

theorem metrics_count_overtaken :
    ∃ store : CredentialStore Sample.crypto,
      CredentialStore.fromFile Sample.listLoader (fun _ => Sample.salt) (some Sample.userFile) .zero = .ok store ∧
        Metered (run (step Sample.listLoader) (start store (some Sample.userFile))
          (.call (fun _ => Sample.salt) :: Sample.overtakenReload)) := by
  obtain ⟨store, h⟩ : ∃ store : CredentialStore Sample.crypto,
      CredentialStore.fromFile Sample.listLoader (fun _ => Sample.salt) (some Sample.userFile) .zero = .ok store := ⟨_, rfl⟩
  exact ⟨store, h, metrics_count h (.call (fun _ => Sample.salt) :: Sample.overtakenReload)⟩

end Reloads

end Wirechaos
