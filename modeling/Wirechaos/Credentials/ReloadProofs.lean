/-
  Wirechaos.Credentials.ReloadProofs — a file-backed store over a run of reloads (see
  `Wirechaos.Credentials.Store`).

  What a reload makes of a file is decided by what it reads (`outcome`). The history of a
  store is what it has read since it was opened; `Reflects` says what a store is, given
  its history: its users are those of the last content that was valid, its generation
  counts the valid ones, its error slot is the verdict on the last one. A reload and a
  lookup keep that (`Reflects.reload`, `Reflects.lookup`), so it holds after every run
  (`reload_all_or_nothing`).
-/

import Wirechaos.Auth.ScramProofs
import Wirechaos.Credentials.Store
import Wirechaos.Lib.Machine

namespace Wirechaos

open Text Async Machine

variable {C : Crypto} (L : Loader)

/-- What a reload reads: the content of the file, if it can be read, and the random salts. -/
structure Reading where
  content : Option Str
  salts : Nat → Bytes

/-- What is made of it: a snapshot, or why there is none. -/
def Reading.outcome (C : Crypto) (L : Loader) (r : Reading) : Except ConfigError Snapshot :=
  match r.content with
  | none => .error (.single "path" "unable to read the credentials file")
  | some text => Snapshot.snapshotFromYaml C L r.salts text

/-- The users of a content that was read and validated. -/
def Reading.users (C : Crypto) (L : Loader) (r : Reading) : Option (AList fun _ : Str => Verifier) :=
  (r.outcome C L).toOption.map (·.users)

/-! ## Runs -/

inductive Act where
  /-- The file is changed, or made unreadable. -/
  | write (content : Option Str)
  | reload (salts : Nat → Bytes)
  | lookup (user : Str)

/-- A store and the file behind it. -/
structure Disk (C : Crypto) where
  store : CredentialStore C
  file : Option Str

def Disk.step (d : Disk C) : Act → Disk C
  | .write content => { d with file := content }
  | .reload salts => { d with store := (d.store.reload L salts d.file).2 }
  | .lookup user => { d with store := (VerifierProvider.lookup d.store user).2 }

/-- What the reloads of a run read, in order. -/
def readings (file : Option Str) : List Act → List Reading
  | [] => []
  | .write content :: as => readings content as
  | .reload salts :: as => ⟨file, salts⟩ :: readings file as
  | .lookup _ :: as => readings file as

def isReload : Act → Bool
  | .reload _ => true
  | _ => false

theorem length_readings (file : Option Str) (as : List Act) : (readings file as).length = as.countP isReload := by
  induction as generalizing file with
  | nil => rfl
  | cons a as ih =>
    cases a with
    | write content => simp [readings, isReload, ih]
    | reload salts => rw [readings, List.length_cons, ih, List.countP_cons_of_pos rfl]
    | lookup user => simp [readings, isReload, ih]

/-! ## One reload -/

namespace CredentialStore

theorem reloadFile_ok {store : CredentialStore C} {salts : Nat → Bytes} {content : Option Str} {next : Snapshot}
    (h : Reading.outcome C L ⟨content, salts⟩ = .ok next) :
    store.reloadFile L salts content =
      (.ok ⟨next.users.entries.length, store.snapshot.generation⟩,
        { store with snapshot := { next with generation := store.snapshot.generation + 1 }, lastLoadingError := none }) := by
  unfold reloadFile
  cases content with
  | none => cases h
  | some text =>
    have hyaml : Snapshot.snapshotFromYaml C L salts text = .ok next := h
    simp only [hyaml]

theorem reloadFile_error {store : CredentialStore C} {salts : Nat → Bytes} {content : Option Str} {e : ConfigError}
    (h : Reading.outcome C L ⟨content, salts⟩ = .error e) :
    store.reloadFile L salts content = (.error e, { store with lastLoadingError := some e }) := by
  unfold reloadFile
  cases content with
  | none =>
    cases h
    rfl
  | some text =>
    have hyaml : Snapshot.snapshotFromYaml C L salts text = .error e := h
    simp only [hyaml]
    rfl

theorem reloadSource_eq {store : CredentialStore C} (hsource : store.source = .file) (salts : Nat → Bytes)
    (content : Option Str) :
    store.reloadSource L salts content = store.reloadFile L salts content := by
  unfold reloadSource
  rw [hsource]

theorem reload_ok {store : CredentialStore C} {salts : Nat → Bytes} {content : Option Str} {next : Snapshot}
    (hsource : store.source = .file) (h : Reading.outcome C L ⟨content, salts⟩ = .ok next) :
    store.reload L salts content =
      (.ok ⟨next.users.entries.length, store.snapshot.generation⟩,
        { store with
          snapshot := { next with generation := store.snapshot.generation + 1 }, lastLoadingError := none
          metrics := { store.metrics.recordReload true with generation := store.snapshot.generation + 1 } }) := by
  rw [reload, reloadSource_eq L hsource, reloadFile_ok L h]

theorem reload_error {store : CredentialStore C} {salts : Nat → Bytes} {content : Option Str} {e : ConfigError}
    (hsource : store.source = .file) (h : Reading.outcome C L ⟨content, salts⟩ = .error e) :
    store.reload L salts content =
      (.error e, { store with lastLoadingError := some e, metrics := store.metrics.recordReload false }) := by
  rw [reload, reloadSource_eq L hsource, reloadFile_error L h]

/-- A file-backed store answers from its snapshot. -/
theorem lookup_eq {store : CredentialStore C} (hsource : store.source = .file) (user : Str) :
    VerifierProvider.lookup store user =
      (.ok (store.snapshot.users.lookup user),
        { store with metrics := store.metrics.recordLookup (.ok (store.snapshot.users.lookup user)) }) := by
  obtain ⟨source, snapshot, clusterNonce, lastLoadingError, metrics⟩ := store
  cases hsource
  rfl

end CredentialStore

/-! ## The history of a store -/

/-- The users of the valid contents of a history. -/
def loads (C : Crypto) (L : Loader) (history : List Reading) : List (AList fun _ : Str => Verifier) :=
  history.filterMap (·.users C L)

/-- A store after the first content it was opened with and what its reloads have read. -/
structure Reflects (first : Reading) (reloads : List Reading) (store : CredentialStore C) : Prop where
  source : store.source = .file
  users : (loads C L (first :: reloads)).getLast? = some store.snapshot.users
  generation : store.snapshot.generation = 1 + (loads C L reloads).length
  gauge : store.metrics.generation = store.snapshot.generation
  error : store.lastLoadingError.isSome ↔ ∃ r, reloads.getLast? = some r ∧ r.users C L = none
  reloadOk : store.metrics.reloadOk = (loads C L reloads).length
  reloadError : store.metrics.reloadOk + store.metrics.reloadError = reloads.length

theorem users_of_ok {r : Reading} {next : Snapshot} (h : r.outcome C L = .ok next) : r.users C L = some next.users := by
  rw [Reading.users, h]
  rfl

theorem users_of_error {r : Reading} {e : ConfigError} (h : r.outcome C L = .error e) : r.users C L = none := by
  rw [Reading.users, h]
  rfl

theorem loads_concat_of_ok {r : Reading} {next : Snapshot} (h : r.outcome C L = .ok next) (history : List Reading) :
    loads C L (history ++ [r]) = loads C L history ++ [next.users] := by
  rw [loads, List.filterMap_append, List.filterMap_cons_some (users_of_ok L h)]
  rfl

theorem loads_concat_of_error {r : Reading} {e : ConfigError} (h : r.outcome C L = .error e) (history : List Reading) :
    loads C L (history ++ [r]) = loads C L history := by
  rw [loads, List.filterMap_append, List.filterMap_cons_none (users_of_error L h)]
  exact List.append_nil _

variable {L} {first : Reading} {reloads : List Reading} {store : CredentialStore C}

theorem Reflects.reload (h : Reflects L first reloads store) (salts : Nat → Bytes) (content : Option Str) :
    Reflects L first (reloads ++ [⟨content, salts⟩]) (store.reload L salts content).2 := by
  rcases houtcome : Reading.outcome C L ⟨content, salts⟩ with e | next
  · rw [CredentialStore.reload_error L h.source houtcome]
    constructor
    · exact h.source
    · rw [← List.cons_append, loads_concat_of_error L houtcome]
      exact h.users
    · rw [loads_concat_of_error L houtcome]
      exact h.generation
    · exact h.gauge
    · simp [users_of_error L houtcome]
    · rw [loads_concat_of_error L houtcome]
      exact h.reloadOk
    · have hsum := h.reloadError
      simp only [CredentialMetrics.recordReload, List.length_append, List.length_singleton, Bool.false_eq_true, if_false]
      omega
  · rw [CredentialStore.reload_ok L h.source houtcome]
    constructor
    · exact h.source
    · rw [← List.cons_append, loads_concat_of_ok L houtcome, List.getLast?_concat]
    · rw [loads_concat_of_ok L houtcome, List.length_append, List.length_singleton]
      have hgeneration := h.generation
      dsimp only
      omega
    · rfl
    · simp [users_of_ok L houtcome]
    · rw [loads_concat_of_ok L houtcome, List.length_append, List.length_singleton]
      have hok := h.reloadOk
      simp only [CredentialMetrics.recordReload, if_true]
      omega
    · have hsum := h.reloadError
      simp only [CredentialMetrics.recordReload, List.length_append, List.length_singleton, if_true]
      omega

theorem Reflects.lookup (h : Reflects L first reloads store) (user : Str) :
    Reflects L first reloads (VerifierProvider.lookup store user).2 := by
  rw [CredentialStore.lookup_eq h.source]
  have hmetrics (answer : Except ProviderError (Option Verifier)) :
      (store.metrics.recordLookup answer).generation = store.metrics.generation ∧
        (store.metrics.recordLookup answer).reloadOk = store.metrics.reloadOk ∧
        (store.metrics.recordLookup answer).reloadError = store.metrics.reloadError := by
    rcases answer with e | _ | v <;> exact ⟨rfl, rfl, rfl⟩
  obtain ⟨hgauge, hok, herror⟩ := hmetrics (.ok (store.snapshot.users.lookup user))
  exact ⟨h.source, h.users, h.generation, hgauge.trans h.gauge, h.error, hok.trans h.reloadOk,
    (congrArg₂ (· + ·) hok herror).trans h.reloadError⟩

/-- Along a run the history grows by what the run has read. -/
theorem Reflects.run (file : Option Str) (h : Reflects L first reloads store) (as : List Act) :
    Reflects L first (reloads ++ readings file as) (run (Disk.step L) ⟨store, file⟩ as).store := by
  induction as generalizing file reloads store with
  | nil =>
    rw [readings, List.append_nil]
    exact h
  | cons a as ih =>
    rw [run_cons]
    cases a with
    | write content => exact ih _ h
    | reload salts =>
      have hnext := ih file (h.reload salts file)
      rw [List.append_assoc] at hnext
      exact hnext
    | lookup user => exact ih _ (h.lookup user)

theorem generation_of_yaml {salts : Nat → Bytes} {text : Str} {snapshot : Snapshot}
    (h : Snapshot.snapshotFromYaml C L salts text = .ok snapshot) : snapshot.generation = 0 := by
  unfold Snapshot.snapshotFromYaml at h
  split at h
  · cases h
  · rename_i users _
    dsimp only at h
    generalize List.foldl (Snapshot.load C L salts) _ users = loaded at h
    split at h
    · cases h
      rfl
    · cases h

theorem reflects_fromFile {salts : Nat → Bytes} {file : Option Str} {clusterNonce : Key}
    (h : CredentialStore.fromFile L salts file clusterNonce = .ok store) : Reflects L ⟨file, salts⟩ [] store := by
  simp only [CredentialStore.fromFile, except_bind_eq_ok, okOr_eq_ok, except_pure_eq_ok] at h
  obtain ⟨text, rfl, snapshot, hyaml, rfl⟩ := h
  have houtcome : Reading.outcome C L ⟨some text, salts⟩ = .ok snapshot := hyaml
  have hfirst : (CredentialStore.fromSource .file snapshot clusterNonce : CredentialStore C).snapshot = ⟨1, snapshot.users⟩ := by
    rw [CredentialStore.fromSource, if_pos (generation_of_yaml hyaml)]
  constructor
  · rfl
  · rw [hfirst, ← List.nil_append [_], loads_concat_of_ok L houtcome, List.getLast?_concat]
  · rw [hfirst]
    rfl
  · rfl
  · simp [CredentialStore.fromSource]
  · rfl
  · rfl

/-! ## The runs of a store -/

/-- What is seen of a store whose reloads have read `reloads`. -/
structure Consistent (L : Loader) (first : Reading) (reloads : List Reading) (store : CredentialStore C) : Prop where
  /-- Every lookup is answered from the last content that was read and valid. -/
  answers : ∃ users, (loads C L (first :: reloads)).getLast? = some users ∧
    ∀ user, (VerifierProvider.lookup store user).1 = .ok (users.lookup user)
  generation : store.snapshot.generation = 1 + store.metrics.reloadOk
  gauge : store.metrics.generation = store.snapshot.generation
  /-- There is an error exactly when the latest reload failed. -/
  error : store.lastLoadingError.isSome ↔ ∃ r, reloads.getLast? = some r ∧ r.users C L = none
  succeeded : store.metrics.reloadOk = (loads C L reloads).length
  counted : store.metrics.reloadOk + store.metrics.reloadError = reloads.length
  /-- A reload that fails changes neither the snapshot nor the generation. -/
  failed : ∀ content salts e, (store.reload L salts content).1 = .error e →
    (store.reload L salts content).2.snapshot = store.snapshot

theorem Reflects.consistent (h : Reflects L first reloads store) : Consistent L first reloads store := by
  refine ⟨⟨store.snapshot.users, h.users, fun user => ?_⟩, ?_, h.gauge, h.error, h.reloadOk, h.reloadError, ?_⟩
  · rw [CredentialStore.lookup_eq h.source]
  · rw [h.generation, h.reloadOk]
  · intro content salts e he
    rcases houtcome : Reading.outcome C L ⟨content, salts⟩ with e' | next
    · rw [CredentialStore.reload_error L h.source houtcome]
    · rw [CredentialStore.reload_ok L h.source houtcome] at he
      cases he

/-- A store opened from a file, after any changes of the file, reloads and lookups. -/
theorem reload_all_or_nothing {salts : Nat → Bytes} {file : Option Str} {clusterNonce : Key}
    (h : CredentialStore.fromFile L salts file clusterNonce = .ok store) (as : List Act) :
    Consistent L ⟨file, salts⟩ (readings file as) (run (Disk.step L) ⟨store, file⟩ as).store ∧
      (readings file as).length = as.countP isReload := by
  have hrun := (reflects_fromFile h).run file as
  rw [List.nil_append] at hrun
  exact ⟨hrun.consistent, length_readings file as⟩

namespace Sample

def userFile : Str := "users: [{name: alice, password: pencil}]"

/-- A parser that knows one document. -/
def fileLoader : Loader where
  yaml text := if text = userFile then some [⟨"alice", some "pencil", none⟩] else none
  saslprep := some

/-- A broken list, then the old one again. -/
def brokenThenRepaired : List Act :=
  [.write (some "users: ["), .reload fun _ => salt, .lookup "alice", .write (some userFile), .reload fun _ => salt]

end Sample

theorem reload_all_or_nothing_repaired :
    ∃ store : CredentialStore Sample.crypto,
      CredentialStore.fromFile Sample.fileLoader (fun _ => Sample.salt) (some Sample.userFile) .zero = .ok store ∧
        Consistent Sample.fileLoader ⟨some Sample.userFile, fun _ => Sample.salt⟩
          (readings (some Sample.userFile) Sample.brokenThenRepaired)
          (run (Disk.step Sample.fileLoader) ⟨store, some Sample.userFile⟩ Sample.brokenThenRepaired).store ∧
        (readings (some Sample.userFile) Sample.brokenThenRepaired).length = Sample.brokenThenRepaired.countP isReload := by
  obtain ⟨store, h⟩ : ∃ store : CredentialStore Sample.crypto,
      CredentialStore.fromFile Sample.fileLoader (fun _ => Sample.salt) (some Sample.userFile) .zero = .ok store := ⟨_, rfl⟩
  exact ⟨store, h, reload_all_or_nothing h Sample.brokenThenRepaired⟩

end Wirechaos
