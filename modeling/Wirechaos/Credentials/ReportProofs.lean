/-
  Wirechaos.Credentials.ReportProofs — what a file-backed store tells of its user lists
  (report.rs, metrics.rs; see `Wirechaos.Credentials.ReloadProofs`).

  A report may be pasted into a ticket: it holds names, fields and fixed reasons. So it is
  a function of the `Shape` of the list: which names there are, which fields an entry has,
  and what is wrong with them. `reportOf_shapes` says so of one list, whatever the salts,
  the hash functions and the rest of the entries are.

  `discloses_only_shapes` says it of whole runs: two stores whose files always have the
  same shape, under the same reloads and lookups, cannot be told apart by the results of
  the reloads, the error they keep, the metrics, the generation, or by who is known; the
  verifiers are all that differs.
-/

import Wirechaos.Credentials.Reloads
import Wirechaos.Credentials.SnapshotProofs

namespace Wirechaos

open Text Async Machine

/-! ## The text of a report -/

def EntryError.display (e : EntryError) : Str :=
  match e.user with
  | some user => "user ".toList ++ user ++ ": ".toList ++ e.field ++ ": ".toList ++ e.reason
  | none => e.field ++ ": ".toList ++ e.reason

def ConfigError.display (e : ConfigError) : Str :=
  decimal e.entries.length ++ " credentials configuration error(s)".toList ++
    e.entries.flatMap fun entry => "\n - ".toList ++ entry.display

/-! ## Shapes -/

/-- What there is to a secret that does not parse. -/
def secretFault (secret : Str) : Option Str :=
  match Verifier.fromPgSecret secret with
  | .ok _ => none
  | .error e => some (Snapshot.secretReason e)

/-- An entry without its secrets: is the password empty, what is wrong with the secret. -/
structure Shape where
  name : Str
  password : Option Bool
  secret : Option (Option Str)
  deriving DecidableEq

def RawUser.shape (user : RawUser) : Shape :=
  ⟨user.name, user.password.map (·.isEmpty), user.scramSecret.map secretFault⟩

namespace Snapshot

variable {C C' : Crypto} {L L' : Loader} {salts salts' : Nat → Bytes}

theorem entryVerifier_of_shape {user user' : RawUser} (h : user.shape = user'.shape) (e : EntryError) :
    entryVerifier C L salts 0 user = .error e ↔ entryVerifier C' L' salts' 0 user' = .error e := by
  obtain ⟨name, password, secret⟩ := user
  obtain ⟨name', password', secret'⟩ := user'
  simp only [RawUser.shape, Shape.mk.injEq] at h
  obtain ⟨rfl, hpassword, hsecret⟩ := h
  cases password with
  | none =>
    cases password' with
    | some p => cases hpassword
    | none =>
      cases secret with
      | none =>
        cases secret' with
        | none => exact Iff.rfl
        | some s => cases hsecret
      | some s =>
        cases secret' with
        | none => cases hsecret
        | some s' =>
          have hfault : secretFault s = secretFault s' := Option.some.inj hsecret
          unfold secretFault at hfault
          unfold entryVerifier
          dsimp only
          rcases hs : Verifier.fromPgSecret s with fault | v
          · rcases hs' : Verifier.fromPgSecret s' with fault' | v'
            · rw [hs, hs'] at hfault
              have hreason : secretReason fault = secretReason fault' := Option.some.inj hfault
              dsimp only
              rw [hreason]
            · rw [hs, hs'] at hfault
              cases hfault
          · rcases hs' : Verifier.fromPgSecret s' with fault' | v'
            · rw [hs, hs'] at hfault
              cases hfault
            · exact ⟨fun h => (nomatch h), fun h => (nomatch h)⟩
  | some p =>
    cases password' with
    | none => cases hpassword
    | some p' =>
      have hempty : p = [] ↔ p' = [] := by
        have hsame : p.isEmpty = p'.isEmpty := Option.some.inj hpassword
        rw [← List.isEmpty_iff, ← List.isEmpty_iff, hsame]
      cases secret with
      | none =>
        cases secret' with
        | some s => cases hsecret
        | none =>
          simp only [entryVerifier]
          by_cases hp : p = []
          · rw [if_pos hp, if_pos (hempty.mp hp)]
          · rw [if_neg hp, if_neg (fun hp' => hp (hempty.mpr hp'))]
            exact ⟨fun h => (nomatch h), fun h => (nomatch h)⟩
      | some s =>
        cases secret' with
        | none => cases hsecret
        | some s' => exact Iff.rfl

theorem faults_of_shape {user user' : RawUser} (h : user.shape = user'.shape) (before : List Str) :
    faults C L salts before user = faults C' L' salts' before user' := by
  have hname : user.name = user'.name := congrArg Shape.name h
  have herror (e : EntryError) :
      entryVerifier C L salts 0 user = .error e ↔ entryVerifier C' L' salts' 0 user' = .error e := entryVerifier_of_shape h e
  unfold faults
  rw [hname]
  cases hentry : entryVerifier C L salts 0 user with
  | error e => rw [(herror e).mp hentry]
  | ok p =>
    cases hentry' : entryVerifier C' L' salts' 0 user' with
    | ok p' => rfl
    | error e =>
      rw [(herror e).mpr hentry'] at hentry
      cases hentry

theorem names_of_shapes {users users' : List RawUser} (h : users.map RawUser.shape = users'.map RawUser.shape) :
    users.map (·.name) = users'.map (·.name) := by
  have hnames := congrArg (List.map Shape.name) h
  rwa [List.map_map, List.map_map] at hnames

theorem faultsAt_of_shapes {users users' : List RawUser} (h : users.map RawUser.shape = users'.map RawUser.shape) (i : Nat) :
    faultsAt C L salts users i = faultsAt C' L' salts' users' i := by
  have hat : users[i]?.map RawUser.shape = users'[i]?.map RawUser.shape := by
    rw [← List.getElem?_map, ← List.getElem?_map, h]
  have hbefore : (users.take i).map (·.name) = (users'.take i).map (·.name) := by
    rw [List.map_take, List.map_take, names_of_shapes h]
  unfold faultsAt
  cases huser : users[i]? with
  | none =>
    rw [huser] at hat
    rw [Option.map_eq_none_iff.mp hat.symm]
  | some user =>
    rw [huser] at hat
    obtain ⟨user', huser', hshape⟩ := Option.map_eq_some_iff.mp hat.symm
    rw [huser']
    dsimp only
    rw [hbefore]
    exact faults_of_shape hshape.symm _

/-- Refused for the same reasons, or accepted with the same names. -/
inductive Alike : Except ConfigError Snapshot → Except ConfigError Snapshot → Prop
  | refused (e : ConfigError) : Alike (.error e) (.error e)
  | accepted {next next' : Snapshot} : next.users.keys = next'.users.keys → Alike (.ok next) (.ok next')

theorem alike_of_shapes {text text' : Str}
    (h : (L.yaml text).map (·.map RawUser.shape) = (L'.yaml text').map (·.map RawUser.shape)) :
    Alike (snapshotFromYaml C L salts text) (snapshotFromYaml C' L' salts' text') := by
  unfold snapshotFromYaml
  cases hyaml : L.yaml text with
  | none =>
    rw [hyaml] at h
    rw [Option.map_eq_none_iff.mp h.symm]
    exact .refused _
  | some users =>
    rw [hyaml] at h
    obtain ⟨users', hyaml', hshapes⟩ := Option.map_eq_some_iff.mp h.symm
    have hlength : users.length = users'.length := by
      have := congrArg List.length hshapes
      rwa [List.length_map, List.length_map, eq_comm] at this
    have hnil : users = [] ↔ users' = [] := by
      rw [← List.length_eq_zero_iff, ← List.length_eq_zero_iff, hlength]
    rw [hyaml']
    dsimp only
    simp only [hnil]
    generalize (if users' = [] then [⟨none, "users", "at least one user is required"⟩] else [] : List EntryError) = start
    have hloaded := loaded_foldl C L salts start users
    have hloaded' := loaded_foldl C' L' salts' start users'
    generalize users.foldl (load C L salts) ⟨start, ∅, [], 0⟩ = acc at hloaded
    generalize users'.foldl (load C' L' salts') ⟨start, ∅, [], 0⟩ = acc' at hloaded'
    have herrors : acc.errors = acc'.errors := by
      rw [hloaded.errors, hloaded'.errors, hlength]
      congr 2
      exact funext (faultsAt_of_shapes hshapes.symm)
    by_cases hclean : acc.errors = []
    · rw [if_pos hclean, if_pos (herrors ▸ hclean)]
      apply Alike.accepted
      rw [hloaded.keys hclean, hloaded'.keys (herrors ▸ hclean), names_of_shapes hshapes]
    · rw [if_neg hclean, if_neg (herrors ▸ hclean), herrors]
      exact .refused _

end Snapshot

/-! ## Runs -/

/-- The shape of what the file holds, if it can be read and parsed. -/
def contentShape (L : Loader) (content : Option Str) : Option (Option (List Shape)) :=
  content.map fun text => (L.yaml text).map (·.map RawUser.shape)

/-- Actions that go together: the contents that are written have one shape. -/
inductive ActAlike (L L' : Loader) : Act → Act → Prop
  | write {content content' : Option Str} : contentShape L content = contentShape L' content' →
    ActAlike L L' (.write content) (.write content')
  | reload (salts salts' : Nat → Bytes) : ActAlike L L' (.reload salts) (.reload salts')
  | lookup (user : Str) : ActAlike L L' (.lookup user) (.lookup user)

/-- What an action returns, without a verifier. -/
inductive Returned where
  | nothing
  | reloaded (result : Except ConfigError ReloadReport)
  | found (result : LookupResult)

/-- All that is shown of a store: what an action returned, then the metrics, the error that
    is kept and its text, and the generation. -/
structure Shown where
  returned : Returned
  metrics : CredentialMetrics
  error : Option ConfigError
  text : Option Str
  generation : Nat

def CredentialStore.shown {C : Crypto} (store : CredentialStore C) (returned : Returned) : Shown :=
  ⟨returned, store.metrics, store.lastLoadingError, store.lastLoadingError.map ConfigError.display,
    store.snapshot.generation⟩

def Disk.returned {C : Crypto} (L : Loader) (d : Disk C) : Act → Returned
  | .write _ => .nothing
  | .reload salts => .reloaded (d.store.reload L salts d.file).1
  | .lookup user => .found (.of (VerifierProvider.lookup d.store user).1)

def Disk.react {C : Crypto} (L : Loader) (d : Disk C) (a : Act) : Shown × Disk C :=
  ((d.step L a).store.shown (d.returned L a), d.step L a)

variable {C C' : Crypto} {L L' : Loader}

/-- Two stores over files of one shape. -/
structure SameShape (L L' : Loader) (d : Disk C) (d' : Disk C') : Prop where
  file : contentShape L d.file = contentShape L' d'.file
  source : d.store.source = .file
  source' : d'.store.source = .file
  names : d.store.snapshot.users.keys = d'.store.snapshot.users.keys
  generation : d.store.snapshot.generation = d'.store.snapshot.generation
  error : d.store.lastLoadingError = d'.store.lastLoadingError
  metrics : d.store.metrics = d'.store.metrics

theorem SameShape.shown {d : Disk C} {d' : Disk C'} (h : SameShape L L' d d') (returned : Returned) :
    d.store.shown returned = d'.store.shown returned := by
  rw [CredentialStore.shown, CredentialStore.shown, h.metrics, h.error, h.generation]

theorem outcome_alike {content content' : Option Str} (h : contentShape L content = contentShape L' content')
    (salts salts' : Nat → Bytes) :
    Snapshot.Alike (Reading.outcome C L ⟨content, salts⟩) (Reading.outcome C' L' ⟨content', salts'⟩) := by
  cases content with
  | none =>
    cases content' with
    | none => exact .refused _
    | some text' => cases h
  | some text =>
    cases content' with
    | none => cases h
    | some text' => exact Snapshot.alike_of_shapes (Option.some.inj h)

theorem length_entries_of_keys {s s' : AList fun _ : Str => Verifier} (h : s.keys = s'.keys) :
    s.entries.length = s'.entries.length := by
  have hlength (t : AList fun _ : Str => Verifier) : t.entries.length = t.keys.length := by
    simp [AList.keys, List.keys]
  rw [hlength, hlength, h]

theorem SameShape.reload {d : Disk C} {d' : Disk C'} (h : SameShape L L' d d') (salts salts' : Nat → Bytes) :
    (d.react L (.reload salts)).1 = (d'.react L' (.reload salts')).1 ∧
      SameShape L L' (d.step L (.reload salts)) (d'.step L' (.reload salts')) := by
  have halike : Snapshot.Alike (Reading.outcome C L ⟨d.file, salts⟩) (Reading.outcome C' L' ⟨d'.file, salts'⟩) :=
    outcome_alike h.file salts salts'
  generalize houtcome : Reading.outcome C L ⟨d.file, salts⟩ = outcome at halike
  generalize houtcome' : Reading.outcome C' L' ⟨d'.file, salts'⟩ = outcome' at halike
  have hsame : (d.store.reload L salts d.file).1 = (d'.store.reload L' salts' d'.file).1 ∧
      SameShape L L' (d.step L (.reload salts)) (d'.step L' (.reload salts')) := by
    cases halike with
    | refused e =>
      rw [Disk.step, Disk.step, CredentialStore.reload_error L h.source houtcome,
        CredentialStore.reload_error L' h.source' houtcome']
      exact ⟨rfl, h.file, h.source, h.source', h.names, h.generation, rfl, by rw [h.metrics]⟩
    | @accepted next next' hkeys =>
      rw [Disk.step, Disk.step, CredentialStore.reload_ok L h.source houtcome,
        CredentialStore.reload_ok L' h.source' houtcome']
      refine ⟨?_, h.file, h.source, h.source', hkeys, ?_, rfl, ?_⟩
      · dsimp only
        rw [length_entries_of_keys hkeys, h.generation]
      · dsimp only
        rw [h.generation]
      · dsimp only
        rw [h.metrics, h.generation]
  refine ⟨?_, hsame.2⟩
  simp only [Disk.react, Disk.returned, hsame.1]
  exact hsame.2.shown _

theorem lookupResult_of_lookup (s : AList fun _ : Str => Verifier) (user : Str) :
    LookupResult.of (.ok (s.lookup user)) = if user ∈ s.keys then .hit else .miss := by
  by_cases hmem : user ∈ s.keys
  · rw [if_pos hmem]
    obtain ⟨v, hv⟩ := Option.isSome_iff_exists.mp (AList.lookup_isSome.mpr (AList.mem_keys.mpr hmem))
    rw [hv]
    rfl
  · rw [if_neg hmem, AList.lookup_eq_none.mpr fun h => hmem (AList.mem_keys.mp h)]
    rfl

theorem SameShape.lookup {d : Disk C} {d' : Disk C'} (h : SameShape L L' d d') (user : Str) :
    (d.react L (.lookup user)).1 = (d'.react L' (.lookup user)).1 ∧
      SameShape L L' (d.step L (.lookup user)) (d'.step L' (.lookup user)) := by
  have hresult : LookupResult.of (.ok (d.store.snapshot.users.lookup user)) =
      LookupResult.of (.ok (d'.store.snapshot.users.lookup user)) := by
    rw [lookupResult_of_lookup, lookupResult_of_lookup, h.names]
  have hmetrics : d.store.metrics.recordLookup (.ok (d.store.snapshot.users.lookup user)) =
      d'.store.metrics.recordLookup (.ok (d'.store.snapshot.users.lookup user)) := by
    rw [h.metrics]
    rcases hentry : d.store.snapshot.users.lookup user with _ | v <;>
      rcases hentry' : d'.store.snapshot.users.lookup user with _ | v' <;>
      rw [hentry, hentry'] at hresult
    · cases hresult
    · cases hresult
    · rfl
  have hsame : SameShape L L' (d.step L (.lookup user)) (d'.step L' (.lookup user)) := by
    rw [Disk.step, Disk.step, CredentialStore.lookup_eq h.source, CredentialStore.lookup_eq h.source']
    exact ⟨h.file, h.source, h.source', h.names, h.generation, h.error, hmetrics⟩
  refine ⟨?_, hsame⟩
  simp only [Disk.react, Disk.returned, CredentialStore.lookup_eq h.source, CredentialStore.lookup_eq h.source', hresult]
  exact hsame.shown _

theorem SameShape.step {d : Disk C} {d' : Disk C'} (h : SameShape L L' d d') {a a' : Act} (ha : ActAlike L L' a a') :
    (d.react L a).1 = (d'.react L' a').1 ∧ SameShape L L' (d.react L a).2 (d'.react L' a').2 := by
  cases ha with
  | write hcontent =>
    have hsame : SameShape L L' (d.step L (.write _)) (d'.step L' (.write _)) :=
      ⟨hcontent, h.source, h.source', h.names, h.generation, h.error, h.metrics⟩
    exact ⟨hsame.shown .nothing, hsame⟩
  | reload salts salts' => exact h.reload salts salts'
  | lookup user => exact h.lookup user

theorem fromFile_of_text (salts : Nat → Bytes) (text : Str) (clusterNonce : Key) :
    (CredentialStore.fromFile L salts (some text) clusterNonce : Except _ (CredentialStore C)) =
      (Snapshot.snapshotFromYaml C L salts text).map fun snapshot =>
        CredentialStore.fromSource .file snapshot clusterNonce := by
  simp only [CredentialStore.fromFile, okOr, except_bind_ok]
  rcases Snapshot.snapshotFromYaml C L salts text with e | next <;> rfl

theorem fromFile_of_error {salts : Nat → Bytes} {text : Str} {e : ConfigError}
    (h : Snapshot.snapshotFromYaml C L salts text = .error e) (clusterNonce : Key) :
    (CredentialStore.fromFile L salts (some text) clusterNonce : Except _ (CredentialStore C)) = .error e := by
  rw [fromFile_of_text, h]
  rfl

theorem fromFile_of_ok {salts : Nat → Bytes} {text : Str} {next : Snapshot}
    (h : Snapshot.snapshotFromYaml C L salts text = .ok next) (clusterNonce : Key) :
    (CredentialStore.fromFile L salts (some text) clusterNonce : Except _ (CredentialStore C)) =
      .ok (CredentialStore.fromSource .file { next with generation := 1 } clusterNonce) := by
  rw [fromFile_of_text, h]
  simp only [Except.map, CredentialStore.fromSource, generation_of_yaml h, if_true]
  rfl

/-- Two processes that open files of one shape are refused for the same reasons, or go on
    and are shown the same at every step of every run in which the files keep one shape. -/
theorem discloses_only_shapes {file file' : Option Str} (hfile : contentShape L file = contentShape L' file')
    (salts salts' : Nat → Bytes) (clusterNonce clusterNonce' : Key) :
    (∀ e, (CredentialStore.fromFile L salts file clusterNonce : Except _ (CredentialStore C)) = .error e ↔
      (CredentialStore.fromFile L' salts' file' clusterNonce' : Except _ (CredentialStore C')) = .error e) ∧
    ∀ (store : CredentialStore C) (store' : CredentialStore C'),
      CredentialStore.fromFile L salts file clusterNonce = .ok store →
      CredentialStore.fromFile L' salts' file' clusterNonce' = .ok store' →
      ∀ as as', List.Forall₂ (ActAlike L L') as as' →
        outputs (Disk.react L) ⟨store, file⟩ as = outputs (Disk.react L') ⟨store', file'⟩ as' := by
  cases file with
  | none =>
    cases file' with
    | some text' => cases hfile
    | none =>
      refine ⟨fun e => ⟨fun h => ?_, fun h => ?_⟩, fun store store' h => nomatch h⟩
      · cases h
        rfl
      · cases h
        rfl
  | some text =>
    cases file' with
    | none => cases hfile
    | some text' =>
      have halike : Snapshot.Alike (Snapshot.snapshotFromYaml C L salts text)
          (Snapshot.snapshotFromYaml C' L' salts' text') :=
        Snapshot.alike_of_shapes (Option.some.inj hfile)
      generalize hyaml : Snapshot.snapshotFromYaml C L salts text = outcome at halike
      generalize hyaml' : Snapshot.snapshotFromYaml C' L' salts' text' = outcome' at halike
      cases halike with
      | refused e =>
        rw [fromFile_of_error hyaml, fromFile_of_error hyaml']
        refine ⟨fun e' => ⟨fun h => ?_, fun h => ?_⟩, fun store store' h => nomatch h⟩
        · cases h
          rfl
        · cases h
          rfl
      | @accepted next next' hkeys =>
        rw [fromFile_of_ok hyaml, fromFile_of_ok hyaml']
        refine ⟨fun e => ⟨fun h => (nomatch h), fun h => (nomatch h)⟩, ?_⟩
        intro store store' hstore hstore' as as' has
        cases hstore
        cases hstore'
        have hstart : SameShape L L' (⟨.fromSource .file { next with generation := 1 } clusterNonce, some text⟩ : Disk C)
            (⟨.fromSource .file { next' with generation := 1 } clusterNonce', some text'⟩ : Disk C') :=
          ⟨hfile, rfl, rfl, hkeys, rfl, rfl, rfl⟩
        exact outputs_eq_of_forall₂ (fun _ _ _ _ hd ha => hd.step ha) hstart has

namespace Sample

/-- A parser of lists with alice's password alone. -/
def entryLoader : Loader where
  yaml text := do
    let entry ← stripPrefix "users: [\x7bname: alice, password: " text
    let (password, rest) ← splitOnce '}' entry
    if rest = [']'] then some [⟨"alice", some password, none⟩] else none
  saslprep := some

/-- The list with another password. -/
def crayonFile : Str := "users: [{name: alice, password: crayon}]"

/-- Another broken list, then the other one. -/
def brokenThenCrayon : List Act :=
  [.write (some "users: [\x7bname: alice"), .reload fun _ => [], .lookup "alice", .write (some crayonFile), .reload fun _ => []]

theorem shape_crayonFile : contentShape entryLoader (some userFile) = contentShape entryLoader (some crayonFile) := by
  decide +kernel

theorem alike_brokenThenCrayon :
    List.Forall₂ (ActAlike entryLoader entryLoader) brokenThenRepaired brokenThenCrayon := by
  refine .cons (.write ?_) (.cons (.reload _ _) (.cons (.lookup _) (.cons (.write shape_crayonFile)
    (.cons (.reload _ _) .nil))))
  decide +kernel

end Sample

theorem discloses_only_shapes_crayon :
    ∃ store store' : CredentialStore Sample.crypto,
      CredentialStore.fromFile Sample.entryLoader (fun _ => Sample.salt) (some Sample.userFile) .zero = .ok store ∧
      CredentialStore.fromFile Sample.entryLoader (fun _ => []) (some Sample.crayonFile) .zero = .ok store' ∧
      outputs (Disk.react Sample.entryLoader) ⟨store, some Sample.userFile⟩ Sample.brokenThenRepaired =
        outputs (Disk.react Sample.entryLoader) ⟨store', some Sample.crayonFile⟩ Sample.brokenThenCrayon := by
  obtain ⟨store, h⟩ : ∃ store : CredentialStore Sample.crypto,
      CredentialStore.fromFile Sample.entryLoader (fun _ => Sample.salt) (some Sample.userFile) .zero = .ok store := ⟨_, rfl⟩
  obtain ⟨store', h'⟩ : ∃ store : CredentialStore Sample.crypto,
      CredentialStore.fromFile Sample.entryLoader (fun _ => []) (some Sample.crayonFile) .zero = .ok store := ⟨_, rfl⟩
  exact ⟨store, store', h, h', (discloses_only_shapes Sample.shape_crayonFile _ _ _ _).2 store store' h h' _ _
    Sample.alike_brokenThenCrayon⟩

end Wirechaos
