/-
  Wirechaos.Credentials.Store — where verifiers come from (auth/credentials: store.rs,
  file.rs, secret.rs, report.rs, cache.rs, auth_query.rs).

  A store answers from an immutable snapshot that a reload replaces, or asks a database
  and remembers the answers for a while. The YAML parser and SASLprep are outside the
  program (`Loader`), as are the file that a reload reads, the random salts and the
  database, which has its own clock here.
-/

import Mathlib.Data.List.AList
import Wirechaos.Auth.Verifier

namespace Wirechaos

open Text Async

/-! ## Reports -/

/-- One validation failure: its shape, never a secret. -/
structure EntryError where
  user : Option Str
  field : Str
  reason : Str
  deriving DecidableEq, Repr

structure ConfigError where
  entries : List EntryError
  deriving DecidableEq, Repr

def ConfigError.single (field reason : Str) : ConfigError := ⟨[⟨none, field, reason⟩]⟩

/-! ## The user list -/

structure RawUser where
  name : Str
  password : Option Str
  scramSecret : Option Str
  deriving DecidableEq, Repr

structure Loader where
  /-- `serde_yaml::from_str` at the type of the user list. -/
  yaml : Str → Option (List RawUser)
  /-- `stringprep::saslprep`. -/
  saslprep : Str → Option Str

structure Snapshot where
  generation : Nat
  users : AList (fun _ : Str => Verifier)

def defaultIterations : UInt32 := 4096

namespace Snapshot

variable (C : Crypto) (L : Loader)

/-- A password that cannot be prepared is taken as it is. -/
def preparePassword (password : Str) : Str := (L.saslprep password).getD password

def deriveVerifier (password : Str) (salt : Bytes) (iterations : UInt32) : Verifier :=
  Verifier.fromPassword C (asBytes (preparePassword L password)) salt iterations

def secretReason : Verifier.SecretFormatError → Str
  | .md5 => "MD5 secrets are not supported; re-hash the role with scram-sha-256"
  | .unsupportedScheme => "expected a SCRAM-SHA-256 secret"
  | .badSyntax => "malformed secret"
  | .iterations => "invalid iteration count"
  | .iterationsTooLow => "iteration count must be at least 4096"
  | .base64 _ => "invalid base64"
  | .keyLength _ => "each key must be exactly 32 bytes"
  | .saltTooShort => "salt must be at least 8 bytes"

/-- What the loop over the entries has so far; `drawn` counts the random salts. -/
structure Loading where
  errors : List EntryError
  users : AList (fun _ : Str => Verifier)
  seen : List Str
  drawn : Nat

def nameErrors (seen : List Str) (name : Str) : List EntryError :=
  (if name = [] then [⟨none, "name", "must not be empty"⟩] else []) ++
    (if '\x00' ∈ name then [⟨some name, "name", "must not contain NUL"⟩] else []) ++
    (if name ∈ seen then [⟨some name, "name", "duplicate user name"⟩] else [])

theorem nameErrors_eq_nil {seen : List Str} {name : Str} :
    nameErrors seen name = [] ↔ name ≠ [] ∧ '\x00' ∉ name ∧ name ∉ seen := by
  by_cases hempty : name = []
  · simp [nameErrors, hempty]
  · by_cases hnul : '\x00' ∈ name <;> by_cases hseen : name ∈ seen <;> simp [nameErrors, hempty, hnul, hseen]

/-- The verifier of an entry and how many salts it took, or what is wrong with it. -/
def entryVerifier (salts : Nat → Bytes) (drawn : Nat) (user : RawUser) : Except EntryError (Verifier × Nat) :=
  match user.password, user.scramSecret with
  | some password, none =>
    if password = [] then .error ⟨some user.name, "password", "must not be empty"⟩
    else .ok (deriveVerifier C L password (salts drawn) defaultIterations, drawn + 1)
  | none, some secret =>
    match Verifier.fromPgSecret secret with
    | .ok verifier => .ok (verifier, drawn)
    | .error e => .error ⟨some user.name, "scram_secret", secretReason e⟩
  | _, _ => .error ⟨some user.name, "password", "exactly one of `password` or `scram_secret` is required"⟩

def load (salts : Nat → Bytes) (acc : Loading) (user : RawUser) : Loading :=
  let wrong := nameErrors acc.seen user.name
  let seen := if user.name ∈ acc.seen then acc.seen else user.name :: acc.seen
  match entryVerifier C L salts acc.drawn user with
  | .error e => { acc with errors := acc.errors ++ wrong ++ [e], seen }
  | .ok (verifier, drawn) =>
    if wrong = [] then { acc with users := acc.users.insert user.name verifier, seen, drawn }
    else { acc with errors := acc.errors ++ wrong, seen }

def snapshotFromYaml (salts : Nat → Bytes) (text : Str) : Except ConfigError Snapshot :=
  match L.yaml text with
  | none => .error (.single "file" "invalid YAML user list")
  | some users =>
    let noUsers : List EntryError := if users = [] then [⟨none, "users", "at least one user is required"⟩] else []
    let loaded := users.foldl (load C L salts) ⟨noUsers, ∅, [], 0⟩
    if loaded.errors = [] then .ok ⟨0, loaded.users⟩ else .error ⟨loaded.errors⟩

end Snapshot

/-! ## The lookup cache -/

inductive CacheEntry where
  | positive (verifier : Verifier) (recorded : Nat)
  | negative (recorded : Nat)
  deriving DecidableEq

/-- Times are ticks of a monotonic clock. -/
structure LookupCache where
  positiveTtl : Nat
  negativeTtl : Nat
  maxEntries : Nat
  entries : AList (fun _ : Str => CacheEntry)

namespace LookupCache

def withCapacity (positiveTtl negativeTtl maxEntries : Nat) : LookupCache :=
  { positiveTtl, negativeTtl, maxEntries := max maxEntries 1, entries := ∅ }

/-- A live entry answers; an expired one is removed. -/
def get (c : LookupCache) (username : Str) (now : Nat) : Option (Option Verifier) × LookupCache :=
  match c.entries.lookup username with
  | none => (none, c)
  | some (.positive verifier recorded) =>
    if now - recorded ≤ c.positiveTtl then (some (some verifier), c)
    else (none, { c with entries := c.entries.erase username })
  | some (.negative recorded) =>
    if now - recorded ≤ c.negativeTtl then (some none, c)
    else (none, { c with entries := c.entries.erase username })

/-- When a live negative entry was recorded. -/
def getNegative (c : LookupCache) (username : Str) (now : Nat) : Option Nat × LookupCache :=
  match c.get username now with
  | (some none, c) =>
    match c.entries.lookup username with
    | some (.negative recorded) => (some recorded, c)
    | _ => (none, c)
  | (_, c) => (none, c)

/-- What `retain` keeps at a time. -/
def fresh (c : LookupCache) (now : Nat) : CacheEntry → Bool
  | .positive _ recorded => now - recorded < c.positiveTtl
  | .negative recorded => now - recorded < c.negativeTtl

def evictIfNeeded (c : LookupCache) (now : Nat) : LookupCache :=
  if c.entries.entries.length < c.maxEntries then c
  else
    let live := (c.entries.entries.filter fun e => fresh c now e.2).toAList
    { c with entries := if live.entries.length ≥ c.maxEntries then ∅ else live }

def insertPositive (c : LookupCache) (username : Str) (verifier : Verifier) (now : Nat) : LookupCache :=
  let c := c.evictIfNeeded now
  { c with entries := c.entries.insert username (.positive verifier now) }

def insertNegative (c : LookupCache) (username : Str) (now : Nat) : LookupCache :=
  let c := c.evictIfNeeded now
  { c with entries := c.entries.insert username (.negative now) }

def forget (c : LookupCache) (username : Str) : LookupCache := { c with entries := c.entries.erase username }

end LookupCache

/-! ## The lookup query -/

structure AuthQuerySource where
  cache : LookupCache
  now : Nat
  /-- The user's row as the query reads it, or why it could not be read. -/
  database : Str → Except Str (Option Str)

namespace AuthQuerySource

/-- The text of a secret that does not parse. -/
def secretText : Verifier.SecretFormatError → Str
  | .unsupportedScheme => "unrecognised secret scheme: expected `SCRAM-SHA-256$...`"
  | .md5 => "MD5 secrets are not supported; re-hash the role with `password_encryption = scram-sha-256`"
  | .badSyntax => "this secret is malformed (expected `SCRAM-SHA-256$iter:salt$stored:server`)"
  | .iterations => "invalid iteration count"
  | .iterationsTooLow => "iteration must be at least 4096"
  | .base64 field => "invalid base64 in ".toList ++ field
  | .keyLength field => field ++ " must be exactly 32 bytes".toList
  | .saltTooShort => "salt must be at least 8 bytes"

def lookup (source : AuthQuerySource) (username : Str) : Except ProviderError (Option Verifier) × AuthQuerySource :=
  match source.cache.get username source.now with
  | (some answer, cache) => (.ok answer, { source with cache })
  | (none, cache) =>
    match source.database username with
    | .error reason => (.error (.unavailable reason), { source with cache })
    | .ok none => (.ok none, { source with cache := cache.insertNegative username source.now })
    | .ok (some secret) =>
      match Verifier.fromPgSecret secret with
      | .error e => (.error (.unavailable (secretText e)), { source with cache })
      | .ok verifier => (.ok (some verifier), { source with cache := cache.insertPositive username verifier source.now })

def forget (source : AuthQuerySource) (username : Str) : AuthQuerySource :=
  { source with cache := source.cache.forget username }

end AuthQuerySource

/-! ## The store -/

inductive Source where
  /-- A YAML user list re-read on reload. -/
  | file
  | memory
  /-- A store that is deliberately broken. -/
  | failing (reason : Str)
  | authQuery (source : AuthQuerySource)

/-- The counters of the store. -/
structure CredentialMetrics where
  lookupHit : Nat
  lookupMiss : Nat
  lookupUnavailable : Nat
  reloadOk : Nat
  reloadError : Nat
  generation : Nat
  deriving DecidableEq, Repr

def CredentialMetrics.recordLookup (m : CredentialMetrics) :
    Except ProviderError (Option Verifier) → CredentialMetrics
  | .ok (some _) => { m with lookupHit := m.lookupHit + 1 }
  | .ok none => { m with lookupMiss := m.lookupMiss + 1 }
  | .error _ => { m with lookupUnavailable := m.lookupUnavailable + 1 }

def CredentialMetrics.recordReload (m : CredentialMetrics) (succeeded : Bool) : CredentialMetrics :=
  if succeeded then { m with reloadOk := m.reloadOk + 1 } else { m with reloadError := m.reloadError + 1 }

/-- The hash functions are those of the process the store lives in. -/
structure CredentialStore (C : Crypto) where
  source : Source
  snapshot : Snapshot
  clusterNonce : Key
  lastLoadingError : Option ConfigError
  metrics : CredentialMetrics

structure ReloadReport where
  userCount : Nat
  previousGeneration : Nat
  deriving DecidableEq, Repr

namespace CredentialStore

variable {C : Crypto}

def fromSource (source : Source) (snapshot : Snapshot) (clusterNonce : Key) : CredentialStore C :=
  let snapshot := if snapshot.generation = 0 then { snapshot with generation := 1 } else snapshot
  { source, snapshot, clusterNonce, lastLoadingError := none
    metrics := ⟨0, 0, 0, 0, 0, snapshot.generation⟩ }

/-- A store backed by a file; `text` is what the file holds, if it can be read. -/
def fromFile (L : Loader) (salts : Nat → Bytes) (text : Option Str) (clusterNonce : Key) :
    Except ConfigError (CredentialStore C) := do
  let text ← okOr text (.single "path" "unable to read the credentials file")
  let snapshot ← Snapshot.snapshotFromYaml C L salts text
  return fromSource .file snapshot clusterNonce

/-- The answer of the source and the source it leaves. -/
def askSource (store : CredentialStore C) (username : Str) : Except ProviderError (Option Verifier) × Source :=
  match store.source with
  | .file => (.ok (store.snapshot.users.lookup username), .file)
  | .memory => (.ok (store.snapshot.users.lookup username), .memory)
  | .failing reason => (.error (.unavailable reason), .failing reason)
  | .authQuery source => ((source.lookup username).1, .authQuery (source.lookup username).2)

instance : VerifierProvider (CredentialStore C) where
  lookup store username :=
    let (answer, source) := store.askSource username
    (answer, { store with source, metrics := store.metrics.recordLookup answer })
  getDummyVerifier store username := Verifier.dummy C username store.clusterNonce
  isDummy_getDummyVerifier _ _ := rfl

def recordLoadError (store : CredentialStore C) (e : ConfigError) : CredentialStore C :=
  { store with lastLoadingError := some e }

/-- `text` is what the file holds, if it can be read. -/
def reloadFile (L : Loader) (salts : Nat → Bytes) (text : Option Str) (store : CredentialStore C) :
    Except ConfigError ReloadReport × CredentialStore C :=
  match text with
  | none =>
    let e := ConfigError.single "path" "unable to read the credentials file"
    (.error e, store.recordLoadError e)
  | some text =>
    match Snapshot.snapshotFromYaml C L salts text with
    | .error e => (.error e, store.recordLoadError e)
    | .ok next =>
      let previousGeneration := store.snapshot.generation
      let next := { next with generation := previousGeneration + 1 }
      (.ok ⟨next.users.entries.length, previousGeneration⟩, { store with snapshot := next, lastLoadingError := none })

def reloadSource (L : Loader) (salts : Nat → Bytes) (text : Option Str) (store : CredentialStore C) :
    Except ConfigError ReloadReport × CredentialStore C :=
  match store.source with
  | .file => reloadFile L salts text store
  | .memory => (.error (.single "memory" "in-memory store cannot reload"), store)
  | .failing _ => (.error (.single "source" "failing store cannot reload"), store)
  | .authQuery _ => (.error (.single "auth_query" "auth_query store has no on-disk snapshot to reload"), store)

def reload (L : Loader) (salts : Nat → Bytes) (text : Option Str) (store : CredentialStore C) :
    Except ConfigError ReloadReport × CredentialStore C :=
  match store.reloadSource L salts text with
  | (.error e, store) => (.error e, { store with metrics := store.metrics.recordReload false })
  | (.ok report, store) =>
    (.ok report, { store with metrics := { store.metrics.recordReload true with generation := report.previousGeneration + 1 } })

end CredentialStore

end Wirechaos
