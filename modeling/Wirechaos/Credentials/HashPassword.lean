/-
  Wirechaos.Credentials.HashPassword — `wirechaos hash-password` (main.rs, and
  `hash_password` in auth/credentials/mod.rs).

  The command reads a password, derives a verifier with a random salt and prints it as a
  PostgreSQL secret, to be installed in `pg_authid` and as the `scram_secret:` of an entry.
  `hashCommand_ok` says what it prints, and for which command lines. `printed_secret_opens`
  follows the secret from there: every user list that holds it loads the same verifier, a
  client that has the password completes against it, and the key that such an exchange
  leaves completes against everything else that the secret was installed in.
-/

import Mathlib.Data.List.DropRight
import Wirechaos.Auth.ScramLink
import Wirechaos.Auth.SecretProofs
import Wirechaos.Credentials.SnapshotProofs

namespace Wirechaos

open Text Async

/-! ## The command -/

inductive HashFormat where
  | secret
  | yamlSnippet
  deriving DecidableEq, Repr

/-- Where the password comes from, and what is found there. -/
inductive PasswordInput where
  | stdin (line : Str)
  | prompt (password confirmation : Str)
  deriving DecidableEq, Repr

structure HashArgs where
  iterations : UInt32
  format : HashFormat
  user : Option Str
  input : PasswordInput
  deriving DecidableEq, Repr

def isLineEnd (c : Char) : Bool := c == '\r' || c == '\n'

def readPassword : PasswordInput → Except Str Str
  | .stdin line => .ok (line.rdropWhile isLineEnd)
  | .prompt password confirmation => do
    require (password = confirmation) "passwords do not match"
    return password

variable (C : Crypto) (L : Loader)

/-- `salt` is the random one. -/
def hashPassword (password : Str) (salt : Bytes) (iterations : UInt32) : Str :=
  (Snapshot.deriveVerifier C L password salt iterations).toPgSecret

def HashFormat.print (format : HashFormat) (user secret : Str) : Str :=
  match format with
  | .secret => secret ++ ['\n']
  | .yamlSnippet => "users:\n  - name: ".toList ++ user ++ "\n    scram_secret: \"".toList ++ secret ++ ['"', '\n']

/-- The `HashPassword` arm of `main`: what is printed, or the error it ends with. -/
def hashCommand (args : HashArgs) (salt : Bytes) : Except Str Str := do
  require (Verifier.minIterations ≤ args.iterations.toNat)
    ("--iterations must be at least ".toList ++ decimal Verifier.minIterations)
  let password ← readPassword args.input
  require (password ≠ []) "the password must not be empty"
  let secret := hashPassword C L password salt args.iterations
  match args.format with
  | .secret => return HashFormat.secret.print [] secret
  | .yamlSnippet =>
    let user ← okOr args.user "--user is required with --format=yaml-snippet"
    return HashFormat.yamlSnippet.print user secret

/-- The name in the output, where the format asks for one. -/
def HashArgs.names (args : HashArgs) (user : Str) : Prop :=
  match args.format with
  | .secret => user = []
  | .yamlSnippet => args.user = some user

variable {C L}

theorem hashCommand_ok {args : HashArgs} {salt : Bytes} {printed : Str} :
    hashCommand C L args salt = .ok printed ↔
      Verifier.minIterations ≤ args.iterations.toNat ∧
        ∃ password user, readPassword args.input = .ok password ∧ password ≠ [] ∧ args.names user ∧
          printed = args.format.print user (hashPassword C L password salt args.iterations) := by
  obtain ⟨iterations, format, user, input⟩ := args
  simp only [hashCommand, HashArgs.names, except_bind_eq_ok, require_eq_ok, exists_const]
  constructor
  · rintro ⟨hmin, password, hread, hne, h⟩
    cases format with
    | secret => exact ⟨hmin, password, [], hread, hne, rfl, (Except.ok.inj h).symm⟩
    | yamlSnippet =>
      obtain ⟨name, hname, h⟩ := except_bind_eq_ok.mp h
      exact ⟨hmin, password, name, hread, hne, okOr_eq_ok.mp hname, (Except.ok.inj h).symm⟩
  · rintro ⟨hmin, password, name, hread, hne, hnames, rfl⟩
    refine ⟨hmin, password, hread, hne, ?_⟩
    cases format with
    | secret =>
      cases hnames
      rfl
    | yamlSnippet => exact except_bind_eq_ok.mpr ⟨name, okOr_eq_ok.mpr hnames, rfl⟩

/-! ## The secret -/

/-- The text stands for itself between double quotes. -/
def Quotable (s : Str) : Prop := '"' ∉ s ∧ '\\' ∉ s ∧ '\n' ∉ s

theorem not_mem_toPgSecret (v : Verifier) {c : Char} (hscheme : c ∉ "SCRAM-SHA-256$:".toList) (hdigit : c.isDigit = false)
    (hbase64 : c ∉ Base64.standard.chars) (hpad : c ≠ '=') : c ∉ v.toPgSecret := by
  have hsalt := Base64.not_mem_encode _ hbase64 hpad v.salt
  have hstored := Base64.not_mem_encode _ hbase64 hpad v.storedKey.bytes
  have hserver := Base64.not_mem_encode _ hbase64 hpad v.serverKey.bytes
  have hnumeral := not_mem_decimal hdigit v.iterations.toNat
  have hhead : c ∉ "SCRAM-SHA-256$".toList := fun h => hscheme (List.mem_append_left [':'] h)
  have hcolon : c ≠ ':' := fun h => hscheme (h ▸ by decide)
  have hdollar : c ≠ '$' := fun h => hscheme (h ▸ by decide)
  unfold Verifier.toPgSecret
  -- the scheme is not to be spelled out
  generalize "SCRAM-SHA-256$".toList = scheme at hhead ⊢
  simp only [List.mem_append, List.mem_cons, hhead, hnumeral, hcolon, hsalt, hdollar, hstored, hserver, or_self,
    not_false_eq_true]

theorem quotable_toPgSecret (v : Verifier) : Quotable v.toPgSecret := by
  refine ⟨?_, ?_, ?_⟩ <;> exact not_mem_toPgSecret v (by decide) rfl (by decide) (by decide)

/-- The verifier of an entry that holds the secret. -/
def hashedVerifier (C : Crypto) (L : Loader) (password : Str) (salt : Bytes) (iterations : UInt32) : Verifier :=
  { Snapshot.deriveVerifier C L password salt iterations with password := none }

theorem fromPgSecret_hashPassword {iterations : UInt32} (hmin : Verifier.minIterations ≤ iterations.toNat) {salt : Bytes}
    (hsalt : 8 ≤ salt.length) (password : Str) :
    Verifier.fromPgSecret (hashPassword C L password salt iterations) =
      .ok (hashedVerifier C L password salt iterations) :=
  Verifier.fromPgSecret_toPgSecret (v := Snapshot.deriveVerifier C L password salt iterations) hmin hsalt

namespace Snapshot

/-- An entry with a secret is that secret's verifier in every snapshot. -/
theorem lookup_of_secret {salts : Nat → Bytes} {text : Str} {users : List RawUser} {snapshot : Snapshot} {name secret : Str}
    {v : Verifier} (hyaml : L.yaml text = some users) (h : snapshotFromYaml C L salts text = .ok snapshot)
    (hmem : (⟨name, none, some secret⟩ : RawUser) ∈ users) (hparse : Verifier.fromPgSecret secret = .ok v) :
    snapshot.users.lookup name = some v := by
  simp only [snapshotFromYaml, hyaml] at h
  generalize (if users = [] then [⟨none, "users", "at least one user is required"⟩] else [] : List EntryError) = start at h
  have hloaded := loaded_foldl C L salts start users
  generalize users.foldl (load C L salts) ⟨start, ∅, [], 0⟩ = acc at h hloaded
  by_cases hclean : acc.errors = []
  · rw [if_pos hclean] at h
    cases h
    obtain ⟨verifier, hlookup, hderived⟩ := hloaded.verifiers hclean _ hmem
    rcases hderived with ⟨password, i, hpassword, -⟩ | ⟨secret', hsecret, hparse'⟩
    · cases hpassword
    · cases hsecret
      cases hparse.symm.trans hparse'
      exact hlookup
  · rw [if_neg hclean] at h
    cases h

end Snapshot

/-! ## What it opens -/

/-- The secret that the command prints needs no quoting; a user list that holds it loads the
    same verifier whatever else it holds; a client that has the password completes against
    that verifier; and the key that such an exchange leaves completes against it again, in
    the hands of an instance that has the secret and not the password. -/
theorem printed_secret_opens {args : HashArgs} {salt : Bytes} (hsalt : salt.length = 16) {printed : Str}
    (h : hashCommand C L args salt = .ok printed) :
    ∃ password user secret v k, readPassword args.input = .ok password ∧ args.names user ∧
      printed = args.format.print user secret ∧ Quotable secret ∧ v.salt = salt ∧ v.iterations = args.iterations ∧
      (∀ salts text users name snapshot, L.yaml text = some users → (⟨name, none, some secret⟩ : RawUser) ∈ users →
        Snapshot.snapshotFromYaml C L salts text = .ok snapshot → snapshot.users.lookup name = some v) ∧
      (∀ nonce serverNonceBytes name, name ≠ [] →
        ∃ r, exchange C (withPassword (asBytes (Snapshot.preparePassword L password)) nonce) .scramSha256 [] 0 (.new v none)
          serverNonceBytes name = .ok r ∧ r.verified = true ∧ r.extractedClientKey = some k) ∧
      ∀ nonce serverNonceBytes name, name ≠ [] →
        ∃ r, exchange C (captured v k nonce) .scramSha256 v.salt v.iterations (.new v none) serverNonceBytes name = .ok r ∧
          r.verified = true ∧ r.extractedClientKey = some k := by
  obtain ⟨hmin, password, user, hread, -, hnames, hprinted⟩ := hashCommand_ok.mp h
  have hparse : Verifier.fromPgSecret (hashPassword C L password salt args.iterations) =
      .ok (hashedVerifier C L password salt args.iterations) := fromPgSecret_hashPassword hmin (by omega) password
  let salted := C.pbkdf2Sha256 (asBytes (Snapshot.preparePassword L password)) salt args.iterations
  refine ⟨password, user, _, hashedVerifier C L password salt args.iterations, (C.clientKey salted).bytes, hread, hnames,
    hprinted, quotable_toPgSecret _, rfl, rfl, ?_, ?_, ?_⟩
  · intro salts text users name snapshot hyaml hmem hload
    exact Snapshot.lookup_of_secret hyaml hload hmem hparse
  · intro nonce serverNonceBytes name hname
    have hkeys : KeysOf C (withPassword (asBytes (Snapshot.preparePassword L password)) nonce)
        (hashedVerifier C L password salt args.iterations) serverNonceBytes [] 0 (C.clientKey salted).bytes :=
      ⟨rfl, Key.length_eq _, rfl⟩
    exact ⟨_, exchange_completes C (plain_new nonce _ _ _ _) hname hkeys rfl, rfl, rfl⟩
  · intro nonce serverNonceBytes name hname
    have hkeys : KeysOf C (captured (hashedVerifier C L password salt args.iterations) (C.clientKey salted).bytes nonce)
        (hashedVerifier C L password salt args.iterations) serverNonceBytes salt args.iterations
        (C.clientKey salted).bytes :=
      ⟨keys_captured C rfl rfl, Key.length_eq _, rfl⟩
    exact ⟨_, exchange_completes C (plain_new nonce _ _ _ _) hname hkeys rfl, rfl, rfl⟩

namespace Sample

/-- What a user list of the printed form says: a plain name, and a secret between double quotes
    that needs no escapes. -/
def readSnippet (text : Str) : Option (List RawUser) := do
  let entry ← stripPrefix "users:\n  - name: " text
  let (name, fields) ← splitOnce '\n' entry
  let quoted ← stripPrefix "    scram_secret: \"" fields
  let (secret, rest) ← splitOnce '"' quoted
  if rest = ['\n'] then some [⟨name, none, some secret⟩] else none

def secretLoader : Loader where
  yaml := readSnippet
  saslprep := some

/-- The snippet that is printed is a user list. -/
example : secretLoader.yaml (HashFormat.yamlSnippet.print "alice" "SCRAM-SHA-256$1:c2FsdA==$a:b") =
    some [⟨"alice", none, some "SCRAM-SHA-256$1:c2FsdA==$a:b"⟩] := by decide +kernel

/-- As on a terminal of another system. -/
def pipedPencil : HashArgs := ⟨4096, .yamlSnippet, some "alice", .stdin "pencil\r\n"⟩

end Sample

theorem printed_secret_opens_pencil :
    ∃ printed, hashCommand Sample.crypto Sample.secretLoader Sample.pipedPencil Sample.salt = .ok printed ∧
      ∃ password user secret v k, readPassword Sample.pipedPencil.input = .ok password ∧ Sample.pipedPencil.names user ∧
        printed = Sample.pipedPencil.format.print user secret ∧ Quotable secret ∧ v.salt = Sample.salt ∧
        v.iterations = Sample.pipedPencil.iterations ∧
        (∀ salts text users name snapshot, Sample.secretLoader.yaml text = some users →
          (⟨name, none, some secret⟩ : RawUser) ∈ users →
          Snapshot.snapshotFromYaml Sample.crypto Sample.secretLoader salts text = .ok snapshot →
          snapshot.users.lookup name = some v) ∧
        (∀ nonce serverNonceBytes name, name ≠ [] →
          ∃ r, exchange Sample.crypto (withPassword (asBytes (Snapshot.preparePassword Sample.secretLoader password)) nonce)
            .scramSha256 [] 0 (.new v none) serverNonceBytes name = .ok r ∧ r.verified = true ∧
            r.extractedClientKey = some k) ∧
        ∀ nonce serverNonceBytes name, name ≠ [] →
          ∃ r, exchange Sample.crypto (captured v k nonce) .scramSha256 v.salt v.iterations (.new v none) serverNonceBytes
            name = .ok r ∧ r.verified = true ∧ r.extractedClientKey = some k := by
  have hpiped : hashCommand Sample.crypto Sample.secretLoader Sample.pipedPencil Sample.salt =
      .ok (HashFormat.yamlSnippet.print "alice"
        (hashPassword Sample.crypto Sample.secretLoader "pencil" Sample.salt 4096)) :=
    hashCommand_ok.mpr ⟨by decide, "pencil", "alice", by decide, by decide, rfl, rfl⟩
  exact ⟨_, hpiped, printed_secret_opens (by decide) hpiped⟩

end Wirechaos
