/-
  Wirechaos.Auth.Verifier — what a user authenticates against (auth/verifier.rs).

  The hash functions are parameters (`Crypto`): nothing here depends on what they
  compute, only on the keys having 32 bytes, which `Key` carries. A provider resolves
  a user to a verifier; its state is its own (a cache, a snapshot that a reload
  replaces), so a lookup returns the provider it leaves behind.
-/

import Wirechaos.Lib.Async
import Wirechaos.Lib.Base64
import Wirechaos.Wire.Error

namespace Wirechaos

open Text Async

/-! ## Keys -/

/-- `[u8; 32]`. -/
structure Key where
  bytes : Bytes
  length_eq : bytes.length = 32
  deriving DecidableEq

theorem Key.ext_bytes {k k' : Key} (h : k.bytes = k'.bytes) : k = k' := by
  cases k; cases k'; simp only [Key.mk.injEq]; exact h

def Key.zero : Key := ⟨List.replicate 32 0, by decide⟩

/-- The bytewise exclusive or, as long as the shorter operand. -/
def xorBytes (a b : Bytes) : Bytes := List.zipWith (· ^^^ ·) a b

theorem length_xorBytes {a b : Bytes} (h : a.length = b.length) : (xorBytes a b).length = a.length := by
  rw [xorBytes, List.length_zipWith, h, Nat.min_self]

/-- The proof and the signature determine each other's complement. -/
theorem xorBytes_cancel {a b : Bytes} (h : a.length = b.length) : xorBytes (xorBytes a b) b = a := by
  induction a generalizing b with
  | nil => rfl
  | cons x xs ih =>
    cases b with
    | nil => cases h
    | cons y ys =>
      simp only [List.length_cons, Nat.add_right_cancel_iff] at h
      simp only [xorBytes, List.zipWith_cons_cons] at ih ⊢
      rw [ih h, UInt8.xor_assoc, UInt8.xor_self, UInt8.xor_zero]

/-! ## Hash functions -/

structure Crypto where
  sha256 : Bytes → Key
  hmacSha256 : Bytes → Bytes → Key
  pbkdf2Sha256 : Bytes → Bytes → UInt32 → Key
  /-- The sixteen bytes of an MD5 digest. -/
  md5 : Bytes → Bytes

variable (C : Crypto)

namespace Crypto

/-- The keys of RFC 5802: ClientKey, StoredKey and ServerKey of a salted password. -/
def clientKey (salted : Key) : Key := C.hmacSha256 salted.bytes (asBytes "Client Key")

def serverKey (salted : Key) : Key := C.hmacSha256 salted.bytes (asBytes "Server Key")

def storedKey (salted : Key) : Key := C.sha256 (C.clientKey salted).bytes

end Crypto

/-! ## Verifiers -/

structure Verifier where
  iterations : UInt32
  salt : Bytes
  storedKey : Key
  serverKey : Key
  /-- Present only for a `password:` entry. -/
  password : Option Bytes
  isDummy : Bool
  deriving DecidableEq

namespace Verifier

def fromPassword (password salt : Bytes) (iterations : UInt32) : Verifier :=
  let salted := C.pbkdf2Sha256 password salt iterations
  { iterations, salt, storedKey := C.storedKey salted, serverKey := C.serverKey salted
    password := some password, isDummy := false }

def dummy (username : Str) (clusterNonce : Key) : Verifier :=
  let digest := C.sha256 (asBytes username ++ clusterNonce.bytes)
  { iterations := 4096, salt := digest.bytes.take 16, storedKey := .zero, serverKey := .zero
    password := none, isDummy := true }

/-! ## PostgreSQL secrets -/

inductive SecretFormatError where
  | unsupportedScheme
  | md5
  | badSyntax
  | iterations
  | iterationsTooLow
  | base64 (field : Str)
  | keyLength (field : Str)
  | saltTooShort
  deriving DecidableEq, Repr

def minIterations : Nat := 4096

/-- Standard base64, padded or not. -/
def decodeB64 (input : Str) : Option Bytes :=
  (Base64.decode Base64.standard input).or (Base64.decodeRaw Base64.standard input)

def decodeKey (b64 field : Str) : Except SecretFormatError Key :=
  match decodeB64 b64 with
  | none => .error (.base64 field)
  | some bytes => if h : bytes.length = 32 then .ok ⟨bytes, h⟩ else .error (.keyLength field)

def fromPgSecret (secret : Str) : Except SecretFormatError Verifier := do
  require (startsWith "md5" secret = false) .md5
  let rest ← okOr (stripPrefix "SCRAM-SHA-256$" secret) .unsupportedScheme
  let (itersAndSalt, keys) ← okOr (splitOnce '$' rest) .badSyntax
  let (iterations, salt) ← okOr (splitOnce ':' itersAndSalt) .badSyntax
  let (storedKey, serverKey) ← okOr (splitOnce ':' keys) .badSyntax
  let iterations ← okOr (parseUint 32 iterations) .iterations
  require (minIterations ≤ iterations) .iterationsTooLow
  let salt ← okOr (decodeB64 salt) (.base64 "salt")
  let storedKey ← decodeKey storedKey "StoredKey"
  let serverKey ← decodeKey serverKey "ServerKey"
  require (8 ≤ salt.length) .saltTooShort
  return { iterations := UInt32.ofNat iterations, salt, storedKey, serverKey, password := none, isDummy := false }

def toPgSecret (v : Verifier) : Str :=
  "SCRAM-SHA-256$".toList ++ decimal v.iterations.toNat ++ ':' :: Base64.encode Base64.standard v.salt ++
    '$' :: Base64.encode Base64.standard v.storedKey.bytes ++ ':' :: Base64.encode Base64.standard v.serverKey.bytes

end Verifier

/-! ## Providers -/

/-- A source of verifiers. `lookup` answers with a verifier, with no such user, or with
    a store fault. -/
class VerifierProvider (V : Type) where
  lookup : V → Str → Except ProviderError (Option Verifier) × V
  getDummyVerifier : V → Str → Verifier
  /-- What stands in for an unknown user authenticates nobody. -/
  isDummy_getDummyVerifier : ∀ p user, (getDummyVerifier p user).isDummy = true

end Wirechaos
