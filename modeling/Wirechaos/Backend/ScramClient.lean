/-
  Wirechaos.Backend.ScramClient — the client role of SCRAM-SHA-256(-PLUS)
  (backend/scram_client.rs).

  The keys come from a password, or from what the frontend exchange captured: then
  they are bound to one salt and iteration count, and any other is refused before a
  proof is made.
-/

import Wirechaos.Auth.Verifier
import Wirechaos.Wire.Tls

namespace Wirechaos

open Text Async

inductive ScramMechanism where
  | sha256
  | sha256Plus
  deriving DecidableEq, Repr

def ScramMechanism.gs2Header : ScramMechanism → Str
  | .sha256 => "n,,"
  | .sha256Plus => "p=tls-server-end-point,,"

/-- The eighteen random bytes of a client nonce. -/
abbrev NonceBytes := { b : Bytes // b.length = 18 }

/-- One `key=value` pair; the key is the first character before the `=`. -/
def parsePair (pair : Str) : Option (Char × Str) :=
  match splitOnce '=' pair with
  | some (c :: _, value) => some (c, value)
  | _ => none

/-- The pairs of a message; collecting them into a map keeps the last of each key. -/
def parseScramKv (msg : Str) : List (Char × Str) := (msg.splitOn ',').filterMap parsePair

def scramKv (msg : Str) (key : Char) : Option Str := (parseScramKv msg).reverse.lookup key

structure ScramClient where
  clientNonce : Str
  authMessage : Str
  clientKey : Option Bytes
  serverKey : Option Bytes
  storedKey : Option Bytes
  password : Option Bytes
  mechanism : ScramMechanism
  /-- The GS2 header and the certificate hash, present only for `-PLUS`. -/
  channelBinding : Option Bytes
  deriving DecidableEq

namespace ScramClient

variable (C : Crypto)

def new (nonce : NonceBytes) (clientKey serverKey storedKey password : Option Bytes) : ScramClient :=
  { clientNonce := Base64.encodeRaw Base64.urlSafe nonce.val, authMessage := [], clientKey, serverKey, storedKey
    password, mechanism := .sha256, channelBinding := none }

def useChannelBinding (c : ScramClient) (cbindInput : Bytes) : ScramClient :=
  { c with mechanism := .sha256Plus, channelBinding := some cbindInput }

def clientFirstBare (c : ScramClient) : Str := "n=,r=".toList ++ c.clientNonce

def clientFirstMessage (c : ScramClient) : Str := c.mechanism.gs2Header ++ c.clientFirstBare

def cbindInput (c : ScramClient) : Bytes := c.channelBinding.getD (asBytes c.mechanism.gs2Header)

/-- A server-first that passed the checks. -/
structure ServerFirst where
  combinedNonce : Str
  salt : Bytes
  iterations : UInt32
  deriving DecidableEq

def readServerFirst (c : ScramClient) (serverFirst : Str) : Except PgError ServerFirst := do
  let combinedNonce ← okOr (scramKv serverFirst 'r') (.auth "Missing nonce ('r') in SCRAM response")
  let saltB64 ← okOr (scramKv serverFirst 's') (.auth "Missing salt ('s') in SCRAM response")
  let iterations ← okOr (scramKv serverFirst 'i') (.auth "Missing iterations ('i') in SCRAM response")
  let iterations ← okOr (parseUint 32 iterations) (.auth "invalid iterations count")
  require (startsWith c.clientNonce combinedNonce = true ∧ byteLen c.clientNonce < byteLen combinedNonce)
    (.auth "Server nonce mismatch")
  let salt ← okOr (Base64.decode Base64.standard saltB64) (.auth "invalid salt encoding")
  return { combinedNonce, salt, iterations := UInt32.ofNat iterations }

structure Keys where
  clientKey : Bytes
  storedKey : Bytes
  serverKey : Option Bytes
  deriving DecidableEq

/-- A password derives keys for any salt; captured keys are bound to theirs. -/
def keys (c : ScramClient) (sf : ServerFirst) (storedSalt : Bytes) (storedIterationCount : UInt32) :
    Except PgError Keys :=
  match c.password with
  | some password =>
    let salted := C.pbkdf2Sha256 password sf.salt sf.iterations
    .ok { clientKey := (C.clientKey salted).bytes, storedKey := (C.storedKey salted).bytes
          serverKey := some (C.serverKey salted).bytes }
  | none => do
    require (sf.salt = storedSalt) .saltMismatch
    require (storedIterationCount = sf.iterations) (.auth "Invalid iteration count")
    let clientKey ← okOr c.clientKey
      (.unsupportedAuth "backend requested SCRAM, but no ClientKey was captured from the client")
    let storedKey ← okOr c.storedKey (.auth "stored SCRAM secret is unavailable")
    return { clientKey, storedKey, serverKey := c.serverKey }

def clientFinalWithoutProof (c : ScramClient) (combinedNonce : Str) : Str :=
  "c=".toList ++ Base64.encode Base64.standard c.cbindInput ++ ",r=".toList ++ combinedNonce

def clientFinalMessage (c : ScramClient) (serverFirst : Str) (storedSalt : Bytes) (storedIterationCount : UInt32) :
    Except PgError Str × ScramClient :=
  match c.readServerFirst serverFirst with
  | .error e => (.error e, c)
  | .ok sf =>
    match c.keys C sf storedSalt storedIterationCount with
    | .error e => (.error e, c)
    | .ok keys =>
      let withoutProof := c.clientFinalWithoutProof sf.combinedNonce
      let authMessage := c.clientFirstBare ++ ',' :: serverFirst ++ ',' :: withoutProof
      let c := { c with authMessage }
      let clientSignature := C.hmacSha256 keys.storedKey (asBytes authMessage)
      if keys.clientKey.length ≠ clientSignature.bytes.length then (.error (.auth "invalid client key length"), c)
      else
        let clientProof := xorBytes keys.clientKey clientSignature.bytes
        (.ok (withoutProof ++ ",p=".toList ++ Base64.encode Base64.standard clientProof),
          { c with serverKey := keys.serverKey })

/-- `false` when there is no server key to verify with; a wrong signature is an error. -/
def verifyServerFinal (c : ScramClient) (serverFinal : Str) : Except PgError Bool :=
  match scramKv serverFinal 'e' with
  | some err => .error (.auth ("SCRAM error: ".toList ++ err))
  | none =>
    match c.serverKey with
    | none => .ok false
    | some serverKey => do
      let serverSigB64 ← okOr (scramKv serverFinal 'v') (.auth "invalid server signature")
      let serverSignature ← okOr (Base64.decode Base64.standard serverSigB64) (.auth "invalid server signature")
      require ((C.hmacSha256 serverKey (asBytes c.authMessage)).bytes = serverSignature)
        (.auth "invalid server signature")
      return true

end ScramClient

end Wirechaos
