/-
  Wirechaos.Auth.Scram — the server role of SCRAM-SHA-256 (auth/scram/scram_authenticator.rs).

  One authenticator serves one exchange: a client-first, then a client-final. Every
  method takes the authenticator and returns it next to the result, because what was
  written before an error stays written.
-/

import Wirechaos.Auth.Verifier
import Wirechaos.Wire.Tls

namespace Wirechaos

open Text Async

namespace Scram

inductive State where
  | started
  | clientFirstReceived
  | done
  deriving DecidableEq, Repr

/-- The message every malformed SCRAM message is rejected with. -/
def malformed : ScramError := .protocol "malformed SCRAM message"

def scramSha256 : Str := "SCRAM-SHA-256"
def plus : Str := "-PLUS"

/-- A message is its attributes, separated by commas. -/
def attributes (message : Str) : List Str := message.splitOn ','

/-! ## Client-first -/

/-- `splitn(3, ',')`: the GS2 flag, the authorization identity and the bare message. -/
def extractDataFromClientFirst (clientFirst : Str) : Except ScramError (Str × Str × Str) := do
  let (flag, rest) ← okOr (splitOnce ',' clientFirst) malformed
  let (authzidPart, bare) ← okOr (splitOnce ',' rest) malformed
  return (flag, authzidPart, bare)

def validateAuthzidPart (authzidPart : Str) : Except ScramError Unit :=
  if startsWith "a=" authzidPart ∧ byteLen authzidPart > 2 then
    .error (.protocol "client uses authorization identity, but it is not supported ")
  else if authzidPart ≠ [] ∧ ¬ startsWith "a=" authzidPart then .error malformed
  else .ok ()

/-- GS2 flag rules for a client that selected `SCRAM-SHA-256`. -/
def validateGs2FlagForScram (certHash : Option CertHash) (flag : Str) : Except ScramError Unit :=
  if flag = "n" then .ok ()
  else if flag = "y" then
    if certHash.isSome then .error .channelBindingDowngrade else .ok ()
  else if startsWith "p=" flag then
    .error (.protocol "client requested channel binding, but SCRAM-SHA-256-PLUS was not offered")
  else .error malformed

/-- GS2 flag rules for a client that selected `SCRAM-SHA-256-PLUS`. -/
def validateGs2FlagForPlus (flag : Str) : Except ScramError Unit :=
  if flag = "p=tls-server-end-point" then .ok ()
  else if flag = "n" ∨ flag = "y" then
    .error (.protocol "SCRAM-SHA-256-PLUS selected without channel binding data")
  else if startsWith "p=" flag then .error (.protocol "unsupported channel binding type")
  else .error malformed

/-- The last `r=` attribute, or nothing. -/
def clientNonceOf (bare : Str) : Str :=
  (attributes bare).foldl (fun nonce attr => (stripPrefix "r=" attr).getD nonce) []

/-! ## Client-final -/

structure FinalAttrs where
  cbind : Option Str
  nonce : Option Str
  proofB64 : Option Str
  deriving DecidableEq, Repr

/-- One `if let` of the attribute loop: a repeated attribute is malformed. -/
def setOnce (name attr : Str) (slot : Option Str) : Except ScramError (Option Str) :=
  match stripPrefix name attr with
  | none => .ok slot
  | some v => if slot.isSome then .error malformed else .ok (some v)

def FinalAttrs.collect (attrs : FinalAttrs) (attr : Str) : Except ScramError FinalAttrs := do
  let cbind ← setOnce "c=" attr attrs.cbind
  let nonce ← setOnce "r=" attr attrs.nonce
  let proofB64 ← setOnce "p=" attr attrs.proofB64
  return { cbind, nonce, proofB64 }

def collectAttrs (attrs : List Str) : Except ScramError FinalAttrs :=
  attrs.foldlM FinalAttrs.collect ⟨none, none, none⟩

def authenticationFailed (user : Str) : ScramError :=
  .authenticationFailed ("password authentication failed for user \"".toList ++ user ++ "\"".toList)

end Scram

open Scram

structure ScramAuthenticator where
  verifier : Verifier
  state : Scram.State
  clientNonce : Str
  combinedNonce : Str
  clientFirstBare : Str
  serverFirst : Str
  gs2Header : Str
  extractedClientKey : Option Bytes
  choosedMechanism : Str
  /-- `some` when the connection is TLS and its certificate has a hash. -/
  certHash : Option CertHash
  deriving DecidableEq

namespace ScramAuthenticator

variable (C : Crypto)

def new (verifier : Verifier) (certHash : Option CertHash) : ScramAuthenticator :=
  { verifier, state := .started, clientNonce := [], combinedNonce := [], clientFirstBare := [], serverFirst := []
    gs2Header := [], extractedClientKey := none, choosedMechanism := [], certHash }

def mechanisms (a : ScramAuthenticator) : List Str :=
  if a.certHash.isSome then [plus, scramSha256] else [scramSha256]

def validateParams (a : ScramAuthenticator) (mechanism startupUser : Str) : Except ScramError Unit := do
  require (a.state = .started) malformed
  require (startupUser ≠ []) (.protocol "startup user must not be empty")
  require (mechanism ∈ a.mechanisms) (.protocol ("unsupported SASL mechanism: ".toList ++ mechanism))

def validateGs2Flag (a : ScramAuthenticator) (mechanism flag : Str) : Except ScramError Unit :=
  if mechanism = scramSha256 then validateGs2FlagForScram a.certHash flag
  else if mechanism = plus then validateGs2FlagForPlus flag
  else .error malformed

/-- The checks of `handle_client_first` before its first write. -/
def checkClientFirst (a : ScramAuthenticator) (mechanism clientFirst startupUser : Str) :
    Except ScramError (Str × Str × Str) := do
  a.validateParams mechanism startupUser
  let (flag, authzidPart, bare) ← extractDataFromClientFirst clientFirst
  a.validateGs2Flag mechanism flag
  validateAuthzidPart authzidPart
  return (flag, authzidPart, bare)

/-- The server-first over a combined nonce. -/
def serverFirstMessage (v : Verifier) (combinedNonce : Str) : Str :=
  "r=".toList ++ combinedNonce ++ ",s=".toList ++ Base64.encode Base64.standard v.salt ++ ",i=".toList ++
    decimal v.iterations.toNat

/-- `serverNonceBytes` is what the random generator fills in. -/
def handleClientFirst (a : ScramAuthenticator) (serverNonceBytes : Key) (mechanism clientFirst startupUser : Str) :
    Except ScramError Str × ScramAuthenticator :=
  match a.checkClientFirst mechanism clientFirst startupUser with
  | .error e => (.error e, a)
  | .ok (flag, authzidPart, bare) =>
    let a := { a with gs2Header := flag ++ ',' :: authzidPart ++ [','] }
    let clientNonce := clientNonceOf bare
    if clientNonce = [] then (.error malformed, a)
    else
      let serverNonce := Base64.encode Base64.standard serverNonceBytes.bytes
      let combinedNonce := clientNonce ++ '-' :: serverNonce
      let serverFirst := serverFirstMessage a.verifier combinedNonce
      (.ok serverFirst,
        { a with clientNonce, combinedNonce, clientFirstBare := bare, serverFirst
                 state := .clientFirstReceived, choosedMechanism := mechanism })

/-- The `c=` value the client must have sent for this exchange. -/
def expectedCbind (a : ScramAuthenticator) : Str :=
  if a.choosedMechanism = plus then
    match a.certHash with
    | some certHash => certHash.expectedC
    | none => Base64.encode Base64.standard (asBytes a.gs2Header)
  else Base64.encode Base64.standard (asBytes a.gs2Header)

def channelBindingError (a : ScramAuthenticator) : ScramError :=
  if a.choosedMechanism = plus then .channelBindingMismatch else malformed

/-- The message both signatures are over: everything before the last `,p=` is signed. -/
def authMessage (a : ScramAuthenticator) (clientFinal : Str) : Option Str :=
  (rfind ",p=" clientFinal).map fun proofStart =>
    a.clientFirstBare ++ ',' :: a.serverFirst ++ ',' :: clientFinal.take proofStart

/-- The checks of `handle_client_final`: the recovered client key and the message it
    was recovered from. -/
def checkClientFinal (a : ScramAuthenticator) (clientFinal user : Str) : Except ScramError (Bytes × Str) := do
  let attrs ← collectAttrs (attributes clientFinal)
  let cbind ← okOr attrs.cbind malformed
  let nonce ← okOr attrs.nonce malformed
  let proofB64 ← okOr attrs.proofB64 malformed
  require (asBytes cbind = asBytes a.expectedCbind) a.channelBindingError
  require (nonce = a.combinedNonce) malformed
  require (startsWith a.clientNonce nonce = true) malformed
  let authMessage ← okOr (a.authMessage clientFinal) malformed
  let proof ← okOr (Base64.decode Base64.standard proofB64) malformed
  require (proof.length = 32) malformed
  let clientSig := C.hmacSha256 a.verifier.storedKey.bytes (asBytes authMessage)
  let recoveredClientKey := xorBytes proof clientSig.bytes
  require (C.sha256 recoveredClientKey = a.verifier.storedKey) (authenticationFailed user)
  -- an unknown user is refused only after all the hashing
  require (a.verifier.isDummy = false) (authenticationFailed user)
  return (recoveredClientKey, authMessage)

/-- The server-final over the signed message. -/
def serverFinalMessage (v : Verifier) (authMessage : Str) : Str :=
  "v=".toList ++ Base64.encode Base64.standard (C.hmacSha256 v.serverKey.bytes (asBytes authMessage)).bytes

def handleClientFinal (a : ScramAuthenticator) (clientFinal user : Str) : Except ScramError Str × ScramAuthenticator :=
  if a.state ≠ .clientFirstReceived then (.error malformed, a)
  else
    let a := { a with state := .done }
    match checkClientFinal C a clientFinal user with
    | .error e => (.error e, a)
    | .ok (recoveredClientKey, authMessage) =>
      (.ok (serverFinalMessage C a.verifier authMessage), { a with extractedClientKey := some recoveredClientKey })

end ScramAuthenticator

end Wirechaos
