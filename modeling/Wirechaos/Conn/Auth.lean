/-
  Wirechaos.Conn.Auth — authenticating a client (auth/handler.rs, auth/scram/handler.rs):
  the verifier is looked up, the SASL messages are framed and parsed, and the
  authenticator decides. A rejection is answered here; it never reaches the driver.
-/

import Wirechaos.Auth.Sasl
import Wirechaos.Auth.Scram
import Wirechaos.Conn.Session

namespace Wirechaos

open Text Async Proc

namespace Session

variable (C : Crypto) {V : Type} [VerifierProvider V]

/-- Ask the provider, which is shared with other tasks. -/
def lookup {ε : Type} (user : Str) : Proc (Session V) ε (Except ProviderError (Option Verifier)) := do
  suspend
  let s ← get
  let (answer, provider) := VerifierProvider.lookup s.conn.provider user
  modify fun s => { s with conn := { s.conn with provider } }
  emit (.lookup user answer)
  pure answer

/-- What the user authenticates against: a dummy when there is no such user. -/
def verifierFor (provider : V) (user : Str) : Except ProviderError (Option Verifier) → Except AuthFailure Verifier
  | .ok (some verifier) => .ok verifier
  | .ok none => .ok (VerifierProvider.getDummyVerifier provider user)
  | .error e => .error (.rejected (.provider e))

/-- The certificate hash `-PLUS` is offered for. -/
def scramCertHash (conn : Conn V) : Option CertHash :=
  if conn.sslDone then conn.frontendTls.bind (·.certHash) else none

def sendAuthSasl (mechanics : List Str) : Proc (Session V) AuthFailure Unit :=
  mapErr .internal (sendAuthMessage authSasl (saslMechanismList mechanics))

/-- The body of a password message. -/
def readSaslResponse : Proc (Session V) AuthFailure Bytes := do
  let buf ← mapErr .internal (io (Wire.readExact 1))
  lift (require (buf = [byte 'p']) (rejected (.protocol "Invalid Message")))
  let len ← mapErr mapProxyErrorAuthError readMessageLength
  lift (require (¬ len < 4) (rejected (.protocol "message length too short")))
  let body ← mapErr mapProxyErrorAuthError (readMessageBody len)
  let body ← lift (okOr body (rejected (.protocol "message body empty")))
  emit (.sasl body)
  pure body

def readSaslInitialResponse (mechanics : List Str) : Proc (Session V) AuthFailure (Str × Str) := do
  let body ← readSaslResponse
  lift (parseSaslInitialResponse mechanics body)

def readSaslFinalResponse : Proc (Session V) AuthFailure Str := do
  let body ← readSaslResponse
  lift (parseSaslFinalResponse body)

/-- A step of the authenticator; a refusal ends the exchange. -/
def scramStep : Except ScramError Str × ScramAuthenticator → Except AuthFailure (Str × ScramAuthenticator)
  | (.ok message, scram) => .ok (message, scram)
  | (.error e, _) => .error (rejected e)

def drawServerNonce {ε : Type} : Proc (Session V) ε Key := do
  let s ← get
  modify fun s => { s with drawnNonces := s.drawnNonces + 1 }
  pure (s.world.serverNonces s.drawnNonces)

def saslExchange (scram : ScramAuthenticator) (user : Str) : Proc (Session V) AuthFailure (Option Bytes) := do
  let mechanics := scram.mechanisms
  sendAuthSasl mechanics
  let (chosen, clientFirst) ← readSaslInitialResponse mechanics
  let nonce ← drawServerNonce
  let (serverFirst, scram) ← lift (scramStep (scram.handleClientFirst nonce chosen clientFirst user))
  mapErr .internal (sendAuthMessage authSaslContinue (asBytes serverFirst))
  let clientFinal ← readSaslFinalResponse
  let (serverFinal, scram) ← lift (scramStep (scram.handleClientFinal C clientFinal user))
  mapErr .internal (sendAuthMessage authSaslFinal (asBytes serverFinal))
  mapErr .internal (sendAuthMessage authSaslOk [])
  pure scram.extractedClientKey

def noUserFailure : AuthFailure := rejected (.authenticationFailed "password authentication failed for user")

def handleScramAuth : Proc (Session V) AuthFailure (Option Bytes) := do
  let s ← get
  let user ← lift (okOr (s.conn.user.filter (· ≠ [])) noUserFailure)
  let answer ← lookup user
  let s ← get
  let verifier ← lift (verifierFor s.conn.provider user answer)
  saslExchange C (.new verifier (scramCertHash s.conn)) user

/-- A rejection is answered; the driver sees an internal error only. -/
def answerAuth : Except AuthFailure (Option Bytes) → Proc (Session V) ProxyError (Option Bytes)
  | .ok clientKey => pure clientKey
  | .error (.rejected e) => do
    mapErr .internal (sendErrorMessage e.code e.message)
    pure none
  | .error (.internal e) => throw (.internal e)

def handleAuthentication : Proc (Session V) ProxyError (Option Bytes) := do
  let result ← attempt (handleScramAuth C)
  answerAuth result

end Session

end Wirechaos
