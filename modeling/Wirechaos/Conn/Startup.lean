/-
  Wirechaos.Conn.Startup — the startup phase of a connection (conn.rs): the encryption
  and cancel requests, the StartupMessage, the link to the backend, and the driver that
  reads packets until the session is ready or over.
-/

import Wirechaos.Conn.Auth

namespace Wirechaos

open Text Async Proc

inductive StartupOutCome where
  | continued
  | ready
  | close
  deriving DecidableEq, Repr

def gssencRequestCode : UInt32 := 80877104

namespace Session

variable (C : Crypto) {V : Type} [VerifierProvider V]

/-! ## Encryption requests -/

/-- The handshake takes what is still in the socket; what was buffered is dropped. -/
def promoteToTls : Proc (Session V) ProxyError Unit := do
  let s ← get
  let reader := s.conn.wire.reader.inner
  let writer := s.conn.wire.writer.inner
  modify fun s => { s with conn := { s.conn with wire := { s.conn.wire with
    reader := { buf := [], inner := { transport := .empty, chunks := [] } }
    writer := { buf := [], inner := .empty } } } }
  lift (require (reader.transport = .plain) (connectionError .invalidData))
  lift (require (writer = .plain) (connectionError .invalidData))
  let tls ← lift (okOr s.conn.frontendTls (.internal (.text "TLS acceptor not set")))
  let _ ← mapErr .internal (io Wire.await)
  let chunks ← lift (okOr (tls.acceptor reader.chunks) (.internal .io))
  modify fun s => { s with conn := { s.conn with wire := { s.conn.wire with
    reader := { buf := [], inner := { transport := .tls, chunks } }
    writer := { buf := [], inner := .tls } } } }

def handleSslRequest : Proc (Session V) ProxyError Unit := do
  let s ← get
  lift (require (s.conn.sslDone = false) (connectionError .tlsAlreadyDone))
  modify fun s => { s with conn := { s.conn with sslDone := true } }
  if s.conn.frontendTls.isSome then
    writeReply (byte 'S')
    promoteToTls
  else writeReply (byte 'N')

def handleGssncRequest : Proc (Session V) ProxyError Unit := do
  let s ← get
  lift (require (s.conn.gssDone = false) (connectionError .gssAlreadyDone))
  modify fun s => { s with conn := { s.conn with gssDone := true } }
  writeReply (byte 'N')

/-! ## Cancel requests -/

/-- The process id and the secret of a CancelRequest. -/
def parseCancelRequest (message : MessageReader) : Except ProxyError SessionKeySecret := do
  require (message.remaining = 8) (connectionError .invalidMessageLength)
  let (pid, message) := message.readU32
  let pid ← pid
  let (secret, _) := message.readU32
  let secret ← secret
  return { key := pid.toInt32, secret := secret.toInt32 }

/-- A cancel that cannot be forwarded is dropped: the client gets no answer either way. -/
def forwardCancel (backend : Option Backend) : Proc (Session V) ProxyError Unit :=
  match backend.bind (·.backendKey) with
  | none => pure ()
  | some key => do
    modify interfere
    let _ ← attempt (zoom (fun s => s.cancelWire) (fun s w => { s with cancelWire := w }) (Backend.sendCancelRequest key))
    pure ()

def handleCancelRequest (message : MessageReader) : Proc (Session V) ProxyError Unit := do
  let key ← lift (parseCancelRequest message)
  let s ← get
  forwardCancel (s.conn.backendRegistry.lookupByKey key)

/-! ## The parameters of a StartupMessage -/

/-- The settings of the `options` string are merged over the others; it may not change
    the replication mode. -/
def mergeOptions (params : Params) : Except ProxyError Params :=
  match params.get "options" with
  | none => .ok params
  | some value => do
    let parsed ← parseOptions value
    return (params.extend (parsed.erase "replication")).erase "options"

def startupUser (params : Params) : Except ProxyError Str :=
  okOr ((params.get "user").filter (· ≠ [])) (connectionError .missingUser)

/-- An absent or empty database is the user's own. -/
def startupDatabase (params : Params) (user : Str) : Str := ((params.get "database").filter (· ≠ [])).getD user

def startupReplication (params : Params) (mode : ReplicationMode) : Except ProxyError ReplicationMode :=
  match params.get "replication" with
  | some value => parseReplicationMode value
  | none => .ok mode

/-- The part of `handle_startup_packet` before authentication. -/
def applyStartupParams (message : MessageReader) : Proc (Session V) ProxyError Unit := do
  let s ← get
  let (sawTerminator, message, params) := readParams message s.conn.params
  modify fun s => { s with conn := { s.conn with params } }
  let sawTerminator ← lift sawTerminator
  lift (require (sawTerminator = true ∧ message.remaining = 0) (connectionError .invalidStartupLayout))
  let params ← lift (mergeOptions params)
  modify fun s => { s with conn := { s.conn with params } }
  let user ← lift (startupUser params)
  modify fun s => { s with conn := { s.conn with user := some user, database := some (startupDatabase params user) } }
  let replicationMode ← lift (startupReplication params s.conn.replicationMode)
  modify fun s => { s with conn := { s.conn with replicationMode } }

/-! ## The link to the backend -/

/-- The entry the second lookup must find. -/
def linkVerifier : Except ProviderError (Option Verifier) → Except ProxyError Verifier
  | .ok (some verifier) => .ok verifier
  | .ok none => .error (connectionError .invalidState)
  | .error e => .error (.internal (.provider e))

def backendTls (config : Config) (host : Str) : BackendTlsConfig :=
  let tls := config.backend.tls
  if tls.domain.isNone then { tls with domain := config.backend.tlsServerName host } else tls

/-- The parameters in the order in which the map is iterated. -/
def startupParamList (order : IterOrder) (params : Params) : List (Str × Str) :=
  (order.run params.entries).map fun e => (e.1, e.2)

def pgConfig (s : Session V) (clientKey : Bytes) (user database : Str) (verifier : Verifier) (host : Str) (port : Nat) :
    PgConfig :=
  { clientKey := some clientKey, serverKey := some verifier.serverKey.bytes
    storedKey := some verifier.storedKey.bytes, password := verifier.password, user, database
    connectTimeoutMs := s.conn.config.backend.connectTimeoutMs
    startupTimeoutMs := s.conn.config.backend.startupTimeoutMs, host, port, tls := backendTls s.conn.config host
    salt := verifier.salt, iterations := verifier.iterations
    startupParams := startupParamList s.world.order s.conn.params }

def openLink (config : PgConfig) : Proc (Session V) PgError Backend := do
  let s ← get
  emit (.connect config)
  let backend ← zoom (fun s => PgClient.fresh s.conn.pool s.world.link) (fun s _ => s)
    (Backend.new C s.world.link config)
  modify interfere
  pure backend

/-- Mint a cancel key and put the session into the registry under it. -/
def registerBackend (backend : Backend) : Proc (Session V) ProxyError Unit := do
  let s ← get
  let (registered, drawnWords, backendRegistry) :=
    Registry.registerFresh s.world.rng backend s.conn.connId 64 s.drawnWords s.conn.backendRegistry
  modify fun s => { s with drawnWords, conn := { s.conn with backendRegistry } }
  let (sessionKeySecret, guard) ← lift (okOr registered (connectionError .invalidState))
  modify fun s => { s with conn := { s.conn with
    serverSignatureVerified := backend.serverSignatureVerified, backend := some backend
    sessionKeySecret := some sessionKeySecret, sessionGuard := some guard } }

def notificationMessage : StartupNotification → UInt8 × Bytes
  | .parameterStatus name value => (byte 'S', putCstr name ++ putCstr value)
  | .notice body => (byte 'N', body)

def sendNotifications : List StartupNotification → Proc (Session V) ProxyError Unit
  | [] => pure ()
  | notification :: rest => do
    mapErr .internal (writeMessage (notificationMessage notification).1 (notificationMessage notification).2)
    sendNotifications rest

def sendStartupNotifications : Proc (Session V) ProxyError Unit := do
  let s ← get
  let backend ← lift (okOr s.conn.backend (connectionError .invalidData))
  sendNotifications backend.startupNotifications

def sendKeySecret : Proc (Session V) ProxyError Unit := do
  let s ← get
  let secret ← lift (okOr s.conn.sessionKeySecret (connectionError .invalidState))
  mapErr .internal (writeMessage (byte 'K') (beBytes secret.key.toUInt32 ++ beBytes secret.secret.toUInt32))

def sendReadySignal : Proc (Session V) ProxyError Unit := do
  let s ← get
  let status := (s.conn.backend.map (·.readyStatus)).getD (byte 'I')
  mapErr .internal (writeMessage (byte 'Z') [status])

def startSession (backend : Backend) : Proc (Session V) ProxyError StartupOutCome := do
  registerBackend backend
  sendStartupNotifications
  sendKeySecret
  sendReadySignal
  pure .ready

/-- Authenticate to the backend with the client's key and the entry of the second lookup. -/
def linkBackend (clientKey : Bytes) (user database : Str) (answer : Except ProviderError (Option Verifier)) :
    Proc (Session V) ProxyError StartupOutCome := do
  let verifier ← lift (linkVerifier answer)
  let s ← get
  let (host, port) ← lift (s.conn.config.backendHostPort.mapError ProxyError.internal)
  let backend ← mapErr ProxyError.ofPg (openLink C (pgConfig s clientKey user database verifier host port))
  startSession backend

/-- The part of `handle_startup_packet` after authentication. -/
def openBackend (clientKey : Bytes) : Proc (Session V) ProxyError StartupOutCome := do
  let s ← get
  let user ← lift (okOr s.conn.user (connectionError .invalidState))
  let database ← lift (okOr s.conn.database (connectionError .invalidState))
  let answer ← lookup user
  linkBackend C clientKey user database answer

/-- A client that was rejected has its ErrorResponse by now. -/
def proceed : Option Bytes → Proc (Session V) ProxyError StartupOutCome
  | none => pure .close
  | some clientKey => openBackend C clientKey

/-! ## The driver -/

def handleStartupPacket (protocolVersion : UInt32) (message : MessageReader) :
    Proc (Session V) ProxyError StartupOutCome := do
  let s ← get
  emit (.startup s.conn.wire.reader.inner.transport s.conn.wire.writer.inner)
  modify fun s => { s with conn := { s.conn with protocolVersion := some protocolVersion } }
  applyStartupParams message
  let clientKey ← handleAuthentication C
  proceed C clientKey

def unsupportedProtocolMessage (version : UInt32) : Str :=
  "unsupported frontend protocol ".toList ++ decimal (version >>> 16).toNat ++ ".".toList ++
    decimal (version &&& 0xffff).toNat ++ ": server supports 3.0 to 3.0".toList

def dispatch (code : UInt32) (message : MessageReader) : Proc (Session V) ProxyError StartupOutCome := do
  if code = sslRequestCode then
    handleSslRequest
    pure .continued
  else if code = gssencRequestCode then
    handleGssncRequest
    pure .continued
  else if code = cancelRequestCode then
    handleCancelRequest message
    pure .close
  else if code = PgClient.protocolVersionNumber then
    let s ← get
    lift (require (s.conn.requiredTls = true → s.conn.sslDone = true) (connectionError .tlsRequired))
    handleStartupPacket C code message
  else throw (protocolError "0A000" (unsupportedProtocolMessage code))

def handleStartup : Proc (Session V) ProxyError StartupOutCome := do
  let body ← readStartupPacket
  emit (.packet body)
  let (code, message) := (MessageReader.new body).readU32
  let code ← lift code
  dispatch C code message

/-- The loop, with fuel for its packets. -/
def driveFrom : Nat → Proc (Session V) InternalError Unit
  | 0 => pure ()
  | fuel + 1 => do
    match ← attempt (handleStartup C) with
    | .ok .continued => driveFrom fuel
    | .ok .ready => pure ()
    | .ok .close => pure ()
    | .error (.internal e) => throw e
    | .error (.connectionError e) => sendErrorMessage e.code e.message

/-- Each encryption request is answered once, so that the third packet is the last. -/
def driveStartupUntilReady : Proc (Session V) InternalError Unit := driveFrom C 3

def tryAcquire : Proc (Session V) InternalError Bool := do
  let s ← get
  if s.conn.connRegistry.live ≥ s.conn.connRegistry.max then pure false
  else
    modify fun s => { s with
      conn := { s.conn with connRegistry := { s.conn.connRegistry with live := s.conn.connRegistry.live + 1 } } }
    pure true

def releasePermit (s : Session V) : Session V :=
  { s with conn := { s.conn with connRegistry := { s.conn.connRegistry with live := s.conn.connRegistry.live - 1 } } }

def authenticate : Proc (Session V) InternalError Unit := do
  match ← timeout (driveStartupUntilReady C) with
  | some (.ok ()) => pure ()
  | some (.error e) => throw e
  | none => sendErrorMessage ConnectionErrorInner.authTimeout.code ConnectionErrorInner.authTimeout.message

def handle : Proc (Session V) InternalError Unit := do
  let acquired ← tryAcquire
  if acquired then ensure (authenticate C) releasePermit
  else sendErrorMessage ConnectionErrorInner.tooManyRequest.code ConnectionErrorInner.tooManyRequest.message

end Session

end Wirechaos
