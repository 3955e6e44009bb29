/-
  Wirechaos.Backend.Link — opening a link to the backend: TCP, TLS as the mode asks for
  it, the startup handshake (`PgClient::connect` and `try_tls` in backend/pg_client.rs,
  `Backend` in backend/mod.rs) and the registry of live backends (backend/registry.rs,
  backend/session_key_secret.rs).

  What is outside the program is in `LinkEnv`: what the server sends, how every wait
  ends, the TLS library's answers and the client nonces.
-/

import Mathlib.Data.List.AList
import Wirechaos.Backend.PgClient

namespace Wirechaos

open Text Async Proc

structure LinkEnv where
  /-- What the server sends on a new connection. -/
  chunks : List Bytes
  sched : Nat → Await
  /-- `ServerName::try_from` accepts the name. -/
  validServerName : Str → Bool
  /-- `build_tls_config`: the error it ends with, if any. -/
  tlsConfigError : BackendTlsConfig → Option Str
  /-- The TLS handshake over the bytes still to come: what arrives in the tunnel and the
      hash of the peer's certificate, if it has a defined one. -/
  connector : BackendTlsConfig → Str → List Bytes → Option (List Bytes × Option CertHash)
  nonces : Nat → NonceBytes

def sslRequestCode : UInt32 := 80877103
def cancelRequestCode : UInt32 := 80877102

namespace PgClient

variable (C : Crypto)

/-- A socket before anything is sent on it. -/
def fresh (pool : MultiBufferPool) (env : LinkEnv) : PgClient :=
  { pool
    wire :=
      { reader := { buf := [], inner := { transport := .plain, chunks := env.chunks } }
        writer := { buf := [], inner := .plain }, sent := [], sched := env.sched, tick := 0 }
    startupNotifications := [], backendKey := none, readyStatus := none, serverSignatureVerified := false
    peerCertHash := none, nonces := env.nonces, drawn := 0, log := [] }

/-- The SSLRequest, and whether the one-byte answer was yes. -/
def requestTls : Proc Wire IoError Bool := do
  Wire.writeAllRaw (beBytes 8)
  Wire.writeAllRaw (beBytes sslRequestCode)
  let answer ← Wire.readByteRaw
  pure (decide (answer = byte 'S'))

def noTlsMessage : Str := "backend does not support TLS, but the configured tls mode requires it"

def invalidServerNameMessage (config : PgConfig) : Str :=
  "invalid backend TLS server name for Some(".toList ++ debugStr config.tlsServerName ++ ")".toList

/-- The link runs on in the tunnel, with new buffers. -/
def promote (chunks : List Bytes) (certHash : Option CertHash) (c : PgClient) : PgClient :=
  { c with
    wire := { c.wire with
      reader := { buf := [], inner := { transport := .clientTls, chunks } }
      writer := { buf := [], inner := .clientTls } }
    peerCertHash := certHash }

def connectTls (env : LinkEnv) (config : PgConfig) : Proc PgClient PgError Unit := do
  lift (require (env.validServerName config.tlsServerName = true) (.tls (invalidServerNameMessage config)))
  lift (match env.tlsConfigError config.tls with
    | some message => .error (.tls message)
    | none => .ok ())
  let _ ← within .tlsTimeout Wire.await
  let c ← get
  let (chunks, certHash) ← lift (okOr (env.connector config.tls config.tlsServerName c.wire.reader.inner.chunks) .io)
  modify (promote chunks certHash)

def tryTls (env : LinkEnv) (config : PgConfig) : Proc PgClient PgError Unit := do
  if config.tls.mode = .disable then pure ()
  else
    let serverSupportsTls ← within .tlsTimeout requestTls
    if serverSupportsTls then connectTls env config
    else if config.tls.mode = .prefer then pure ()
    else throw (.tls noTlsMessage)

def connect (env : LinkEnv) (config : PgConfig) : Proc PgClient PgError Unit := do
  let _ ← within .connectTimeout Wire.await
  tryTls env config
  writeStartupMessage config
  match ← timeout (handleStartupHandshake C config) with
  | none => throw .startupTimeout
  | some (.error e) => throw e
  | some (.ok ()) => pure ()

end PgClient

/-! ## The backend of a session -/

structure Backend where
  startupNotifications : List StartupNotification
  backendKey : Option BackendKeyData
  readyStatus : UInt8
  serverSignatureVerified : Bool
  host : Str
  port : Nat
  connectTimeoutMs : Nat
  deriving DecidableEq

namespace Backend

def ofClient (config : PgConfig) (client : PgClient) : Backend :=
  { startupNotifications := client.startupNotifications, backendKey := client.backendKey
    readyStatus := client.readyStatus.getD (byte 'I'), serverSignatureVerified := client.serverSignatureVerified
    host := config.host, port := config.port, connectTimeoutMs := config.connectTimeoutMs }

/-- `Backend::new` as an operation of the client it makes. -/
def new (C : Crypto) (env : LinkEnv) (config : PgConfig) : Proc PgClient PgError Backend := do
  PgClient.connect C env config
  let client ← get
  pure (ofClient config client)

def cancelPacket (key : BackendKeyData) : Bytes :=
  beBytes 16 ++ beBytes cancelRequestCode ++ beBytes key.pid.toUInt32 ++ beBytes key.secret.toUInt32

/-- Forward a CancelRequest on a connection of its own. -/
def sendCancelRequest (key : BackendKeyData) : Proc Wire PgError Unit := do
  match ← timeout Wire.await with
  | none => throw .connectTimeout
  | some (.error _) => throw .io
  | some (.ok _) => pure ()
  mapErr (fun _ => .io) (do
    Wire.writeAllRaw (cancelPacket key)
    let _ ← Wire.await
    pure ())

end Backend

/-! ## The registry -/

structure SessionKeySecret where
  key : Int32
  secret : Int32
  deriving DecidableEq

namespace SessionKeySecret

/-- The tries of `SessionKeySecret::new` on a stream of random words; the pair and how
    many words it took. -/
def mintFrom (rng : Nat → Int32) : Nat → Nat → SessionKeySecret × Nat
  | 0, drawn => (⟨rng drawn, rng (drawn + 1) ||| 1⟩, drawn + 2)
  | tries + 1, drawn =>
    if rng (drawn + 1) ≠ 0 then (⟨rng drawn, rng (drawn + 1)⟩, drawn + 2) else mintFrom rng tries (drawn + 2)

def mint (rng : Nat → Int32) (drawn : Nat) : SessionKeySecret × Nat := mintFrom rng 64 drawn

end SessionKeySecret

structure Registry where
  connBackend : AList (fun _ : Int32 => Backend)
  keySecretBackend : AList (fun _ : SessionKeySecret => Backend)

structure SessionGuard where
  connId : Int32
  key : SessionKeySecret
  deriving DecidableEq

namespace Registry

/-- A key that is taken is reported, not overwritten. -/
def register (r : Registry) (backend : Backend) (connId : Int32) (keySecret : SessionKeySecret) :
    Except SessionKeySecret SessionGuard × Registry :=
  if keySecret ∈ r.keySecretBackend then (.error keySecret, r)
  else (.ok ⟨connId, keySecret⟩,
    { connBackend := r.connBackend.insert connId backend
      keySecretBackend := r.keySecretBackend.insert keySecret backend })

/-- `SessionGuard::drop`: the key goes if the connection was still there. -/
def release (r : Registry) (guard : SessionGuard) : Registry :=
  if guard.connId ∈ r.connBackend then
    { connBackend := r.connBackend.erase guard.connId
      keySecretBackend := r.keySecretBackend.erase guard.key }
  else r

def lookupByKey (r : Registry) (key : SessionKeySecret) : Option Backend := r.keySecretBackend.lookup key

/-- Mint a key until one is free, within a number of tries. -/
def registerFresh (rng : Nat → Int32) (backend : Backend) (connId : Int32) :
    Nat → Nat → Registry → Option (SessionKeySecret × SessionGuard) × Nat × Registry
  | 0, drawn, r => (none, drawn, r)
  | tries + 1, drawn, r =>
    let (candidate, drawn) := SessionKeySecret.mint rng drawn
    match r.register backend connId candidate with
    | (.ok guard, r) => (some (candidate, guard), drawn, r)
    | (.error _, r) => registerFresh rng backend connId tries drawn r

end Registry

end Wirechaos
