/-
  Wirechaos.Conn.Session — the state of one client connection and its input and output
  (conn.rs, conn_registry.rs, `send_auth_message` in auth/handler.rs).

  A `Session` is a `Conn` in a `World`. The world holds what the program does not
  decide: what other tasks do to the shared stores and registries whenever this one is
  suspended (`others`), the random draws, the order in which a map is iterated and the
  network. The log says what was read, asked and handed to the writer; nothing reads it.
-/

import Wirechaos.Backend.Link
import Wirechaos.Wire.StartupConfig
import Wirechaos.Wire.Tls

namespace Wirechaos

open Text Async Proc

/-- The count of live connections and its cap. -/
structure ConnRegistry where
  live : Nat
  max : Nat
  deriving DecidableEq, Repr

structure Conn (V : Type) where
  connId : Int32
  /-- `buffer_reader` and `buffer_writer`. -/
  wire : Wire
  pool : MultiBufferPool
  sslDone : Bool
  requiredTls : Bool
  gssDone : Bool
  frontendTls : Option FrontendTls
  protocolVersion : Option UInt32
  params : Params
  user : Option Str
  database : Option Str
  replicationMode : ReplicationMode
  provider : V
  backendRegistry : Registry
  sessionKeySecret : Option SessionKeySecret
  backend : Option Backend
  serverSignatureVerified : Bool
  connRegistry : ConnRegistry
  config : Config
  sessionGuard : Option SessionGuard

/-- What a connection shares with other tasks. -/
structure Shared (V : Type) where
  provider : V
  backendRegistry : Registry
  connRegistry : ConnRegistry

structure World (V : Type) where
  /-- What the other tasks do to the shared state at each suspension. -/
  others : Nat → Shared V → Shared V
  /-- Whether the deadline fires at a suspension that is no input or output. -/
  expires : Nat → Bool
  /-- The bytes of each server nonce. -/
  serverNonces : Nat → Key
  rng : Nat → Int32
  order : IterOrder
  link : LinkEnv

inductive Event where
  /-- A startup packet was read. -/
  | packet (body : Bytes)
  /-- `handle_startup_packet` was entered, over these transports. -/
  | startup (reader writer : Transport)
  | lookup (user : Str) (answer : Except ProviderError (Option Verifier))
  | message (tag : UInt8) (body : Bytes)
  /-- The one-byte answer to an encryption request. -/
  | reply (answer : UInt8)
  /-- A SASL response was read. -/
  | sasl (body : Bytes)
  | connect (config : PgConfig)
  deriving DecidableEq

structure Session (V : Type) where
  conn : Conn V
  world : World V
  suspensions : Nat
  drawnNonces : Nat
  drawnWords : Nat
  /-- The socket of a forwarded CancelRequest. -/
  cancelWire : Wire
  log : List Event

/-- A connection as `Conn::new` makes it; `requiredTls` is set by the parent. -/
structure Fresh {V : Type} (s : Session V) : Prop where
  reader : s.conn.wire.reader.inner.transport = .plain
  writer : s.conn.wire.writer.inner = .plain
  sslDone : s.conn.sslDone = false
  gssDone : s.conn.gssDone = false
  params : s.conn.params = ∅
  user : s.conn.user = none
  database : s.conn.database = none
  replicationMode : s.conn.replicationMode = .off
  log : s.log = []

namespace Session

variable {V : Type}

def emit {ε : Type} (e : Event) : Proc (Session V) ε Unit := modify fun s => { s with log := s.log ++ [e] }

/-- The other tasks run. -/
def interfere (s : Session V) : Session V :=
  let shared := s.world.others s.suspensions ⟨s.conn.provider, s.conn.backendRegistry, s.conn.connRegistry⟩
  { s with
    suspensions := s.suspensions + 1
    conn := { s.conn with
      provider := shared.provider, backendRegistry := shared.backendRegistry, connRegistry := shared.connRegistry } }

/-- Wait for something other than the client; the authentication deadline may fire. -/
def suspend {ε : Type} : Proc (Session V) ε Unit := do
  let s ← get
  modify interfere
  if s.world.expires s.suspensions then drop 0 else pure ()

/-- An operation on the client's connection. -/
def io {α : Type} (x : Proc Wire IoError α) : Proc (Session V) InternalError α := do
  modify interfere
  mapErr (fun _ => .io) (zoom (fun s => s.conn.wire) (fun s w => { s with conn := { s.conn with wire := w } }) x)

/-! ## Reading -/

def parseLength : Bytes → Except ProxyError Nat
  | [a, b, c, d] =>
    let len := (ofBeBytes a b c d).toNat
    if len < 4 then .error (connectionError .invalidMessageLength) else .ok (len - 4)
  | _ => .error (.internal .io)

def readMessageLength : Proc (Session V) ProxyError Nat := do
  let hdr ← mapErr .internal (io (Wire.readExact 4))
  lift (parseLength hdr)

def readMessageBody (length : Nat) : Proc (Session V) ProxyError (Option Bytes) := do
  let s ← get
  if length = 0 then pure none
  else if length > s.conn.pool.maxCapacity then throw (connectionError .messageTooLarge)
  else
    let buf := s.conn.pool.get s.suspensions length
    let bytes ← mapErr .internal (io (Wire.readExact buf.length))
    pure (some (overwrite buf bytes))

def readStartupPacket : Proc (Session V) ProxyError Bytes := do
  let length ← readMessageLength
  let s ← get
  lift (require (length + 4 ≤ s.conn.config.maxStartupBytes) (connectionError .firstMessageTooBig))
  let body ← readMessageBody length
  lift (okOr body (connectionError .emptyMessageBody))

/-! ## Writing -/

/-- The four writes of a message. -/
def writeFrame (messageType : UInt8) (body : Bytes) : Proc (Session V) InternalError Unit := do
  io (Wire.writeAll [messageType])
  io (Wire.writeAll (beBytes (UInt32.ofNat (body.length + 4))))
  io (Wire.writeAll body)
  io Wire.flush

def writeMessage (messageType : UInt8) (body : Bytes) : Proc (Session V) InternalError Unit := do
  emit (.message messageType body)
  writeFrame messageType body

/-- The answer to an encryption request. -/
def writeReply (answer : UInt8) : Proc (Session V) ProxyError Unit := do
  emit (.reply answer)
  mapErr .internal (do
    io (Wire.writeAll [answer])
    io Wire.flush)

def prepareErrorBuf (severity code message : Str) : Bytes :=
  byte 'S' :: putCstr severity ++ byte 'V' :: putCstr severity ++ byte 'C' :: putCstr code ++
    byte 'M' :: putCstr message ++ [0]

def sendErrorMessage (code message : Str) : Proc (Session V) InternalError Unit :=
  writeMessage (byte 'E') (prepareErrorBuf "FATAL" code message)

def sendAuthMessage (subCode : UInt32) (data : Bytes) : Proc (Session V) InternalError Unit :=
  writeMessage (byte 'R') (beBytes subCode ++ data)

end Session

end Wirechaos
