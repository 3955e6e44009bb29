/-
  Wirechaos.Backend.PgClient — the client role toward PostgreSQL (backend/pg_client.rs):
  the startup message and the startup handshake with its authentication branches.

  The client keeps a log of the messages it received and of what it answered; nothing
  reads it.
-/

import Wirechaos.Backend.Sasl
import Wirechaos.Backend.ScramClient
import Wirechaos.Wire.Stream

namespace Wirechaos

open Text Async Proc

structure BackendKeyData where
  pid : Int32
  secret : Int32
  deriving DecidableEq

/-- A startup-phase message that must be replayed to the client, in order. -/
inductive StartupNotification where
  | parameterStatus (name value : Str)
  | notice (body : Bytes)
  deriving DecidableEq, Repr

structure PgConfig where
  clientKey : Option Bytes
  serverKey : Option Bytes
  storedKey : Option Bytes
  password : Option Bytes
  user : Str
  database : Str
  connectTimeoutMs : Nat
  startupTimeoutMs : Nat
  host : Str
  port : Nat
  tls : BackendTlsConfig
  salt : Bytes
  iterations : UInt32
  startupParams : List (Str × Str)
  deriving DecidableEq

def PgConfig.tlsServerName (config : PgConfig) : Str := config.tls.domain.getD config.host

/-! ## The log -/

inductive Response where
  | startup
  | cleartext
  | md5
  | saslInitial
  | saslFinal
  deriving DecidableEq, Repr

inductive PgEvent where
  | received (tag : UInt8) (payload : Bytes)
  | wrote (what : Response) (body : Bytes)
  /-- A SCRAM exchange ended well; `signature` is whether `v=` was checked. -/
  | exchanged (mechanism : SaslMechanism) (clientFinal : Str) (signature : Bool)
  deriving DecidableEq, Repr

structure PgClient where
  pool : MultiBufferPool
  wire : Wire
  startupNotifications : List StartupNotification
  backendKey : Option BackendKeyData
  readyStatus : Option UInt8
  serverSignatureVerified : Bool
  peerCertHash : Option CertHash
  /-- What the random generator gives to each exchange. -/
  nonces : Nat → NonceBytes
  drawn : Nat
  log : List PgEvent

namespace PgClient

variable (C : Crypto)

def emit (e : PgEvent) : Proc PgClient PgError Unit := modify fun c => { c with log := c.log ++ [e] }

/-! ## Messages -/

/-- Operations on the connection under one deadline. -/
def within {α : Type} (elapsed : PgError) (x : Proc Wire IoError α) : Proc PgClient PgError α := do
  match ← timeout (zoom PgClient.wire (fun c w => { c with wire := w }) x) with
  | none => throw elapsed
  | some (.error _) => throw .io
  | some (.ok a) => pure a

/-- An operation of the `TimeoutStream`, each under its own deadline. -/
def stream {α : Type} (x : Proc Wire IoError α) : Proc PgClient PgError α := within .startupTimeout x

def writeRaw (bytes : Bytes) : Proc PgClient PgError Unit := do
  stream (Wire.writeAll bytes)
  stream Wire.flush

def writeMessage (what : Response) (tag : UInt8) (body : Bytes) : Proc PgClient PgError Unit := do
  emit (.wrote what body)
  writeRaw (frame tag body)

/-- The tag and the length of the body. -/
def parseHeader : Bytes → Except PgError (UInt8 × Nat)
  | [tag, a, b, c, d] =>
    let len := (ofBeBytes a b c d).toInt32.toInt
    if len < 4 then .error (.protocol ("invalid frame length: ".toList ++ decimalInt len)) else .ok (tag, (len - 4).toNat)
  | _ => .error .io

def readMessageHeader : Proc PgClient PgError (UInt8 × Nat) := do
  let buff ← stream (Wire.readExact 5)
  lift (parseHeader buff)

def readMessageBody (payloadLen : Nat) : Proc PgClient PgError Bytes := do
  let c ← get
  if payloadLen > c.pool.maxCapacity then
    throw (.protocol ("backend message body ".toList ++ decimal payloadLen ++
      " exceeds the buffer pool capacity".toList))
  else
    let buff := c.pool.get c.wire.tick payloadLen
    let bytes ← stream (Wire.readExact buff.length)
    pure (overwrite buff bytes)

def readMessage : Proc PgClient PgError (UInt8 × Bytes) := do
  let (tag, payloadLen) ← readMessageHeader
  let payload ← readMessageBody payloadLen
  emit (.received tag payload)
  pure (tag, payload)

/-! ## The startup message -/

/-- The parameters of the startup message: those of the client, then the defaults of the
    keys that are absent. -/
def startupPairs (config : PgConfig) : List (Str × Str) :=
  let saw (key : Str) : Bool := config.startupParams.any fun p => p.1 = key
  config.startupParams ++ (if saw "user" then [] else [("user".toList, config.user)]) ++
    (if saw "database" then [] else [("database".toList, config.database)]) ++
    (if saw "application_name" then [] else [("application_name".toList, "wirechaos".toList)])

def protocolVersionNumber : UInt32 := 196608

def startupMessage (config : PgConfig) : Bytes :=
  let message := beBytes protocolVersionNumber ++
    (startupPairs config).flatMap (fun p => putCstr p.1 ++ putCstr p.2) ++ [0]
  beBytes (UInt32.ofNat (4 + message.length)) ++ message

def writeStartupMessage (config : PgConfig) : Proc PgClient PgError Unit := do
  emit (.wrote .startup (startupMessage config))
  writeRaw (startupMessage config)

/-! ## Authentication -/

/-- The scan of `parse_error_response`: severity, code and message, with fuel for its fields. -/
def parseErrorFields : Nat → Bytes → Str × Str × Str → Str × Str × Str
  | 0, _, acc => acc
  | _ + 1, [], acc => acc
  | fuel + 1, field :: rest, (severity, code, message) =>
    if field = 0 then (severity, code, message)
    else
      let value := fromUtf8Lossy (rest.takeWhile (· ≠ 0))
      let rest := (rest.dropWhile (· ≠ 0)).drop 1
      if field = byte 'S' ∨ field = byte 'V' then parseErrorFields fuel rest (value, code, message)
      else if field = byte 'C' then parseErrorFields fuel rest (severity, value, message)
      else if field = byte 'M' then parseErrorFields fuel rest (severity, code, value)
      else parseErrorFields fuel rest (severity, code, message)

def parseErrorResponse (body : Bytes) : PgError :=
  let (severity, code, message) := parseErrorFields body.length body ("FATAL", "XX000", [])
  .backend severity code message

def unsupportedMethodMessage (code : UInt32) : Str :=
  let named (method : Str) : Str :=
    "backend requested ".toList ++ method ++ " authentication, which wirechaos does not support".toList
  if code = 2 then named "Kerberos"
  else if code = 6 then named "SCM credentials"
  else if code = 7 then named "GSSAPI"
  else if code = 8 then named "GSSAPI continuation"
  else if code = 9 then named "SSPI"
  else "backend requested unsupported authentication method ".toList ++ decimal code.toNat

def lossyMechanismNames (body : Bytes) : List Str := ((body.splitOn 0).filter (· ≠ [])).map fromUtf8Lossy

def handleCleartext (config : PgConfig) : Proc PgClient PgError Unit :=
  match config.password with
  | none => throw (.unsupportedAuth
      "backend requires a cleartext password, but only a SCRAM secret is available; configure a plaintext password for this user")
  | some password => writeMessage .cleartext (byte 'p') (password ++ [0])

def handleMd5 (config : PgConfig) (body : Bytes) : Proc PgClient PgError Unit :=
  if body.length ≠ 4 then throw (.protocol "AuthenticationMD5Password must carry a 4-byte salt")
  else
    match config.password with
    | none => throw (.unsupportedAuth
        "backend requires MD5 authentication, but only a SCRAM secret is available; MD5 cannot be derived from StoredKey/ServerKey, so configure a plaintext password")
    | some password => writeMessage .md5 (byte 'p') (asBytes (md5Response C config.user password body) ++ [0])

/-- The payload of an authentication message past its sub-code. -/
def subCode (payload : Bytes) : Except PgError (UInt32 × Bytes) :=
  match payload with
  | a :: b :: c :: d :: rest => .ok (ofBeBytes a b c d, rest)
  | _ => .error (.protocol "authentication message is shorter than its sub-code")

def authenticationData (expected : UInt32) (tag : UInt8) (payload : Bytes) : Except PgError Bytes := do
  require (tag ≠ byte 'E') (parseErrorResponse payload)
  require (tag = byte 'R') (.protocol
    ("expected an authentication message, got ".toList ++ debugChar (Char.ofNat tag.toNat)))
  let (authType, data) ← subCode payload
  require (authType = expected) (.protocol ("expected authentication sub-code ".toList ++ decimal expected.toNat ++
    ", got ".toList ++ decimal authType.toNat))
  return data

def readAuthenticationData (expected : UInt32) : Proc PgClient PgError Bytes := do
  let (tag, payload) ← readMessage
  lift (authenticationData expected tag payload)

/-- The client of an exchange, bound to the backend's certificate on `-PLUS`. -/
def saslClient (config : PgConfig) (peerCertHash : Option CertHash) (nonce : NonceBytes) (chosen : SaslMechanism) :
    Except PgError ScramClient :=
  let scram := ScramClient.new nonce config.clientKey config.serverKey config.storedKey config.password
  if chosen = .scramSha256Plus then do
    let certHash ← okOr peerCertHash
      (.channelBindingRequired "the backend selected -PLUS but no certificate hash is available")
    return scram.useChannelBinding certHash.cbindInput
  else .ok scram

/-- The mechanism and the client of an exchange, or why there is none. -/
def startSasl (config : PgConfig) (peerCertHash : Option CertHash) (nonce : NonceBytes) (body : Bytes) :
    Except PgError (SaslMechanism × ScramClient) := do
  let offered := parseSaslMechanisms body
  require (offered ≠ []) (.unsupportedAuth ("backend offered no supported SASL mechanism (offered: ".toList ++
    debugStrs (lossyMechanismNames body) ++ ")".toList))
  let chosen ← selectMechanism config.tls.channelBinding peerCertHash.isSome offered
  let scram ← saslClient config peerCertHash nonce chosen
  return (chosen, scram)

def handleSasl (config : PgConfig) (body : Bytes) : Proc PgClient PgError Unit := do
  let c ← get
  let (chosen, scram) ← lift (startSasl config c.peerCertHash (c.nonces c.drawn) body)
  modify fun c => { c with drawn := c.drawn + 1 }
  writeMessage .saslInitial (byte 'p') (saslInitialResponse chosen.name scram.clientFirstMessage)
  let serverFirst ← readAuthenticationData 11
  let serverFirst ← lift (okOr (fromUtf8 serverFirst) (.protocol "server-first is not UTF-8"))
  let (clientFinal, scram) ← lift (match scram.clientFinalMessage C serverFirst config.salt config.iterations with
    | (.ok clientFinal, scram) => .ok (clientFinal, scram)
    | (.error e, _) => .error e)
  writeMessage .saslFinal (byte 'p') (asBytes clientFinal)
  let serverFinal ← readAuthenticationData 12
  let serverFinal ← lift (okOr (fromUtf8 serverFinal) (.protocol "server-final is not UTF-8"))
  let verified ← lift (scram.verifyServerFinal C serverFinal)
  emit (.exchanged chosen clientFinal verified)
  modify fun c => { c with serverSignatureVerified := verified }

/-! ## The handshake -/

def handleAuth (config : PgConfig) (authType : UInt32) (data : Bytes) : Proc PgClient PgError Unit :=
  -- AuthenticationOk: consumed, the client had its own
  if authType = 0 then pure ()
  else if authType = 3 then handleCleartext config
  else if authType = 5 then handleMd5 C config data
  else if authType = 10 then handleSasl C config data
  else if authType = 11 ∨ authType = 12 then
    throw (.protocol ("unexpected authentication continuation (".toList ++ decimal authType.toNat ++
      ") before SASL started".toList))
  else throw (.unsupportedAuth (unsupportedMethodMessage authType))

def parseParameterStatus (payload : Bytes) : Except PgError (Str × Str) :=
  match (MessageReader.new payload).readString with
  | (.error _, _) => .error (.protocol "invalid ParameterStatus name")
  | (.ok name, message) =>
    match message.readString with
    | (.error _, _) => .error (.protocol "invalid ParameterStatus value")
    | (.ok value, _) => .ok (name, value)

def parseBackendKeyData (payload : Bytes) : Except PgError BackendKeyData :=
  match payload with
  | [a, b, c, d, e, f, g, h] => .ok ⟨(ofBeBytes a b c d).toInt32, (ofBeBytes e f g h).toInt32⟩
  | _ => .error (.protocol "BackendKeyData body is not two Int32s")

/-- One message of the loop; `true` once it was the ReadyForQuery. -/
def handleMessage (config : PgConfig) (tag : UInt8) (payload : Bytes) : Proc PgClient PgError Bool := do
  if tag = byte 'R' then
    let (authType, data) ← lift (subCode payload)
    handleAuth C config authType data
    pure false
  else if tag = byte 'S' then
    let (name, value) ← lift (parseParameterStatus payload)
    modify fun c => { c with startupNotifications := c.startupNotifications ++ [.parameterStatus name value] }
    pure false
  else if tag = byte 'N' then
    modify fun c => { c with startupNotifications := c.startupNotifications ++ [.notice payload] }
    pure false
  else if tag = byte 'K' then
    let key ← lift (parseBackendKeyData payload)
    modify fun c => { c with backendKey := some key }
    pure false
  else if tag = byte 'Z' then
    let status ← lift (okOr payload.head? (.protocol "ReadyForQuery has no transaction status"))
    modify fun c => { c with readyStatus := some status }
    pure true
  else if tag = byte 'E' then throw (parseErrorResponse payload)
  else throw (.protocol ("unexpected message ".toList ++ debugChar (Char.ofNat tag.toNat) ++
    " during the startup phase".toList))

/-- The loop, with fuel for its messages. -/
def handshakeFrom (config : PgConfig) : Nat → Proc PgClient PgError Unit
  | 0 => throw .io
  | fuel + 1 => do
    let (tag, payload) ← readMessage
    let done ← handleMessage C config tag payload
    if done then pure () else handshakeFrom config fuel

/-- Every message takes at least five bytes of the input, so its bytes are fuel enough. -/
def handleStartupHandshake (config : PgConfig) : Proc PgClient PgError Unit := do
  let c ← get
  handshakeFrom C config (c.wire.input.length + 1)

end PgClient

end Wirechaos
