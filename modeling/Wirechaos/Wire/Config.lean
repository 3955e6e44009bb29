/-
  Wirechaos.Wire.Config — the settings the startup phase reads (config.rs).
-/

import Wirechaos.Lib.Async
import Wirechaos.Wire.Error

namespace Wirechaos

open Text Async

inductive BackendTlsMode where
  | disable
  | prefer
  | require
  | verifyFull
  deriving DecidableEq, Repr

inductive ChannelBindingMode where
  | disable
  | prefer
  | require
  deriving DecidableEq, Repr

structure BackendTlsConfig where
  mode : BackendTlsMode
  rootCertFile : Option Str
  channelBinding : ChannelBindingMode
  domain : Option Str
  deriving DecidableEq, Repr

structure BackendConfig where
  address : Str
  connectTimeoutMs : Nat
  startupTimeoutMs : Nat
  tls : BackendTlsConfig
  tlsDomain : Option Str
  deriving DecidableEq, Repr

structure Config where
  maxStartupBytes : Nat
  backend : BackendConfig
  deriving DecidableEq, Repr

def BackendConfig.default : BackendConfig :=
  { address := "127.0.0.1:5432", connectTimeoutMs := 2000, startupTimeoutMs := 5000
    tls := { mode := .prefer, rootCertFile := none, channelBinding := .prefer, domain := none }, tlsDomain := none }

def Config.default : Config := { maxStartupBytes := 10000, backend := .default }

/-- The name to use for SNI and certificate validation. -/
def BackendConfig.tlsServerName (c : BackendConfig) (host : Str) : Option Str :=
  (c.tls.domain.or c.tlsDomain).or (some host)

def invalidBackendAddress : InternalError := .config "backend.address" "must be a host:port socket address"

def Config.backendHostPort (c : Config) : Except InternalError (Str × Nat) := do
  let (host, port) ← okOr (rsplitOnce ':' c.backend.address) invalidBackendAddress
  require (host ≠ []) invalidBackendAddress
  let port ← okOr (parseUint 16 port) invalidBackendAddress
  return (host, port)

/-- The default settings name a backend. -/
example : Config.default.backendHostPort = .ok ("127.0.0.1".toList, 5432) := by decide +kernel

end Wirechaos
