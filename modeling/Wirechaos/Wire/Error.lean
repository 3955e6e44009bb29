/-
  Wirechaos.Wire.Error — the error types of the proxy (error.rs, backend/error.rs,
  auth/error.rs, auth/scram/error.rs).

  Two kinds of failure travel through the startup code. A `ClientAwareError` has an
  SQLSTATE and a text for the client; an `InternalError` ends the session silently.
  `ProxyError` is either; `AuthFailure` is its counterpart inside authentication,
  where a rejection has already its own error type.
-/

import Wirechaos.Lib.Strings

namespace Wirechaos

open Text

/-! ## Connection errors (error.rs) -/

inductive ConnectionErrorInner where
  | tooManyRequest
  | firstMessageTooBig
  | authTimeout
  | emptyMessageBody
  | invalidMessageLength
  | messageTooLarge
  | tlsRequired
  | tlsAlreadyDone
  | invalidData
  | gssAlreadyDone
  | authFailed
  | invalidState
  | statementCanceled
  | invalidStartupLayout
  | missingUser
  deriving DecidableEq, Repr

def ConnectionErrorInner.code : ConnectionErrorInner → Str
  | .tooManyRequest => "53300"
  | .authTimeout | .statementCanceled => "57014"
  | .firstMessageTooBig | .emptyMessageBody | .invalidMessageLength | .messageTooLarge
  | .invalidStartupLayout => "08P01"
  | .missingUser => "28000"
  | .authFailed => "28P01"
  | .tlsRequired | .tlsAlreadyDone | .gssAlreadyDone | .invalidData | .invalidState => "08P01"

def ConnectionErrorInner.message : ConnectionErrorInner → Str
  | .tooManyRequest => "sorry, too many clients already"
  | .authTimeout => "canceling authentication due to timeout"
  | .statementCanceled => "canceling statement due to user request"
  | .firstMessageTooBig | .invalidStartupLayout => "invalid startup packet layout"
  | .emptyMessageBody => "empty message body"
  | .invalidMessageLength => "invalid message length"
  | .messageTooLarge => "message length exceeds the buffer pool capacity"
  | .missingUser => "no PostgreSQL user name specified in startup packet"
  | .authFailed => "password authentication failed"
  | .tlsRequired => "TLS is required but the client did not request it"
  | .tlsAlreadyDone => "SSLRequest was already answered on this connection"
  | .gssAlreadyDone => "GSSENCRequest was already answered on this connection"
  | .invalidData => "invalid data"
  | .invalidState => "invalid session state"

/-! ## Backend errors (backend/error.rs) -/

inductive BackendErrorClass where
  | generalised
  | passThrough
  deriving DecidableEq, Repr

def classifyBackendError (sqlstate : Str) : BackendErrorClass :=
  if sqlstate = "3D000" ∨ sqlstate = "53300" ∨ sqlstate = "57P03" then .passThrough else .generalised

inductive PgError where
  | connectTimeout
  | tlsTimeout
  | startupTimeout
  | io
  | tls (message : Str)
  | protocol (message : Str)
  | auth (message : Str)
  | unsupportedAuth (message : Str)
  | saltMismatch
  | channelBindingRequired (message : Str)
  /-- A structured `ErrorResponse` returned by the backend during startup. -/
  | backend (severity code message : Str)
  deriving DecidableEq, Repr

def PgError.generalisedMessage : PgError → Str
  | .auth _ | .saltMismatch => "backend authentication failed"
  | .connectTimeout | .tlsTimeout | .io | .tls _ => "could not connect to the backend database"
  | .startupTimeout => "backend did not finish starting up"
  | .protocol _ => "backend sent an invalid protocol message"
  | .unsupportedAuth message | .channelBindingRequired message => message
  | .backend _ code _ =>
    if startsWith "28" code then "backend authentication failed"
    else if startsWith "08" code then "could not connect to the backend database"
    else "backend failed during startup"

def PgError.code : PgError → Str
  | .auth _ | .unsupportedAuth _ | .saltMismatch | .channelBindingRequired _ => "28P01"
  | .protocol _ => "08P01"
  | .backend _ code _ => code
  | .connectTimeout | .tlsTimeout | .io | .tls _ => "08006"
  | .startupTimeout => "08006"

def PgError.message : PgError → Str
  | .backend severity code message =>
    if classifyBackendError code = .passThrough then message
    else (PgError.backend severity code message).generalisedMessage
  | other => other.generalisedMessage

/-! ## Client-aware and proxy errors -/

/-- The implementors of the trait. -/
inductive ClientAwareError where
  | connection (e : ConnectionErrorInner)
  | protocol (code message : Str)
  | pg (e : PgError)
  deriving DecidableEq, Repr

def ClientAwareError.code : ClientAwareError → Str
  | .connection e => e.code
  | .protocol code _ => code
  | .pg e => e.code

def ClientAwareError.message : ClientAwareError → Str
  | .connection e => e.message
  | .protocol _ message => message
  | .pg e => e.message

inductive ProviderError where
  | unavailable (reason : Str)
  deriving DecidableEq, Repr

def ProviderError.code : ProviderError → Str
  | .unavailable _ => "08006"

def ProviderError.message : ProviderError → Str
  | .unavailable _ => "credential store temporarily unavailable"

/-- What a boxed error is made from; its text never reaches the client. -/
inductive InternalError where
  | io
  | utf8
  | text (message : Str)
  | provider (e : ProviderError)
  | config (field reason : Str)
  deriving DecidableEq, Repr

inductive ProxyError where
  | internal (e : InternalError)
  | connectionError (e : ClientAwareError)
  deriving DecidableEq, Repr

def connectionError (e : ConnectionErrorInner) : ProxyError := .connectionError (.connection e)

def protocolError (code message : Str) : ProxyError := .connectionError (.protocol code message)

/-- `From<PgError> for ProxyError`. -/
def ProxyError.ofPg (e : PgError) : ProxyError := .connectionError (.pg e)

/-! ## Authentication errors (auth/error.rs, auth/scram/error.rs) -/

inductive ScramError where
  | authenticationFailed (message : Str)
  | protocol (message : Str)
  | channelBindingMismatch
  | channelBindingDowngrade
  deriving DecidableEq, Repr

def ScramError.code : ScramError → Str
  | .authenticationFailed _ | .channelBindingMismatch => "28P01"
  | .protocol _ | .channelBindingDowngrade => "08P01"

def ScramError.message : ScramError → Str
  | .authenticationFailed message => message
  | .protocol message => message
  | .channelBindingMismatch => "SCRAM channel binding check failed"
  | .channelBindingDowngrade =>
    "client supports SCRAM channel binding but thinks the server does not. However, this server does support channel binding."

inductive AuthError where
  | scram (e : ScramError)
  | provider (e : ProviderError)
  deriving DecidableEq, Repr

def AuthError.code : AuthError → Str
  | .scram e => e.code
  | .provider e => e.code

def AuthError.message : AuthError → Str
  | .scram e => e.message
  | .provider e => e.message

inductive AuthFailure where
  | rejected (e : AuthError)
  | internal (e : InternalError)
  deriving DecidableEq, Repr

def mapProxyErrorAuthError : ProxyError → AuthFailure
  | .internal e => .internal e
  | .connectionError e => .internal (.text e.message)

end Wirechaos
