/-
  Wirechaos.Backend.Sasl — the backend's authentication offers and the answers that
  need no exchange (backend/mod.rs).
-/

import Wirechaos.Auth.Verifier
import Wirechaos.Wire.Config
import Wirechaos.Wire.Packet

namespace Wirechaos

open Text

inductive SaslMechanism where
  | scramSha256
  | scramSha256Plus
  deriving DecidableEq, Repr

def SaslMechanism.name : SaslMechanism → Str
  | .scramSha256 => "SCRAM-SHA-256"
  | .scramSha256Plus => "SCRAM-SHA-256-PLUS"

/-- One name of the mechanism list, when it is a known one. -/
def SaslMechanism.ofName (name : Bytes) : Option SaslMechanism :=
  if name = asBytes "SCRAM-SHA-256" then some .scramSha256
  else if name = asBytes "SCRAM-SHA-256-PLUS" then some .scramSha256Plus
  else none

/-- Parse the NUL-separated mechanism list of `AuthenticationSASL`. -/
def parseSaslMechanisms (body : Bytes) : List SaslMechanism := (body.splitOn 0).filterMap SaslMechanism.ofName

/-- The mechanism a client-role SCRAM exchange must select. -/
def selectMechanism (mode : ChannelBindingMode) (channelBindingAvailable : Bool) (offered : List SaslMechanism) :
    Except PgError SaslMechanism :=
  let plusOffered := SaslMechanism.scramSha256Plus ∈ offered
  let plainOffered := SaslMechanism.scramSha256 ∈ offered
  match mode with
  | .disable =>
    if plainOffered then .ok .scramSha256
    else .error (.unsupportedAuth "backend requires channel binding, but channel_binding is disabled")
  | .prefer =>
    if plusOffered ∧ channelBindingAvailable then .ok .scramSha256Plus
    else if plainOffered then .ok .scramSha256
    else .error (.unsupportedAuth "backend offered no SCRAM-SHA-256 mechanism the proxy can use")
  | .require =>
    if ¬ channelBindingAvailable then
      .error (.channelBindingRequired
        "the backend connection is not TLS or its certificate has no defined tls-server-end-point hash")
    else if plusOffered then .ok .scramSha256Plus
    else .error (.channelBindingRequired "the backend does not offer SCRAM-SHA-256-PLUS")

/-! ## MD5 -/

def hexDigit (n : Nat) : Char := "0123456789abcdef".toList.getD n '0'

/-- `{:x}` of a digest. -/
def lowerHex (b : Bytes) : Str := b.flatMap fun x => [hexDigit (x.toNat / 16), hexDigit (x.toNat % 16)]

/-- PostgreSQL's MD5 password response. -/
def md5Response (C : Crypto) (user : Str) (password salt : Bytes) : Str :=
  let inner := lowerHex (C.md5 (password ++ asBytes user))
  "md5".toList ++ lowerHex (C.md5 (asBytes inner ++ salt))

/-! ## The SASL responses -/

/-- The body of a SASLInitialResponse: the mechanism, then the length and the bytes of
    the client-first. -/
def saslInitialResponse (mechanism clientFirst : Str) : Bytes :=
  putCstr mechanism ++ beBytes (UInt32.ofNat (byteLen clientFirst)) ++ asBytes clientFirst

/-- What `Require` selects is the binding mechanism. -/
theorem selectMechanism_require {available : Bool} {offered : List SaslMechanism} {m : SaslMechanism}
    (h : selectMechanism .require available offered = .ok m) : m = .scramSha256Plus ∧ available = true := by
  cases available with
  | false => cases h
  | true =>
    simp only [selectMechanism, not_true_eq_false, if_false] at h
    split at h
    · cases h; exact ⟨rfl, rfl⟩
    · cases h

end Wirechaos
