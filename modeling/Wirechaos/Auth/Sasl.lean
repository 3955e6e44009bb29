/-
  Wirechaos.Auth.Sasl — the bodies of the frontend's SASL messages
  (auth/scram/handler.rs, auth/handler.rs).
-/

import Wirechaos.Auth.Verifier
import Wirechaos.Wire.Packet

namespace Wirechaos

open Text Async

def authSasl : UInt32 := 10
def authSaslContinue : UInt32 := 11
def authSaslFinal : UInt32 := 12
def authSaslOk : UInt32 := 0

/-- The body of an authentication message. -/
def authBody (subCode : UInt32) (data : Bytes) : Bytes := beBytes subCode ++ data

/-- The mechanism list of `send_auth_sasl`. -/
def saslMechanismList (mechanics : List Str) : Bytes := mechanics.flatMap putCstr ++ [0]

def rejected (e : ScramError) : AuthFailure := .rejected (.scram e)

/-- `read_sasl_initial_response`, after the message was read: the chosen mechanism and
    the client-first. -/
def parseSaslInitialResponse (mechanics : List Str) (body : Bytes) : Except AuthFailure (Str × Str) :=
  match (MessageReader.new body).readString with
  | (.error e, _) => .error (mapProxyErrorAuthError e)
  | (.ok mechanism, message) =>
    if mechanism ∉ mechanics then .error (rejected (.protocol "invalid mechanism"))
    else
      match message.readU32 with
      | (.error e, _) => .error (mapProxyErrorAuthError e)
      | (.ok len, message) =>
        let dataLen := len.toInt32
        if dataLen < 0 then .error (rejected (.protocol "Invalid message"))
        else
          match message.readStringFixedSize dataLen with
          | (.error _, _) => .error (rejected (.protocol "Invalid message"))
          | (.ok clientFirst, _) => .ok (mechanism, clientFirst)

/-- `read_sasl_final_response`, after the message was read. -/
def parseSaslFinalResponse (body : Bytes) : Except AuthFailure Str :=
  okOr (fromUtf8 body) (rejected (.protocol "malformed SCRAM message"))

theorem authBody_inj {c c' : UInt32} {d d' : Bytes} (h : authBody c d = authBody c' d') : c = c' ∧ d = d' := by
  have := List.append_inj h rfl
  exact ⟨beBytes_inj this.1, this.2⟩

end Wirechaos
