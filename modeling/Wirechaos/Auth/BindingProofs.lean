/-
  Wirechaos.Auth.BindingProofs — the `c=` value an exchange asks for (see
  `Wirechaos.Auth.Scram`).

  RFC 5802 has the client repeat the GS2 header it began with, followed on `-PLUS` by the
  channel binding data. The authenticator keeps the header of the client-first, but on
  `-PLUS` it compares with a constant one. The header validators let an empty
  authorization identity through in two spellings, nothing and `a=`; with the second one
  the constant is not the header that was sent (`binding_follows_header_iff`).
-/

import Wirechaos.Auth.ScramProofs

namespace Wirechaos

open Text Async

namespace Scram

/-- The GS2 header of a client-first: up to its second comma, with it. -/
def HeaderOf (clientFirst header : Str) : Prop :=
  ∃ flag authzidPart bare, clientFirst = flag ++ ',' :: (authzidPart ++ ',' :: bare) ∧ ',' ∉ flag ∧ ',' ∉ authzidPart ∧
    header = flag ++ ',' :: authzidPart ++ [',']

theorem HeaderOf.unique {clientFirst header flag authzidPart bare : Str} (h : HeaderOf clientFirst header)
    (hfirst : clientFirst = flag ++ ',' :: (authzidPart ++ ',' :: bare)) (hflag : ',' ∉ flag) (hauthzid : ',' ∉ authzidPart) :
    header = flag ++ ',' :: authzidPart ++ [','] := by
  obtain ⟨flag', authzidPart', bare', hfirst', hflag', hauthzid', rfl⟩ := h
  have hparts := extractDataFromClientFirst_ok.mpr ⟨hfirst, hflag, hauthzid⟩
  rw [extractDataFromClientFirst_ok.mpr ⟨hfirst', hflag', hauthzid'⟩] at hparts
  cases hparts
  rfl

/-- The `c=` value RFC 5802 asks for: the header that was sent, and on `-PLUS` the hash of
    the certificate. -/
def requiredCbind (certHash : Option CertHash) (mechanism header : Str) : Str :=
  if mechanism = plus then
    Base64.encode Base64.standard (asBytes header ++ (certHash.map (·.digest)).getD [])
  else Base64.encode Base64.standard (asBytes header)

/-- The `c=` values of a client-final. -/
def cbindsOf (clientFinal : Str) : List Str := (attributes clientFinal).filterMap (stripPrefix "c=")

/-- No attribute holds a comma. -/
theorem comma_not_mem_attribute {s attr : Str} (h : attr ∈ attributes s) : ',' ∉ attr := by
  obtain ⟨a, rest, hattrs, ha, hsplit⟩ := attributes_head s
  rw [hattrs] at h
  rcases List.mem_cons.mp h with h | h
  · rw [h]
    exact ha
  obtain ⟨-, hrest⟩ | ⟨b, hs, hrest⟩ := hsplit
  · rw [hrest] at h
    cases h
  · have hshorter : b.length < s.length := by
      rw [hs, List.length_append, List.length_cons]
      omega
    rw [hrest] at h
    exact comma_not_mem_attribute h
termination_by s.length

theorem comma_not_mem_clientNonceOf (bare : Str) : ',' ∉ clientNonceOf bare := by
  rcases clientNonceOf_spec bare with h | h
  · rw [h]
    exact List.not_mem_nil
  · intro hc
    exact comma_not_mem_attribute h (List.mem_append_right _ hc)

end Scram

namespace ScramAuthenticator

open Scram

variable (C : Crypto)

/-- Some exchange that this client-first begins ends well with this `c=` value. -/
def LetsThrough (certHash : Option CertHash) (mechanism clientFirst startupUser cbind : Str) : Prop :=
  ∃ (v : Verifier) (serverNonceBytes : Key) (clientFinal user serverFirst serverFinal : Str) (a a' : ScramAuthenticator),
    (new v certHash).handleClientFirst serverNonceBytes mechanism clientFirst startupUser = (.ok serverFirst, a) ∧
      handleClientFinal C a clientFinal user = (.ok serverFinal, a') ∧ cbindsOf clientFinal = [cbind]

/-- The header that is bound on `-PLUS`, whatever header was sent. -/
def plusHeader : Str := "p=tls-server-end-point,,"

/-- The client-first is taken for a header. -/
structure Opens (certHash : Option CertHash) (mechanism clientFirst startupUser header : Str) : Prop where
  header : HeaderOf clientFirst header
  accepted : ∃ v serverNonceBytes serverFirst,
    ((new v certHash).handleClientFirst serverNonceBytes mechanism clientFirst startupUser).1 = .ok serverFirst

/-- What an accepted client-first leaves for the client-final. -/
theorem handleClientFirst_binds {v : Verifier} {certHash : Option CertHash} {serverNonceBytes : Key}
    {mechanism clientFirst startupUser serverFirst header : Str} {a : ScramAuthenticator} (hheader : HeaderOf clientFirst header)
    (h : (new v certHash).handleClientFirst serverNonceBytes mechanism clientFirst startupUser = (.ok serverFirst, a)) :
    a.verifier = v ∧ a.state = .clientFirstReceived ∧ ',' ∉ a.combinedNonce ∧
      startsWith a.clientNonce a.combinedNonce = true ∧
      a.expectedCbind = requiredCbind certHash mechanism (if mechanism = plus then plusHeader else header) := by
  obtain ⟨flag, authzidPart, bare, hcheck, hfirst, hflag, hauthzid, -, -, rfl⟩ := handleClientFirst_ok h
  obtain rfl := hheader.unique hfirst hflag hauthzid
  refine ⟨rfl, rfl, ?_, startsWith_iff.mpr ⟨_, rfl⟩, ?_⟩
  · simp only [List.mem_append, List.mem_cons, not_or]
    exact ⟨comma_not_mem_clientNonceOf bare, by decide, comma_not_mem_encode _⟩
  · simp only [checkClientFirst, validateParams, except_bind_eq_ok, require_eq_ok, exists_const] at hcheck
    obtain ⟨⟨-, -, hmechanism⟩, -⟩ := hcheck
    unfold expectedCbind requiredCbind
    by_cases hplus : mechanism = plus
    · cases certHash with
      | none =>
        -- the mechanism is only offered with a certificate
        rw [hplus] at hmechanism
        have hoffered : plus ∈ [scramSha256] := hmechanism
        exact absurd hoffered (by decide)
      | some hash =>
        simp only [hplus, if_true]
        rfl
    · simp only [hplus, if_false]

/-- The verifier has no say in whether a client-first is accepted. -/
theorem accepted_for {v₀ : Verifier} {certHash : Option CertHash} {serverNonceBytes : Key}
    {mechanism clientFirst startupUser serverFirst : Str}
    (h : ((new v₀ certHash).handleClientFirst serverNonceBytes mechanism clientFirst startupUser).1 = .ok serverFirst)
    (v : Verifier) : ∃ serverFirst' a,
      (new v certHash).handleClientFirst serverNonceBytes mechanism clientFirst startupUser = (.ok serverFirst', a) := by
  obtain ⟨flag, authzidPart, bare, hcheck, -, -, -, hnonce, -⟩ := handleClientFirst_ok (Prod.ext h rfl)
  have hcheck' : (new v certHash).checkClientFirst mechanism clientFirst startupUser = .ok (flag, authzidPart, bare) := hcheck
  simp only [handleClientFirst, hcheck', if_neg hnonce]
  exact ⟨_, _, rfl⟩

/-- Exactly the value asked for is let through. -/
theorem letsThrough_iff {certHash : Option CertHash} {mechanism clientFirst startupUser header : Str}
    (hopens : Opens certHash mechanism clientFirst startupUser header) (cbind : Str) :
    LetsThrough C certHash mechanism clientFirst startupUser cbind ↔
      cbind = requiredCbind certHash mechanism (if mechanism = plus then plusHeader else header) := by
  constructor
  · intro h
    obtain ⟨v, serverNonceBytes, clientFinal, user, serverFirst, serverFinal, a, a', hfirst, hfinal, hcbind⟩ := h
    obtain ⟨-, -, -, -, hexpected⟩ := handleClientFirst_binds hopens.header hfirst
    obtain ⟨-, clientKey, authMessage, haccepts, -, -⟩ := handleClientFinal_ok C hfinal
    obtain ⟨c, p, proof, hattrs, hc, -⟩ := haccepts.attrs
    obtain ⟨hslot, -, -⟩ := collectAttrs_ok hattrs
    have hsame : [cbind] = [c] := hcbind.symm.trans hslot
    cases hsame
    rw [hc, hexpected]
  · intro h
    obtain ⟨v₀, serverNonceBytes, serverFirst₀, haccepted⟩ := hopens.accepted
    -- a user whose key the client holds
    let v : Verifier := { v₀ with storedKey := C.sha256 Key.zero.bytes, isDummy := false }
    obtain ⟨serverFirst, a, hfirst⟩ := accepted_for haccepted v
    obtain ⟨hverifier, hstate, hnonce, hextends, hexpected⟩ := handleClientFirst_binds hopens.header hfirst
    have haccepts : Accepts C { a with state := .done } (answer C { a with state := .done } Key.zero.bytes) Key.zero.bytes
        (answerMessage { a with state := .done }) := by
      apply accepts_answer C (a := { a with state := .done }) hnonce hextends Key.zero.length_eq
      · show C.sha256 Key.zero.bytes = a.verifier.storedKey
        rw [hverifier]
      · show a.verifier.isDummy = false
        rw [hverifier]
    refine ⟨v, serverNonceBytes, _, startupUser, serverFirst, _, a, _, hfirst,
      handleClientFinal_of_accepts C hstate haccepts startupUser, ?_⟩
    rw [cbindsOf, attributes_answer C (a := { a with state := .done }) hnonce, h, ← hexpected]
    rfl

/-- On `-PLUS` the flag is fixed, so that the authorization identity decides. -/
theorem requiredCbind_iff (certHash : Option CertHash) {mechanism header : Str} :
    requiredCbind certHash mechanism (if mechanism = plus then plusHeader else header) = requiredCbind certHash mechanism header ↔
      (mechanism = plus → header = plusHeader) := by
  unfold requiredCbind
  by_cases hplus : mechanism = plus
  · simp only [hplus, if_true, forall_const]
    constructor
    · intro h
      have hbytes := Base64.encode_inj _ h
      exact (asBytes_inj (List.append_cancel_right hbytes)).symm
    · intro h
      rw [h]
  · simp only [hplus, if_false, false_imp_iff]

/-- The `c=` value that is let through is the one for the header the client sent, except
    on `-PLUS` with the `a=` spelling of no authorization identity. -/
theorem binding_follows_header_iff {certHash : Option CertHash} {mechanism clientFirst startupUser header : Str}
    (hopens : Opens certHash mechanism clientFirst startupUser header) :
    (∀ cbind, LetsThrough C certHash mechanism clientFirst startupUser cbind ↔
      cbind = requiredCbind certHash mechanism header) ↔ (mechanism = plus → header = plusHeader) := by
  rw [← requiredCbind_iff certHash]
  constructor
  · intro h
    exact (h _).mp ((letsThrough_iff C hopens _).mpr rfl)
  · intro h cbind
    rw [letsThrough_iff C hopens, h]

end ScramAuthenticator

/-! ## Two spellings of no authorization identity -/

namespace Sample

def frontendHash : CertHash := ⟨.sha256, List.replicate 32 7, by decide⟩

def plusFirst : Str := "p=tls-server-end-point,,n=,r=fyko"

def plusFirstAuthzid : Str := "p=tls-server-end-point,a=,n=,r=fyko"

theorem opens_plusFirst :
    ScramAuthenticator.Opens (some frontendHash) Scram.plus plusFirst "alice" ScramAuthenticator.plusHeader :=
  ⟨⟨"p=tls-server-end-point", [], "n=,r=fyko", by decide, by decide, by decide, by decide⟩,
    verifier, serverNonceBytes, _, rfl⟩

theorem opens_plusFirstAuthzid :
    ScramAuthenticator.Opens (some frontendHash) Scram.plus plusFirstAuthzid "alice" "p=tls-server-end-point,a=," :=
  ⟨⟨"p=tls-server-end-point", "a=", "n=,r=fyko", by decide, by decide, by decide, by decide⟩,
    verifier, serverNonceBytes, _, rfl⟩

end Sample

namespace ScramAuthenticator

theorem binding_follows_header_iff_plus :
    (∀ cbind, LetsThrough Sample.crypto (some Sample.frontendHash) Scram.plus Sample.plusFirst "alice" cbind ↔
      cbind = Scram.requiredCbind (some Sample.frontendHash) Scram.plus plusHeader) ↔
      (Scram.plus = Scram.plus → plusHeader = plusHeader) :=
  binding_follows_header_iff Sample.crypto Sample.opens_plusFirst

/-- The value for the header that was sent is refused, the one for another is let through. -/
theorem an_empty_authzid_is_not_bound :
    (¬ ∀ cbind, LetsThrough Sample.crypto (some Sample.frontendHash) Scram.plus Sample.plusFirstAuthzid "alice" cbind ↔
      cbind = Scram.requiredCbind (some Sample.frontendHash) Scram.plus "p=tls-server-end-point,a=,") ∧
      LetsThrough Sample.crypto (some Sample.frontendHash) Scram.plus Sample.plusFirstAuthzid "alice"
        (Scram.requiredCbind (some Sample.frontendHash) Scram.plus "p=tls-server-end-point,,") := by
  have hthrough := (letsThrough_iff Sample.crypto Sample.opens_plusFirstAuthzid _).mpr rfl
  refine ⟨?_, hthrough⟩
  intro h
  have hheader := (requiredCbind_iff _).mp ((h _).mp hthrough) rfl
  exact absurd hheader (by decide)

end ScramAuthenticator

end Wirechaos
