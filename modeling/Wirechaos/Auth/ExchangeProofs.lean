/-
  Wirechaos.Auth.ExchangeProofs — one exchange next to another (see
  `Wirechaos.Auth.ScramRuns`).

  - `client_final_not_replayed`: no client-final is accepted in two exchanges whose server
    nonces differ, whatever else is called on the two authenticators.
  - `rejected_first_leaves_no_trace`: an authenticator that refused client-firsts answers
    every later call as a new one. Its GS2 header may differ (`SameButHeader`), and nothing
    reads the header before the client-first that is answered writes it again.
-/

import Wirechaos.Auth.ScramRuns

namespace Wirechaos

open Text Async Scram Machine

namespace ScramAuthenticator

variable (C : Crypto)

/-! ## Server nonces -/

/-- The combined nonce is that of the client-first that was answered. -/
theorem Turn.combinedNonce {a a' : ScramAuthenticator} {c : Call} {r : Except ScramError Str} (h : Turn C a c r a')
    (hleft : a.state ≠ .started) : a'.combinedNonce = a.combinedNonce := by
  cases h with
  | refused => rfl
  | nonceless => rfl
  | answered hstate => exact absurd hstate hleft
  | failed => rfl
  | accepted => rfl

theorem combinedNonce_run {a : ScramAuthenticator} (hleft : a.state ≠ .started) (calls : List Call) :
    (run (after C) a calls).combinedNonce = a.combinedNonce := by
  induction calls using List.reverseRecOn with
  | nil => rfl
  | append_singleton calls c ih =>
    rw [run_concat]
    exact ((call_turn C _ c).combinedNonce C (run_left C hleft calls)).trans ih

/-- An accepted client-final names the combined nonce, and no other. -/
theorem nonce_of_acceptsFinal {a : ScramAuthenticator} {clientFinal user : Str}
    (h : AcceptsFinal C a (.clientFinal clientFinal user)) :
    ∃ cbind proofB64, collectAttrs (attributes clientFinal) = .ok ⟨some cbind, some a.combinedNonce, some proofB64⟩ := by
  obtain ⟨_, _, serverFinal, hcall, hok⟩ := h
  cases hcall
  have hresult : handleClientFinal C a clientFinal user = (.ok serverFinal, (handleClientFinal C a clientFinal user).2) :=
    Prod.ext_iff.mpr ⟨hok, rfl⟩
  obtain ⟨-, clientKey, authMessage, haccepts, -⟩ := handleClientFinal_ok C hresult
  obtain ⟨cbind, proofB64, -, hattrs, -⟩ := haccepts.attrs
  exact ⟨cbind, proofB64, hattrs⟩

/-- Base64 of a key has one length, so the server nonce is the end of the combined nonce
    whatever dashes the client nonce has. -/
theorem serverNonce_inj {r r' : Str} {nonce nonce' : Key}
    (h : r ++ '-' :: Base64.encode Base64.standard nonce.bytes = r' ++ '-' :: Base64.encode Base64.standard nonce'.bytes) :
    nonce = nonce' := by
  have hlength := Base64.length_encode_congr Base64.standard (nonce.length_eq.trans nonce'.length_eq.symm)
  obtain ⟨-, hend⟩ := List.append_inj' h (by rw [List.length_cons, List.length_cons, hlength])
  exact Key.ext_bytes (Base64.encode_inj Base64.standard (List.cons.inj hend).2)

/-- Two exchanges with different server nonces accept no client-final in common. -/
theorem client_final_not_replayed {a₁ a₂ b₁ b₂ : ScramAuthenticator} {nonce₁ nonce₂ : Key}
    {mechanism₁ mechanism₂ clientFirst₁ clientFirst₂ user₁ user₂ serverFirst₁ serverFirst₂ : Str}
    (h₁ : a₁.handleClientFirst nonce₁ mechanism₁ clientFirst₁ user₁ = (.ok serverFirst₁, b₁))
    (h₂ : a₂.handleClientFirst nonce₂ mechanism₂ clientFirst₂ user₂ = (.ok serverFirst₂, b₂)) (hne : nonce₁ ≠ nonce₂)
    (calls₁ calls₂ : List Call) (clientFinal user user' : Str) :
    ¬(AcceptsFinal C (run (after C) b₁ calls₁) (.clientFinal clientFinal user) ∧
      AcceptsFinal C (run (after C) b₂ calls₂) (.clientFinal clientFinal user')) := by
  intro h
  obtain ⟨cbind₁, proof₁, hattrs₁⟩ := nonce_of_acceptsFinal C h.1
  obtain ⟨cbind₂, proof₂, hattrs₂⟩ := nonce_of_acceptsFinal C h.2
  have hleft₁ : b₁.state ≠ .started := by simp [state_of_answered h₁]
  have hleft₂ : b₂.state ≠ .started := by simp [state_of_answered h₂]
  rw [combinedNonce_run C hleft₁] at hattrs₁
  rw [combinedNonce_run C hleft₂, hattrs₁] at hattrs₂
  have hcombined : b₁.combinedNonce = b₂.combinedNonce := by
    simp only [Except.ok.injEq, FinalAttrs.mk.injEq, Option.some.injEq] at hattrs₂
    exact hattrs₂.2.1
  obtain ⟨_, _, _, -, -, -, -, -, -, hb₁⟩ := handleClientFirst_ok h₁
  obtain ⟨_, _, _, -, -, -, -, -, -, hb₂⟩ := handleClientFirst_ok h₂
  rw [hb₁, hb₂] at hcombined
  exact hne (serverNonce_inj hcombined)

theorem client_final_not_replayed_sample :
    ¬(AcceptsFinal Sample.crypto Sample.answered (.clientFinal Sample.clientFinal "alice") ∧
      AcceptsFinal Sample.crypto
        ((new Sample.verifier none).handleClientFirst Key.zero scramSha256 Sample.clientFirst "alice").2
        (.clientFinal Sample.clientFinal "alice")) := by
  have hother : (new Sample.verifier none).handleClientFirst Key.zero scramSha256 Sample.clientFirst "alice" =
      (.ok "r=AAECAwQFBgcICQoLDA0ODxAR-AAAAAAAAAAAAAAAAAAAAAAAAAAAAAAAAAAAAAAAAAAA=,s=AAECAwQFBgcICQoLDA0ODw==,i=4096".toList,
        ((new Sample.verifier none).handleClientFirst Key.zero scramSha256 Sample.clientFirst "alice").2) := by
    decide +kernel
  exact client_final_not_replayed Sample.crypto Sample.answered_eq hother (by decide) [] [] Sample.clientFinal "alice" "alice"

/-! ## Refused client-firsts -/

/-- The arguments of `handle_client_first`, and what the random generator would fill in. -/
structure FirstCall where
  serverNonceBytes : Key
  mechanism : Str
  clientFirst : Str
  startupUser : Str

def FirstCall.call (f : FirstCall) : Call := .clientFirst f.serverNonceBytes f.mechanism f.clientFirst f.startupUser

/-- Whatever can be called on an authenticator. -/
inductive Use where
  | call (c : Call)
  | mechanisms
  | extractedClientKey

inductive Answer where
  | result (r : Except ScramError Str)
  | mechanisms (names : List Str)
  | clientKey (key : Option Bytes)

def react (a : ScramAuthenticator) : Use → Answer × ScramAuthenticator
  | .call c => (.result (a.call C c).1, (a.call C c).2)
  | .mechanisms => (.mechanisms a.mechanisms, a)
  | .extractedClientKey => (.clientKey a.extractedClientKey, a)

def Refused (a : ScramAuthenticator) (c : Call) : Prop := ∃ e, (a.call C c).1 = .error e

/-- The same, or both at the start and the same but for the GS2 header. -/
def SameButHeader (a b : ScramAuthenticator) : Prop :=
  a = b ∨ b.state = .started ∧ ∃ header, a = { b with gs2Header := header }

theorem SameButHeader.trans {a b c : ScramAuthenticator} (h : SameButHeader a b) (h' : SameButHeader b c) :
    SameButHeader a c := by
  obtain rfl | ⟨hstate, header, rfl⟩ := h
  · exact h'
  · obtain rfl | ⟨hstate', header', rfl⟩ := h'
    · exact .inr ⟨hstate, header, rfl⟩
    · exact .inr ⟨hstate', header, rfl⟩

/-- Only its header can be left behind by a client-first that is refused. -/
theorem sameButHeader_of_refused {a : ScramAuthenticator} {f : FirstCall} (h : Refused C a f.call) :
    SameButHeader (after C a f.call) a := by
  have hturn := call_turn C a f.call
  obtain ⟨e, he⟩ := h
  unfold after
  rw [he] at hturn
  generalize (a.call C f.call).2 = a' at hturn
  generalize hc : f.call = c at hturn
  cases hturn with
  | refused => exact .inl rfl
  | nonceless hstate => exact .inr ⟨hstate, _, rfl⟩
  | failed => cases hc

theorem sameButHeader_run {a : ScramAuthenticator} {firsts : List FirstCall}
    (h : Allowed (after C) (Refused C) a (firsts.map FirstCall.call)) :
    SameButHeader (run (after C) a (firsts.map FirstCall.call)) a := by
  induction firsts using List.reverseRecOn with
  | nil => exact .inl rfl
  | append_singleton firsts f ih =>
    rw [List.map_append, List.map_singleton] at h ⊢
    rw [run_concat]
    have hlast : Refused C (run (after C) a (firsts.map FirstCall.call)) f.call := h _ _ (List.prefix_refl _)
    refine (sameButHeader_of_refused C hlast).trans (ih fun pre c hpre => ?_)
    exact h pre c (hpre.trans (List.prefix_append _ _))

/-- A client-first that passes the checks overwrites the header, one that does not leaves
    it; a client-final is not looked at before the start is over. -/
theorem react_sameButHeader {a b : ScramAuthenticator} (h : SameButHeader a b) (u : Use) :
    (react C a u).1 = (react C b u).1 ∧ SameButHeader (react C a u).2 (react C b u).2 := by
  obtain rfl | ⟨hstate, header, rfl⟩ := h
  · exact ⟨rfl, .inl rfl⟩
  · have hsame : SameButHeader { b with gs2Header := header } b := .inr ⟨hstate, header, rfl⟩
    cases u with
    | mechanisms => exact ⟨rfl, hsame⟩
    | extractedClientKey => exact ⟨rfl, hsame⟩
    | call c =>
      cases c with
      | clientFirst nonce mechanism clientFirst user =>
        have hcheck : checkClientFirst { b with gs2Header := header } mechanism clientFirst user =
            b.checkClientFirst mechanism clientFirst user := rfl
        simp only [react, call, handleClientFirst, hcheck]
        cases b.checkClientFirst mechanism clientFirst user with
        | error e => exact ⟨rfl, hsame⟩
        | ok parts =>
          obtain ⟨flag, authzidPart, bare⟩ := parts
          by_cases hnonce : clientNonceOf bare = []
          · simp only [if_pos hnonce]
            exact ⟨trivial, .inl rfl⟩
          · simp only [if_neg hnonce]
            exact ⟨trivial, .inl rfl⟩
      | clientFinal clientFinal user =>
        have hnot : b.state ≠ .clientFirstReceived := by simp [hstate]
        simp only [react, call, handleClientFinal, if_pos hnot]
        exact ⟨trivial, hsame⟩

/-- After any number of refused client-firsts, whatever is called gives what it would give
    on a new authenticator. -/
theorem rejected_first_leaves_no_trace (v : Verifier) (certHash : Option CertHash) (firsts : List FirstCall)
    (hrefused : Allowed (after C) (Refused C) (new v certHash) (firsts.map FirstCall.call)) (uses : List Use) :
    outputs (react C) (exchange C v certHash (firsts.map FirstCall.call)) uses =
      outputs (react C) (new v certHash) uses :=
  outputs_eq (R := SameButHeader) (fun _ _ u h => react_sameButHeader C h u) (sameButHeader_run C hrefused) uses

end ScramAuthenticator

namespace Sample

/-- A message that is cut short, and one without a nonce that leaves its header behind. -/
def refusedFirsts : List ScramAuthenticator.FirstCall :=
  [⟨Key.zero, scramSha256, "n,", "alice"⟩, ⟨Key.zero, scramSha256, "y,,n=", "alice"⟩]

def wholeExchange : List ScramAuthenticator.Use :=
  [.call (.clientFirst serverNonceBytes scramSha256 clientFirst "alice"), .call (.clientFinal clientFinal "alice"),
    .extractedClientKey]

end Sample

namespace ScramAuthenticator

theorem rejected_first_leaves_no_trace_sample :
    outputs (react Sample.crypto) (exchange Sample.crypto Sample.verifier none (Sample.refusedFirsts.map FirstCall.call))
        Sample.wholeExchange =
      outputs (react Sample.crypto) (new Sample.verifier none) Sample.wholeExchange := by
  refine rejected_first_leaves_no_trace Sample.crypto Sample.verifier none Sample.refusedFirsts ?_ Sample.wholeExchange
  exact .cons ⟨malformed, by decide +kernel⟩ (.cons ⟨malformed, by decide +kernel⟩ (allowed_nil _))

end ScramAuthenticator

end Wirechaos
