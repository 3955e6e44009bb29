/-
  Wirechaos.Auth.ScramRuns — every sequence of calls on an authenticator
  (see `Wirechaos.Auth.Scram`).

  `Turn` says once what a call can do: it is refused and changes nothing, or a
  client-first is answered, or a client-final ends the exchange, well or not. So
  (1) there is one guess (`one_guess`): a client-final closes the exchange whatever
      becomes of it, and no call is accepted afterwards;
  (2) the binding is sound (`binding_sound`): what an accepted client-final is checked
      against is the GS2 header of the one accepted client-first, or the certificate.
-/

import Wirechaos.Auth.ScramProofs
import Wirechaos.Lib.Machine

namespace Wirechaos

open Text Async Scram Machine

namespace ScramAuthenticator

variable (C : Crypto)

/-! ## Calls -/

inductive Call where
  | clientFirst (serverNonceBytes : Key) (mechanism clientFirst startupUser : Str)
  | clientFinal (clientFinal user : Str)

def call (a : ScramAuthenticator) : Call → Except ScramError Str × ScramAuthenticator
  | .clientFirst serverNonceBytes mechanism clientFirst startupUser =>
    a.handleClientFirst serverNonceBytes mechanism clientFirst startupUser
  | .clientFinal clientFinal user => handleClientFinal C a clientFinal user

/-- The authenticator after a call, accepted or not. -/
def after (a : ScramAuthenticator) (c : Call) : ScramAuthenticator := (a.call C c).2

/-- The call is a client-first that is answered. -/
def AnswersFirst (a : ScramAuthenticator) (c : Call) : Prop :=
  ∃ nonce mechanism clientFirst user serverFirst, c = .clientFirst nonce mechanism clientFirst user ∧
    (a.call C c).1 = .ok serverFirst

/-- The call is a client-final that is accepted. -/
def AcceptsFinal (a : ScramAuthenticator) (c : Call) : Prop :=
  ∃ clientFinal user serverFinal, c = .clientFinal clientFinal user ∧ (a.call C c).1 = .ok serverFinal

/-- What a call can do. -/
inductive Turn (a : ScramAuthenticator) : Call → Except ScramError Str → ScramAuthenticator → Prop
  | refused {c : Call} {e : ScramError} :
      (∀ clientFinal user, c = .clientFinal clientFinal user → a.state ≠ .clientFirstReceived) → Turn a c (.error e) a
  /-- A client-first without a nonce leaves its header behind. -/
  | nonceless {nonce : Key} {mechanism clientFirst user header : Str} : a.state = .started →
      Turn a (.clientFirst nonce mechanism clientFirst user) (.error malformed) { a with gs2Header := header }
  | answered {nonce : Key} {mechanism clientFirst user serverFirst : Str} {a' : ScramAuthenticator} : a.state = .started →
      a.handleClientFirst nonce mechanism clientFirst user = (.ok serverFirst, a') →
      Turn a (.clientFirst nonce mechanism clientFirst user) (.ok serverFirst) a'
  | failed {clientFinal user : Str} {e : ScramError} : a.state = .clientFirstReceived →
      Turn a (.clientFinal clientFinal user) (.error e) { a with state := .done }
  | accepted {clientFinal user serverFinal authMessage : Str} {clientKey : Bytes} : a.state = .clientFirstReceived →
      Accepts C a clientFinal clientKey authMessage →
      Turn a (.clientFinal clientFinal user) (.ok serverFinal)
        { a with state := .done, extractedClientKey := some clientKey }

theorem checkClientFirst_started {a : ScramAuthenticator} {mechanism clientFirst user : Str} {parts : Str × Str × Str}
    (h : a.checkClientFirst mechanism clientFirst user = .ok parts) : a.state = .started := by
  unfold checkClientFirst validateParams at h
  obtain ⟨_, hparams, -⟩ := except_bind_eq_ok.mp h
  obtain ⟨_, hstate, -⟩ := except_bind_eq_ok.mp hparams
  exact require_eq_ok.mp hstate

theorem call_turn (a : ScramAuthenticator) (c : Call) : Turn C a c (a.call C c).1 (a.call C c).2 := by
  cases c with
  | clientFirst nonce mechanism clientFirst user =>
    unfold call
    rcases hcheck : a.checkClientFirst mechanism clientFirst user with e | ⟨flag, authzidPart, bare⟩
    · simp only [handleClientFirst, hcheck]
      exact .refused (by simp)
    · have hstate := checkClientFirst_started hcheck
      by_cases hnonce : clientNonceOf bare = []
      · simp only [handleClientFirst, hcheck, if_pos hnonce]
        exact .nonceless hstate
      · rcases hfirst : a.handleClientFirst nonce mechanism clientFirst user with ⟨e | serverFirst, a'⟩
        · simp only [handleClientFirst, hcheck, if_neg hnonce] at hfirst
          cases hfirst
        · dsimp only
          rw [hfirst]
          exact .answered hstate hfirst
  | clientFinal clientFinal user =>
    unfold call
    by_cases hstate : a.state = .clientFirstReceived
    · rcases hcheck : checkClientFinal C { a with state := .done } clientFinal user with e | ⟨clientKey, authMessage⟩
      · simp only [handleClientFinal, hstate, ne_eq, not_true_eq_false, if_false, hcheck]
        exact .failed hstate
      · simp only [handleClientFinal, hstate, ne_eq, not_true_eq_false, if_false, hcheck]
        obtain ⟨hattrs, hnonce, hsigned, hsha, hdummy⟩ := (checkClientFinal_ok C).mp hcheck
        exact .accepted hstate ⟨hattrs, hnonce, hsigned, hsha, hdummy⟩
    · simp only [handleClientFinal, ne_eq, hstate, not_false_eq_true, if_true]
      exact .refused (by simp [hstate])

theorem Turn.verifier {a a' : ScramAuthenticator} {c : Call} {r : Except ScramError Str} (h : Turn C a c r a') :
    a'.verifier = a.verifier ∧ a'.certHash = a.certHash := by
  cases h with
  | refused => exact ⟨rfl, rfl⟩
  | nonceless => exact ⟨rfl, rfl⟩
  | answered _ hfirst =>
    obtain ⟨_, _, _, -, -, -, -, -, -, rfl⟩ := handleClientFirst_ok hfirst
    exact ⟨rfl, rfl⟩
  | failed => exact ⟨rfl, rfl⟩
  | accepted => exact ⟨rfl, rfl⟩

/-! ## The three states in order -/

theorem state_of_answered {a a' : ScramAuthenticator} {nonce : Key} {mechanism clientFirst user serverFirst : Str}
    (h : a.handleClientFirst nonce mechanism clientFirst user = (.ok serverFirst, a')) :
    a'.state = .clientFirstReceived := by
  obtain ⟨_, _, _, -, -, -, -, -, -, rfl⟩ := handleClientFirst_ok h
  rfl

/-- The client-first is answered once. -/
theorem Turn.left {a a' : ScramAuthenticator} {c : Call} {r : Except ScramError Str} (h : Turn C a c r a')
    (hleft : a.state ≠ .started) : a'.state ≠ .started := by
  cases h with
  | refused => exact hleft
  | nonceless hstate => exact absurd hstate hleft
  | answered hstate => exact absurd hstate hleft
  | failed => simp
  | accepted => simp

/-- A client-final ends the exchange, whatever becomes of it. -/
theorem Turn.final {a a' : ScramAuthenticator} {clientFinal user : Str} {r : Except ScramError Str}
    (h : Turn C a (.clientFinal clientFinal user) r a') (hleft : a.state ≠ .started) : a'.state = .done := by
  cases h with
  | refused hopen =>
    have hclosed := hopen clientFinal user rfl
    rcases hstate : a.state with _ | _ | _
    · exact absurd hstate hleft
    · exact absurd hstate hclosed
    · rfl
  | failed => rfl
  | accepted => rfl

/-- After its end every call is refused and changes nothing. -/
theorem Turn.closed {a a' : ScramAuthenticator} {c : Call} {r : Except ScramError Str} (h : Turn C a c r a')
    (hdone : a.state = .done) : a' = a ∧ ∃ e, r = .error e := by
  cases h with
  | @refused _ e => exact ⟨rfl, e, rfl⟩
  | nonceless hstate => rw [hdone] at hstate; cases hstate
  | answered hstate => rw [hdone] at hstate; cases hstate
  | failed hstate => rw [hdone] at hstate; cases hstate
  | accepted hstate => rw [hdone] at hstate; cases hstate

theorem run_left {a : ScramAuthenticator} (h : a.state ≠ .started) (calls : List Call) :
    (run (after C) a calls).state ≠ .started :=
  run_invariant (fun s c hs => (call_turn C s c).left C hs) h calls

theorem run_closed {a : ScramAuthenticator} (h : a.state = .done) (calls : List Call) : run (after C) a calls = a := by
  induction calls with
  | nil => rfl
  | cons c calls ih =>
    have hsame : after C a c = a := ((call_turn C a c).closed C h).1
    rw [run_cons, hsame]
    exact ih

/-! ## One guess -/

/-- The key that is kept is one that the client proved it knows. -/
structure KeyProven (v : Verifier) (certHash : Option CertHash) (a : ScramAuthenticator) : Prop where
  verifier : a.verifier = v
  certHash : a.certHash = certHash
  proven : ∀ k, a.extractedClientKey = some k → C.sha256 k = v.storedKey ∧ k.length = 32 ∧ v.isDummy = false

theorem KeyProven.turn {v : Verifier} {certHash : Option CertHash} {a a' : ScramAuthenticator} {c : Call}
    {r : Except ScramError Str} (h : KeyProven C v certHash a) (hturn : Turn C a c r a') : KeyProven C v certHash a' := by
  obtain ⟨hverifier, hcert⟩ := hturn.verifier
  refine ⟨hverifier.trans h.verifier, hcert.trans h.certHash, ?_⟩
  cases hturn with
  | refused => exact h.proven
  | nonceless => exact h.proven
  | answered _ hfirst =>
    obtain ⟨_, _, _, -, -, -, -, -, -, rfl⟩ := handleClientFirst_ok hfirst
    exact h.proven
  | failed => exact h.proven
  | accepted _ haccepts =>
    intro k hk
    cases hk
    rw [← h.verifier]
    exact ⟨haccepts.authentic, haccepts.length, haccepts.known⟩

theorem keyProven_run (v : Verifier) (certHash : Option CertHash) (calls : List Call) :
    KeyProven C v certHash (run (after C) (new v certHash) calls) :=
  run_invariant (fun s c hs => hs.turn C (call_turn C s c)) ⟨rfl, rfl, by simp [new]⟩ calls

theorem not_acceptsFinal_of_error {a : ScramAuthenticator} {c : Call} {e : ScramError} (h : (a.call C c).1 = .error e) :
    ¬ AcceptsFinal C a c := by
  intro haccepts
  obtain ⟨_, _, _, -, hok⟩ := haccepts
  rw [h] at hok
  cases hok

/-- A call keeps a key exactly when it is a client-final that is accepted. -/
theorem extracted_step (a : ScramAuthenticator) (c : Call) :
    (after C a c).extractedClientKey.isSome ↔ a.extractedClientKey.isSome ∨ AcceptsFinal C a c := by
  have hturn := call_turn C a c
  unfold after
  generalize hr : (a.call C c).1 = r at hturn
  generalize (a.call C c).2 = a' at hturn
  cases hturn with
  | refused => simp [not_acceptsFinal_of_error C hr]
  | nonceless => simp [not_acceptsFinal_of_error C hr]
  | answered _ hfirst =>
    obtain ⟨_, _, _, -, -, -, -, -, -, rfl⟩ := handleClientFirst_ok hfirst
    simp [AcceptsFinal]
  | failed => simp [not_acceptsFinal_of_error C hr]
  | @accepted clientFinal user serverFinal => simp [AcceptsFinal, hr]

theorem extracted_run (v : Verifier) (certHash : Option CertHash) (calls : List Call) :
    (run (after C) (new v certHash) calls).extractedClientKey.isSome ↔
      ∃ pre c post, calls = pre ++ c :: post ∧ AcceptsFinal C (run (after C) (new v certHash) pre) c := by
  induction calls using List.reverseRecOn with
  | nil => simp [new]
  | append_singleton calls c ih =>
    rw [run_concat, extracted_step, ih]
    constructor
    · intro h
      rcases h with h | h
      · obtain ⟨pre, c', post, rfl, h⟩ := h
        exact ⟨pre, c', post ++ [c], by simp, h⟩
      · exact ⟨calls, c, [], rfl, h⟩
    · intro h
      obtain ⟨pre, c', post, he, h⟩ := h
      rcases List.eq_nil_or_concat post with rfl | ⟨post', last, rfl⟩
      · obtain ⟨rfl, hc⟩ := List.append_inj' he rfl
        cases hc
        exact Or.inr h
      · rw [List.concat_eq_append, ← List.cons_append, ← List.append_assoc] at he
        obtain ⟨rfl, -⟩ := List.append_inj' he rfl
        exact Or.inl ⟨pre, c', post', rfl, h⟩

/-- The authenticator after some calls. -/
abbrev exchange (v : Verifier) (certHash : Option CertHash) (calls : List Call) : ScramAuthenticator :=
  run (after C) (new v certHash) calls

theorem acceptsFinal_turn {a : ScramAuthenticator} {c : Call} (h : AcceptsFinal C a c) :
    a.state = .clientFirstReceived ∧ (after C a c).state = .done := by
  obtain ⟨clientFinal, user, serverFinal, rfl, hok⟩ := h
  have hresult : handleClientFinal C a clientFinal user = (.ok serverFinal, (handleClientFinal C a clientFinal user).2) :=
    Prod.ext_iff.mpr ⟨hok, rfl⟩
  obtain ⟨hstate, -⟩ := handleClientFinal_ok C hresult
  exact ⟨hstate, (call_turn C a (.clientFinal clientFinal user)).final C (by simp [hstate])⟩

/-- One client-final at most is accepted; once one was called after an accepted
    client-first every call fails; and there is a key exactly when one was accepted. -/
theorem one_guess (v : Verifier) (certHash : Option CertHash) (calls : List Call) :
    (∀ pre c mid c' post, calls = pre ++ c :: (mid ++ c' :: post) →
      ¬ (AcceptsFinal C (exchange C v certHash pre) c ∧ AcceptsFinal C (exchange C v certHash (pre ++ c :: mid)) c')) ∧
    (∀ pre c mid clientFinal user rest c' post,
      calls = pre ++ c :: (mid ++ .clientFinal clientFinal user :: (rest ++ c' :: post)) →
      AnswersFirst C (exchange C v certHash pre) c →
      ∃ e, ((exchange C v certHash (pre ++ c :: (mid ++ .clientFinal clientFinal user :: rest))).call C c').1 = .error e) ∧
    ((exchange C v certHash calls).extractedClientKey.isSome ↔
      ∃ pre c post, calls = pre ++ c :: post ∧ AcceptsFinal C (exchange C v certHash pre) c) ∧
    ∀ k, (exchange C v certHash calls).extractedClientKey = some k →
      C.sha256 k = v.storedKey ∧ k.length = 32 ∧ v.isDummy = false := by
  refine ⟨?_, ?_, extracted_run C v certHash calls, (keyProven_run C v certHash calls).proven⟩
  · intro pre c mid c' post _ hboth
    obtain ⟨hfirst, hsecond⟩ := hboth
    have hdone := (acceptsFinal_turn C hfirst).2
    have hopen := (acceptsFinal_turn C hsecond).1
    rw [exchange, run_append, run_cons, run_closed C hdone, hdone] at hopen
    cases hopen
  · intro pre c mid clientFinal user rest c' post _ hfirst
    obtain ⟨nonce, mechanism, clientFirst, user', serverFirst, rfl, hok⟩ := hfirst
    have hresult : (exchange C v certHash pre).handleClientFirst nonce mechanism clientFirst user' =
        (.ok serverFirst, after C (exchange C v certHash pre) (.clientFirst nonce mechanism clientFirst user')) :=
      Prod.ext_iff.mpr ⟨hok, rfl⟩
    have hleft : (after C (exchange C v certHash pre) (.clientFirst nonce mechanism clientFirst user')).state ≠ .started := by
      rw [state_of_answered hresult]
      decide
    have hdone := (call_turn C _ (.clientFinal clientFinal user)).final C (run_left C hleft mid)
    rw [exchange, run_append, run_cons, run_append, run_cons]
    change (after C _ _).state = .done at hdone
    rw [run_closed C hdone]
    exact ((call_turn C _ c').closed C hdone).2

/-! ## Channel binding -/

theorem plus_ne_scramSha256 : plus ≠ scramSha256 := by decide

/-- The GS2 flags that each mechanism goes with. -/
theorem validateGs2Flag_ok {a : ScramAuthenticator} {mechanism flag : Str} (h : a.validateGs2Flag mechanism flag = .ok ()) :
    (mechanism = scramSha256 ∧ (flag = "n" ∨ (flag = "y" ∧ a.certHash = none))) ∨
      (mechanism = plus ∧ flag = "p=tls-server-end-point") := by
  unfold validateGs2Flag at h
  split at h
  · rename_i hscram
    refine Or.inl ⟨hscram, ?_⟩
    unfold validateGs2FlagForScram at h
    split at h
    · exact Or.inl ‹_›
    split at h
    · rename_i hy
      split at h
      · cases h
      · rename_i hnone
        exact Or.inr ⟨hy, by simpa using hnone⟩
    split at h <;> cases h
  split at h
  · rename_i hplus
    refine Or.inr ⟨hplus, ?_⟩
    unfold validateGs2FlagForPlus at h
    split at h
    · assumption
    split at h
    · cases h
    split at h <;> cases h
  · cases h

theorem checkClientFirst_flag {a : ScramAuthenticator} {mechanism clientFirst user flag authzidPart bare : Str}
    (h : a.checkClientFirst mechanism clientFirst user = .ok (flag, authzidPart, bare)) :
    mechanism ∈ a.mechanisms ∧ a.validateGs2Flag mechanism flag = .ok () := by
  unfold checkClientFirst validateParams at h
  obtain ⟨_, hparams, h⟩ := except_bind_eq_ok.mp h
  obtain ⟨_, -, hparams⟩ := except_bind_eq_ok.mp hparams
  obtain ⟨_, -, hparams⟩ := except_bind_eq_ok.mp hparams
  obtain ⟨⟨flag', authzidPart', bare'⟩, -, h⟩ := except_bind_eq_ok.mp h
  obtain ⟨_, hflag, h⟩ := except_bind_eq_ok.mp h
  obtain ⟨_, -, h⟩ := except_bind_eq_ok.mp h
  cases h
  exact ⟨require_eq_ok.mp hparams, hflag⟩

/-- An open exchange is the one of its only accepted client-first. -/
theorem opened (v : Verifier) (certHash : Option CertHash) (calls : List Call)
    (h : (exchange C v certHash calls).state = .clientFirstReceived) :
    ∃ pre nonce mechanism clientFirst user post serverFirst,
      calls = pre ++ .clientFirst nonce mechanism clientFirst user :: post ∧
      (exchange C v certHash pre).handleClientFirst nonce mechanism clientFirst user =
        (.ok serverFirst, exchange C v certHash calls) := by
  induction calls using List.reverseRecOn with
  | nil => cases h
  | append_singleton calls c ih =>
    have hlast : exchange C v certHash (calls ++ [c]) = ((exchange C v certHash calls).call C c).2 :=
      run_concat (after C) _ calls c
    rw [hlast] at h ⊢
    have hturn := call_turn C (exchange C v certHash calls) c
    generalize hr : ((exchange C v certHash calls).call C c).1 = r at hturn
    generalize ha : ((exchange C v certHash calls).call C c).2 = a' at hturn h ⊢
    cases hturn with
    | refused =>
      obtain ⟨pre, nonce, mechanism, clientFirst, user, post, serverFirst, rfl, hfirst⟩ := ih h
      exact ⟨pre, nonce, mechanism, clientFirst, user, post ++ [c], serverFirst, by simp, hfirst⟩
    | nonceless hstate =>
      rw [show (exchange C v certHash calls).state = .clientFirstReceived from h] at hstate
      cases hstate
    | @answered nonce mechanism clientFirst user serverFirst _ _ hfirst =>
      exact ⟨calls, nonce, mechanism, clientFirst, user, [], serverFirst, rfl, hfirst⟩
    | failed => cases h
    | accepted => cases h

/-- What the `c=` of a client-final must be, by the mechanism and the flag of the
    client-first and the certificate. -/
inductive Binding (certHash : Option CertHash) (mechanism flag authzidPart cbind : Str) : Prop
  | plus {h : CertHash} : mechanism = plus → certHash = some h → flag = "p=tls-server-end-point" →
      cbind = Base64.encode Base64.standard (asBytes "p=tls-server-end-point,," ++ h.digest) →
      Binding certHash mechanism flag authzidPart cbind
  | none : mechanism = scramSha256 → flag = "n" ∨ (flag = "y" ∧ certHash = .none) →
      cbind = Base64.encode Base64.standard (asBytes (flag ++ ',' :: authzidPart ++ [','])) →
      Binding certHash mechanism flag authzidPart cbind

theorem binding_of_accepted {a a' : ScramAuthenticator} {nonce : Key} {mechanism clientFirst user serverFirst : Str}
    (h : a.handleClientFirst nonce mechanism clientFirst user = (.ok serverFirst, a')) :
    ∃ flag authzidPart bare, clientFirst = flag ++ ',' :: (authzidPart ++ ',' :: bare) ∧ ',' ∉ flag ∧ ',' ∉ authzidPart ∧
      Binding a.certHash mechanism flag authzidPart a'.expectedCbind := by
  obtain ⟨flag, authzidPart, bare, hcheck, hsplit, hf, hz, -, -, rfl⟩ := handleClientFirst_ok h
  refine ⟨flag, authzidPart, bare, hsplit, hf, hz, ?_⟩
  obtain ⟨hmem, hflag⟩ := checkClientFirst_flag hcheck
  rcases validateGs2Flag_ok hflag with ⟨hscram, hflag⟩ | ⟨hplus, hflag⟩
  · have hne : mechanism ≠ Scram.plus := by
      rw [hscram]
      exact plus_ne_scramSha256.symm
    exact .none hscram hflag (by simp only [expectedCbind, if_neg hne])
  · rcases hcert : a.certHash with _ | hash
    · -- without a certificate the mechanism is not offered
      simp only [mechanisms, hcert, Option.isSome_none, Bool.false_eq_true, if_false, List.mem_singleton] at hmem
      exact absurd (hplus.symm.trans hmem) plus_ne_scramSha256
    · exact .plus hplus rfl hflag (by simp only [expectedCbind, if_pos hplus]; rfl)

/-- An accepted client-final is bound to the GS2 header of the accepted client-first, or
    to the server's certificate; no other certificate will do, and no `y` while `-PLUS` was
    offered. -/
theorem binding_sound (v : Verifier) (certHash : Option CertHash) (calls : List Call)
    {clientFinal user serverFinal : Str} {a' : ScramAuthenticator}
    (h : handleClientFinal C (exchange C v certHash calls) clientFinal user = (.ok serverFinal, a')) :
    ∃ pre nonce mechanism clientFirst user' post serverFirst flag authzidPart bare cbind r p,
      calls = pre ++ .clientFirst nonce mechanism clientFirst user' :: post ∧
      ((exchange C v certHash pre).call C (.clientFirst nonce mechanism clientFirst user')).1 = .ok serverFirst ∧
      clientFirst = flag ++ ',' :: (authzidPart ++ ',' :: bare) ∧ ',' ∉ flag ∧ ',' ∉ authzidPart ∧
      collectAttrs (attributes clientFinal) = .ok ⟨some cbind, some r, some p⟩ ∧
      Binding certHash mechanism flag authzidPart cbind ∧
      (∀ hash : CertHash, mechanism = plus → cbind = Base64.encode Base64.standard hash.cbindInput →
        ∃ own, certHash = some own ∧ hash.digest = own.digest) ∧
      (certHash.isSome → flag ≠ "y") := by
  obtain ⟨hstate, clientKey, authMessage, haccepts, -, -⟩ := handleClientFinal_ok C h
  obtain ⟨pre, nonce, mechanism, clientFirst, user', post, serverFirst, hcalls, hfirst⟩ := opened C v certHash calls hstate
  obtain ⟨flag, authzidPart, bare, hsplit, hf, hz, hbinding⟩ := binding_of_accepted hfirst
  obtain ⟨cbind, p, _, hattrs, hcbind, -⟩ := haccepts.attrs
  rw [(keyProven_run C v certHash pre).certHash, ← hcbind] at hbinding
  refine ⟨pre, nonce, mechanism, clientFirst, user', post, serverFirst, flag, authzidPart, bare, cbind, _, p, hcalls,
    congrArg Prod.fst hfirst, hsplit, hf, hz, hattrs, hbinding, ?_, ?_⟩
  · intro hash hplus hc
    cases hbinding with
    | @plus own _ hcert _ hown =>
      rw [hc] at hown
      exact ⟨own, hcert, List.append_cancel_left (Base64.encode_inj Base64.standard hown)⟩
    | none hscram => exact absurd (hplus.symm.trans hscram) plus_ne_scramSha256
  · intro hsome hy
    cases hbinding with
    | plus _ _ hflag =>
      rw [hy] at hflag
      revert hflag
      decide
    | none _ hflag =>
      rcases hflag with hn | ⟨-, hnone⟩
      · rw [hy] at hn
        revert hn
        decide
      · rw [hnone] at hsome
        cases hsome

theorem binding_sound_run :
    ∃ pre nonce mechanism clientFirst user' post serverFirst flag authzidPart bare cbind r p,
      [.clientFirst Sample.serverNonceBytes scramSha256 Sample.clientFirst "alice"] =
        pre ++ Call.clientFirst nonce mechanism clientFirst user' :: post ∧
      ((exchange Sample.crypto Sample.verifier none pre).call Sample.crypto
        (.clientFirst nonce mechanism clientFirst user')).1 = .ok serverFirst ∧
      clientFirst = flag ++ ',' :: (authzidPart ++ ',' :: bare) ∧ ',' ∉ flag ∧ ',' ∉ authzidPart ∧
      collectAttrs (attributes Sample.clientFinal) = .ok ⟨some cbind, some r, some p⟩ ∧
      Binding none mechanism flag authzidPart cbind ∧
      (∀ hash : CertHash, mechanism = plus → cbind = Base64.encode Base64.standard hash.cbindInput →
        ∃ own : CertHash, none = some own ∧ hash.digest = own.digest) ∧
      ((none : Option CertHash).isSome → flag ≠ "y") :=
  binding_sound Sample.crypto Sample.verifier none
    [.clientFirst Sample.serverNonceBytes scramSha256 Sample.clientFirst "alice"] Sample.accepted_eq

end ScramAuthenticator

end Wirechaos
