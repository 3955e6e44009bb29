/-
  Wirechaos.Conn.AuthProofs — what stands behind an AuthenticationOk
  (see `Wirechaos.Conn.Auth`).

  The exchange is a chain: each message is written only after the step before it
  returned. So an AuthenticationOk in the log of a run, or a client key it returned,
  gives the whole log of the exchange and the answers of the authenticator
  (`handleScramAuth_log`).
-/

import Wirechaos.Auth.ScramProofs
import Wirechaos.Conn.Runs

namespace Wirechaos

open Text Async Proc Scram

namespace Session

variable (C : Crypto) {V : Type} {p : Event → Prop}

/-! ## Messages of the exchange -/

/-- A message of the `AuthenticationXXX` family. -/
def authEvent (code : UInt32) (data : Bytes) : Event := .message (byte 'R') (authBody code data)

/-- The event is an AuthenticationOk. -/
def IsAuthOk (e : Event) : Prop := ∃ data, e = authEvent authSaslOk data

theorem not_isAuthOk_authEvent {code : UInt32} (h : code ≠ authSaslOk) (data : Bytes) : ¬ IsAuthOk (authEvent code data) := by
  intro h
  obtain ⟨data', he⟩ := h
  simp only [authEvent, Event.message.injEq, true_and] at he
  exact h (authBody_inj he).1

theorem emits_sendAuthMessage (code : UInt32) (data : Bytes) :
    Emits log (mapErr AuthFailure.internal (sendAuthMessage (V := V) code data)) fun _ _ es _ => es = [authEvent code data] := by
  refine (emits_mapErr (emits_writeMessage _ _)).mono fun s o es s' h => ?_
  obtain ⟨_, ⟨-, rfl⟩, -⟩ := h
  rfl

theorem keeps_readSaslResponse (h : ∀ body, p (.sasl body)) : Keeps (Extends p) (readSaslResponse (V := V)) := by
  refine keeps_bind (keeps_mapErr (keeps_io (Wire.keeps_readExact _))) fun _ => keeps_bind (keeps_lift _) fun _ => ?_
  refine keeps_bind (keeps_mapErr keeps_readMessageLength) fun _ => keeps_bind (keeps_lift _) fun _ => ?_
  refine keeps_bind (keeps_mapErr (keeps_readMessageBody _)) fun _ => keeps_bind (keeps_lift _) fun _ => ?_
  exact keeps_bind (keeps_emit (h _)) fun _ => keeps_pure _

/-- A response that was read is the last thing logged, and the only one. -/
theorem readSaslResponse_ok {s s' : Session V} {body : Bytes} (h : readSaslResponse s = (.ok body, s')) :
    s'.log = s.log ++ [.sasl body] := by
  obtain ⟨_, s₁, h₁, h⟩ := bind_ok.mp h
  obtain ⟨_, s₂, h₂, h⟩ := bind_ok.mp h
  obtain ⟨_, s₃, h₃, h⟩ := bind_ok.mp h
  obtain ⟨_, s₄, h₄, h⟩ := bind_ok.mp h
  obtain ⟨_, s₅, h₅, h⟩ := bind_ok.mp h
  obtain ⟨_, s₆, h₆, h⟩ := bind_ok.mp h
  cases h
  have silent {ε α : Type} {x : Proc (Session V) ε α} (hx : Keeps (Extends fun _ => False) x) {s s' : Session V} {a : α}
      (hs : x s = (.ok a, s')) : s'.log = s.log := by
    have := Silent.log (hx s)
    rwa [hs] at this
  show s₆.log ++ _ = _
  rw [silent (keeps_lift _) h₆, silent (keeps_mapErr (keeps_readMessageBody _)) h₅, silent (keeps_lift _) h₄,
    silent (keeps_mapErr keeps_readMessageLength) h₃, silent (keeps_lift _) h₂,
    silent (keeps_mapErr (keeps_io (Wire.keeps_readExact _))) h₁]

/-- Reading and parsing a response. -/
theorem emits_readSasl {α : Type} (parse : Bytes → Except AuthFailure α) :
    Emits log (do let body ← readSaslResponse (V := V); lift (parse body)) fun _ o es _ =>
      (∀ e ∈ es, ∃ body, e = .sasl body) ∧ ∀ a, o = .ok a → ∃ body, es = [.sasl body] ∧ parse body = .ok a := by
  intro s
  have hkeeps : Keeps (Extends fun e => ∃ body, e = .sasl body)
      (do let body ← readSaslResponse (V := V); lift (parse body)) :=
    keeps_bind (keeps_readSaslResponse fun body => ⟨body, rfl⟩) fun _ => keeps_lift _
  obtain ⟨-, es, hlog, hes⟩ := hkeeps s
  refine ⟨es, hlog, hes, fun a ha => ?_⟩
  obtain ⟨body, s₁, hread, hlift⟩ := bind_ok.mp (eq_of_fst ha)
  obtain ⟨hparse, he⟩ := lift_eq_ok.mp hlift
  have hread' := readSaslResponse_ok hread
  rw [← he, hlog, List.append_cancel_left_eq] at hread'
  exact ⟨body, hread', hparse⟩

theorem emits_drawServerNonce {ε : Type} :
    Emits log (drawServerNonce : Proc (Session V) ε Key) fun _ _ es _ => es = [] :=
  fun _ => ⟨[], by rw [List.append_nil]; rfl, rfl⟩

/-! ## The exchange -/

/-- The client knows a key of the verifier: its client-final repeats the nonce of the
    server-first and carries a proof over this very exchange. -/
def Proven (v : Verifier) (clientFirst serverFirst clientFinal : Str) : Prop :=
  ∃ bare serverNonce cbind proofB64 proof w t,
    BareOf clientFirst bare ∧
    let nonce := clientNonceOf bare ++ '-' :: serverNonce
    let authMessage := bare ++ ',' :: serverFirst ++ ',' :: w
    serverFirst = "r=".toList ++ nonce ++ ",s=".toList ++ Base64.encode Base64.standard v.salt ++ ",i=".toList ++
      decimal v.iterations.toNat ∧
    collectAttrs (attributes clientFinal) = .ok ⟨some cbind, some nonce, some proofB64⟩ ∧
    Base64.decode Base64.standard proofB64 = some proof ∧ proof.length = 32 ∧
    clientFinal = w ++ ",p=".toList ++ t ∧
    C.sha256 (xorBytes proof (C.hmacSha256 v.storedKey.bytes (asBytes authMessage)).bytes) = v.storedKey

/-- The log of an exchange that ended with an AuthenticationOk. -/
def AuthLog (v : Verifier) (es : List Event) : Prop :=
  ∃ mechanics b₁ mechanism clientFirst serverFirst b₂ clientFinal serverFinal,
    es = [authEvent authSasl (saslMechanismList mechanics), .sasl b₁,
      authEvent authSaslContinue (asBytes serverFirst), .sasl b₂,
      authEvent authSaslFinal (asBytes serverFinal), authEvent authSaslOk []] ∧
    parseSaslInitialResponse mechanics b₁ = .ok (mechanism, clientFirst) ∧
    parseSaslFinalResponse b₂ = .ok clientFinal ∧
    v.isDummy = false ∧ Proven C v clientFirst serverFirst clientFinal

theorem proven_of_steps {v : Verifier} {certHash : Option CertHash} {nonce : Key} {a₁ a₂ : ScramAuthenticator}
    {mechanism clientFirst user serverFirst clientFinal serverFinal : Str}
    (hfirst : (ScramAuthenticator.new v certHash).handleClientFirst nonce mechanism clientFirst user = (.ok serverFirst, a₁))
    (hfinal : a₁.handleClientFinal C clientFinal user = (.ok serverFinal, a₂)) :
    v.isDummy = false ∧ Proven C v clientFirst serverFirst clientFinal ∧
      ∃ k, a₂.extractedClientKey = some k ∧ C.sha256 k = v.storedKey := by
  obtain ⟨flag, authzidPart, bare, -, hcf, hf, hz, -, hsf, rfl⟩ := ScramAuthenticator.handleClientFirst_ok hfirst
  obtain ⟨-, clientKey, authMessage, haccepts, -, rfl⟩ := ScramAuthenticator.handleClientFinal_ok C hfinal
  obtain ⟨cbind, proofB64, proof, hattrs, -, hproof, hlen, hkey⟩ := haccepts.attrs
  obtain ⟨w, t, hcut, -, hsigned⟩ := ScramAuthenticator.authMessage_cut haccepts.signed
  refine ⟨haccepts.known, ⟨bare, Base64.encode Base64.standard nonce.bytes, cbind, proofB64, proof, w, t,
    ⟨flag, authzidPart, hcf, hf, hz⟩, hsf, hattrs, hproof, hlen, hcut, ?_⟩, clientKey, rfl, haccepts.authentic⟩
  have hauthentic := haccepts.authentic
  rw [hkey, hsigned] at hauthentic
  exact hauthentic

theorem scramStep_ok {r : Except ScramError Str × ScramAuthenticator} {message : Str} {a : ScramAuthenticator}
    (h : scramStep r = .ok (message, a)) : r = (.ok message, a) := by
  obtain ⟨⟨e⟩ | ⟨m⟩, a'⟩ := r <;> cases h
  rfl

theorem lift_ok_or {ε α : Type} {o : Outcome ε α} {r : Except ε α} {a : α}
    (h : o = match r with | .ok a => .ok a | .error e => .err e) (ho : o = .ok a) : r = .ok a := by
  subst h
  cases r <;> cases ho
  rfl

theorem saslExchange_log (v : Verifier) (certHash : Option CertHash) (user : Str) :
    Emits log (saslExchange (V := V) C (.new v certHash) user) fun _ o es _ =>
      (∃ e ∈ es, IsAuthOk e) ∨ (∃ k, o = .ok k) →
        AuthLog C v es ∧ ∀ k, o = .ok k → ∃ key, k = some key ∧ C.sha256 key = v.storedKey := by
  refine (emits_bind (emits_sendAuthMessage _ _) fun _ => emits_bind (emits_readSasl _) fun r => emits_bind
    emits_drawServerNonce fun nonce => emits_bind (emits_lift _) fun r₁ => emits_bind (emits_sendAuthMessage _ _) fun _ =>
    emits_bind (emits_readSasl _) fun clientFinal => emits_bind (emits_lift _) fun r₂ => emits_bind
    (emits_sendAuthMessage _ _) fun _ => emits_bind (emits_sendAuthMessage _ _) fun _ => emits_pure _).mono ?_
  intro s o es s' h hmark
  have notSasl {es : List Event} (hes : ∀ e ∈ es, ∃ body, e = .sasl body) : ∀ e ∈ es, ¬ IsAuthOk e := by
    intro e he h
    obtain ⟨data, hd⟩ := h
    obtain ⟨body, hb⟩ := hes e he
    rw [hb] at hd
    cases hd
  have notAuth {code : UInt32} {data : Bytes} {es : List Event} (hcode : code ≠ authSaslOk) (hes : es = [authEvent code data]) :
      ∀ e ∈ es, ¬ IsAuthOk e := by
    rw [hes]
    simpa using not_isAuthOk_authEvent hcode data
  have none {es : List Event} (hes : es = []) : ∀ e ∈ es, ¬ IsAuthOk e := by simp [hes]
  -- no step but the last can log an AuthenticationOk, so each of them returned
  obtain ⟨_, _, e₁, r₁, hp₁, h₁, hes₁, hm₁⟩ := h.reached (fun _ _ _ hp => notAuth (by decide) hp) hmark
  obtain ⟨⟨mechanism, clientFirst⟩, _, e₂, r₂, ⟨-, hread₁⟩, h₂, hes₂, hm₂⟩ := h₁.reached (fun _ _ _ hp => notSasl hp.1) hm₁
  obtain ⟨b₁, hp₂, hb₁⟩ := hread₁ _ rfl
  obtain ⟨nonce, _, e₃, r₃, hp₃, h₃, hes₃, hm₃⟩ := h₂.reached (fun _ _ _ hp => none hp) hm₂
  obtain ⟨⟨serverFirst, a₁⟩, _, e₄, r₄, ⟨ho₁, hp₄, -⟩, h₄, hes₄, hm₄⟩ := h₃.reached (fun _ _ _ hp => none hp.2.1) hm₃
  obtain ⟨_, _, e₅, r₅, hp₅, h₅, hes₅, hm₅⟩ := h₄.reached (fun _ _ _ hp => notAuth (by decide) hp) hm₄
  obtain ⟨clientFinal, _, e₆, r₆, ⟨-, hread₂⟩, h₆, hes₆, hm₆⟩ := h₅.reached (fun _ _ _ hp => notSasl hp.1) hm₅
  obtain ⟨b₂, hp₆, hb₂⟩ := hread₂ _ rfl
  obtain ⟨⟨serverFinal, a₂⟩, _, e₇, r₇, ⟨ho₂, hp₇, -⟩, h₇, hes₇, hm₇⟩ := h₆.reached (fun _ _ _ hp => none hp.2.1) hm₆
  obtain ⟨_, _, e₈, r₈, hp₈, h₈, hes₈, hm₈⟩ := h₇.reached (fun _ _ _ hp => notAuth (by decide) hp) hm₇
  obtain ⟨hdummy, hproven, hkey⟩ := proven_of_steps C (scramStep_ok (lift_ok_or ho₁ rfl)) (scramStep_ok (lift_ok_or ho₂ rfl))
  -- the AuthenticationOk has been handed to the writer, whatever became of it
  have hlast : r₈ = [authEvent authSaslOk []] ∧ ∀ k, o = .ok k → ∃ key, k = some key ∧ C.sha256 key = v.storedKey := by
    rcases h₈ with ⟨_, _, _, _, hp₉, ⟨ho, hp₁₀, -⟩, hes⟩ | ⟨_, hp₉, ho⟩ | ⟨_, hp₉, ho⟩
    · refine ⟨by rw [hes, hp₉, hp₁₀]; rfl, fun k hk => ?_⟩
      rw [ho] at hk
      cases hk
      exact hkey
    · exact ⟨hp₉, fun k hk => by rw [ho] at hk; cases hk⟩
    · exact ⟨hp₉, fun k hk => by rw [ho] at hk; cases hk⟩
  refine ⟨⟨_, b₁, mechanism, clientFirst, serverFirst, b₂, clientFinal, serverFinal, ?_, hb₁, hb₂, hdummy, hproven⟩, hlast.2⟩
  rw [hes₁, hes₂, hes₃, hes₄, hes₅, hes₆, hes₇, hes₈, hp₁, hp₂, hp₃, hp₄, hp₅, hp₆, hp₇, hp₈, hlast.1]
  rfl

/-! ## Authenticating a client -/

section Provider

variable [VerifierProvider V]

/-- The events of authentication: one lookup, the exchange, an error message. -/
def AuthEvent (e : Event) : Prop :=
  (∃ user answer, e = .lookup user answer) ∨ (∃ body, e = .sasl body) ∨ ∃ tag body, e = .message tag body

omit [VerifierProvider V] in
theorem keeps_saslExchange (scram : ScramAuthenticator) (user : Str) :
    Keeps (Extends AuthEvent) (saslExchange (V := V) C scram user) := by
  have hsend (code : UInt32) (data : Bytes) : Keeps (Extends AuthEvent)
      (mapErr AuthFailure.internal (sendAuthMessage (V := V) code data)) :=
    keeps_mapErr (keeps_writeMessage (Or.inr (Or.inr ⟨_, _, rfl⟩)))
  have hread : Keeps (Extends AuthEvent) (readSaslResponse (V := V)) :=
    keeps_readSaslResponse fun body => Or.inr (Or.inl ⟨body, rfl⟩)
  refine keeps_bind (hsend _ _) fun _ => keeps_bind (keeps_bind hread fun _ => keeps_lift _) fun _ => ?_
  refine keeps_bind (keeps_bind keeps_get fun s => keeps_bind (keeps_update (fun _ => ?_) fun _ => rfl) fun _ =>
    keeps_pure _) fun _ => ?_
  · exact ⟨⟨rfl, rfl, rfl, rfl, rfl, rfl, rfl, rfl, rfl⟩, rfl, rfl, rfl, rfl⟩
  refine keeps_bind (keeps_lift _) fun _ => keeps_bind (hsend _ _) fun _ => ?_
  refine keeps_bind (keeps_bind hread fun _ => keeps_lift _) fun _ => keeps_bind (keeps_lift _) fun _ => ?_
  exact keeps_bind (hsend _ _) fun _ => keeps_bind (hsend _ _) fun _ => keeps_pure _

theorem keeps_handleScramAuth : Keeps (Extends AuthEvent) (handleScramAuth (V := V) C) := by
  refine keeps_bind keeps_get fun s => keeps_bind (keeps_lift _) fun user => ?_
  refine keeps_bind (keeps_lookup fun answer => Or.inl ⟨_, answer, rfl⟩) fun answer => keeps_bind keeps_get fun s => ?_
  exact keeps_bind (keeps_lift _) fun verifier => keeps_saslExchange C _ _

theorem keeps_handleAuthentication : Keeps (Extends AuthEvent) (handleAuthentication (V := V) C) := by
  refine keeps_bind (keeps_attempt (keeps_handleScramAuth C)) fun r => ?_
  rcases r with ⟨e | e⟩ | k
  · exact keeps_bind (keeps_mapErr (keeps_writeMessage (Or.inr (Or.inr ⟨_, _, rfl⟩)))) fun _ => keeps_pure _
  · exact keeps_throw _
  · exact keeps_pure _

theorem verifierFor_ok {provider : V} {user : Str} {answer : Except ProviderError (Option Verifier)} {v : Verifier}
    (h : verifierFor provider user answer = .ok v) (hv : v.isDummy = false) : answer = .ok (some v) := by
  unfold verifierFor at h
  split at h
  · cases h
    rfl
  · cases h
    rw [VerifierProvider.isDummy_getDummyVerifier] at hv
    cases hv
  · cases h

theorem handleScramAuth_log :
    Emits log (handleScramAuth (V := V) C) fun s o es _ =>
      (∃ e ∈ es, IsAuthOk e) ∨ (∃ k, o = .ok k) →
        ∃ user v rest, s.conn.user = some user ∧ es = .lookup user (.ok (some v)) :: rest ∧ AuthLog C v rest ∧
          ∀ k, o = .ok k → ∃ key, k = some key ∧ C.sha256 key = v.storedKey := by
  refine (emits_bind emits_get fun s => emits_bind (emits_lift _) fun user => emits_bind (emits_lookup user) fun answer =>
    emits_bind emits_get fun s₁ => emits_bind (emits_lift _) fun v => saslExchange_log C v _ user).mono ?_
  intro s o es s' h hmark
  have none {es : List Event} (hes : es = []) : ∀ e ∈ es, ¬ IsAuthOk e := by simp [hes]
  obtain ⟨_, _, e₁, r₁, ⟨ho₁, hp₁, -⟩, h₁, hes₁, hm₁⟩ := h.reached (fun _ _ _ hp => none hp.2.1) hmark
  obtain ⟨user, _, e₂, r₂, ⟨ho₂, hp₂, -⟩, h₂, hes₂, hm₂⟩ := h₁.reached (fun _ _ _ hp => none hp.2.1) hm₁
  obtain ⟨answer, _, e₃, r₃, hp₃, h₃, hes₃, hm₃⟩ := h₂.reached (fun o e s' hp => by
    rcases hp with ⟨answer, -, rfl⟩ | ⟨-, rfl⟩
    · simp [IsAuthOk, authEvent]
    · simp) hm₂
  obtain ⟨s₁, _, e₄, r₄, ⟨-, hp₄, -⟩, h₄, hes₄, hm₄⟩ := h₃.reached (fun _ _ _ hp => none hp.2.1) hm₃
  obtain ⟨v, _, e₅, r₅, ⟨ho₅, hp₅, -⟩, h₅, hes₅, hm₅⟩ := h₄.reached (fun _ _ _ hp => none hp.2.1) hm₄
  obtain ⟨hauth, hsome⟩ := h₅ hm₅
  obtain ⟨_, _, _, _, _, _, _, _, -, -, -, hdummy, -⟩ := id hauth
  cases ho₁
  have huser := okOr_eq_ok.mp (lift_ok_or ho₂ rfl)
  have hanswer := verifierFor_ok (lift_ok_or ho₅ rfl) hdummy
  rcases hp₃ with ⟨_, ho, hp₃⟩ | ⟨hno, -⟩
  · cases ho
    refine ⟨user, v, r₅, (Option.filter_eq_some_iff.mp huser).1, ?_, hauth, hsome⟩
    rw [hes₁, hes₂, hes₃, hes₄, hes₅, hp₁, hp₂, hp₃, hp₄, hp₅, hanswer]
    rfl
  · exact absurd rfl (hno answer)

/-- A message outside the `AuthenticationXXX` family. -/
def IsPlainMessage (e : Event) : Prop := ∃ tag body, e = .message tag body ∧ tag ≠ byte 'R'

/-- Messages alone open no link and look nobody up. -/
theorem not_mem_of_plain {es : List Event} (h : ∀ e ∈ es, IsPlainMessage e) :
    (∀ config, .connect config ∉ es) ∧ ∀ user answer, .lookup user answer ∉ es := by
  constructor
  · intro config he
    obtain ⟨_, _, he, -⟩ := h _ he
    cases he
  · intro user answer he
    obtain ⟨_, _, he, -⟩ := h _ he
    cases he

theorem not_isAuthOk_of_plain {e : Event} (h : IsPlainMessage e) : ¬ IsAuthOk e := by
  obtain ⟨tag, body, rfl, htag⟩ := h
  intro h
  obtain ⟨data, hd⟩ := h
  cases hd
  exact htag rfl

theorem isPlainMessage_error (body : Bytes) : IsPlainMessage (.message (byte 'E') body) := ⟨_, _, rfl, by decide⟩

omit [VerifierProvider V] in
theorem emits_answerAuth (r : Except AuthFailure (Option Bytes)) :
    Emits log (answerAuth (V := V) r) fun _ o es _ =>
      (∀ e ∈ es, IsPlainMessage e) ∧ ∀ k, o = .ok (some k) → r = .ok (some k) ∧ es = [] := by
  rcases r with ⟨e | e⟩ | k
  · refine (emits_bind (emits_mapErr (emits_writeMessage _ _)) fun _ => emits_pure _).mono fun s o es s' h => ?_
    rcases h with ⟨_, _, _, _, ⟨_, ⟨-, rfl⟩, -⟩, ⟨rfl, rfl, -⟩, rfl⟩ | ⟨_, ⟨_, ⟨-, rfl⟩, -⟩, rfl⟩ | ⟨_, ⟨_, ⟨-, rfl⟩, -⟩, rfl⟩ <;>
      simp [isPlainMessage_error]
  · exact (emits_throw _).mono fun s o es s' ⟨ho, hes, _⟩ => by simp [ho, hes]
  · exact (emits_pure _).mono fun s o es s' ⟨ho, hes, _⟩ => by simp [ho, hes]

/-- An AuthenticationOk comes from the exchange; so does a client key, and nothing
    follows the exchange then. -/
theorem handleAuthentication_log :
    Emits log (handleAuthentication (V := V) C) fun s o es _ =>
      (∃ e ∈ es, IsAuthOk e) ∨ (∃ k, o = .ok (some k)) →
        ∃ user v exchange tail, s.conn.user = some user ∧ es = .lookup user (.ok (some v)) :: (exchange ++ tail) ∧
          AuthLog C v exchange ∧ (∀ e ∈ tail, IsPlainMessage e) ∧
          ∀ k, o = .ok (some k) → tail = [] ∧ C.sha256 k = v.storedKey := by
  refine (emits_bind (emits_attempt (handleScramAuth_log C)) emits_answerAuth).mono fun s o es s' h hmark => ?_
  rcases h with ⟨r, s₁, e₁, e₂, ⟨o', hexchange, ho'⟩, ⟨htail, hkey⟩, rfl⟩ | ⟨e, ⟨o', -, ho'⟩, -⟩ | ⟨n, ⟨o', hexchange, ho'⟩, rfl⟩
  · have hmark' : (∃ e ∈ e₁, IsAuthOk e) ∨ ∃ k, o' = .ok k := by
      rcases hmark with ⟨e, he, hok⟩ | ⟨k, ho⟩
      · rcases List.mem_append.mp he with he | he
        · exact Or.inl ⟨e, he, hok⟩
        · exact absurd hok (not_isAuthOk_of_plain (htail e he))
      · right
        rw [(hkey k ho).1] at ho'
        cases o' <;> cases ho'
        exact ⟨_, rfl⟩
    obtain ⟨user, v, exchange, huser, rfl, hauth, hsome⟩ := hexchange hmark'
    refine ⟨user, v, exchange, e₂, huser, rfl, hauth, htail, fun k ho => ⟨(hkey k ho).2, ?_⟩⟩
    rw [(hkey k ho).1] at ho'
    cases o' <;> cases ho'
    obtain ⟨key, hk, hstored⟩ := hsome _ rfl
    cases hk
    exact hstored
  · cases o' <;> cases ho'
  · obtain ⟨user, v, exchange, huser, rfl, hauth, -⟩ := hexchange (Or.inl (hmark.resolve_right (by simp)))
    exact ⟨user, v, exchange, [], huser, by rw [List.append_nil], hauth, by simp, by simp⟩

end Provider

end Session

end Wirechaos
