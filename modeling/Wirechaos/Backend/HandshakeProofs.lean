/-
  Wirechaos.Backend.HandshakeProofs — the orders of messages a backend handshake accepts
  (see `Wirechaos.Backend.PgClient`).

  A handshake that returned is a list of turns, each one message with all that it made
  the client do, and a ReadyForQuery (`handshake_turns`). A turn does not depend on the
  turns before it: the loop keeps no state, so that an AuthenticationOk may be missing
  and challenges may come in any number (`unauthenticated_transcripts`). What is sure of
  a transcript is what is sure of each turn: with a key to check it with, every SASL
  exchange ends with the signature over its own messages (`sasl_authenticates_backend`).
-/

import Wirechaos.Backend.PgClientProofs

namespace Wirechaos

open Text Async Proc

namespace PgClient

variable (C : Crypto) {config : PgConfig} {peer : Option CertHash}

/-! ## Turns -/

/-- One message of the loop, and what it makes the client do. -/
inductive Turn (config : PgConfig) (peer : Option CertHash) : List PgEvent → Prop
  | authenticationOk (data : Bytes) : Turn config peer [.received (byte 'R') (beBytes 0 ++ data)]
  | cleartext (data : Bytes) {password : Bytes} : config.password = some password →
      Turn config peer [.received (byte 'R') (beBytes 3 ++ data), .wrote .cleartext (password ++ [0])]
  | md5 {salt password : Bytes} : config.password = some password → salt.length = 4 →
      Turn config peer [.received (byte 'R') (beBytes 5 ++ salt),
        .wrote .md5 (asBytes (md5Response C config.user password salt) ++ [0])]
  | sasl {x : Exchange} : Completed C config peer x → Turn config peer x.events
  | parameterStatus {payload : Bytes} {name value : Str} : parseParameterStatus payload = .ok (name, value) →
      Turn config peer [.received (byte 'S') payload]
  | notice (payload : Bytes) : Turn config peer [.received (byte 'N') payload]
  | backendKey {payload : Bytes} {key : BackendKeyData} : parseBackendKeyData payload = .ok key →
      Turn config peer [.received (byte 'K') payload]

/-- The verdict on the server's signature after a turn. -/
def verdictAfter (before : Bool) (turn : List PgEvent) : Bool :=
  turn.foldl (fun verdict e => match e with
    | .exchanged _ _ verified => verified
    | _ => verdict) before

/-- Reading and writing change the wire and the log. -/
theorem writeMessage_eq {what : Response} {tag : UInt8} {body : Bytes} {c c' : PgClient} {u : Unit}
    (h : writeMessage what tag body c = (.ok u, c')) : ∃ w, c' = { c with wire := w, log := c.log ++ [.wrote what body] } := by
  obtain ⟨_, c₁, he, h⟩ := bind_ok.mp h
  cases he
  obtain ⟨_, c₂, hwrite, hflush⟩ := bind_ok.mp h
  obtain ⟨w₁, -, rfl⟩ := stream_ok hwrite
  obtain ⟨w₂, -, rfl⟩ := stream_ok hflush
  exact ⟨w₂, rfl⟩

theorem readMessage_eq {c c' : PgClient} {tag : UInt8} {payload : Bytes} (h : readMessage c = (.ok (tag, payload), c')) :
    ∃ w, c' = { c with wire := w, log := c.log ++ [.received tag payload] } := by
  obtain ⟨⟨tag', n⟩, c₁, hhead, h⟩ := bind_ok.mp h
  obtain ⟨header, c₀, hread, hlift⟩ := bind_ok.mp hhead
  obtain ⟨-, rfl⟩ := lift_eq_ok.mp hlift
  obtain ⟨w₁, -, rfl⟩ := stream_ok hread
  obtain ⟨payload', c₂, hbody, h⟩ := bind_ok.mp h
  obtain ⟨_, _, hget, hbody⟩ := bind_ok.mp hbody
  cases hget
  obtain ⟨_, c₃, hemit, h⟩ := bind_ok.mp h
  cases hemit
  cases h
  split at hbody
  · cases hbody
  · obtain ⟨bytes, c₄, hread', hbody⟩ := bind_ok.mp hbody
    obtain ⟨w₂, -, rfl⟩ := stream_ok hread'
    cases hbody
    exact ⟨w₂, rfl⟩

theorem handleAuth_turn {authType : UInt32} {data : Bytes} {c c' : PgClient} {u : Unit}
    (h : handleAuth C config authType data c = (.ok u, c')) :
    ∃ es, c'.log = c.log ++ es ∧ Turn C config c.peerCertHash (.received (byte 'R') (beBytes authType ++ data) :: es) ∧
      c'.serverSignatureVerified = verdictAfter c.serverSignatureVerified es := by
  unfold handleAuth at h
  split at h
  · rename_i h0
    subst h0
    cases h
    exact ⟨[], (List.append_nil _).symm, .authenticationOk data, rfl⟩
  split at h
  · rename_i h3
    subst h3
    cases hp : config.password with
    | none =>
      simp only [handleCleartext, hp] at h
      cases h
    | some password =>
      simp only [handleCleartext, hp] at h
      obtain ⟨w, rfl⟩ := writeMessage_eq h
      exact ⟨_, rfl, .cleartext data hp, rfl⟩
  split at h
  · rename_i h5
    subst h5
    unfold handleMd5 at h
    split at h
    · cases h
    rename_i hlen
    cases hp : config.password with
    | none =>
      simp only [hp] at h
      cases h
    | some password =>
      simp only [hp] at h
      obtain ⟨w, rfl⟩ := writeMessage_eq h
      exact ⟨_, rfl, .md5 hp (not_not.mp hlen), rfl⟩
  split at h
  · rename_i h10
    subst h10
    obtain ⟨x, rfl, hcompleted, hsegment, hverdict⟩ := handleSasl_ok C h
    exact ⟨x.answers, hsegment.log, .sasl hcompleted, hverdict⟩
  split at h <;> cases h

/-- A message is a turn, or the ReadyForQuery that ends the loop. -/
theorem handleMessage_turn {tag : UInt8} {payload : Bytes} {c c₁ c' : PgClient} {done : Bool}
    (hread : readMessage c = (.ok (tag, payload), c₁)) (h : handleMessage C config tag payload c₁ = (.ok done, c')) :
    ∃ es, c'.log = c.log ++ es ∧ c'.serverSignatureVerified = verdictAfter c.serverSignatureVerified es ∧
      (done = false → Turn C config c.peerCertHash es) ∧ (done = true → es = [.received (byte 'Z') payload]) := by
  obtain ⟨w, rfl⟩ := readMessage_eq hread
  unfold handleMessage at h
  split at h
  · rename_i htag
    subst htag
    obtain ⟨⟨authType, data⟩, _, hl, h₁⟩ := bind_ok.mp h
    obtain ⟨hsub, rfl⟩ := lift_eq_ok.mp hl
    obtain rfl := subCode_ok hsub
    obtain ⟨_, _, hauth, h₂⟩ := bind_ok.mp h₁
    cases h₂
    obtain ⟨es, hlog, hturn, hverdict⟩ := handleAuth_turn C hauth
    exact ⟨.received (byte 'R') (beBytes authType ++ data) :: es, hlog.trans (List.append_assoc _ _ _), hverdict,
      fun _ => hturn, by simp⟩
  split at h
  · rename_i hS
    subst hS
    obtain ⟨⟨name, value⟩, _, hl, h₁⟩ := bind_ok.mp h
    obtain ⟨hparse, rfl⟩ := lift_eq_ok.mp hl
    obtain ⟨_, _, hm, h₂⟩ := bind_ok.mp h₁
    cases hm
    cases h₂
    exact ⟨_, rfl, rfl, fun _ => .parameterStatus hparse, by simp⟩
  split at h
  · rename_i hN
    subst hN
    obtain ⟨_, _, hm, h₂⟩ := bind_ok.mp h
    cases hm
    cases h₂
    exact ⟨_, rfl, rfl, fun _ => .notice payload, by simp⟩
  split at h
  · rename_i hK
    subst hK
    obtain ⟨key, _, hl, h₁⟩ := bind_ok.mp h
    obtain ⟨hparse, rfl⟩ := lift_eq_ok.mp hl
    obtain ⟨_, _, hm, h₂⟩ := bind_ok.mp h₁
    cases hm
    cases h₂
    exact ⟨_, rfl, rfl, fun _ => .backendKey hparse, by simp⟩
  split at h
  · rename_i hZ
    subst hZ
    obtain ⟨status, _, hl, h₁⟩ := bind_ok.mp h
    obtain ⟨-, rfl⟩ := lift_eq_ok.mp hl
    obtain ⟨_, _, hm, h₂⟩ := bind_ok.mp h₁
    cases hm
    cases h₂
    exact ⟨_, rfl, rfl, by simp, fun _ => rfl⟩
  split at h <;> cases h

/-! ## The transcript -/

/-- A handshake that returned is its turns and the ReadyForQuery. -/
theorem handshakeFrom_turns {fuel : Nat} {c c' : PgClient} {u : Unit} (h : handshakeFrom C config fuel c = (.ok u, c')) :
    ∃ (turns : List (List PgEvent)) (ready : Bytes), c'.log = c.log ++ (turns.flatten ++ [.received (byte 'Z') ready]) ∧
      (∀ turn ∈ turns, Turn C config c.peerCertHash turn) ∧
      c'.serverSignatureVerified = verdictAfter c.serverSignatureVerified turns.flatten := by
  induction fuel generalizing c with
  | zero => cases h
  | succ fuel ih =>
    obtain ⟨⟨tag, payload⟩, c₁, hread, h₁⟩ := bind_ok.mp h
    obtain ⟨done, c₂, hmessage, h₂⟩ := bind_ok.mp h₁
    obtain ⟨es₁, hlog₁, hverdict₁, hmore, hdone⟩ := handleMessage_turn C hread hmessage
    cases done with
    | true =>
      cases h₂
      obtain rfl := hdone rfl
      exact ⟨[], payload, hlog₁, by simp, hverdict₁⟩
    | false =>
      obtain ⟨turns, ready, hlog₂, hturns, hverdict₂⟩ := ih h₂
      obtain ⟨es, hsegment, -⟩ := handleMessage_ok C hread hmessage
      rw [hsegment.peer] at hturns
      refine ⟨es₁ :: turns, ready, ?_, ?_, ?_⟩
      · rw [hlog₂, hlog₁, List.flatten_cons, List.append_assoc, List.append_assoc]
      · intro turn hturn
        rcases List.mem_cons.mp hturn with rfl | hturn
        · exact hmore rfl
        · exact hturns turn hturn
      · rw [hverdict₂, hverdict₁, List.flatten_cons]
        exact List.foldl_append.symm

/-- A transcript that was accepted: turns, each challenge with its answer in place, and
    the ReadyForQuery that ended the loop. -/
structure Accepted (config : PgConfig) (c c' : PgClient) (turns : List (List PgEvent)) (ready : Bytes) : Prop where
  log : c'.log = c.log ++ (turns.flatten ++ [.received (byte 'Z') ready])
  messages : messages c.wire.input = received turns.flatten ++ [(byte 'Z', ready)]
  turns : ∀ turn ∈ turns, Turn C config c.peerCertHash turn

theorem handshake_turns {c c' : PgClient} {u : Unit} (h : handleStartupHandshake C config c = (.ok u, c')) :
    ∃ turns ready, Accepted C config c c' turns ready ∧
      c'.serverSignatureVerified = verdictAfter c.serverSignatureVerified turns.flatten := by
  obtain ⟨es, hsegment, -, hreceived⟩ := handshake_ok C h
  obtain ⟨_, _, hget, h₁⟩ := bind_ok.mp h
  cases hget
  obtain ⟨turns, ready, hlog, hturns, hverdict⟩ := handshakeFrom_turns C h₁
  have hes : es = turns.flatten ++ [.received (byte 'Z') ready] := List.append_cancel_left (hsegment.log.symm.trans hlog)
  refine ⟨turns, ready, ⟨hlog, ?_, hturns⟩, hverdict⟩
  rw [← hreceived, hes, received_append]
  rfl

/-- The turns come in any order and number; nothing else is accepted. -/
theorem accepts_turns {c c' : PgClient} {u : Unit} (h : handleStartupHandshake C config c = (.ok u, c')) :
    ∃ turns ready, Accepted C config c c' turns ready := by
  obtain ⟨turns, ready, haccepted, -⟩ := handshake_turns C h
  exact ⟨turns, ready, haccepted⟩

/-! ## The backend in return -/

/-- The server knew the nonce to extend and the key to sign with. -/
structure MutuallyAuthenticated (config : PgConfig) (x : Exchange) : Prop where
  nonce : scramKv x.serverFirst 'r' = some x.read.combinedNonce
  extended : ∃ rest, rest ≠ [] ∧ x.read.combinedNonce = x.client.clientNonce ++ rest
  salt : ∃ salt, scramKv x.serverFirst 's' = some salt ∧ Base64.decode Base64.standard salt = some x.read.salt
  iterations : ∃ i n, scramKv x.serverFirst 'i' = some i ∧ parseUint 32 i = some n ∧ x.read.iterations = UInt32.ofNat n
  signature : ∃ key signature, ScramClient.signatureKey C config.password config.serverKey x.read = some key ∧
    scramKv x.serverFinal 'v' = some signature ∧
    Base64.decode Base64.standard signature = some (C.hmacSha256 key (asBytes x.authMessage)).bytes
  verified : x.verified = true

theorem Completed.mutual {x : Exchange} (h : Completed C config peer x)
    (hkey : config.password.isSome ∨ config.serverKey.isSome) : MutuallyAuthenticated C config x := by
  obtain ⟨hnonce, hextended, hsalt, hiterations⟩ := ScramClient.readServerFirst_ok h.read
  have hsome : (config.password.isSome || config.serverKey.isSome) = true := by simpa using hkey
  refine ⟨hnonce, hextended, hsalt, hiterations, ?_, h.verified.trans hsome⟩
  rw [← ScramClient.signatureKey_isSome C _ _ x.read] at hsome
  obtain ⟨key, hkey⟩ := Option.isSome_iff_exists.mp hsome
  obtain ⟨signature, hv, hsigned⟩ := h.signed key hkey
  exact ⟨key, signature, hkey, hv, hsigned⟩

/-- Only an exchange has a SASL challenge. -/
theorem Turn.sasl_of_challenge {turn : List PgEvent} (h : Turn C config peer turn) {e : PgEvent} (he : e ∈ turn)
    (hchallenge : IsAuth 10 e) : ∃ x, Completed C config peer x ∧ turn = x.events := by
  have other {tag : UInt8} {payload : Bytes} (htag : tag ≠ byte 'R') : ¬ IsAuth 10 (.received tag payload) := by
    intro ⟨data, hd⟩
    cases hd
    exact htag rfl
  cases h with
  | sasl hcompleted => exact ⟨_, hcompleted, rfl⟩
  | authenticationOk data =>
    rw [List.mem_singleton.mp he, isAuth_received] at hchallenge
    exact absurd hchallenge (by decide)
  | cleartext data =>
    rcases List.mem_pair.mp he with rfl | rfl
    · exact absurd (isAuth_received.mp hchallenge) (by decide)
    · exact absurd hchallenge not_isAuth_wrote
  | md5 =>
    rcases List.mem_pair.mp he with rfl | rfl
    · exact absurd (isAuth_received.mp hchallenge) (by decide)
    · exact absurd hchallenge not_isAuth_wrote
  | parameterStatus =>
    rw [List.mem_singleton.mp he] at hchallenge
    exact absurd hchallenge (other (by decide))
  | notice =>
    rw [List.mem_singleton.mp he] at hchallenge
    exact absurd hchallenge (other (by decide))
  | backendKey =>
    rw [List.mem_singleton.mp he] at hchallenge
    exact absurd hchallenge (other (by decide))

/-- Only an exchange leaves a verdict. -/
theorem Turn.sasl_of_exchanged {turn : List PgEvent} (h : Turn C config peer turn) {m : SaslMechanism} {f : Str} {v : Bool}
    (he : .exchanged m f v ∈ turn) : ∃ x, Completed C config peer x ∧ v = x.verified := by
  cases h with
  | @sasl x hcompleted =>
    refine ⟨x, hcompleted, ?_⟩
    obtain ⟨-, -, rfl⟩ : m = x.mechanism ∧ f = x.clientFinal ∧ v = x.verified := by
      simpa [Exchange.events, Exchange.answers] using he
    rfl
  | authenticationOk => simp at he
  | cleartext => simp at he
  | md5 => simp at he
  | parameterStatus => simp at he
  | notice => simp at he
  | backendKey => simp at he

theorem verdictAfter_eq_true {before : Bool} {es : List PgEvent} (hall : ∀ m f v, .exchanged m f v ∈ es → v = true)
    (hsome : before = true ∨ ∃ m f v, .exchanged m f v ∈ es) : verdictAfter before es = true := by
  induction es generalizing before with
  | nil =>
    rcases hsome with h | ⟨m, f, v, h⟩
    · exact h
    · cases h
  | cons e es ih =>
    have hrest : ∀ m f v, .exchanged m f v ∈ es → v = true := fun m f v hm => hall m f v (List.mem_cons_of_mem _ hm)
    cases e with
    | exchanged m f v => exact ih hrest (Or.inl (hall m f v List.mem_cons_self))
    | received tag payload =>
      refine ih hrest (hsome.imp_right ?_)
      intro ⟨m, f, v, hm⟩
      exact ⟨m, f, v, by simpa using hm⟩
    | wrote what body =>
      refine ih hrest (hsome.imp_right ?_)
      intro ⟨m, f, v, hm⟩
      exact ⟨m, f, v, by simpa using hm⟩

/-- With a key to check signatures with, a backend that asks for SASL has to sign every
    exchange. -/
theorem sasl_authenticates_backend {c c' : PgClient} {u : Unit} (hkey : config.password.isSome ∨ config.serverKey.isSome)
    (hsasl : Requests 10 (messages c.wire.input)) (h : handleStartupHandshake C config c = (.ok u, c')) :
    c'.serverSignatureVerified = true ∧
    ∃ turns ready, Accepted C config c c' turns ready ∧
      ∀ turn ∈ turns, ∀ e ∈ turn, IsAuth 10 e → ∃ x, turn = x.events ∧ MutuallyAuthenticated C config x := by
  obtain ⟨turns, ready, haccepted, hverdict⟩ := handshake_turns C h
  refine ⟨?_, turns, ready, haccepted, ?_⟩
  · rw [hverdict]
    apply verdictAfter_eq_true
    · intro m f v hm
      obtain ⟨turn, hturn, hmem⟩ := List.mem_flatten.mp hm
      obtain ⟨x, hcompleted, rfl⟩ := (haccepted.turns turn hturn).sasl_of_exchanged C hmem
      exact (hcompleted.mutual C hkey).verified
    · -- the challenge is in a turn, and that turn is an exchange
      have hreceived : messages c.wire.input = received (turns.flatten ++ [.received (byte 'Z') ready]) := by
        rw [haccepted.messages, received_append]
        rfl
      rw [hreceived, requests_received] at hsasl
      obtain ⟨e, he, hchallenge⟩ := hsasl
      rcases List.mem_append.mp he with he | he
      · obtain ⟨turn, hturn, hmem⟩ := List.mem_flatten.mp he
        obtain ⟨x, -, rfl⟩ := (haccepted.turns turn hturn).sasl_of_challenge C hmem hchallenge
        have hlast : .exchanged x.mechanism x.clientFinal x.verified ∈ x.events := by
          simp [Exchange.events, Exchange.answers]
        exact Or.inr ⟨_, _, _, List.mem_flatten.mpr ⟨_, hturn, hlast⟩⟩
      · obtain ⟨data, hd⟩ := hchallenge
        rw [List.mem_singleton.mp he] at hd
        simp only [PgEvent.received.injEq] at hd
        exact absurd hd.1 (by decide)
  · intro turn hturn e he hchallenge
    obtain ⟨x, hcompleted, hx⟩ := (haccepted.turns turn hturn).sasl_of_challenge C he hchallenge
    exact ⟨x, hx, hcompleted.mutual C hkey⟩

end PgClient

/-! ## Orders nothing authenticates -/

namespace Sample

def withPassword : PgConfig := { pgConfig with password := some (asBytes "pencil") }

/-- A backend that asks for the password twice, the second time when it had said yes. -/
def askingTwice : Bytes := auth 3 [] ++ auth 0 [] ++ auth 3 [] ++ ready

end Sample

namespace PgClient

theorem accepts_turns_bound :
    ∃ turns ready, Accepted Sample.boundCrypto Sample.pgConfig (Sample.pgClient Sample.bindingBackend)
      (handleStartupHandshake Sample.boundCrypto Sample.pgConfig (Sample.pgClient Sample.bindingBackend)).2 turns ready :=
  accepts_turns Sample.boundCrypto (eq_of_fst Sample.bindingBackend_ok)

theorem sasl_authenticates_backend_bound :
    (handleStartupHandshake Sample.boundCrypto Sample.pgConfig (Sample.pgClient Sample.bindingBackend)).2.serverSignatureVerified
        = true ∧
    ∃ turns ready, Accepted Sample.boundCrypto Sample.pgConfig (Sample.pgClient Sample.bindingBackend)
        (handleStartupHandshake Sample.boundCrypto Sample.pgConfig (Sample.pgClient Sample.bindingBackend)).2 turns ready ∧
      ∀ turn ∈ turns, ∀ e ∈ turn, IsAuth 10 e →
        ∃ x, turn = x.events ∧ MutuallyAuthenticated Sample.boundCrypto Sample.pgConfig x :=
  sasl_authenticates_backend Sample.boundCrypto (Or.inr rfl)
    ⟨putCstr "SCRAM-SHA-256-PLUS" ++ putCstr "SCRAM-SHA-256" ++ [0], by decide +kernel⟩ (eq_of_fst Sample.bindingBackend_ok)

/-- A ReadyForQuery alone is accepted; so is a challenge behind the AuthenticationOk, and
    the password goes out again. -/
theorem unauthenticated_transcripts :
    ((handleStartupHandshake Sample.crypto Sample.pgConfig (Sample.pgClient Sample.ready)).1 = .ok () ∧
      ¬ Requests 0 (messages Sample.ready)) ∧
    (handleStartupHandshake Sample.crypto Sample.withPassword (Sample.pgClient Sample.askingTwice)).1 = .ok () ∧
    (handleStartupHandshake Sample.crypto Sample.withPassword (Sample.pgClient Sample.askingTwice)).2.log =
      [.received (byte 'R') [0, 0, 0, 3], .wrote .cleartext (asBytes "pencil" ++ [0]), .received (byte 'R') [0, 0, 0, 0],
        .received (byte 'R') [0, 0, 0, 3], .wrote .cleartext (asBytes "pencil" ++ [0]), .received (byte 'Z') [byte 'I']] := by
  refine ⟨⟨by decide +kernel, ?_⟩, by decide +kernel, by decide +kernel⟩
  intro ⟨data, hm⟩
  have hmessages : messages Sample.ready = [(byte 'Z', [byte 'I'])] := by decide +kernel
  rw [hmessages, List.mem_singleton, Prod.mk.injEq] at hm
  exact absurd hm.1 (by decide)

end PgClient

end Wirechaos
