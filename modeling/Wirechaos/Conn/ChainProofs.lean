/-
  Wirechaos.Conn.ChainProofs — two instances in a row (see `Wirechaos.Conn.LoginProofs`,
  `Wirechaos.Conn.LinkProofs`).

  The backend of an instance may be another one. Then the client's role of the first meets
  the server's role of the second, in the bytes they exchange.

  (1) What the first makes of a StartupMessage arrives (`readIdentity_passedOn`): the second
      reads the same user, database and replication mode.
  (2) The second starts a session for it, behind an SSLRequest that it declines or without
      one (`serves`), and says what a link needs to come up (`rendered_served`).
  (3) So a client that completes its exchange with the first gets a session that goes
      through both (`chain_opens_both`): each part reads what the other one writes.
-/

import Wirechaos.Conn.LinkProofs
import Wirechaos.Conn.ParamsProofs

namespace Wirechaos

open Text Async Proc

namespace Session

variable {C : Crypto} {V U : Type} {ε α : Type}

/-! ## The identity -/

/-- What the second instance reads of an identity that the first one forwards. -/
def passedOn (config : PgConfig) (identity : Identity) : Identity :=
  { identity with params := topLevel (MessageReader.new ((PgClient.startupMessage config).drop 4)).readU32.2 }

theorem options_of_merged {given merged : Params} (h : mergeOptions given = .ok merged) : merged.get "options" = none := by
  rcases mergeOptions_ok h with ⟨hnone, rfl⟩ | ⟨value, parsed, -, -, rfl⟩
  · exact hnone
  · exact AList.lookup_erase _ _

/-- The user, the database and the replication mode are the same on the second instance. -/
theorem readIdentity_passedOn {message : MessageReader} {identity : Identity} {config : PgConfig}
    (hidentity : readIdentity message ∅ .off = .ok identity)
    (hdelivers : PgClient.Delivers (PgClient.startupMessage config) identity.params
      [("user".toList, identity.user), ("database".toList, identity.database),
        ("application_name".toList, "wirechaos".toList)]) :
    ∃ m, (MessageReader.new ((PgClient.startupMessage config).drop 4)).readU32 = (.ok PgClient.protocolVersionNumber, m) ∧
      readIdentity m ∅ .off = .ok (passedOn config identity) := by
  obtain ⟨_, given, -, -, hmerged, huser, hmode, hdatabase⟩ := readIdentity_ok.mp hidentity
  obtain ⟨m, m', got, hcode, hread, hremaining, hget⟩ := hdelivers.reads
  have hgot : (passedOn config identity).params = got := by
    show topLevel (MessageReader.new ((PgClient.startupMessage config).drop 4)).readU32.2 = got
    rw [hcode, topLevel, hread]
  have hnamed : identity.params.get "user" = some identity.user :=
    (Option.filter_eq_some_iff.mp (okOr_eq_ok.mp huser)).1
  have hgetUser : got.get "user" = identity.params.get "user" := by rw [hget, hnamed]; rfl
  have hgetOptions : got.get "options" = none := by
    rw [hget, options_of_merged hmerged]
    rfl
  have hgetMode : got.get "replication" = identity.params.get "replication" := by
    rw [hget]
    cases identity.params.get "replication" <;> rfl
  refine ⟨m, hcode, readIdentity_ok.mpr ⟨m', got, hread, hremaining, ?_, ?_, ?_, ?_⟩⟩
  · rw [hgot, mergeOptions, hgetOptions]
  · rw [hgot, startupUser, hgetUser]
    exact huser
  · rw [hgot, startupReplication, hgetMode]
    exact hmode
  · rw [hgot]
    show identity.database = startupDatabase got identity.user
    have hgetDatabase : got.get "database" = (identity.params.get "database").or (some identity.database) := by
      rw [hget]
      cases identity.params.get "database" <;> rfl
    rw [startupDatabase, hgetDatabase]
    rcases hnone : identity.params.get "database" with _ | database
    · -- the first instance has taken the user's own
      have hown : identity.database = identity.user := by
        rw [hdatabase, startupDatabase, hnone]
        rfl
      rw [Option.none_or, hown, Option.filter_some]
      split <;> rfl
    · rw [Option.some_or, ← hnone]
      exact hdatabase

/-- The packet of a startup message. -/
theorem startupPacket_of_delivers {packet : Bytes} {params : Params} {defaults : List (Str × Str)}
    (h : PgClient.Delivers packet params defaults) (hlength : 8 ≤ packet.length) :
    startupPacket (packet.drop 4) = packet := by
  have hlength : 4 ≤ packet.length := by omega
  have hfield : lengthField (packet.drop 4) = packet.take 4 := by
    rw [h.length.1, lengthField, List.length_drop, Nat.sub_add_cancel hlength]
  rw [startupPacket, hfield, List.take_append_drop]

theorem length_startupMessage (config : PgConfig) : 8 ≤ (PgClient.startupMessage config).length := by
  rw [PgClient.startupMessage_eq, List.length_append, length_beBytes, List.length_append, length_beBytes]
  omega

/-! ## The second instance -/

/-- A new connection of an instance that nothing stops, for a user with this entry. -/
structure Welcoming [VerifierProvider V] (P : V → Prop) (R : Registry → Prop) (s : Session V) (user : Str) (v : Verifier) :
    Prop where
  fresh : Fresh s
  unsent : s.conn.wire.output = []
  permit : s.conn.connRegistry.live < s.conn.connRegistry.max
  requiredTls : s.conn.requiredTls = false
  favoured : Favoured P R s
  provides : Provides user v P
  keys : ∀ r, R r → Unused s.world.rng r

/-- The session behind an SSLRequest. -/
def asked (s : Session V) : Session V := { s with conn := { s.conn with sslDone := true } }

variable {P : V → Prop} {R : Registry → Prop} {s : Session V}

theorem goes_writeReply (hs : Favoured P R s) (answer : UInt8) : Goes P R (writeReply answer) s () [] [.reply answer] :=
  goes_first (goes_emit hs _) fun _ hs₁ _ => goes_mapErr _
    (goes_first (l := []) (goes_writeAll hs₁ _) fun _ hs₂ _ => goes_flush hs₂)

/-- What an instance logs of the SSLRequest of a link, unless the link has TLS disabled. -/
def helloLog (config : PgConfig) : List Event :=
  if config.tls.mode = .disable then [] else [.packet (beBytes sslRequestCode), .reply (byte 'N')]

section Provider

variable [VerifierProvider V]

/-- An SSLRequest is declined where there is no certificate. -/
theorem goes_declined {rest : Bytes} (hs : Favoured P R s) (hdone : s.conn.sslDone = false)
    (hplain : s.conn.frontendTls = none) (hpool : 4 ≤ s.conn.pool.maxCapacity) (hsmall : 8 ≤ s.conn.config.maxStartupBytes)
    (hinput : s.conn.wire.input = PgClient.sslRequest ++ rest) :
    ∃ s', handleStartup C s = (.ok .continued, s') ∧ Favoured P R s' ∧
      Went s.asked PgClient.sslRequest [.packet (beBytes sslRequestCode), .reply (byte 'N')] s' := by
  have hsized : Sized s (beBytes sslRequestCode) := ⟨hpool, by rw [length_beBytes]; decide⟩
  obtain ⟨s₁, hpacket, hs₁, h₁⟩ := goes_readStartupPacket hs hsized (List.cons_ne_nil _ _)
    (by rw [length_beBytes]; exact hsmall) hinput
  let t : Session V := { s₁ with log := s₁.log ++ [.packet (beBytes sslRequestCode)] }
  obtain ⟨s₂, hreply, hs₂, h₂⟩ := goes_writeReply (s := t.asked) ⟨hs₁.world, hs₁.line, hs₁.provider, hs₁.registry⟩ (byte 'N')
  refine ⟨s₂, ?_, hs₂, ?_⟩
  · have hfirst : t.conn.sslDone = false := h₁.steady.sslDone.trans hdone
    have hnone : t.conn.frontendTls = none := h₁.steady.frontendTls.trans hplain
    have hrequest : handleSslRequest t = (.ok (), s₂) := by
      unfold handleSslRequest
      rw [bind_of_ok (get_apply t), lift_bind (a := ()) (require_eq_ok.mpr hfirst), bind_of_ok (modify_apply _ t), hnone]
      exact hreply
    rw [handleStartup_read C hpacket]
    show dispatch C sslRequestCode (MessageReader.new (beBytes sslRequestCode)).readU32.2 t = _
    unfold dispatch
    rw [if_pos rfl, bind_of_ok hrequest]
    rfl
  · have hwent : Went s.asked PgClient.sslRequest [.packet (beBytes sslRequestCode)] t.asked := by
      have hsteady := h₁.steady
      refine ⟨⟨⟨hsteady.world, hsteady.config, hsteady.pool, hsteady.requiredTls, hsteady.frontendTls, hsteady.params,
        hsteady.user, hsteady.database, hsteady.replicationMode⟩, rfl, hsteady.gssDone, hsteady.reader, hsteady.writer⟩,
        h₁.drawn, h₁.input, ?_⟩
      show s₁.log ++ _ = s.log ++ _
      rw [h₁.log, List.append_nil]
    exact hwent.trans h₂

variable {w : Verifier} {scram : ScramClient} {chosen : SaslMechanism} {r : Completed} {salt : Bytes} {iterations : UInt32}

/-- An instance without a certificate, or a link without TLS. -/
def InPlaintext (config : PgConfig) (s : Session V) : Prop := config.tls.mode = .disable ∨ s.conn.frontendTls = none

/-- `t` is `s` in front of its StartupMessage, behind an SSLRequest that was declined or not. -/
structure InFront (s t : Session V) : Prop extends Settled s t where
  reader : t.conn.wire.reader.inner.transport = s.conn.wire.reader.inner.transport
  writer : t.conn.wire.writer.inner = s.conn.wire.writer.inner
  drawn : t.drawnNonces = s.drawnNonces
  certHash : scramCertHash t.conn = none

theorem runs_inFront {linked : PgConfig} {body k rest : Bytes} {identity : Identity} {backend : Backend} {t : Session V}
    (hs : Welcoming P R s identity.user w) (hgreets : Greets s body identity)
    (hexchange : exchange C scram chosen salt iterations (.new w none) (s.world.serverNonces s.drawnNonces) identity.user =
      .ok r)
    (hkey : r.extractedClientKey = some k) (hsized : Exchanged s scram chosen r)
    (hanswered : Answered C (s.identify identity) k identity.user identity.database w backend linked)
    (hfront : InFront s t) (ht : Favoured P R t) (hinput : t.conn.wire.input = loginBytes body scram chosen r ++ rest) :
    ∃ secret s', handleStartup C t = (.ok .ready, s') ∧ s'.conn.sessionKeySecret = some secret ∧ s'.conn.wire.input = rest ∧
      s'.log = t.log ++ loginLog s body identity.user w scram chosen r linked backend secret := by
  obtain ⟨message, hread, hidentity⟩ := hgreets.message
  have hrole : t.authenticator w = .new w none := by rw [authenticator, hfront.certHash]
  have hrole' : s.authenticator w = .new w none := by
    rw [authenticator, scramCertHash, hs.fresh.sslDone]
    rfl
  have hgreets' : Greets t body identity := by
    refine ⟨⟨message, hread, ?_⟩, ⟨hfront.pool ▸ hgreets.sized.pool, hgreets.sized.field⟩, hfront.config ▸ hgreets.small⟩
    rw [hfront.params, hfront.replicationMode]
    exact hidentity
  have hsized' : Exchanged t scram chosen r :=
    ⟨⟨hfront.pool ▸ hsized.first.pool, hsized.first.field⟩, ⟨hfront.pool ▸ hsized.final.pool, hsized.final.field⟩,
      hsized.long⟩
  have hanswered' : Answered C (t.identify identity) k identity.user identity.database w backend linked :=
    hanswered.of_settled
      ⟨hfront.world, hfront.config, hfront.pool, hfront.requiredTls, hfront.frontendTls, rfl, rfl, rfl, rfl⟩
  have hfree : ∀ r, R r → Unused t.world.rng r := by
    rw [hfront.world]
    exact hs.keys
  have hsecure : t.conn.requiredTls = true → t.conn.sslDone = true := by
    rw [hfront.requiredTls, hs.requiredTls]
    exact fun h => absurd h Bool.false_ne_true
  rw [← hrole, ← hfront.world, ← hfront.drawn] at hexchange
  obtain ⟨secret, s', hrun, hsecret, hrest, hlog⟩ :=
    runs_handleStartup ht hs.provides hfree hsecure hgreets' hexchange hkey hsized' hanswered' hinput
  refine ⟨secret, s', hrun, hsecret, hrest, ?_⟩
  rw [hlog, loginLog, loginLog, hfront.reader, hfront.writer, authenticationLog, authenticationLog, hrole, hrole']

/-- The driver comes to a session for a link that does not insist on TLS. -/
theorem drives_link {config linked : PgConfig} {body k rest : Bytes} {identity : Identity} {backend : Backend}
    (hs : Welcoming P R s identity.user w) (hplain : InPlaintext config s) (hsmall : 8 ≤ s.conn.config.maxStartupBytes)
    (hgreets : Greets s body identity)
    (hexchange : exchange C scram chosen salt iterations (.new w none) (s.world.serverNonces s.drawnNonces) identity.user =
      .ok r)
    (hkey : r.extractedClientKey = some k) (hsized : Exchanged s scram chosen r)
    (hanswered : Answered C (s.identify identity) k identity.user identity.database w backend linked)
    (hinput : s.conn.wire.input = PgClient.hello config ++ (loginBytes body scram chosen r ++ rest)) :
    ∃ secret s', driveStartupUntilReady C s.permitted = (.ok (), s') ∧ s'.conn.sessionKeySecret = some secret ∧
      s'.conn.wire.input = rest ∧
      s'.log = helloLog config ++ loginLog s body identity.user w scram chosen r linked backend secret := by
  have hfavoured : Favoured P R s.permitted :=
    ⟨hs.favoured.world, hs.favoured.line, hs.favoured.provider, hs.favoured.registry⟩
  by_cases hdisable : config.tls.mode = .disable
  · rw [PgClient.hello, if_pos hdisable, List.nil_append] at hinput
    have hcert : scramCertHash s.permitted.conn = none := by
      show (if s.conn.sslDone then _ else none) = none
      rw [hs.fresh.sslDone]
      rfl
    have hfront : InFront s s.permitted := ⟨⟨rfl, rfl, rfl, rfl, rfl, rfl, rfl, rfl, rfl⟩, rfl, rfl, rfl, hcert⟩
    obtain ⟨secret, s', hrun, hsecret, hrest, hlog⟩ :=
      runs_inFront hs hgreets hexchange hkey hsized hanswered hfront hfavoured hinput
    refine ⟨secret, s', bind_of_ok (attempt_of_ok hrun) _, hsecret, hrest, ?_⟩
    rw [hlog, helloLog, if_pos hdisable]
    show s.log ++ _ = _
    rw [hs.fresh.log]
  · have hnone : s.conn.frontendTls = none := hplain.resolve_left hdisable
    rw [PgClient.hello, if_neg hdisable] at hinput
    have hpool : 4 ≤ s.conn.pool.maxCapacity :=
      Nat.le_trans (length_firstResponse scram chosen) hsized.first.pool
    obtain ⟨s₁, hdeclined, hs₁, h₁⟩ := goes_declined (C := C) hfavoured hs.fresh.sslDone hnone hpool hsmall hinput
    have hsteady := h₁.steady
    have hcert : scramCertHash s₁.conn = none := by
      have hplain₁ : s₁.conn.frontendTls = none := hsteady.frontendTls.trans hnone
      rw [scramCertHash, hplain₁]
      split <;> rfl
    have hfront : InFront s s₁ :=
      ⟨⟨hsteady.world, hsteady.config, hsteady.pool, hsteady.requiredTls, hsteady.frontendTls, hsteady.params, hsteady.user,
        hsteady.database, hsteady.replicationMode⟩, hsteady.reader, hsteady.writer, h₁.drawn, hcert⟩
    obtain ⟨secret, s', hrun, hsecret, hrest, hlog⟩ :=
      runs_inFront hs hgreets hexchange hkey hsized hanswered hfront hs₁ (h₁.rest hinput)
    refine ⟨secret, s', ?_, hsecret, hrest, ?_⟩
    · unfold driveStartupUntilReady
      rw [driveFrom_continued C 2 hdeclined]
      exact bind_of_ok (attempt_of_ok hrun) _
    · rw [hlog, h₁.log, helloLog, if_neg hdisable]
      show s.log ++ _ ++ _ = _
      rw [hs.fresh.log, List.nil_append]

/-- The connection as a whole, and what was sent. -/
theorem serves (identity : Identity) {config linked : PgConfig} {body k rest : Bytes} {backend : Backend}
    (hs : Welcoming P R s identity.user w) (hplain : InPlaintext config s) (hsmall : 8 ≤ s.conn.config.maxStartupBytes)
    (hgreets : Greets s body identity)
    (hexchange : exchange C scram chosen salt iterations (.new w none) (s.world.serverNonces s.drawnNonces) identity.user =
      .ok r)
    (hkey : r.extractedClientKey = some k) (hsized : Exchanged s scram chosen r)
    (hanswered : Answered C (s.identify identity) k identity.user identity.database w backend linked)
    (hinput : s.conn.wire.input = PgClient.hello config ++ (loginBytes body scram chosen r ++ rest)) :
    ∃ secret s', handle C s = (.ok (), s') ∧ s'.conn.sessionKeySecret = some secret ∧ s'.conn.wire.input = rest ∧
      s'.log = helloLog config ++ loginLog s body identity.user w scram chosen r linked backend secret ∧
      s'.conn.wire.sent = rendered s'.log := by
  obtain ⟨secret, s₂, hdrive, hsecret, hrest, hlog⟩ :=
    drives_link hs hplain hsmall hgreets hexchange hkey hsized hanswered hinput
  have hbuf : s.conn.wire.writer.buf = [] := (List.append_eq_nil_iff.mp hs.unsent).2
  obtain ⟨hhandle, es, hes, hidle, houtput⟩ := handle_of_driven hbuf hs.permit hdrive
  rw [hs.fresh.log, List.nil_append] at hes
  rw [Wire.output, hidle, List.append_nil, hs.unsent, List.nil_append, ← hes] at houtput
  exact ⟨secret, releasePermit s₂, hhandle, hsecret, hrest, hlog, houtput⟩

omit [VerifierProvider V] in
/-- What the second instance says is what a link reads. -/
theorem rendered_served {config linked : PgConfig} {body : Bytes} {user : Str} {backend : Backend}
    (hdone : s.conn.sslDone = false) (secret : SessionKeySecret) :
    rendered (helloLog config ++ loginLog s body user w scram chosen r linked backend secret) =
      PgClient.answerBytes config [Scram.scramSha256] r backend secret := by
  have hrole : (s.authenticator w).mechanisms = [Scram.scramSha256] := by
    rw [authenticator, scramCertHash, hdone]
    rfl
  have hhello : rendered (helloLog config) = PgClient.helloAnswer config := by
    unfold helloLog PgClient.helloAnswer
    split <;> rfl
  rw [rendered_append, hhello, PgClient.answerBytes, PgClient.transcript_append]
  congr 1
  have hsasl : rendered (saslLog scram chosen [Scram.scramSha256] r) =
      PgClient.transcript (PgClient.acceptance [Scram.scramSha256] r) := by
    simp [saslLog, PgClient.acceptance, rendered, outputBytes, PgClient.transcript, authEvent]
  have hsession : rendered (sessionLog backend secret) = PgClient.transcript (PgClient.told backend secret) :=
    rendered_messages _
  rw [loginLog, authenticationLog, hrole]
  show rendered (saslLog scram chosen [Scram.scramSha256] r ++ (_ :: _ :: sessionLog backend secret)) = _
  rw [rendered_append, hsasl]
  show _ ++ rendered (sessionLog backend secret) = _
  rw [hsession]

end Provider

/-! ## The link between them -/

/-- The entries of one user on two instances: both of one password, or with one secret. -/
inductive SharesSecret (C : Crypto) (v w : Verifier) : Prop where
  | password (password : Bytes) (holds : v.password = some password)
      (derived : w = .fromPassword C password w.salt w.iterations)
  | secret (holds : v.password = none) (isDummy : w.isDummy = false) (salt : w.salt = v.salt)
      (iterations : w.iterations = v.iterations) (storedKey : w.storedKey = v.storedKey)
      (serverKey : w.serverKey = v.serverKey)

/-- The ClientKey that the link of the first instance works with. -/
def linkKey (C : Crypto) (v w : Verifier) (k : Bytes) : Bytes :=
  match v.password with
  | some password => passwordKey C password w.salt w.iterations
  | none => k

/-- The client of a link that is not bound. -/
def linkClient (config : PgConfig) (nonce : NonceBytes) : ScramClient :=
  ScramClient.new nonce config.clientKey config.serverKey config.storedKey config.password

theorem startSasl_link {config : PgConfig} (hbinding : config.tls.channelBinding ≠ .require) (nonce : NonceBytes) :
    PgClient.startSasl config none nonce (saslMechanismList [Scram.scramSha256]) =
      .ok (.scramSha256, linkClient config nonce) := by
  have hoffered : parseSaslMechanisms (saslMechanismList [Scram.scramSha256]) = [.scramSha256] := by decide +kernel
  have hselected : selectMechanism config.tls.channelBinding false [.scramSha256] = .ok .scramSha256 := by
    cases hmode : config.tls.channelBinding with
    | disable => rfl
    | prefer => rfl
    | require => exact absurd hmode hbinding
  unfold PgClient.startSasl
  rw [hoffered]
  dsimp only
  rw [require, if_pos (List.cons_ne_nil _ _), except_bind_ok, Option.isSome_none, hselected, except_bind_ok]
  rfl

/-- The key that a completed exchange recovered is the one of the entry. -/
theorem key_of_exchange {c : ScramClient} {chosen : SaslMechanism} {salt k : Bytes} {iterations : UInt32} {v : Verifier}
    {serverNonceBytes : Key} {user : Str} {r : Completed}
    (h : exchange C c chosen salt iterations (.new v none) serverNonceBytes user = .ok r)
    (hkey : r.extractedClientKey = some k) :
    k.length = 32 ∧ C.sha256 k = v.storedKey := by
  obtain ⟨mechanism, clientFirst, a₁, a₂, -, hfirst, hfinal, hextracted⟩ := exchange_ok h
  obtain ⟨_, _, _, -, -, -, -, -, -, rfl⟩ := ScramAuthenticator.handleClientFirst_ok hfirst
  exact handleClientFinal_key C hfinal (hextracted.symm.trans hkey)

/-- The link of the first instance works with the keys of the second one's entry. -/
theorem keysOf_link {v w : Verifier} {k : Bytes} (h : SharesSecret C v w) (hlength : k.length = 32)
    (hauthentic : C.sha256 k = v.storedKey) (nonce : NonceBytes) (serverNonceBytes : Key) :
    KeysOf C (ScramClient.new nonce (some k) (some v.serverKey.bytes) (some v.storedKey.bytes) v.password) w serverNonceBytes
      v.salt v.iterations (linkKey C v w k) ∧ w.isDummy = false := by
  cases h with
  | password password holds derived =>
    rw [linkKey, holds]
    dsimp only
    refine ⟨⟨?_, Key.length_eq _, ?_⟩, by rw [derived]; rfl⟩
    · rw [derived]
      rfl
    · rw [derived]
      rfl
  | secret holds isDummy salt iterations storedKey serverKey =>
    rw [linkKey, holds]
    refine ⟨⟨?_, hlength, hauthentic.trans storedKey.symm⟩, isDummy⟩
    rw [storedKey, serverKey]
    exact keys_captured C salt iterations

/-- The backend of a link has told its settings without a NUL. -/
theorem clean_of_answered {s : Session V} {clientKey : Bytes} {user database : Str} {v : Verifier} {backend : Backend}
    {config : PgConfig} (h : Answered C s clientKey user database v backend config) :
    ∀ n ∈ backend.startupNotifications, PgClient.Clean n := by
  obtain ⟨_, client, hconnect, hnew⟩ := bind_ok.mp (eq_of_fst h.link)
  obtain ⟨_, _, hget, hpure⟩ := bind_ok.mp hnew
  cases hget
  cases hpure
  obtain ⟨before, hreach, hhandshake⟩ := PgClient.connect_ok C hconnect
  obtain ⟨ms, status, rest, -, hcollects, -⟩ := PgClient.handshake_collects C hhandshake
  have hnone : before.startupNotifications = [] :=
    ((PgClient.startup_reachHandshake s.world.link).run hreach).notifications
  intro n hn
  rw [Backend.ofClient, hcollects.notifications, hnone, List.nil_append] at hn
  obtain ⟨m, -, hm⟩ := List.mem_filterMap.mp hn
  unfold PgClient.notificationOf at hm
  split at hm
  · rcases hparse : PgClient.parseParameterStatus m.2 with e | ⟨name, value⟩ <;> rw [hparse] at hm
    · cases hm
    · cases hm
      exact PgClient.parseParameterStatus_ok hparse
  · split at hm <;> cases hm
    trivial

/-! ## Both sessions -/

section Chain

variable [VerifierProvider V] [VerifierProvider U] {P : V → Prop} {R : Registry → Prop} {Q : U → Prop} {S : Registry → Prop}
  {s : Session V} {t : Session U} {v w : Verifier} {identity : Identity} {c scram : ScramClient} {chosen : SaslMechanism}
  {r linkExchange : Completed} {salt k body rest : Bytes} {iterations : UInt32} {config linked : PgConfig} {host : Str}
  {port : Nat} {backend : Backend}

/-- The link of `s` leads to the connection `t` of a second instance: `config` is the link's, `scram` its client, and
    `linkExchange` the exchange they have. -/
structure ChainedTo (C : Crypto) (s : Session V) (t : Session U) (v w : Verifier) (k : Bytes) (config : PgConfig)
    (scram : ScramClient) (linkExchange : Completed) : Prop where
  line : PgClient.SmoothLink s.world.link
  mode : PgClient.TakesPlaintext config
  binding : config.tls.channelBinding ≠ .require
  plaintext : InPlaintext config t
  secret : SharesSecret C v w
  client : scram = linkClient config (s.world.link.nonces 0)
  exchange : linkExchange = honestExchange C scram w (t.world.serverNonces t.drawnNonces) (linkKey C v w k)
  small : (PgClient.startupMessage config).length ≤ t.conn.config.maxStartupBytes
  startup : Sized t ((PgClient.startupMessage config).drop 4)
  exchanged : Exchanged t scram .scramSha256 linkExchange
  /-- What the link says arrives, and what the second instance says is what the link reads. -/
  asked : t.conn.wire.input = PgClient.linkBytes config scram .scramSha256 linkExchange
  answered : s.world.link.chunks.flatten = (handle C t).2.conn.wire.sent

/-- A client that completes its exchange with the first instance gets a session through
    both. The second one starts its session for the same user and database; the link has
    said all that it read, and read all that it said; and the client is told what the second
    instance was told by its own backend. -/
theorem chain_opens_both (hs : Welcoming P R s identity.user v) (hgreets : Greets s body identity)
    (hpool : s.conn.pool.maxCapacity ≤ 2 ^ 20)
    (hexchange : exchange C c chosen salt iterations (.new v none) (s.world.serverNonces s.drawnNonces) identity.user =
      .ok r)
    (hkey : r.extractedClientKey = some k) (hsized : Exchanged s c chosen r)
    (hinput : s.conn.wire.input = loginBytes body c chosen r ++ rest)
    (haddress : s.conn.config.backendHostPort = .ok (host, port))
    (hconfig : config = pgConfig (s.identify identity) k identity.user identity.database v host port)
    (hchained : ChainedTo C s t v w k config scram linkExchange) (ht : Welcoming Q S t identity.user w)
    (hanswered : Answered C (t.identify (passedOn config identity)) (linkKey C v w k) identity.user identity.database w
      backend linked)
    (hroom : ∀ secret, ∀ m ∈ PgClient.acceptance [Scram.scramSha256] linkExchange ++ PgClient.told backend secret,
      PgClient.Room s.conn.pool m) :
    ∃ secret t' client secret' s',
      (handle C t = (.ok (), t') ∧ t'.conn.sessionKeySecret = some secret ∧ t'.conn.wire.input = [] ∧
        t'.log = helloLog config ++ loginLog t ((PgClient.startupMessage config).drop 4) identity.user w scram .scramSha256
          linkExchange linked backend secret) ∧
      (Backend.new C s.world.link config (PgClient.fresh s.conn.pool s.world.link) =
          (.ok (PgClient.relayed config backend secret true), client) ∧
        client.wire.sent = t.conn.wire.input ∧ client.wire.input = []) ∧
      handle C s = (.ok (), s') ∧ s'.conn.sessionKeySecret = some secret' ∧ s'.conn.wire.input = rest ∧
        s'.log = loginLog s body identity.user v c chosen r config (PgClient.relayed config backend secret true)
          secret' := by
  obtain ⟨message, hread, hidentity⟩ := hgreets.message
  rw [hs.fresh.params, hs.fresh.replicationMode] at hidentity
  have hlength : body.length ≤ 2 ^ 26 := by
    have := hgreets.sized.pool
    omega
  have hdelivers := delivers_of_identity hread hlength hidentity k v host port (s := s)
  rw [← hconfig] at hdelivers
  -- the second instance
  obtain ⟨message', hread', hidentity'⟩ := readIdentity_passedOn hidentity hdelivers
  have hgreets' : Greets t ((PgClient.startupMessage config).drop 4) (passedOn config identity) := by
    refine ⟨⟨message', hread', ?_⟩, hchained.startup, ?_⟩
    · rw [ht.fresh.params, ht.fresh.replicationMode]
      exact hidentity'
    · have hlong := length_startupMessage config
      have hsmall := hchained.small
      rw [List.length_drop]
      omega
  obtain ⟨hlen, hauthentic⟩ := key_of_exchange hexchange hkey
  have hlinkExchange : exchange C scram .scramSha256 config.salt config.iterations (.new w none)
      (t.world.serverNonces t.drawnNonces) identity.user = .ok linkExchange := by
    obtain ⟨hkeys, hreal⟩ := keysOf_link hchained.secret hlen hauthentic (s.world.link.nonces 0)
      (t.world.serverNonces t.drawnNonces)
    rw [hchained.exchange, hchained.client, hconfig]
    exact exchange_completes C (plain_new _ _ _ _ _) (user_of_identity hidentity) hkeys hreal
  have hlinkKey : linkExchange.extractedClientKey = some (linkKey C v w k) := by rw [hchained.exchange]; rfl
  have hverified : linkExchange.verified = true := by rw [hchained.exchange]; rfl
  have hasked : t.conn.wire.input = PgClient.hello config ++
      (loginBytes ((PgClient.startupMessage config).drop 4) scram .scramSha256 linkExchange ++ []) := by
    rw [hchained.asked, PgClient.linkBytes, loginBytes, startupPacket_of_delivers hdelivers (length_startupMessage config),
      List.append_nil]
  obtain ⟨secret, t', hserved, hsecret, hleft, hlog, hsent⟩ := serves (passedOn config identity) ht
    hchained.plaintext (Nat.le_trans (length_startupMessage config) hchained.small) hgreets' hlinkExchange hlinkKey
    hchained.exchanged hanswered hasked
  -- its answers bring the link up
  have hanswer : s.world.link.chunks.flatten =
      PgClient.answerBytes config [Scram.scramSha256] linkExchange backend secret ++ [] := by
    rw [hchained.answered, hserved, List.append_nil]
    dsimp only
    rw [hsent, hlog]
    exact rendered_served ht.fresh.sslDone secret
  have hstart := startSasl_link hchained.binding (s.world.link.nonces 0)
  rw [← hchained.client] at hstart
  obtain ⟨wire, log, hconnect, hpasses⟩ := PgClient.links hchained.line s.conn.pool hchained.mode hstart hlinkExchange
    (clean_of_answered hanswered) (hroom secret) hanswer
  have hlink := PgClient.relays (r := linkExchange) hconnect ⟨_, rfl, rfl, rfl⟩
  rw [hverified] at hlink
  -- and with it the session of the first
  have hbuf : s.conn.wire.writer.buf = [] := (List.append_eq_nil_iff.mp hs.unsent).2
  obtain ⟨secret', s', hhandle, hsecret', hrest, hlog', -⟩ := runs_handle hs.fresh hbuf hs.permit hs.requiredTls hs.favoured
    hs.provides hs.keys hgreets hexchange hkey hsized
    ⟨⟨host, port, haddress, hconfig⟩, congrArg Prod.fst hlink⟩ hinput
  refine ⟨secret, t', _, secret', s', ⟨hserved, hsecret, hleft, hlog⟩, ⟨hlink, ?_, ?_⟩, hhandle, hsecret', hrest, hlog'⟩
  · rw [hchained.asked]
    exact hpasses.sent
  · exact hpasses.rest hanswer

end Chain

end Session

/-! ## Alice behind two instances -/

namespace Sample

open Session

/-- The client of the first instance's link, and its exchange with the second. -/
def aliceLink : ScramClient := linkClient (linkTo aliceVerifier) clientNonceBytes

def aliceLinkExchange : Completed :=
  honestExchange crypto aliceLink aliceVerifier serverNonceBytes
    (linkKey crypto aliceVerifier aliceVerifier (passwordKey crypto pencil salt 4096))

/-- The second instance, with the backend of `servedLogin`. -/
def secondLogin : Session (CredentialStore crypto) :=
  let s := session store busy
    [PgClient.linkBytes (linkTo aliceVerifier) aliceLink .scramSha256 aliceLinkExchange]
  { s with world := { s.world with link := { s.world.link with chunks := answeringBackend } } }

/-- The first one, whose link reads these bytes one by one. -/
def linkedTo (bytes : Bytes) : Session (CredentialStore crypto) :=
  { servedLogin with world := { servedLogin.world with link :=
    { servedLogin.world.link with chunks := bytes.map fun b => [b] } } }

/-- It reads what the second one says. -/
def firstLogin : Session (CredentialStore crypto) := linkedTo (handle crypto secondLogin).2.conn.wire.sent

/-- The link of the second instance. -/
def secondLink : PgConfig :=
  Session.pgConfig (secondLogin.identify (passedOn (linkTo aliceVerifier) aliceIdentity))
    (linkKey crypto aliceVerifier aliceVerifier (passwordKey crypto pencil salt 4096)) "alice" "alice" aliceVerifier
    "localhost" 5432

theorem welcoming_alice {s : Session (CredentialStore crypto)} {chunk : Bytes} {link : LinkEnv} (hchunk : chunk ≠ [])
    (h : s = { session store busy [chunk] with world := { (session store busy [chunk]).world with link } }) :
    Welcoming HoldsAlice KeysFree s "alice" aliceVerifier := by
  subst h
  have hplain : Transport.plain ≠ .empty := by decide
  refine ⟨⟨rfl, rfl, rfl, rfl, rfl, rfl, rfl, rfl, rfl⟩, rfl, show 0 < 8 by decide, rfl,
    ⟨favours_busy (fun _ => rfl) rfl, ⟨fun _ => ⟨8192, by decide, rfl⟩, hplain, hplain, ?_⟩, ?_,
      fun _ => AList.notMem_empty _⟩, provides_entry _, fun _ h => h⟩
  · intro chunk' hmem
    rw [List.mem_singleton.mp hmem]
    exact hchunk
  · exact favoured_servedLogin.provider

theorem line_linkedTo (bytes : Bytes) : PgClient.SmoothLink (linkedTo bytes).world.link ∧
    (linkedTo bytes).world.link.chunks.flatten = bytes := by
  refine ⟨⟨fun _ => ⟨8192, by decide, rfl⟩, ?_⟩, List.flatMap_singleton' bytes⟩
  show ∀ chunk ∈ bytes.map fun b => [b], chunk ≠ []
  rw [List.forall_mem_map]
  exact fun b _ => List.cons_ne_nil b []

theorem greets_firstLogin : Greets firstLogin (alice.drop 4) aliceIdentity :=
  ⟨greets_servedLogin.message, ⟨greets_servedLogin.sized.pool, greets_servedLogin.sized.field⟩, greets_servedLogin.small⟩

theorem exchanged_firstLogin :
    Exchanged firstLogin (Wirechaos.withPassword pencil clientNonceBytes) .scramSha256 aliceExchange := by
  have hsizes : (asBytes aliceExchange.clientFinal).length ≤ 1024 ∧
      (firstResponse (Wirechaos.withPassword pencil clientNonceBytes) .scramSha256).length ≤ 1024 := by decide +kernel
  have hsized {body : Bytes} (h : body.length ≤ 1024) : Sized firstLogin body :=
    ⟨show body.length ≤ 1048576 by omega, by omega⟩
  exact ⟨hsized hsizes.2, hsized hsizes.1, length_passwordExchange _ _ _ _ _ _⟩

theorem chained_firstLogin :
    ChainedTo crypto firstLogin secondLogin aliceVerifier aliceVerifier (passwordKey crypto pencil salt 4096)
      (linkTo aliceVerifier) aliceLink aliceLinkExchange := by
  have hsizes : (PgClient.startupMessage (linkTo aliceVerifier)).length ≤ secondLogin.conn.config.maxStartupBytes ∧
      (asBytes aliceLinkExchange.clientFinal).length ≤ 1024 ∧ 4 ≤ (asBytes aliceLinkExchange.clientFinal).length ∧
      (firstResponse aliceLink .scramSha256).length ≤ 1024 := by decide +kernel
  obtain ⟨hsmall, hfinal, hlong, hfirst⟩ := hsizes
  have hsized {body : Bytes} (h : body.length ≤ 10000) : Sized secondLogin body :=
    ⟨show body.length ≤ 1048576 by omega, by omega⟩
  obtain ⟨hline, hanswered⟩ := line_linkedTo (handle crypto secondLogin).2.conn.wire.sent
  refine ⟨hline, .inr rfl, by decide, .inr rfl, .password pencil rfl rfl, rfl, rfl, hsmall, hsized ?_,
    ⟨hsized (by omega), hsized (by omega), hlong⟩, List.append_nil _, hanswered⟩
  have hmax : secondLogin.conn.config.maxStartupBytes = 10000 := rfl
  rw [List.length_drop]
  omega

theorem room_alice (secret : SessionKeySecret) :
    ∀ m ∈ PgClient.acceptance [Scram.scramSha256] aliceLinkExchange ++ PgClient.told aliceBackend secret,
      PgClient.Room firstLogin.conn.pool m := by
  have hkey : (keyBytes secret).length = 8 := by rw [keyBytes, List.length_append, length_beBytes, length_beBytes]
  have hsmall (m : UInt8 × Bytes) (h : m.2.length ≤ 1024) : PgClient.Room firstLogin.conn.pool m :=
    ⟨show m.2.length + 4 < 2 ^ 31 by omega, show m.2.length ≤ 1048576 by omega⟩
  rw [List.forall_mem_append, PgClient.told, List.forall_mem_append, List.forall_mem_cons]
  refine ⟨fun m hm => hsmall m ?_, fun m hm => hsmall m ?_, hsmall _ (by rw [hkey]; decide), fun m hm => hsmall m ?_⟩
  · have hall : ∀ m ∈ PgClient.acceptance [Scram.scramSha256] aliceLinkExchange, m.2.length ≤ 1024 := by decide +kernel
    exact hall m hm
  · have hall : ∀ m ∈ aliceBackend.startupNotifications.map notificationMessage, m.2.length ≤ 1024 := by decide +kernel
    exact hall m hm
  · rw [List.mem_singleton.mp hm]
    decide

end Sample

namespace Session

theorem chain_opens_both_alice :
    ∃ secret t' client secret' s',
      (handle Sample.crypto Sample.secondLogin = (.ok (), t') ∧ t'.conn.sessionKeySecret = some secret ∧
        t'.conn.wire.input = [] ∧
        t'.log = helloLog (Sample.linkTo Sample.aliceVerifier) ++
          loginLog Sample.secondLogin ((PgClient.startupMessage (Sample.linkTo Sample.aliceVerifier)).drop 4) "alice"
            Sample.aliceVerifier Sample.aliceLink .scramSha256 Sample.aliceLinkExchange Sample.secondLink Sample.aliceBackend
            secret) ∧
      (Backend.new Sample.crypto Sample.firstLogin.world.link (Sample.linkTo Sample.aliceVerifier)
          (PgClient.fresh Sample.firstLogin.conn.pool Sample.firstLogin.world.link) =
          (.ok (PgClient.relayed (Sample.linkTo Sample.aliceVerifier) Sample.aliceBackend secret true), client) ∧
        client.wire.sent = Sample.secondLogin.conn.wire.input ∧ client.wire.input = []) ∧
      handle Sample.crypto Sample.firstLogin = (.ok (), s') ∧ s'.conn.sessionKeySecret = some secret' ∧
        s'.conn.wire.input = [] ∧
        s'.log = loginLog Sample.firstLogin (Sample.alice.drop 4) "alice" Sample.aliceVerifier
          (withPassword Sample.pencil Sample.clientNonceBytes) .scramSha256 Sample.aliceExchange
          (Sample.linkTo Sample.aliceVerifier)
          (PgClient.relayed (Sample.linkTo Sample.aliceVerifier) Sample.aliceBackend secret true) secret' := by
  have haddress : Sample.firstLogin.conn.config.backendHostPort = .ok ("localhost", 5432) := by decide +kernel
  exact chain_opens_both
    (Sample.welcoming_alice (by decide +kernel) rfl)
    Sample.greets_firstLogin (by decide) (passwordExchange_completes Sample.crypto _ _ _ _ _ (by decide)) rfl
    Sample.exchanged_firstLogin rfl
    haddress (by decide +kernel)
    Sample.chained_firstLogin
    (Sample.welcoming_alice (by decide +kernel) rfl) ⟨⟨"localhost", 5432, by decide +kernel, rfl⟩, by decide +kernel⟩
    Sample.room_alice

end Session

end Wirechaos
