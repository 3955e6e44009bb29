/-
  Wirechaos.Conn.HandleProofs — what holds of every run of a connection
  (see `Wirechaos.Conn.Startup`).

  Read off the log of a run (`handle_log`):
  (1) TLS that is required (`startup_over_tls_iff`): a StartupMessage is processed in
      the clear exactly when there is no certificate and an SSLRequest, declined with
      'N', came before it.
  (2) Authentication (`authenticationOk_sound`): an AuthenticationOk is written after one
      StartupMessage, one lookup that found the user's verifier, and one exchange in
      which the client proved that it knows its key.
  (3) The verifier (`one_verifier_iff`): it is looked up again after the
      AuthenticationOk, so the link is opened with it when the second answer agrees.
-/

import Wirechaos.Conn.DriverProofs
import Wirechaos.Credentials.Store

namespace Wirechaos

open Text Async Proc

/-! ## Four connections -/

namespace Sample

open Session

/-- A packet of the startup phase. -/
def packet (code : UInt32) (body : Bytes) : Bytes := beBytes (UInt32.ofNat (body.length + 8)) ++ beBytes code ++ body

def alice : Bytes := packet PgClient.protocolVersionNumber (writePairs [("user".toList, "alice".toList)] ++ [0])

/-- Alice's side of the exchange. -/
def saslMessages : Bytes :=
  frame (byte 'p') (saslInitialResponse "SCRAM-SHA-256" clientFirst) ++ frame (byte 'p') (asBytes clientFinal)

def config : Config := { Config.default with backend := { BackendConfig.default with address := "localhost:5432" } }

/-- A world in which nothing fails; the backend sends nothing. -/
def world {V : Type} (others : Nat → Shared V → Shared V) : World V :=
  { others, expires := fun _ => false, serverNonces := fun _ => serverNonceBytes, rng := fun n => Int32.ofNat n
    order := ⟨id, fun _ => .refl _⟩
    link :=
      { chunks := [], sched := fun _ => .ready 8192, validServerName := fun _ => true
        tlsConfigError := fun _ => none, connector := fun _ _ _ => none, nonces := fun _ => clientNonceBytes } }

/-- A new connection on which these pieces arrive. -/
def session {V : Type} (provider : V) (others : Nat → Shared V → Shared V) (chunks : List Bytes) : Session V :=
  { conn :=
      { connId := 1, pool := { maxCapacity := 1048576, stale := fun _ _ => 0 }
        wire :=
          { reader := { buf := [], inner := { transport := .plain, chunks } }
            writer := { buf := [], inner := .plain }, sent := [], sched := fun _ => .ready 8192, tick := 0 }
        sslDone := false, requiredTls := false, gssDone := false, frontendTls := none, protocolVersion := none
        params := ∅, user := none, database := none, replicationMode := .off, provider
        backendRegistry := ⟨∅, ∅⟩, sessionKeySecret := none, backend := none, serverSignatureVerified := false
        connRegistry := ⟨0, 8⟩, config, sessionGuard := none }
    world := world others, suspensions := 0, drawnNonces := 0, drawnWords := 0
    cancelWire :=
      { reader := { buf := [], inner := { transport := .empty, chunks := [] } }
        writer := { buf := [], inner := .empty }, sent := [], sched := fun _ => .fail, tick := 0 }
    log := [] }

theorem fresh_session {V : Type} (provider : V) (others : Nat → Shared V → Shared V) (chunks : List Bytes) :
    Fresh (session provider others chunks) := ⟨rfl, rfl, rfl, rfl, rfl, rfl, rfl, rfl, rfl⟩

/-- The user list, with one `password:` entry. -/
def userList : Str := "users: [{name: alice, password: pencil}]"

def loader : Loader :=
  { yaml := fun text => if text = userList then some [⟨"alice", some "pencil", none⟩] else none, saslprep := some }

/-- A store that has loaded the user list. -/
def store : CredentialStore crypto :=
  (CredentialStore.reload loader (fun _ => salt) (some userList) (.fromSource .file ⟨0, ∅⟩ .zero)).2

def newSalt : Bytes := List.replicate 16 7

/-- The same file is reloaded after a number of suspensions. -/
def reloads (after : Nat) (n : Nat) (shared : Shared (CredentialStore crypto)) : Shared (CredentialStore crypto) :=
  if n = after then { shared with provider := (shared.provider.reload loader (fun _ => newSalt) (some userList)).2 }
  else shared

/-- Alice logs in, and nothing happens in the meantime. -/
def login : Session (CredentialStore crypto) := session store (fun _ shared => shared) [alice ++ saslMessages]

theorem fresh_login : Fresh login := fresh_session _ _ _

/-- Alice logs in, and the user list is reloaded in the meantime. -/
def loginDuringReload : Session (CredentialStore crypto) := session store (reloads 20) [alice ++ saslMessages]

/-- A connection that needs TLS. -/
def requiring (tls : Option FrontendTls) (chunks : List Bytes) : Session (CredentialStore crypto) :=
  let s := session store (fun _ shared => shared) chunks
  { s with conn := { s.conn with requiredTls := true, frontendTls := tls } }

theorem fresh_requiring (tls : Option FrontendTls) (chunks : List Bytes) : Fresh (requiring tls chunks) :=
  ⟨rfl, rfl, rfl, rfl, rfl, rfl, rfl, rfl, rfl⟩

def overTls : Session (CredentialStore crypto) := requiring (some ⟨some, none⟩) [packet sslRequestCode [], alice]

def declined : Session (CredentialStore crypto) := requiring none [packet sslRequestCode [], alice]

/-- The entry that Alice is authenticated against, and the one the reload makes. -/
def aliceVerifier : Verifier := .fromPassword crypto (asBytes "pencil") salt 4096
def reloadedVerifier : Verifier := .fromPassword crypto (asBytes "pencil") newSalt 4096

def linkTo (v : Verifier) : PgConfig :=
  { clientKey := some clientKey.bytes, serverKey := some v.serverKey.bytes, storedKey := some v.storedKey.bytes
    password := v.password, user := "alice", database := "alice", connectTimeoutMs := 2000, startupTimeoutMs := 5000
    host := "localhost", port := 5432
    tls := { mode := .prefer, rootCertFile := none, channelBinding := .prefer, domain := some "localhost" }
    salt := v.salt, iterations := v.iterations, startupParams := [("user".toList, "alice".toList)] }

def beforeOk : List Event :=
  [.packet (alice.drop 4), .startup .plain .plain, .lookup "alice" (.ok (some aliceVerifier)),
    authEvent authSasl (saslMechanismList [Scram.scramSha256]), .sasl (saslInitialResponse "SCRAM-SHA-256" clientFirst),
    authEvent authSaslContinue (asBytes serverFirst), .sasl (asBytes clientFinal),
    authEvent authSaslFinal (asBytes serverFinal)]

/-- The second lookup, and a backend that hangs up. -/
def afterOk (v : Verifier) : List Event :=
  [.lookup "alice" (.ok (some v)), .connect (linkTo v),
    .message (byte 'E') (prepareErrorBuf "FATAL" "08006" "could not connect to the backend database")]

theorem login_log :
    (handle crypto login).2.log = beforeOk ++ authEvent authSaslOk [] :: afterOk aliceVerifier := by
  decide +kernel

theorem reload_log :
    (handle crypto loginDuringReload).2.log = beforeOk ++ authEvent authSaslOk [] :: afterOk reloadedVerifier := by
  decide +kernel

end Sample

namespace Session

variable (C : Crypto) {V : Type}

/-! ## The events of a StartupMessage -/

theorem authEvent_of_plain {e : Event} (h : IsPlainMessage e) : AuthEvent e := by
  obtain ⟨tag, body, rfl, -⟩ := h
  exact Or.inr (Or.inr ⟨tag, body, rfl⟩)

theorem AuthLog.events {v : Verifier} {es : List Event} (h : AuthLog C v es) : ∀ e ∈ es, AuthEvent e := by
  obtain ⟨_, b₁, _, _, _, b₂, _, _, rfl, -⟩ := h
  simp [AuthEvent, authEvent]

theorem LinkLog.events {s : Session V} {clientKey : Bytes} {user database : Str}
    {answer : Except ProviderError (Option Verifier)} {es : List Event} (h : LinkLog s clientKey user database answer es) :
    ∀ e ∈ es, AuthEvent e ∨ ∃ config, e = .connect config := by
  rcases h with ⟨rfl, -⟩ | ⟨v, host, port, tail, -, -, rfl, htail⟩
  · simp
  · intro e he
    rcases List.mem_cons.mp he with rfl | he
    · exact Or.inr ⟨_, rfl⟩
    · exact Or.inl (authEvent_of_plain (htail e he))

theorem SessionLog.events {s : Session V} {message : MessageReader} {es : List Event} (h : SessionLog C s message es) :
    ∀ e ∈ es, AuthEvent e ∨ ∃ config, e = .connect config := by
  cases h with
  | rejected hes => exact fun e he => Or.inl (hes e he).1
  | authenticated _ hexchange htail =>
    intro e he
    rcases List.mem_cons.mp he with rfl | he
    · exact Or.inl (Or.inl ⟨_, _, rfl⟩)
    rcases List.mem_append.mp he with he | he
    · exact Or.inl (hexchange.events C e he)
    · exact Or.inl (authEvent_of_plain (htail e he))
  | admitted _ hexchange _ hlink =>
    intro e he
    rcases List.mem_cons.mp he with rfl | he
    · exact Or.inl (Or.inl ⟨_, _, rfl⟩)
    rcases List.mem_append.mp he with he | he
    · exact Or.inl (hexchange.events C e he)
    rcases List.mem_cons.mp he with rfl | he
    · exact Or.inl (Or.inl ⟨_, _, rfl⟩)
    · exact hlink.events e he

/-! ## Required TLS -/

theorem hasRead_append {code : UInt32} {es fs : List Event} :
    HasRead code (es ++ fs) ↔ HasRead code es ∨ HasRead code fs := by
  simp [HasRead, or_and_right, exists_or]

theorem hasRead_packet {code : UInt32} {body : Bytes} {es : List Event} :
    HasRead code (.packet body :: es) ↔ packetCode body = some code ∨ HasRead code es := by
  simp [HasRead, or_and_right, exists_or]

/-- Neither a packet nor the beginning of a session. -/
def IsLater (e : Event) : Prop := (∀ body, e ≠ .packet body) ∧ ∀ reader writer, e ≠ .startup reader writer

theorem isLater_of_reply {e : Event} (h : IsReply e) : IsLater e := by
  obtain ⟨answer, rfl⟩ := h
  exact ⟨by simp, by simp⟩

theorem isLater_of_event {e : Event} (h : AuthEvent e ∨ ∃ config, e = .connect config) : IsLater e := by
  rcases h with (⟨_, _, rfl⟩ | ⟨_, rfl⟩ | ⟨_, _, rfl⟩) | ⟨_, rfl⟩ <;> exact ⟨by simp, by simp⟩

theorem not_hasRead_of_later {code : UInt32} {es : List Event} (h : ∀ e ∈ es, IsLater e) : ¬ HasRead code es := by
  intro h
  obtain ⟨body, hmem, -⟩ := h
  exact (h _ hmem).1 body rfl

theorem not_startup_of_later {es : List Event} (h : ∀ e ∈ es, IsLater e) (reader writer : Transport) :
    .startup reader writer ∉ es := fun hmem => (h _ hmem).2 reader writer rfl

section Provider

variable [VerifierProvider V]

/-- The guard asks whether an SSLRequest was answered, which a decline does as well. -/
theorem startup_over_tls_iff {s : Session V} (hs : Fresh s) (hrequired : s.conn.requiredTls = true) :
    (∀ reader writer, .startup reader writer ∈ (handle C s).2.log → reader = .tls ∧ writer = .tls) ↔
      s.conn.frontendTls.isSome = true ∨ ¬ (HasRead sslRequestCode (handle C s).2.log ∧
        HasRead PgClient.protocolVersionNumber (handle C s).2.log) := by
  obtain ⟨es, hlog, quiet, t, o, last, s', tail, hwaits, ho, hstep, htail, rfl⟩ := handle_log C s
  rw [hlog, hs.log, List.nil_append]
  have hset := hwaits.settled
  have hssl : t.conn.sslDone = true ↔ HasRead sslRequestCode quiet := by
    rw [hwaits.sslDone, hs.sslDone]
    simp
  have hquiet : ¬ HasRead PgClient.protocolVersionNumber quiet := by
    intro h
    obtain ⟨body, hmem, hcode⟩ := h
    rcases hwaits.events _ hmem with ⟨_, h⟩ | ⟨_, code, h, hcode', hne⟩
    · cases h
    · cases h
      rw [hcode] at hcode'
      cases hcode'
      revert hne
      decide
  have hquiet' (reader writer : Transport) : .startup reader writer ∉ quiet := by
    intro hmem
    rcases hwaits.events _ hmem with ⟨_, h⟩ | ⟨_, _, h, -⟩ <;> cases h
  have hlater : ∀ e ∈ tail, IsLater e := fun e he => isLater_of_event (Or.inl (authEvent_of_plain (htail e he)))
  cases hstep with
  | encryption => exact absurd rfl ho
  | unread =>
    simp only [List.nil_append, List.mem_append, hasRead_append, hquiet, hquiet', not_startup_of_later hlater,
      not_hasRead_of_later hlater]
    simp
  | @ended _ body replies _ _ hguard hreplies =>
    have hlater' : ∀ e ∈ replies, IsLater e := fun e he => isLater_of_reply (hreplies e he)
    simp only [List.cons_append, List.mem_append, List.mem_cons, hasRead_append, hasRead_packet, hquiet, hquiet',
      not_startup_of_later hlater, not_startup_of_later hlater', not_hasRead_of_later hlater,
      not_hasRead_of_later hlater', or_false, false_or]
    -- a StartupMessage was refused, so that no SSLRequest was answered
    have : ¬ ((HasRead sslRequestCode quiet ∨ packetCode body = some sslRequestCode) ∧
        packetCode body = some PgClient.protocolVersionNumber) := by
      intro h
      obtain ⟨hread | hcode, hprotocol⟩ := h
      · rw [← hssl, (hguard hprotocol).2] at hread
        cases hread
      · rw [hcode] at hprotocol
        revert hprotocol
        decide
    simp [this]
  | @startup _ body message _ rest _ _ hread hguard hsession =>
    have hlater' : ∀ e ∈ rest, IsLater e := fun e he => isLater_of_event (hsession.events C e he)
    have hcode : packetCode body = some PgClient.protocolVersionNumber := by rw [packetCode, hread]; rfl
    have hdone := hguard (by rw [hset.requiredTls, hrequired])
    simp only [List.cons_append, List.mem_append, List.mem_cons, hasRead_append, hasRead_packet, hquiet', hcode,
      hssl.mp hdone, not_startup_of_later hlater, not_startup_of_later hlater', or_false, false_or, true_or, or_true,
      and_self, not_true_eq_false]
    constructor
    · intro h
      obtain ⟨hreader, -⟩ := h t.conn.wire.reader.inner.transport t.conn.wire.writer.inner (Or.inr rfl)
      by_contra hnone
      rw [hwaits.plain (by simpa using hnone), hs.reader] at hreader
      cases hreader
    · intro hsome reader writer hmem
      have hsecured : Secured t := hwaits.secured fun h => by rw [hs.sslDone] at h; cases h
      obtain ⟨hreader, hwriter⟩ := hsecured hdone (by rw [hset.frontendTls, hsome])
      rcases hmem with h | h
      · cases h
      · cases h
        exact ⟨hreader, hwriter⟩

theorem startup_over_tls_iff_tls :
    (∀ reader writer, .startup reader writer ∈ (handle Sample.crypto Sample.overTls).2.log → reader = .tls ∧ writer = .tls) ↔
      Sample.overTls.conn.frontendTls.isSome = true ∨
        ¬ (HasRead sslRequestCode (handle Sample.crypto Sample.overTls).2.log ∧
          HasRead PgClient.protocolVersionNumber (handle Sample.crypto Sample.overTls).2.log) :=
  startup_over_tls_iff Sample.crypto (Sample.fresh_requiring _ _) rfl

/-- Without a certificate the SSLRequest is declined, and then the guard lets the
    StartupMessage through in the clear. -/
theorem startup_in_the_clear :
    Fresh Sample.declined ∧ Sample.declined.conn.requiredTls = true ∧
    ¬ ∀ reader writer, .startup reader writer ∈ (handle Sample.crypto Sample.declined).2.log →
      reader = .tls ∧ writer = .tls := by
  refine ⟨Sample.fresh_requiring _ _, rfl, fun h => ?_⟩
  have hplain : .startup .plain .plain ∈ (handle Sample.crypto Sample.declined).2.log := by decide +kernel
  cases (h _ _ hplain).1

/-! ## Authentication -/

omit [VerifierProvider V] in
theorem not_isAuthOk_of_reply {e : Event} (h : IsReply e) : ¬ IsAuthOk e := by
  obtain ⟨answer, rfl⟩ := h
  intro h
  obtain ⟨data, hd⟩ := h
  cases hd

/-- What follows an AuthenticationOk: nothing but messages, or the second lookup. -/
def AfterOk (s : Session V) (v : Verifier) (identity : Identity) (es : List Event) : Prop :=
  (∀ e ∈ es, IsPlainMessage e) ∨ ∃ clientKey answer link tail, C.sha256 clientKey = v.storedKey ∧
    LinkLog (s.identify identity) clientKey identity.user identity.database answer link ∧
    (∀ e ∈ tail, IsPlainMessage e) ∧ es = .lookup identity.user answer :: (link ++ tail)

omit [VerifierProvider V] in
theorem AfterOk.append {s : Session V} {v : Verifier} {identity : Identity} {es tail : List Event}
    (h : AfterOk C s v identity es) (htail : ∀ e ∈ tail, IsPlainMessage e) : AfterOk C s v identity (es ++ tail) := by
  have hplain {fs : List Event} (hfs : ∀ e ∈ fs, IsPlainMessage e) : ∀ e ∈ fs ++ tail, IsPlainMessage e := by
    intro e he
    rcases List.mem_append.mp he with he | he
    · exact hfs e he
    · exact htail e he
  rcases h with hes | ⟨clientKey, answer, link, rest, hkey, hlink, hrest, rfl⟩
  · exact Or.inl (hplain hes)
  · exact Or.inr ⟨clientKey, answer, link, rest ++ tail, hkey, hlink, hplain hrest, by simp⟩

omit [VerifierProvider V] in
theorem AfterOk.not_ok {s : Session V} {v : Verifier} {identity : Identity} {es : List Event}
    (h : AfterOk C s v identity es) : ∀ e ∈ es, ¬ IsAuthOk e := by
  have hconnect (config : PgConfig) : ¬ IsAuthOk (.connect config) := by
    intro h
    obtain ⟨_, h⟩ := h
    cases h
  rcases h with hes | ⟨clientKey, answer, link, tail, -, hlink, htail, rfl⟩
  · exact fun e he => not_isAuthOk_of_plain (hes e he)
  · intro e he
    rcases List.mem_cons.mp he with rfl | he
    · intro h
      obtain ⟨_, h⟩ := h
      cases h
    rcases List.mem_append.mp he with he | he
    · rcases hlink with ⟨rfl, -⟩ | ⟨_, _, _, rest, -, -, rfl, hrest⟩
      · cases he
      rcases List.mem_cons.mp he with rfl | he
      · exact hconnect _
      · exact not_isAuthOk_of_plain (hrest e he)
    · exact not_isAuthOk_of_plain (htail e he)

omit [VerifierProvider V] in
/-- The last event of an exchange is its only AuthenticationOk. -/
theorem AuthLog.cut {v : Verifier} {es : List Event} (h : AuthLog C v es) :
    ∃ front, es = front ++ [authEvent authSaslOk []] ∧ ∀ e ∈ front, ¬ IsAuthOk e := by
  obtain ⟨mechanics, b₁, _, _, serverFirst, b₂, _, serverFinal, rfl, -⟩ := h
  refine ⟨[authEvent authSasl (saslMechanismList mechanics), .sasl b₁, authEvent authSaslContinue (asBytes serverFirst),
    .sasl b₂, authEvent authSaslFinal (asBytes serverFinal)], rfl, ?_⟩
  simp only [List.forall_mem_cons]
  refine ⟨not_isAuthOk_authEvent (by decide) _, ?_, not_isAuthOk_authEvent (by decide) _, ?_,
    not_isAuthOk_authEvent (by decide) _, by simp⟩
  · intro h
    obtain ⟨_, h⟩ := h
    cases h
  · intro h
    obtain ⟨_, h⟩ := h
    cases h

omit [VerifierProvider V] in
theorem SessionLog.of_ok {s : Session V} {message : MessageReader} {es : List Event} (h : SessionLog C s message es)
    (hok : ∃ e ∈ es, IsAuthOk e) :
    ∃ identity v front rest, readIdentity message s.conn.params s.conn.replicationMode = .ok identity ∧
      AuthLog C v (front ++ [authEvent authSaslOk []]) ∧ (∀ e ∈ front, ¬ IsAuthOk e) ∧ AfterOk C s v identity rest ∧
      es = .lookup identity.user (.ok (some v)) :: (front ++ authEvent authSaslOk [] :: rest) := by
  cases h with
  | rejected hes =>
    obtain ⟨e, he, h⟩ := hok
    exact absurd h (hes e he).2
  | authenticated hidentity hexchange htail =>
    obtain ⟨front, rfl, hfront⟩ := hexchange.cut
    exact ⟨_, _, front, _, hidentity, hexchange, hfront, Or.inl htail, by simp⟩
  | admitted hidentity hexchange hkey hlink =>
    obtain ⟨front, rfl, hfront⟩ := hexchange.cut
    exact ⟨_, _, front, _, hidentity, hexchange, hfront, Or.inr ⟨_, _, _, [], hkey, hlink, by simp, rfl⟩, by simp⟩

/-- The whole of a run with an AuthenticationOk. -/
theorem handle_of_ok {s : Session V} (hs : Fresh s) {pre post : List Event} {data : Bytes}
    (h : (handle C s).2.log = pre ++ authEvent authSaslOk data :: post) :
    ∃ quiet t body message identity v front, Waits s quiet t ∧
      (MessageReader.new body).readU32 = (.ok PgClient.protocolVersionNumber, message) ∧
      readIdentity message ∅ .off = .ok identity ∧ AuthLog C v (front ++ [authEvent authSaslOk data]) ∧
      AfterOk C t v identity post ∧
      pre = quiet ++ .packet body :: .startup t.conn.wire.reader.inner.transport t.conn.wire.writer.inner ::
        .lookup identity.user (.ok (some v)) :: front := by
  obtain ⟨es, hlog, quiet, t, o, last, s', tail, hwaits, ho, hstep, htail, rfl⟩ := handle_log C s
  rw [hs.log, List.nil_append] at hlog
  rw [hlog] at h
  have hset := hwaits.settled
  -- only the last packet has anything to do with authentication
  have hquiet : ∀ e ∈ quiet, ¬ IsAuthOk e := by
    intro e he h
    obtain ⟨data, rfl⟩ := h
    rcases hwaits.events _ he with ⟨_, h⟩ | ⟨_, _, h, -⟩ <;> cases h
  have hlast : ∃ e ∈ last, IsAuthOk e := by
    have he : authEvent authSaslOk data ∈ quiet ++ (last ++ tail) := by rw [h]; simp
    rcases List.mem_append.mp he with he | he
    · exact absurd ⟨data, rfl⟩ (hquiet _ he)
    rcases List.mem_append.mp he with he | he
    · exact ⟨_, he, data, rfl⟩
    · exact absurd ⟨data, rfl⟩ (not_isAuthOk_of_plain (htail _ he))
  have hother {e : Event} {es : List Event} (hne : ¬ IsAuthOk e) (h : ∃ e' ∈ e :: es, IsAuthOk e') : ∃ e ∈ es, IsAuthOk e := by
    obtain ⟨e', he, h⟩ := h
    rcases List.mem_cons.mp he with rfl | he
    · exact absurd h hne
    · exact ⟨e', he, h⟩
  have hpacket (body : Bytes) : ¬ IsAuthOk (.packet body) := by
    intro h
    obtain ⟨_, h⟩ := h
    cases h
  cases hstep with
  | encryption => exact absurd rfl ho
  | unread => simp at hlast
  | ended _ _ hreplies =>
    obtain ⟨e, he, h⟩ := hother (hpacket _) hlast
    exact absurd h (not_isAuthOk_of_reply (hreplies e he))
  | @startup _ body message _ session _ _ hread hguard hsession =>
    have hstartup (reader writer : Transport) : ¬ IsAuthOk (.startup reader writer) := by
      intro h
      obtain ⟨_, h⟩ := h
      cases h
    obtain ⟨identity, v, front, rest, hidentity, hexchange, hfront, hafter, rfl⟩ := hsession.of_ok C
      (hother (hstartup _ _) (hother (hpacket body) hlast))
    rw [hset.params, hset.replicationMode, hs.params, hs.replicationMode] at hidentity
    have hafter' := hafter.append C htail
    -- there is one AuthenticationOk to split at
    have hbefore : authEvent authSaslOk data ∉ quiet ++ .packet body ::
        .startup t.conn.wire.reader.inner.transport t.conn.wire.writer.inner ::
        .lookup identity.user (.ok (some v)) :: front := by
      intro he
      rcases List.mem_append.mp he with he | he
      · exact hquiet _ he ⟨data, rfl⟩
      · simp only [List.mem_cons] at he
        rcases he with he | he | he | he
        · cases he
        · cases he
        · cases he
        · exact hfront _ he ⟨data, rfl⟩
    have hbehind : authEvent authSaslOk data ∉ rest ++ tail := fun he => hafter'.not_ok C _ he ⟨data, rfl⟩
    obtain ⟨hpre, hdata, hpost⟩ := (List.append_cons_inj_of_notMem hbefore hbehind).mp (by simpa using h)
    rw [← hdata]
    exact ⟨quiet, t, body, message, identity, v, front, hwaits, hread, hidentity, hexchange, hpost ▸ hafter', hpre.symm⟩

/-- The AuthenticationOk of a run is preceded by its one StartupMessage, a lookup that
    found the user's own verifier and an exchange that proved the client's key. -/
theorem authenticationOk_sound {s : Session V} (hs : Fresh s) {pre post : List Event} {data : Bytes}
    (h : (handle C s).2.log = pre ++ authEvent authSaslOk data :: post) :
    ∃ quiet body message reader writer identity v exchange,
      pre ++ [authEvent authSaslOk data] = quiet ++ .packet body :: .startup reader writer ::
        .lookup identity.user (.ok (some v)) :: exchange ∧
      (∀ e ∈ quiet, IsReply e ∨ ∃ b code, e = .packet b ∧ packetCode b = some code ∧
        (code = sslRequestCode ∨ code = gssencRequestCode)) ∧
      (MessageReader.new body).readU32 = (.ok PgClient.protocolVersionNumber, message) ∧
      readIdentity message ∅ .off = .ok identity ∧ AuthLog C v exchange := by
  obtain ⟨quiet, t, body, message, identity, v, front, hwaits, hread, hidentity, hexchange, -, rfl⟩ := handle_of_ok C hs h
  exact ⟨quiet, body, message, t.conn.wire.reader.inner.transport, t.conn.wire.writer.inner, identity, v,
    front ++ [authEvent authSaslOk data], by simp, hwaits.events, hread, hidentity, hexchange⟩

theorem authenticationOk_sound_login :
    ∃ quiet body message reader writer identity v exchange,
      Sample.beforeOk ++ [authEvent authSaslOk []] = quiet ++ .packet body :: .startup reader writer ::
        .lookup identity.user (.ok (some v)) :: exchange ∧
      (∀ e ∈ quiet, IsReply e ∨ ∃ b code, e = .packet b ∧ packetCode b = some code ∧
        (code = sslRequestCode ∨ code = gssencRequestCode)) ∧
      (MessageReader.new body).readU32 = (.ok PgClient.protocolVersionNumber, message) ∧
      readIdentity message ∅ .off = .ok identity ∧ AuthLog Sample.crypto v exchange :=
  authenticationOk_sound Sample.crypto Sample.fresh_login Sample.login_log

/-! ## One verifier -/

/-- The link is set up with this entry, and its client key is the one of the entry. -/
def Carries (config : PgConfig) (v : Verifier) : Prop :=
  config.salt = v.salt ∧ config.iterations = v.iterations ∧ config.storedKey = some v.storedKey.bytes ∧
    config.serverKey = some v.serverKey.bytes ∧ config.password = v.password ∧
    ∃ clientKey, config.clientKey = some clientKey ∧ C.sha256 clientKey = v.storedKey

/-- The entries have the same settings and keys. -/
def SameEntry (v v' : Verifier) : Prop :=
  v.salt = v'.salt ∧ v.iterations = v'.iterations ∧ v.storedKey = v'.storedKey ∧ v.serverKey = v'.serverKey ∧
    v.password = v'.password

omit [VerifierProvider V] in
theorem carries_pgConfig_iff {s : Session V} {clientKey : Bytes} {user database host : Str} {v v' : Verifier}
    {port : Nat} (hkey : C.sha256 clientKey = v.storedKey) :
    Carries C (pgConfig s clientKey user database v' host port) v ↔ SameEntry v' v := by
  constructor
  · intro h
    obtain ⟨hsalt, hiterations, hstored, hserver, hpassword, -⟩ := h
    exact ⟨hsalt, hiterations, Key.ext_bytes (Option.some.inj hstored), Key.ext_bytes (Option.some.inj hserver),
      hpassword⟩
  · intro h
    obtain ⟨hsalt, hiterations, hstored, hserver, hpassword⟩ := h
    exact ⟨hsalt, hiterations, congrArg (fun k : Key => some k.bytes) hstored,
      congrArg (fun k : Key => some k.bytes) hserver, hpassword, clientKey, rfl, hkey⟩

omit [VerifierProvider V] in
/-- The verifier of the exchange is the only one that was looked up before its end. -/
theorem AuthLog.no_lookup {v : Verifier} {es : List Event} (h : AuthLog C v es) (user : Str)
    (answer : Except ProviderError (Option Verifier)) : .lookup user answer ∉ es := by
  obtain ⟨_, _, _, _, _, _, _, _, rfl, -⟩ := h
  simp [authEvent]

/-- The link is set up with the verifier of the exchange, and not refused for want of
    one, exactly when the second lookup finds the same entry. -/
theorem one_verifier_iff {s : Session V} (hs : Fresh s) {pre post : List Event} {data : Bytes} {user : Str} {v : Verifier}
    (h : (handle C s).2.log = pre ++ authEvent authSaslOk data :: post) (hv : .lookup user (.ok (some v)) ∈ pre) :
    ((∀ config, .connect config ∈ post → Carries C config v) ∧
      ((∃ user', .lookup user' (.ok none) ∈ post) → ∃ config, .connect config ∈ post)) ↔
    ∀ user' answer, .lookup user' answer ∈ post → answer ≠ .ok none ∧ ∀ v', answer = .ok (some v') →
      ∀ hostPort, s.conn.config.backendHostPort = .ok hostPort → SameEntry v' v := by
  obtain ⟨quiet, t, body, message, identity, w, front, hwaits, -, -, hexchange, hafter, rfl⟩ := handle_of_ok C hs h
  obtain rfl : w = v := by
    rcases List.mem_append.mp hv with hv | hv
    · rcases hwaits.events _ hv with ⟨_, h⟩ | ⟨_, _, h, -⟩ <;> cases h
    · have hfront := hexchange.no_lookup C user (.ok (some v))
      simp only [List.mem_append, not_or] at hfront
      simp only [List.mem_cons, hfront.1, Event.lookup.injEq, Except.ok.injEq, Option.some.injEq, reduceCtorEq, false_or,
        or_false] at hv
      exact hv.2.symm
  rcases hafter with hplain | ⟨clientKey, answer, link, tail, hkey, hlink, htail, rfl⟩
  · obtain ⟨hconnect, hlookup⟩ := not_mem_of_plain hplain
    simp [hconnect, hlookup]
  · obtain ⟨hconnect, hlookup⟩ := not_mem_of_plain htail
    have hconfig : (t.identify identity).conn.config = s.conn.config := hwaits.settled.config
    rcases hlink with ⟨rfl, hunlinked⟩ | ⟨v', host, port, rest, rfl, hhost, rfl, hrest⟩
    · -- no link was opened
      rw [hconfig] at hunlinked
      simp only [List.nil_append, List.mem_cons, hconnect, hlookup, Event.lookup.injEq, reduceCtorEq, or_false,
        false_implies, implies_true, true_and, exists_eq_left, exists_false, imp_false]
      constructor
      · intro hne user' answer' h
        obtain ⟨-, rfl⟩ := h
        exact ⟨fun h => hne h.symm, fun v' hv' hostPort hhost => absurd hhost (hunlinked v' hostPort.1 hostPort.2 hv')⟩
      · exact fun hall h => (hall identity.user answer ⟨rfl, rfl⟩).1 h.symm
    · obtain ⟨hconnect', hlookup'⟩ := not_mem_of_plain hrest
      rw [hconfig] at hhost
      simp only [List.cons_append, List.mem_append, List.mem_cons, hconnect, hconnect', hlookup, hlookup',
        Event.lookup.injEq, Event.connect.injEq, reduceCtorEq, or_false, false_or, forall_eq, exists_eq, implies_true,
        and_true, carries_pgConfig_iff C hkey]
      constructor
      · intro hsame user' answer' h
        obtain ⟨-, rfl⟩ := h
        exact ⟨by simp, fun v'' hv'' _ _ => by cases hv''; exact hsame⟩
      · exact fun hall => (hall identity.user _ ⟨rfl, rfl⟩).2 v' rfl _ hhost

theorem one_verifier_iff_login :
    ((∀ config, .connect config ∈ Sample.afterOk Sample.aliceVerifier → Carries Sample.crypto config Sample.aliceVerifier) ∧
      ((∃ user', .lookup user' (.ok none) ∈ Sample.afterOk Sample.aliceVerifier) →
        ∃ config, .connect config ∈ Sample.afterOk Sample.aliceVerifier)) ↔
    ∀ user' answer, .lookup user' answer ∈ Sample.afterOk Sample.aliceVerifier → answer ≠ .ok none ∧
      ∀ v', answer = .ok (some v') → ∀ hostPort, Sample.login.conn.config.backendHostPort = .ok hostPort →
        SameEntry v' Sample.aliceVerifier :=
  one_verifier_iff Sample.crypto Sample.fresh_login Sample.login_log
    (show .lookup "alice".toList (.ok (some Sample.aliceVerifier)) ∈ Sample.beforeOk by simp [Sample.beforeOk])

/-- A reload of the same file draws a new salt, and the link is set up with that one. -/
theorem reload_changes_the_entry :
    Fresh Sample.loginDuringReload ∧
    (handle Sample.crypto Sample.loginDuringReload).2.log =
      Sample.beforeOk ++ authEvent authSaslOk [] :: Sample.afterOk Sample.reloadedVerifier ∧
    .lookup "alice".toList (.ok (some Sample.aliceVerifier)) ∈ Sample.beforeOk ∧
    ¬ ((∀ config, .connect config ∈ Sample.afterOk Sample.reloadedVerifier →
        Carries Sample.crypto config Sample.aliceVerifier) ∧
      ((∃ user', .lookup user' (.ok none) ∈ Sample.afterOk Sample.reloadedVerifier) →
        ∃ config, .connect config ∈ Sample.afterOk Sample.reloadedVerifier)) := by
  refine ⟨Sample.fresh_session _ _ _, Sample.reload_log, by simp [Sample.beforeOk], ?_⟩
  intro h
  obtain ⟨hcarries, -⟩ := h
  obtain ⟨hsalt, -⟩ := hcarries (Sample.linkTo Sample.reloadedVerifier) (by simp [Sample.afterOk])
  exact absurd hsalt (by decide)

end Provider

end Session

end Wirechaos
