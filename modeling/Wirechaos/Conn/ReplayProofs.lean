/-
  Wirechaos.Conn.ReplayProofs — the backend's startup messages on their way to the client
  (see `Wirechaos.Backend.PgClient`, `Wirechaos.Backend.Link`, `Wirechaos.Conn.Startup`).

  The handshake collects its notifications (`handshake_collects`), the backend of the
  session takes them over (`openLink_ok`), and the session writes them to its client, then
  the key it minted, then the status (`startSession_ok`). So what a StartupMessage that
  ended ready told its client behind the AuthenticationOk is the transcript, message by
  message (`replays_startup`).
-/

import Wirechaos.Backend.NotificationProofs
import Wirechaos.Conn.CancelProofs
import Wirechaos.Conn.OutputProofs

namespace Wirechaos

open Text Async Proc

/-! ## A message and its replay -/

namespace PgClient

def isNotification (m : UInt8 × Bytes) : Bool := m.1 = byte 'S' ∨ m.1 = byte 'N'

/-- What the client is sent for a message: a notice as it is, a setting that is read as
    the same one. -/
structure Replays (m m' : UInt8 × Bytes) : Prop where
  tag : m'.1 = m.1
  notice : m.1 = byte 'N' → m'.2 = m.2
  parameterStatus : m.1 = byte 'S' → ∃ p, parseParameterStatus m.2 = .ok p ∧ parseParameterStatus m'.2 = .ok p

theorem parseParameterStatus_ok {payload : Bytes} {name value : Str} (h : parseParameterStatus payload = .ok (name, value)) :
    '\x00' ∉ name ∧ '\x00' ∉ value := by
  unfold parseParameterStatus at h
  split at h
  · cases h
  · rename_i hname
    split at h
    · cases h
    · rename_i hvalue
      cases h
      exact ⟨(MessageReader.readString_ok hname).2, (MessageReader.readString_ok hvalue).2⟩

theorem parseParameterStatus_putCstr {name value : Str} (hname : '\x00' ∉ name) (hvalue : '\x00' ∉ value) :
    parseParameterStatus (putCstr name ++ putCstr value) = .ok (name, value) := by
  obtain ⟨m₁, hn, h₁⟩ := MessageReader.readString_rest (m := .new (putCstr name ++ putCstr value)) rfl hname
  obtain ⟨m₂, hv, -⟩ := MessageReader.readString_rest (m := m₁) (t := []) (by rw [h₁, List.append_nil]) hvalue
  unfold parseParameterStatus
  rw [hn]
  dsimp only
  rw [hv]

/-- The notifications of a transcript, written again. -/
theorem replays_notifications {ms : List (UInt8 × Bytes)}
    (h : ∀ m ∈ ms, m.1 = byte 'S' → ∃ p, parseParameterStatus m.2 = .ok p) :
    List.Forall₂ Replays (ms.filter isNotification) ((ms.filterMap notificationOf).map Session.notificationMessage) := by
  induction ms with
  | nil => exact .nil
  | cons m ms ih =>
    have hrest := ih fun m' hm' => h m' (List.mem_cons_of_mem _ hm')
    obtain ⟨tag, payload⟩ := m
    by_cases hS : tag = byte 'S'
    · subst hS
      obtain ⟨⟨name, value⟩, hparse⟩ := h (byte 'S', payload) List.mem_cons_self rfl
      have hnotification : notificationOf (byte 'S', payload) = some (.parameterStatus name value) := by
        rw [notificationOf, if_pos rfl, hparse]
        rfl
      rw [List.filter_cons_of_pos (by simp [isNotification]), List.filterMap_cons_some hnotification]
      obtain ⟨hname, hvalue⟩ := parseParameterStatus_ok hparse
      refine .cons ⟨rfl, fun h => absurd h (show byte 'S' ≠ byte 'N' by decide), fun _ => ⟨_, hparse, ?_⟩⟩ hrest
      exact parseParameterStatus_putCstr hname hvalue
    · by_cases hN : tag = byte 'N'
      · subst hN
        have hnotification : notificationOf (byte 'N', payload) = some (.notice payload) := rfl
        rw [List.filter_cons_of_pos (by simp [isNotification]), List.filterMap_cons_some hnotification]
        exact .cons ⟨rfl, fun _ => rfl, fun h => absurd h hS⟩ hrest
      · rw [List.filter_cons_of_neg (by simp [isNotification, hS, hN]), List.filterMap_cons_none (notificationOf_other hS hN)]
        exact hrest

end PgClient

/-! ## A login -/

namespace Sample

/-- A backend that trusts everybody, behind a server without TLS. -/
def answeringBackend : List Bytes :=
  [[byte 'N'], auth 0 [] ++ frame (byte 'S') (putCstr "server_version" ++ putCstr "17") ++
    frame (byte 'N') (asBytes "Mhello" ++ [0, 0]) ++ frame (byte 'K') [0, 0, 0, 1, 0, 0, 0, 2] ++ ready]

/-- Alice's StartupMessage is being processed, and her SASL messages come next. -/
def answeredLogin : Session (CredentialStore crypto) :=
  let s := session store (fun _ shared => shared) [saslMessages]
  { s with world := { s.world with link := { s.world.link with chunks := answeringBackend } } }

def aliceReader : MessageReader := .new (writePairs [("user".toList, "alice".toList)] ++ [0])

end Sample

/-! ## The link -/

namespace PgClient

variable (C : Crypto) {config : PgConfig}

theorem startup_tryTls (env : LinkEnv) : Keeps SameStartup (tryTls env config) := by
  refine keeps_ite (keeps_pure _) (keeps_bind (startup_within _ _) fun supported => keeps_ite ?_ ?_)
  · refine keeps_bind (keeps_lift _) fun _ => keeps_bind (keeps_lift _) fun _ => keeps_bind (startup_within _ _) fun _ => ?_
    exact keeps_bind keeps_get fun _ => keeps_bind (keeps_lift _) fun _ => keeps_modify fun _ => ⟨rfl, rfl, rfl⟩
  · exact keeps_ite (keeps_pure _) (keeps_throw _)

/-- What comes before the handshake of a link. -/
def reachHandshake (env : LinkEnv) (config : PgConfig) : Proc PgClient PgError Unit := do
  let _ ← within .connectTimeout Wire.await
  tryTls env config
  writeStartupMessage config

theorem startup_reachHandshake (env : LinkEnv) : Keeps SameStartup (reachHandshake env config) := by
  refine keeps_bind (startup_within _ _) fun _ => keeps_bind (startup_tryTls env) fun _ => ?_
  exact keeps_bind (startup_emit _) fun _ => keeps_bind (startup_within _ _) fun _ => startup_within _ _

/-- A link that is up had its handshake. -/
theorem connect_ok {env : LinkEnv} {c c' : PgClient} {u : Unit} (h : connect C env config c = (.ok u, c')) :
    ∃ client, reachHandshake env config c = (.ok (), client) ∧ handleStartupHandshake C config client = (.ok (), c') := by
  obtain ⟨_, c₁, hawait, h₁⟩ := bind_ok.mp h
  obtain ⟨_, c₂, htls, h₂⟩ := bind_ok.mp h₁
  obtain ⟨_, c₃, hstartup, h₃⟩ := bind_ok.mp h₂
  obtain ⟨r, c₄, htimeout, h₄⟩ := bind_ok.mp h₃
  refine ⟨c₃, ?_, ?_⟩
  · exact bind_ok.mpr ⟨_, _, hawait, bind_ok.mpr ⟨_, _, htls, hstartup⟩⟩
  · unfold timeout at htimeout
    rcases hrun : handleStartupHandshake C config c₃ with ⟨⟨⟩ | e | _ | n, t⟩ <;> rw [hrun] at htimeout <;> cases htimeout
    · cases h₄
      rfl
    · cases h₄
    · cases h₄

end PgClient

namespace Session

variable {C : Crypto} {V : Type}

/-- The link of a session: `client` is at its handshake, and comes out of it as `client'`. -/
structure Linked (C : Crypto) (s : Session V) (config : PgConfig) (client client' : PgClient) : Prop where
  reach : PgClient.reachHandshake s.world.link config (.fresh s.conn.pool s.world.link) = (.ok (), client)
  handshake : PgClient.handleStartupHandshake C config client = (.ok (), client')

theorem Linked.congr {s t : Session V} {config : PgConfig} {client client' : PgClient} (h : Linked C t config client client')
    (hworld : t.world = s.world) (hpool : t.conn.pool = s.conn.pool) : Linked C s config client client' :=
  ⟨hworld ▸ hpool ▸ h.reach, h.handshake⟩

theorem Linked.notifications {s : Session V} {config : PgConfig} {client client' : PgClient}
    (h : Linked C s config client client') : client.startupNotifications = [] :=
  ((PgClient.startup_reachHandshake s.world.link).run h.reach).notifications

/-- The backend of a session is made of the client of a handshake. -/
theorem openLink_ok {config : PgConfig} {backend : Backend} {s s' : Session V}
    (h : openLink C config s = (.ok backend, s')) :
    ∃ client client', Linked C s config client client' ∧ backend = Backend.ofClient config client' := by
  obtain ⟨_, _, hget, h₁⟩ := bind_ok.mp h
  cases hget
  obtain ⟨_, _, hemit, h₂⟩ := bind_ok.mp h₁
  cases hemit
  obtain ⟨_, s₁, hnew, h₃⟩ := bind_ok.mp h₂
  obtain ⟨_, _, hmodify, h₄⟩ := bind_ok.mp h₃
  cases hmodify
  cases h₄
  rw [zoom_apply] at hnew
  obtain ⟨_, client', hconnect, hclient⟩ := bind_ok.mp (eq_of_fst (congrArg Prod.fst hnew))
  obtain ⟨_, _, hget, hpure⟩ := bind_ok.mp hclient
  cases hget
  cases hpure
  obtain ⟨client, hreach, hhandshake⟩ := PgClient.connect_ok C hconnect
  exact ⟨client, _, ⟨hreach, hhandshake⟩, rfl⟩

theorem openLink_world {config : PgConfig} {backend : Backend} {s s' : Session V} (h : openLink C config s = (.ok backend, s')) :
    s'.world = s.world ∧ s'.log = s.log ++ [.connect config] := by
  have hkeeps : Keeps (Extends fun _ => True) (openLink (V := V) C config) := by
    refine keeps_bind keeps_get fun s => keeps_bind (keeps_emit trivial) fun _ => ?_
    exact keeps_bind (fun s => refl_of (Extends fun _ => True) s) fun _ => keeps_bind keeps_interfere fun _ => keeps_pure _
  obtain ⟨es, hlog, rfl⟩ := emits_openLink (V := V) C config s
  rw [h] at hlog
  exact ⟨(hkeeps.run h).1.world, hlog⟩

/-! ## Writing -/

/-- What the session says from its own state stays the same. -/
structure SameLink (s s' : Session V) : Prop where
  backend : s'.conn.backend = s.conn.backend
  key : s'.conn.sessionKeySecret = s.conn.sessionKeySecret

instance : IsPreorder (Session V) SameLink where
  refl _ := ⟨rfl, rfl⟩
  trans _ _ _ h h' := ⟨h'.backend.trans h.backend, h'.key.trans h.key⟩

theorem link_writeMessage (tag : UInt8) (body : Bytes) : Keeps SameLink (writeMessage (V := V) tag body) :=
  keeps_writeMessage_of_blind (fun _ _ => ⟨rfl, rfl⟩) (fun _ _ => ⟨rfl, rfl⟩) tag body

/-- The messages of a part of a run, one after another. -/
structure Wrote (s s' : Session V) (ms : List (UInt8 × Bytes)) : Prop where
  log : s'.log = s.log ++ ms.map fun m => .message m.1 m.2
  link : SameLink s s'

theorem Wrote.trans {s s' s'' : Session V} {ms ms' : List (UInt8 × Bytes)} (h : Wrote s s' ms) (h' : Wrote s' s'' ms') :
    Wrote s s'' (ms ++ ms') :=
  ⟨by rw [h'.log, h.log, List.map_append, List.append_assoc], trans_of SameLink h.link h'.link⟩

theorem writeMessage_wrote {tag : UInt8} {body : Bytes} {s s' : Session V} {u : Unit}
    (h : mapErr ProxyError.internal (writeMessage tag body) s = (.ok u, s')) : Wrote s s' [(tag, body)] := by
  have hrun := mapErr_ok.mp h
  obtain ⟨es, hlog, -, rfl⟩ := emits_writeMessage (V := V) tag body s
  rw [hrun] at hlog
  exact ⟨hlog, (link_writeMessage tag body).run hrun⟩

theorem sendNotifications_wrote {notifications : List StartupNotification} {s s' : Session V} {u : Unit}
    (h : sendNotifications notifications s = (.ok u, s')) : Wrote s s' (notifications.map notificationMessage) := by
  induction notifications generalizing s with
  | nil =>
    cases h
    exact ⟨(List.append_nil _).symm, refl_of SameLink _⟩
  | cons notification rest ih =>
    obtain ⟨_, s₁, hwrite, hrest⟩ := bind_ok.mp h
    exact (writeMessage_wrote hwrite).trans (ih hrest)

theorem registerFresh_minted {rng : Nat → Int32} {backend : Backend} {connId : Int32} {tries drawn drawn' : Nat}
    {r r' : Registry} {key : SessionKeySecret} {guard : SessionGuard}
    (h : Registry.registerFresh rng backend connId tries drawn r = (some (key, guard), drawn', r')) :
    ∃ first, key = (SessionKeySecret.mint rng first).1 := by
  induction tries generalizing drawn r with
  | zero => cases h
  | succ tries ih =>
    unfold Registry.registerFresh at h
    rcases hmint : SessionKeySecret.mint rng drawn with ⟨candidate, next⟩
    rw [hmint] at h
    dsimp only at h
    split at h
    · cases h
      exact ⟨drawn, by rw [hmint]⟩
    · exact ih h

/-- The key of a session that was registered is one the proxy drew. -/
theorem registerBackend_minted {backend : Backend} {s s' : Session V} {u : Unit} (h : registerBackend backend s = (.ok u, s')) :
    s'.log = s.log ∧ s'.conn.backend = some backend ∧
      ∃ secret drawn, s'.conn.sessionKeySecret = some secret ∧ secret = (SessionKeySecret.mint s.world.rng drawn).1 := by
  obtain ⟨_, _, hget, h₁⟩ := bind_ok.mp h
  cases hget
  rcases hfresh : Registry.registerFresh s.world.rng backend s.conn.connId 64 s.drawnWords s.conn.backendRegistry with
    ⟨registered, drawnWords, backendRegistry⟩
  rw [hfresh] at h₁
  obtain ⟨_, s₂, hmodify, h₂⟩ := bind_ok.mp h₁
  cases hmodify
  obtain ⟨⟨secret, guard⟩, s₃, hlift, h₃⟩ := bind_ok.mp h₂
  obtain ⟨hregistered, rfl⟩ := lift_eq_ok.mp hlift
  cases okOr_eq_ok.mp hregistered
  cases h₃
  obtain ⟨drawn, hminted⟩ := registerFresh_minted hfresh
  exact ⟨rfl, rfl, secret, drawn, rfl, hminted⟩

/-- A session that started: the notifications of its backend, its own key, the status. -/
theorem startSession_ok {backend : Backend} {s s' : Session V} {r : StartupOutCome}
    (h : startSession backend s = (.ok r, s')) :
    ∃ secret drawn, secret = (SessionKeySecret.mint s.world.rng drawn).1 ∧ s'.conn.sessionKeySecret = some secret ∧
      s'.log = s.log ++ (backend.startupNotifications.map notificationMessage ++
        [(byte 'K', keyBytes secret), (byte 'Z', [backend.readyStatus])]).map fun m => .message m.1 m.2 := by
  obtain ⟨_, s₁, hregister, h₁⟩ := bind_ok.mp h
  obtain ⟨hlog, hbackend, secret, drawn, hsecret, hminted⟩ := registerBackend_minted hregister
  obtain ⟨_, s₂, hnotifications, h₂⟩ := bind_ok.mp h₁
  obtain ⟨_, s₃, hkey, h₃⟩ := bind_ok.mp h₂
  obtain ⟨_, s₄, hready, h₄⟩ := bind_ok.mp h₃
  cases h₄
  have hwrote₁ : Wrote s₁ s₂ (backend.startupNotifications.map notificationMessage) := by
    unfold sendStartupNotifications at hnotifications
    rw [bind_of_ok (get_apply s₁), hbackend] at hnotifications
    exact sendNotifications_wrote hnotifications
  have hwrote₂ : Wrote s₂ s₃ [(byte 'K', keyBytes secret)] := by
    unfold sendKeySecret at hkey
    rw [bind_of_ok (get_apply s₂), hwrote₁.link.key, hsecret] at hkey
    exact writeMessage_wrote hkey
  have hwrote₃ : Wrote s₃ s' [(byte 'Z', [backend.readyStatus])] := by
    unfold sendReadySignal at hready
    rw [bind_of_ok (get_apply s₃), hwrote₂.link.backend, hwrote₁.link.backend, hbackend] at hready
    exact writeMessage_wrote hready
  have hwrote := hwrote₁.trans (hwrote₂.trans hwrote₃)
  refine ⟨secret, drawn, hminted, hwrote.link.key.trans hsecret, ?_⟩
  rw [hwrote.log, hlog]
  rfl

/-! ## The whole of a StartupMessage -/

/-- What the client is told when the backend said `said` to its handshake: a message for
    each setting and notice, one key that the proxy drew, the status. -/
def Replayed (s s' : Session V) (said told : List (UInt8 × Bytes)) : Prop :=
  ∃ ms status rest replay secret drawn, said = ms ++ [(byte 'Z', status :: rest)] ∧
    List.Forall₂ PgClient.Replays (ms.filter PgClient.isNotification) replay ∧
    s'.conn.sessionKeySecret = some secret ∧ secret = (SessionKeySecret.mint s.world.rng drawn).1 ∧
    told = replay ++ [(byte 'K', keyBytes secret), (byte 'Z', [status])]

omit C in
theorem Replayed.congr {s t s' : Session V} {said told : List (UInt8 × Bytes)} (h : Replayed t s' said told)
    (hworld : t.world = s.world) : Replayed s s' said told := by
  obtain ⟨ms, status, rest, replay, secret, drawn, hsaid, hreplay, hsecret, hminted, htold⟩ := h
  exact ⟨ms, status, rest, replay, secret, drawn, hsaid, hreplay, hsecret, hworld ▸ hminted, htold⟩

theorem linkBackend_ok {clientKey : Bytes} {user database : Str} {answer : Except ProviderError (Option Verifier)}
    {s s' : Session V} {r : StartupOutCome} (h : linkBackend C clientKey user database answer s = (.ok r, s')) :
    ∃ config client client' told, Linked C s config client client' ∧
      Replayed s s' (PgClient.messages client.wire.input) told ∧
      s'.log = s.log ++ .connect config :: told.map fun m => .message m.1 m.2 := by
  obtain ⟨v, s₁, hlift, h₁⟩ := bind_ok.mp h
  obtain ⟨-, hs₁⟩ := lift_eq_ok.mp hlift
  subst hs₁
  obtain ⟨_, _, hget, h₂⟩ := bind_ok.mp h₁
  cases hget
  obtain ⟨⟨host, port⟩, s₂, hlift', h₃⟩ := bind_ok.mp h₂
  obtain ⟨-, hs₂⟩ := lift_eq_ok.mp hlift'
  subst hs₂
  obtain ⟨backend, s₃, hopen, hstart⟩ := bind_ok.mp h₃
  have hrun := mapErr_ok.mp hopen
  obtain ⟨client, client', hlinked, rfl⟩ := openLink_ok hrun
  obtain ⟨ms, status, rest, hmessages, hcollects, hstatus⟩ := PgClient.handshake_collects C hlinked.handshake
  obtain ⟨secret, drawn, hminted, hsecret, hlog⟩ := startSession_ok hstart
  obtain ⟨hworld, hopened⟩ := openLink_world hrun
  refine ⟨_, client, client', _, hlinked, ⟨ms, status, rest, _, secret, drawn, hmessages,
    PgClient.replays_notifications hcollects.parses, hsecret, hworld ▸ hminted, rfl⟩, ?_⟩
  rw [hlog, hopened, List.append_assoc]
  simp only [Backend.ofClient, hcollects.notifications, hlinked.notifications, hstatus]
  rfl

theorem rendered_messages (ms : List (UInt8 × Bytes)) :
    rendered (ms.map fun m => .message m.1 m.2) = PgClient.transcript ms := by
  rw [rendered, List.flatMap_map]
  rfl

section Provider

variable [VerifierProvider V]

theorem openBackend_ok {clientKey : Bytes} {s s' : Session V} {r : StartupOutCome}
    (h : openBackend C clientKey s = (.ok r, s')) :
    ∃ user answer config client client' told, Linked C s config client client' ∧
      Replayed s s' (PgClient.messages client.wire.input) told ∧
      s'.log = s.log ++ .lookup user answer :: .connect config :: told.map fun m => .message m.1 m.2 := by
  obtain ⟨_, _, hget, h₁⟩ := bind_ok.mp h
  cases hget
  obtain ⟨user, s₁, hlift, h₂⟩ := bind_ok.mp h₁
  obtain ⟨-, hs₁⟩ := lift_eq_ok.mp hlift
  subst hs₁
  obtain ⟨database, s₂, hlift', h₃⟩ := bind_ok.mp h₂
  obtain ⟨-, hs₂⟩ := lift_eq_ok.mp hlift'
  subst hs₂
  obtain ⟨answer, s₃, hlookup, hlink⟩ := bind_ok.mp h₃
  have hkeeps : Keeps (Extends fun _ => True) (lookup (V := V) (ε := ProxyError) user) := keeps_lookup fun _ => trivial
  have hsteady := (hkeeps.run hlookup).1
  obtain ⟨config, client, client', told, hlinked, hreplayed, hlog⟩ := linkBackend_ok hlink
  refine ⟨user, answer, config, client, client', told, hlinked.congr hsteady.world hsteady.pool,
    hreplayed.congr hsteady.world, ?_⟩
  obtain ⟨es, hes, hanswer⟩ := emits_lookup (ε := ProxyError) user s₂
  rw [hlookup] at hes hanswer
  rcases hanswer with ⟨answer', ho, rfl⟩ | ⟨hno, -⟩
  · cases ho
    rw [hlog, hes, List.append_assoc]
    rfl
  · exact absurd rfl (hno answer)

/-- The session of a StartupMessage that ended ready opened its backend right behind the
    AuthenticationOk. -/
theorem startup_opens {version : UInt32} {message : MessageReader} {s s' : Session V}
    (h : handleStartupPacket C version message s = (.ok .ready, s')) :
    ∃ front clientKey t, (∀ e ∈ front, ¬ IsAuthOk e) ∧ t.world = s.world ∧ t.conn.pool = s.conn.pool ∧
      t.log = s.log ++ (front ++ [authEvent authSaslOk []]) ∧ openBackend C clientKey t = (.ok .ready, s') := by
  obtain ⟨_, _, hget, h₁⟩ := bind_ok.mp h
  cases hget
  obtain ⟨_, _, hemit, h₂⟩ := bind_ok.mp h₁
  cases hemit
  obtain ⟨_, _, hmodify, h₃⟩ := bind_ok.mp h₂
  cases hmodify
  obtain ⟨_, s₁, hparams, h₄⟩ := bind_ok.mp h₃
  obtain ⟨identity, -, rfl⟩ := applyStartupParams_ok hparams
  obtain ⟨clientKey, s₂, hauth, h₅⟩ := bind_ok.mp h₄
  have hsteady := ((keeps_handleAuthentication C).run hauth).1
  cases clientKey with
  | none => cases h₅
  | some key =>
    obtain ⟨es, hes, hexchange⟩ := handleAuthentication_log (V := V) C (identify _ identity)
    rw [hauth] at hes hexchange
    obtain ⟨user, v, exchange, tail, -, rfl, hauthLog, -, hkey⟩ := hexchange (Or.inr ⟨key, rfl⟩)
    obtain ⟨rfl, -⟩ := hkey key rfl
    obtain ⟨front, rfl, hfront⟩ := hauthLog.cut
    refine ⟨.startup s.conn.wire.reader.inner.transport s.conn.wire.writer.inner :: .lookup user (.ok (some v)) :: front,
      key, s₂, ?_, hsteady.world, hsteady.pool, ?_, h₅⟩
    · simp only [List.forall_mem_cons]
      refine ⟨?_, ?_, hfront⟩
      · intro h
        obtain ⟨_, h⟩ := h
        cases h
      · intro h
        obtain ⟨_, h⟩ := h
        cases h
    · rw [hes]
      simp [identify]

/-- What a StartupMessage that ended ready tells its client behind the AuthenticationOk, on
    the log of the session and as bytes. -/
theorem replays_startup {version : UInt32} {message : MessageReader} {s s' : Session V}
    (h : handleStartupPacket C version message s = (.ok .ready, s')) :
    ∃ front user answer config client client' told, Linked C s config client client' ∧
      Replayed s s' (PgClient.messages client.wire.input) told ∧ (∀ e ∈ front, ¬ IsAuthOk e) ∧
      s'.log = s.log ++ (front ++ authEvent authSaslOk [] :: .lookup user answer :: .connect config ::
        told.map fun m => .message m.1 m.2) ∧
      (s.conn.wire.writer.buf = [] → s'.conn.wire.output = s.conn.wire.output ++
        (rendered front ++ frame (byte 'R') (beBytes authSaslOk) ++ PgClient.transcript told)) := by
  obtain ⟨front, clientKey, t, hfront, hworld, hpool, ht, hopen⟩ := startup_opens h
  obtain ⟨user, answer, config, client, client', told, hlinked, hreplayed, hlog⟩ := openBackend_ok hopen
  have hlog' : s'.log = s.log ++ (front ++ authEvent authSaslOk [] :: .lookup user answer :: .connect config ::
      told.map fun m => .message m.1 m.2) := by
    rw [hlog, ht]
    simp
  refine ⟨front, user, answer, config, client, client', told, hlinked.congr hworld hpool, hreplayed.congr hworld, hfront,
    hlog', ?_⟩
  intro hbuf
  obtain ⟨es, hes, hsays⟩ := speaks_handleStartupPacket C version message s
  rw [h] at hes hsays
  obtain ⟨stage, -, -, hok, -⟩ := hsays (.hello s.conn.sslDone s.conn.gssDone) rfl hbuf
  obtain ⟨hflushed, -⟩ := hok _ rfl
  have hsame := List.append_cancel_left (hes.symm.trans hlog')
  rw [hflushed.output, hsame, rendered_append, List.append_assoc (rendered front), ← rendered_messages]
  rfl

theorem replays_startup_login :
    ∃ front user answer config client client' told, Linked Sample.crypto Sample.answeredLogin config client client' ∧
      Replayed Sample.answeredLogin
        (handleStartupPacket Sample.crypto PgClient.protocolVersionNumber Sample.aliceReader Sample.answeredLogin).2
        (PgClient.messages client.wire.input) told ∧ (∀ e ∈ front, ¬ IsAuthOk e) ∧
      (handleStartupPacket Sample.crypto PgClient.protocolVersionNumber Sample.aliceReader Sample.answeredLogin).2.log =
        Sample.answeredLogin.log ++ (front ++ authEvent authSaslOk [] :: .lookup user answer :: .connect config ::
          told.map fun m => .message m.1 m.2) ∧
      (Sample.answeredLogin.conn.wire.writer.buf = [] →
        (handleStartupPacket Sample.crypto PgClient.protocolVersionNumber Sample.aliceReader
          Sample.answeredLogin).2.conn.wire.output = Sample.answeredLogin.conn.wire.output ++
            (rendered front ++ frame (byte 'R') (beBytes authSaslOk) ++ PgClient.transcript told)) :=
  replays_startup (eq_of_fst (by decide +kernel))

end Provider

end Session

end Wirechaos
