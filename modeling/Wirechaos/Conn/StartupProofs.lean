/-
  Wirechaos.Conn.StartupProofs — what a run of the startup phase logs
  (see `Wirechaos.Conn.Startup`).

  Each function has one lemma that says what it may log and, where it returned, what it
  changed. They end in `handleStartup_log`: one packet is an answered encryption request,
  the end of the phase, or a StartupMessage with all it has the proxy do (`Step`).
-/

import Wirechaos.Conn.AuthProofs
import Wirechaos.Wire.StartupConfigProofs

namespace Wirechaos

open Text Async Proc

namespace Session

variable (C : Crypto) {V : Type} {p : Event → Prop}

/-! ## Updates that log nothing -/

def SameLog (s s' : Session V) : Prop := s'.log = s.log

instance : IsPreorder (Session V) SameLog where
  refl _ := rfl
  trans _ _ _ h h' := Eq.trans h' h

theorem SameLog.of_silent {ε α : Type} {x : Proc (Session V) ε α} (h : Keeps (Extends fun _ => False) x) :
    Keeps SameLog x := fun s => Silent.log (h s)

theorem emits_sameLog {ε α : Type} {x : Proc (Session V) ε α} (hx : Keeps SameLog x) :
    Emits log x fun _ _ es _ => es = [] := fun s => ⟨[], by rw [List.append_nil]; exact hx s, rfl⟩

/-- A run that logs nothing, and what is known of it when it returned. -/
theorem emits_quiet {ε α : Type} {x : Proc (Session V) ε α} {P : Session V → α → Session V → Prop}
    (hx : Keeps SameLog x) (hok : ∀ s a s', x s = (.ok a, s') → P s a s') :
    Emits log x fun s o es s' => es = [] ∧ ∀ a, o = .ok a → P s a s' :=
  fun s => ⟨[], by rw [List.append_nil]; exact hx s, rfl, fun a ha => hok s a _ (eq_of_fst ha)⟩

/-! ## Encryption requests -/

/-- The code a startup packet begins with. -/
def packetCode (body : Bytes) : Option UInt32 := (MessageReader.new body).readU32.1.toOption

/-- What an answered encryption request changes. -/
inductive Encrypted : UInt32 → Session V → Session V → Prop
  | ssl {s s' : Session V} : Settled s s' → s.conn.sslDone = false → s'.conn.sslDone = true →
      s'.conn.gssDone = s.conn.gssDone →
      (s.conn.frontendTls.isSome = true →
        s'.conn.wire.reader.inner.transport = .tls ∧ s'.conn.wire.writer.inner = .tls) →
      (s.conn.frontendTls = none → s'.conn.wire.reader.inner.transport = s.conn.wire.reader.inner.transport ∧
        s'.conn.wire.writer.inner = s.conn.wire.writer.inner) → Encrypted sslRequestCode s s'
  | gss {s s' : Session V} : Settled s s' → s.conn.gssDone = false → s'.conn.gssDone = true →
      s'.conn.sslDone = s.conn.sslDone →
      s'.conn.wire.reader.inner.transport = s.conn.wire.reader.inner.transport →
      s'.conn.wire.writer.inner = s.conn.wire.writer.inner → Encrypted gssencRequestCode s s'

theorem emits_writeReply (answer : UInt8) :
    Emits log (writeReply (V := V) answer) fun s _ es s' => Steady s s' ∧ es = [.reply answer] := by
  refine (emits_bind (emits_emit _) fun _ => emits_silent (keeps_mapErr (keeps_bind
    (keeps_io (Wire.keeps_writeAll [answer])) fun _ => keeps_io Wire.keeps_flush))).mono fun s o es s' h => ?_
  rcases h with ⟨_, s₁, e₁, e₂, ⟨-, rfl, hs⟩, ⟨hs', rfl⟩, rfl⟩ | ⟨e, ⟨h, -⟩, -⟩ | ⟨n, ⟨h, -⟩, -⟩
  · exact ⟨trans_of Steady hs hs', rfl⟩
  · cases h
  · cases h

theorem keeps_promoteToTls : Keeps SameLog (promoteToTls (V := V)) := by
  refine keeps_bind keeps_get fun s => keeps_bind (keeps_modify fun _ => rfl) fun _ => ?_
  refine keeps_bind (keeps_lift _) fun _ => keeps_bind (keeps_lift _) fun _ => keeps_bind (keeps_lift _) fun _ => ?_
  refine keeps_bind (.of_silent (keeps_mapErr (keeps_io Wire.keeps_await))) fun _ => keeps_bind (keeps_lift _) fun _ => ?_
  exact keeps_modify fun _ => rfl

theorem promoteToTls_ok {s s' : Session V} {u : Unit} (h : promoteToTls s = (.ok u, s')) :
    Settled s s' ∧ s'.conn.sslDone = s.conn.sslDone ∧ s'.conn.gssDone = s.conn.gssDone ∧
      s'.conn.wire.reader.inner.transport = .tls ∧ s'.conn.wire.writer.inner = .tls := by
  obtain ⟨_, s₁, h₁, g₁⟩ := bind_ok.mp h
  cases h₁
  obtain ⟨_, s₂, h₂, g₂⟩ := bind_ok.mp g₁
  obtain ⟨_, s₃, h₃, g₃⟩ := bind_ok.mp g₂
  obtain ⟨_, s₄, h₄, g₄⟩ := bind_ok.mp g₃
  obtain ⟨_, s₅, h₅, g₅⟩ := bind_ok.mp g₄
  obtain ⟨_, s₆, h₆, g₆⟩ := bind_ok.mp g₅
  obtain ⟨_, s₇, h₇, g₇⟩ := bind_ok.mp g₆
  cases h₂
  obtain ⟨-, rfl⟩ := lift_eq_ok.mp h₃
  obtain ⟨-, rfl⟩ := lift_eq_ok.mp h₄
  obtain ⟨-, rfl⟩ := lift_eq_ok.mp h₅
  obtain ⟨-, rfl⟩ := lift_eq_ok.mp h₇
  cases g₇
  have hs := ((keeps_io Wire.keeps_await : Keeps Silent _).run (mapErr_ok.mp h₆)).1
  exact ⟨⟨hs.world, hs.config, hs.pool, hs.requiredTls, hs.frontendTls, hs.params, hs.user, hs.database,
    hs.replicationMode⟩, hs.sslDone, hs.gssDone, rfl, rfl⟩

/-- An answer to an encryption request, and nothing else. -/
def IsReply (e : Event) : Prop := ∃ answer, e = .reply answer

/-- The flags are not among the settings. -/
theorem Settled.of_flags {s s' : Session V} {ssl gss : Bool}
    (h : Settled { s with conn := { s.conn with sslDone := ssl, gssDone := gss } } s') : Settled s s' :=
  ⟨h.world, h.config, h.pool, h.requiredTls, h.frontendTls, h.params, h.user, h.database, h.replicationMode⟩

theorem handleSslRequest_log :
    Emits log (handleSslRequest (V := V)) fun s o es s' =>
      (∀ e ∈ es, IsReply e) ∧ ∀ u, o = .ok u → (∃ answer, es = [.reply answer]) ∧ Encrypted sslRequestCode s s' := by
  refine Emits.mono (emits_bind emits_get fun s => emits_bind (emits_lift _) fun _ => emits_bind
    (emits_modify fun _ => rfl) fun _ => emits_ite (emits_bind (emits_writeReply _) fun _ =>
      emits_quiet keeps_promoteToTls fun _ _ _ => promoteToTls_ok) (emits_writeReply _)) fun s o es s' h => ?_
  have none {es : List Event} (hes : es = []) : ∀ e ∈ es, IsReply e := by simp [hes]
  have one {es : List Event} {answer : UInt8} (hes : es = [.reply answer]) : ∀ e ∈ es, IsReply e := by simp [hes, IsReply]
  refine ⟨h.all (fun _ _ _ hp => none hp.2.1) fun _ _ _ h => h.all (fun _ _ _ hp => none hp.2.1) fun _ _ _ h =>
    h.all (fun _ _ _ hp => none hp.2.1) fun _ _ _ h => ?_, fun u ho => ?_⟩
  · rcases h with ⟨-, h⟩ | ⟨-, -, h⟩
    · exact h.all (fun _ _ _ hp => one hp.2) fun _ _ _ hp => none hp.1
    · exact one h
  · subst ho
    obtain ⟨_, _, e₁, r₁, ⟨ho₁, rfl, rfl⟩, h₁, rfl⟩ := h.ok
    cases ho₁
    obtain ⟨_, _, e₂, r₂, ⟨ho₂, rfl, rfl⟩, h₂, rfl⟩ := h₁.ok
    have hssl := require_eq_ok.mp (lift_ok_or ho₂ rfl)
    obtain ⟨_, _, e₃, r₃, ⟨-, rfl, rfl⟩, h₃, rfl⟩ := h₂.ok
    rcases h₃ with ⟨hsome, h₃⟩ | ⟨hnone, hs, rfl⟩
    · obtain ⟨_, _, e₄, r₄, ⟨hs, rfl⟩, ⟨rfl, hpromoted⟩, rfl⟩ := h₃.ok
      obtain ⟨hset, hsslDone, hgssDone, hreader, hwriter⟩ := hpromoted _ rfl
      refine ⟨⟨_, rfl⟩, .ssl (.of_flags (trans_of Settled hs.toSettled hset)) hssl (by rw [hsslDone, hs.sslDone])
        (by rw [hgssDone, hs.gssDone]) (fun _ => ⟨hreader, hwriter⟩) fun hnone => ?_⟩
      rw [hnone] at hsome
      cases hsome
    · exact ⟨⟨_, rfl⟩, .ssl (.of_flags hs.toSettled) hssl hs.sslDone hs.gssDone (fun hsome => absurd hsome hnone)
        fun _ => ⟨hs.reader, hs.writer⟩⟩

theorem handleGssncRequest_log :
    Emits log (handleGssncRequest (V := V)) fun s o es s' =>
      (∀ e ∈ es, IsReply e) ∧ ∀ u, o = .ok u → (∃ answer, es = [.reply answer]) ∧ Encrypted gssencRequestCode s s' := by
  refine Emits.mono (emits_bind emits_get fun s => emits_bind (emits_lift _) fun _ => emits_bind
    (emits_modify fun _ => rfl) fun _ => emits_writeReply _) fun s o es s' h => ?_
  have none {es : List Event} (hes : es = []) : ∀ e ∈ es, IsReply e := by simp [hes]
  refine ⟨h.all (fun _ _ _ hp => none hp.2.1) fun _ _ _ h => h.all (fun _ _ _ hp => none hp.2.1) fun _ _ _ h =>
    h.all (fun _ _ _ hp => none hp.2.1) fun _ _ _ hp => by simp [hp.2, IsReply], fun u ho => ?_⟩
  subst ho
  obtain ⟨_, _, e₁, r₁, ⟨ho₁, rfl, rfl⟩, h₁, rfl⟩ := h.ok
  cases ho₁
  obtain ⟨_, _, e₂, r₂, ⟨ho₂, rfl, rfl⟩, h₂, rfl⟩ := h₁.ok
  obtain ⟨_, _, e₃, r₃, ⟨-, rfl, rfl⟩, ⟨hs, rfl⟩, rfl⟩ := h₂.ok
  exact ⟨⟨_, rfl⟩, .gss (.of_flags hs.toSettled) (require_eq_ok.mp (lift_ok_or ho₂ rfl))
      hs.gssDone hs.sslDone hs.reader hs.writer⟩

/-! ## The parameters -/

/-- What a StartupMessage says about its session. -/
structure Identity where
  params : Params
  user : Str
  database : Str
  replicationMode : ReplicationMode

/-- The pure part of `applyStartupParams`. -/
def readIdentity (message : MessageReader) (params : Params) (mode : ReplicationMode) : Except ProxyError Identity := do
  let (sawTerminator, message, params) := readParams message params
  let sawTerminator ← sawTerminator
  require (sawTerminator = true ∧ message.remaining = 0) (connectionError .invalidStartupLayout)
  let params ← mergeOptions params
  let user ← startupUser params
  let replicationMode ← startupReplication params mode
  return { params, user, database := startupDatabase params user, replicationMode }

/-- The session of an identity. -/
def identify (s : Session V) (identity : Identity) : Session V :=
  { s with conn := { s.conn with
    params := identity.params, user := some identity.user, database := some identity.database
    replicationMode := identity.replicationMode } }

theorem readIdentity_ok {message : MessageReader} {params : Params} {mode : ReplicationMode} {identity : Identity} :
    readIdentity message params mode = .ok identity ↔
      ∃ m given, readParams message params = (.ok true, m, given) ∧ m.remaining = 0 ∧
        mergeOptions given = .ok identity.params ∧ startupUser identity.params = .ok identity.user ∧
        startupReplication identity.params mode = .ok identity.replicationMode ∧
        identity.database = startupDatabase identity.params identity.user := by
  unfold readIdentity
  rcases readParams message params with ⟨saw, m, given⟩
  simp only [except_bind_eq_ok, require_eq_ok, except_pure_eq_ok]
  constructor
  · intro h
    obtain ⟨saw, rfl, -, ⟨rfl, hrem⟩, merged, hmerged, user, huser, replicationMode, hmode, rfl⟩ := h
    exact ⟨m, given, rfl, hrem, hmerged, huser, hmode, rfl⟩
  · intro h
    obtain ⟨m', given', he, hrem, hmerged, huser, hmode, hdatabase⟩ := h
    cases he
    exact ⟨true, rfl, (), ⟨rfl, hrem⟩, _, hmerged, _, huser, _, hmode, by rw [← hdatabase]⟩

theorem keeps_applyStartupParams (message : MessageReader) : Keeps SameLog (applyStartupParams (V := V) message) := by
  refine keeps_bind keeps_get fun s => ?_
  refine keeps_bind (keeps_modify fun _ => rfl) fun _ => keeps_bind (keeps_lift _) fun _ => keeps_bind (keeps_lift _) fun _ => ?_
  refine keeps_bind (keeps_lift _) fun _ => keeps_bind (keeps_modify fun _ => rfl) fun _ => keeps_bind (keeps_lift _) fun _ => ?_
  refine keeps_bind (keeps_modify fun _ => rfl) fun _ => keeps_bind (keeps_lift _) fun _ => ?_
  exact keeps_modify fun _ => rfl

theorem applyStartupParams_ok {message : MessageReader} {s s' : Session V} {u : Unit}
    (h : applyStartupParams message s = (.ok u, s')) :
    ∃ identity, readIdentity message s.conn.params s.conn.replicationMode = .ok identity ∧ s' = s.identify identity := by
  obtain ⟨_, s₁, h₁, g₁⟩ := bind_ok.mp h
  cases h₁
  rcases hread : readParams message s.conn.params with ⟨saw, m, given⟩
  simp only [hread] at g₁
  obtain ⟨_, s₂, h₂, g₂⟩ := bind_ok.mp g₁
  obtain ⟨saw', s₃, h₃, g₃⟩ := bind_ok.mp g₂
  obtain ⟨_, s₄, h₄, g₄⟩ := bind_ok.mp g₃
  obtain ⟨params, s₅, h₅, g₅⟩ := bind_ok.mp g₄
  obtain ⟨_, s₆, h₆, g₆⟩ := bind_ok.mp g₅
  obtain ⟨user, s₇, h₇, g₇⟩ := bind_ok.mp g₆
  obtain ⟨_, s₈, h₈, g₈⟩ := bind_ok.mp g₇
  obtain ⟨mode, s₉, h₉, g₉⟩ := bind_ok.mp g₈
  cases h₂
  obtain ⟨rfl, rfl⟩ := lift_eq_ok.mp h₃
  obtain ⟨hrequire, rfl⟩ := lift_eq_ok.mp h₄
  obtain ⟨hmerged, rfl⟩ := lift_eq_ok.mp h₅
  cases h₆
  obtain ⟨huser, rfl⟩ := lift_eq_ok.mp h₇
  cases h₈
  obtain ⟨hmode, rfl⟩ := lift_eq_ok.mp h₉
  cases g₉
  obtain ⟨rfl, hrem⟩ := require_eq_ok.mp hrequire
  exact ⟨⟨params, user, startupDatabase params user, mode⟩,
    readIdentity_ok.mpr ⟨m, given, hread, hrem, hmerged, huser, hmode, rfl⟩, rfl⟩

/-! ## The link to the backend -/

/-- The settings decide the configuration of the link. -/
theorem pgConfig_of_settled {s s' : Session V} (h : Settled s s') (clientKey : Bytes) (user database : Str)
    (verifier : Verifier) (host : Str) (port : Nat) :
    pgConfig s' clientKey user database verifier host port = pgConfig s clientKey user database verifier host port := by
  simp only [pgConfig, h.config, h.world, h.params]

theorem emits_openLink (config : PgConfig) :
    Emits log (openLink (V := V) C config) fun _ _ es _ => es = [.connect config] := by
  refine Emits.mono (emits_bind emits_get fun s => emits_bind (emits_emit _) fun _ => emits_silent
    (keeps_bind (fun s => refl_of Silent s) fun _ => keeps_bind keeps_interfere fun _ => keeps_pure _)) fun s o es s' h => ?_
  rcases h with ⟨_, _, e₁, r₁, ⟨-, rfl, -⟩, h₁, rfl⟩ | ⟨_, ⟨h, -⟩, -⟩ | ⟨_, ⟨h, -⟩, -⟩
  · rcases h₁ with ⟨_, _, e₂, r₂, ⟨-, rfl, -⟩, ⟨-, rfl⟩, rfl⟩ | ⟨_, ⟨h, -⟩, -⟩ | ⟨_, ⟨h, -⟩, -⟩
    · rfl
    · cases h
    · cases h
  · cases h
  · cases h

theorem keeps_sendNotifications (notifications : List StartupNotification) :
    Keeps (Extends IsPlainMessage) (sendNotifications (V := V) notifications) := by
  induction notifications with
  | nil => exact keeps_pure _
  | cons notification rest ih =>
    refine keeps_bind (keeps_mapErr (keeps_writeMessage ⟨_, _, rfl, ?_⟩)) fun _ => ih
    cases notification with
    | parameterStatus name value => exact (by decide : byte 'S' ≠ byte 'R')
    | notice body => exact (by decide : byte 'N' ≠ byte 'R')

theorem keeps_registerBackend (backend : Backend) : Keeps (Extends p) (registerBackend (V := V) backend) := by
  refine keeps_bind keeps_get fun s => ?_
  refine keeps_bind (keeps_update (fun _ => ?_) fun _ => rfl) fun _ => keeps_bind (keeps_lift _) fun _ =>
    keeps_update (fun _ => ?_) fun _ => rfl
  · exact ⟨⟨rfl, rfl, rfl, rfl, rfl, rfl, rfl, rfl, rfl⟩, rfl, rfl, rfl, rfl⟩
  · exact ⟨⟨rfl, rfl, rfl, rfl, rfl, rfl, rfl, rfl, rfl⟩, rfl, rfl, rfl, rfl⟩

theorem keeps_startSession (backend : Backend) : Keeps (Extends IsPlainMessage) (startSession (V := V) backend) := by
  refine keeps_bind (keeps_registerBackend backend) fun _ => ?_
  refine keeps_bind (keeps_bind keeps_get fun s => keeps_bind (keeps_lift _) fun _ => keeps_sendNotifications _) fun _ => ?_
  refine keeps_bind (keeps_bind keeps_get fun s => keeps_bind (keeps_lift _) fun _ => keeps_mapErr (keeps_writeMessage
    ⟨_, _, rfl, by decide⟩)) fun _ => ?_
  exact keeps_bind (keeps_bind keeps_get fun s => keeps_mapErr (keeps_writeMessage ⟨_, _, rfl, by decide⟩)) fun _ =>
    keeps_pure _

theorem returns_linkBackend (clientKey : Bytes) (user database : Str) (answer : Except ProviderError (Option Verifier)) :
    Returns (· = .ready) (linkBackend (V := V) C clientKey user database answer) :=
  returns_bind fun _ => returns_bind fun _ => returns_bind fun _ => returns_bind fun _ => returns_bind fun _ =>
    returns_bind fun _ => returns_bind fun _ => returns_bind fun _ => returns_pure rfl

/-- The link is opened when the second lookup found an entry and there is a backend. -/
def LinkLog (s : Session V) (clientKey : Bytes) (user database : Str) (answer : Except ProviderError (Option Verifier))
    (es : List Event) : Prop :=
  (es = [] ∧ ∀ v host port, answer = .ok (some v) → s.conn.config.backendHostPort ≠ .ok (host, port)) ∨
    ∃ v host port tail, answer = .ok (some v) ∧ s.conn.config.backendHostPort = .ok (host, port) ∧
      es = .connect (pgConfig s clientKey user database v host port) :: tail ∧ ∀ e ∈ tail, IsPlainMessage e

theorem LinkLog.of_settled {s s' : Session V} {clientKey : Bytes} {user database : Str}
    {answer : Except ProviderError (Option Verifier)} {es : List Event} (h : LinkLog s' clientKey user database answer es)
    (hs : Settled s s') : LinkLog s clientKey user database answer es := by
  unfold LinkLog at h
  simp only [pgConfig_of_settled hs, hs.config] at h
  exact h

theorem linkBackend_log (clientKey : Bytes) (user database : Str) (answer : Except ProviderError (Option Verifier)) :
    Emits log (linkBackend (V := V) C clientKey user database answer) fun s _ es _ =>
      LinkLog s clientKey user database answer es := by
  intro s
  unfold linkBackend
  rcases answer with e | _ | v
  · exact ⟨[], (List.append_nil _).symm, Or.inl ⟨rfl, by simp⟩⟩
  · exact ⟨[], (List.append_nil _).symm, Or.inl ⟨rfl, by simp⟩⟩
  · rw [bind_of_ok (show lift (linkVerifier (.ok (some v))) s = (.ok v, s) from rfl), bind_of_ok (get_apply s)]
    rcases hhost : s.conn.config.backendHostPort with e | ⟨host, port⟩
    · exact ⟨[], (List.append_nil _).symm, Or.inl ⟨rfl, by simp [hhost]⟩⟩
    · obtain ⟨es, hlog, h⟩ := emits_bind (emits_mapErr (f := ProxyError.ofPg) (emits_openLink C
        (pgConfig s clientKey user database v host port))) (fun backend => emits_of_keeps (keeps_startSession backend)) s
      refine ⟨es, hlog, Or.inr ⟨v, host, port, ?_⟩⟩
      rcases h with ⟨_, _, e₁, e₂, ⟨_, rfl, -⟩, ⟨-, htail⟩, rfl⟩ | ⟨_, ⟨_, rfl, -⟩, -⟩ | ⟨_, ⟨_, rfl, -⟩, -⟩
      · exact ⟨e₂, rfl, hhost, rfl, htail⟩
      · exact ⟨[], rfl, hhost, rfl, by simp⟩
      · exact ⟨[], rfl, hhost, rfl, by simp⟩

section Provider

variable [VerifierProvider V]

theorem returns_openBackend (clientKey : Bytes) : Returns (· = .ready) (openBackend (V := V) C clientKey) :=
  returns_bind fun _ => returns_bind fun _ => returns_bind fun _ => returns_bind fun _ => returns_linkBackend C _ _ _ _

/-- The second lookup and the link. -/
theorem openBackend_log (clientKey : Bytes) :
    Emits log (openBackend (V := V) C clientKey) fun s _ es _ =>
      es = [] ∨ ∃ user database answer link, s.conn.user = some user ∧ s.conn.database = some database ∧
        es = .lookup user answer :: link ∧ LinkLog s clientKey user database answer link := by
  refine Emits.mono (emits_bind emits_get fun s => emits_bind (emits_lift _) fun user => emits_bind (emits_lift _) fun database =>
    emits_bind ((emits_lookup user).and
      (emits_of_keeps (keeps_lookup fun _ => trivial : Keeps (Extends fun _ => True) _))) fun answer =>
    linkBackend_log C clientKey user database answer) fun s o es s' h => ?_
  by_cases hes : es = []
  · exact Or.inl hes
  obtain ⟨e, he⟩ := List.exists_mem_of_ne_nil es hes
  have none {es : List Event} (hes : es = []) : ∀ e ∈ es, ¬ True := by simp [hes]
  obtain ⟨_, _, e₁, r₁, ⟨ho₁, rfl, rfl⟩, h₁, rfl, hm₁⟩ := h.reached (fun _ _ _ hp => none hp.2.1) (Or.inl ⟨e, he, trivial⟩)
  cases ho₁
  obtain ⟨user, _, e₂, r₂, ⟨ho₂, rfl, rfl⟩, h₂, rfl, hm₂⟩ := h₁.reached (fun _ _ _ hp => none hp.2.1) hm₁
  obtain ⟨database, _, e₃, r₃, ⟨ho₃, rfl, rfl⟩, h₃, rfl, hm₃⟩ := h₂.reached (fun _ _ _ hp => none hp.2.1) hm₂
  have huser := okOr_eq_ok.mp (lift_ok_or ho₂ rfl)
  have hdatabase := okOr_eq_ok.mp (lift_ok_or ho₃ rfl)
  have noAnswer {es : List Event} {o : Outcome ProxyError (Except ProviderError (Option Verifier))}
      (h : (∃ answer, o = .ok answer ∧ es = [.lookup user answer]) ∨ (∀ answer, o ≠ .ok answer) ∧ es = [])
      (ho : ∀ answer, o ≠ .ok answer) : es = [] := by
    rcases h with ⟨answer, h, -⟩ | ⟨-, h⟩
    · exact absurd h (ho answer)
    · exact h
  rcases h₃ with ⟨answer, s₁, e₄, r₄, ⟨hlookup, hs, -⟩, hlink, rfl⟩ | ⟨_, ⟨hlookup, -⟩, rfl⟩ | ⟨_, ⟨hlookup, -⟩, rfl⟩
  · rcases hlookup with ⟨_, ho, rfl⟩ | ⟨ho, -⟩
    · cases ho
      exact Or.inr ⟨user, database, answer, r₄, huser, hdatabase, rfl, hlink.of_settled hs.toSettled⟩
    · exact absurd rfl (ho answer)
  · exact absurd (noAnswer hlookup (by simp)) hes
  · exact absurd (noAnswer hlookup (by simp)) hes

theorem proceed_log (clientKey : Option Bytes) :
    Emits log (proceed (V := V) C clientKey) fun s _ es _ =>
      es = [] ∨ ∃ key user database answer link, clientKey = some key ∧ s.conn.user = some user ∧
        s.conn.database = some database ∧ es = .lookup user answer :: link ∧ LinkLog s key user database answer link := by
  cases clientKey with
  | none => exact (emits_pure _).mono fun s o es s' h => Or.inl h.2.1
  | some key =>
    refine (openBackend_log C key).mono fun s o es s' h => ?_
    rcases h with hes | ⟨user, database, answer, link, huser, hdatabase, hes, hlink⟩
    · exact Or.inl hes
    · exact Or.inr ⟨key, user, database, answer, link, rfl, huser, hdatabase, hes, hlink⟩

/-! ## A StartupMessage -/

/-- What a StartupMessage has the proxy log. -/
inductive SessionLog (s : Session V) (message : MessageReader) : List Event → Prop
  | rejected {es : List Event} : (∀ e ∈ es, AuthEvent e ∧ ¬ IsAuthOk e) → SessionLog s message es
  | authenticated {identity : Identity} {v : Verifier} {exchange tail : List Event} :
      readIdentity message s.conn.params s.conn.replicationMode = .ok identity → AuthLog C v exchange →
      (∀ e ∈ tail, IsPlainMessage e) →
      SessionLog s message (.lookup identity.user (.ok (some v)) :: (exchange ++ tail))
  | admitted {identity : Identity} {v : Verifier} {exchange link : List Event} {clientKey : Bytes}
      {answer : Except ProviderError (Option Verifier)} :
      readIdentity message s.conn.params s.conn.replicationMode = .ok identity → AuthLog C v exchange →
      C.sha256 clientKey = v.storedKey →
      LinkLog (s.identify identity) clientKey identity.user identity.database answer link →
      SessionLog s message
        (.lookup identity.user (.ok (some v)) :: (exchange ++ .lookup identity.user answer :: link))

omit [VerifierProvider V] in
/-- Only the settings of the session count. -/
theorem SessionLog.of_settled {s t : Session V} {message : MessageReader} {es : List Event}
    (h : SessionLog C t message es) (hs : Settled s t) : SessionLog C s message es := by
  have hidentify (identity : Identity) : Settled (s.identify identity) (t.identify identity) :=
    ⟨hs.world, hs.config, hs.pool, hs.requiredTls, hs.frontendTls, rfl, rfl, rfl, rfl⟩
  cases h with
  | rejected hes => exact .rejected hes
  | authenticated hidentity hexchange htail =>
    rw [hs.params, hs.replicationMode] at hidentity
    exact .authenticated hidentity hexchange htail
  | admitted hidentity hexchange hkey hlink =>
    rw [hs.params, hs.replicationMode] at hidentity
    exact .admitted hidentity hexchange hkey (hlink.of_settled (hidentify _))

theorem returns_handleStartupPacket (version : UInt32) (message : MessageReader) :
    Returns (· ≠ .continued) (handleStartupPacket (V := V) C version message) := by
  refine returns_bind fun _ => returns_bind fun _ => returns_bind fun _ => returns_bind fun _ => returns_bind fun key => ?_
  intro s o s' h
  cases key with
  | none => cases h; decide
  | some key => rw [returns_openBackend C key s o s' h]; decide

/-- Authentication and the link, once the parameters are in place. -/
theorem authenticateAndProceed_log :
    Emits log (do let clientKey ← handleAuthentication (V := V) C; proceed C clientKey) fun s _ es _ =>
      ∀ t message identity, s = t.identify identity →
        readIdentity message t.conn.params t.conn.replicationMode = .ok identity → SessionLog C t message es := by
  refine Emits.mono (emits_bind ((handleAuthentication_log C).and (emits_of_keeps (keeps_handleAuthentication C)))
    fun clientKey => proceed_log C clientKey) fun s o es s' h t message identity hs hidentity => ?_
  -- the exchange without a link: it was rejected, or what follows its AuthenticationOk is an error
  have alone {o : Outcome ProxyError (Option Bytes)} {es : List Event}
      (hauth : (∃ e ∈ es, IsAuthOk e) ∨ (∃ k, o = .ok (some k)) → ∃ user v exchange tail,
        s.conn.user = some user ∧ es = .lookup user (.ok (some v)) :: (exchange ++ tail) ∧ AuthLog C v exchange ∧
          (∀ e ∈ tail, IsPlainMessage e) ∧ ∀ k, o = .ok (some k) → tail = [] ∧ C.sha256 k = v.storedKey)
      (hevents : ∀ e ∈ es, AuthEvent e) : SessionLog C t message es := by
    by_cases hok : ∃ e ∈ es, IsAuthOk e
    · obtain ⟨user, v, exchange, tail, huser, rfl, hexchange, htail, -⟩ := hauth (Or.inl hok)
      subst hs
      cases huser
      exact .authenticated hidentity hexchange htail
    · exact .rejected fun e he => ⟨hevents e he, fun h => hok ⟨e, he, h⟩⟩
  rcases h with ⟨clientKey, s₁, e₁, r₁, ⟨hauth, hsteady, hevents⟩, hadmit, rfl⟩ | ⟨_, ⟨hauth, -, hevents⟩, -⟩ |
    ⟨_, ⟨hauth, -, hevents⟩, -⟩
  · rcases hadmit with rfl | ⟨key, user, database, answer, link, rfl, huser, hdatabase, rfl, hlink⟩
    · rw [List.append_nil]
      exact alone hauth hevents
    · obtain ⟨user', v, exchange, tail, huser', rfl, hexchange, -, hkey⟩ := hauth (Or.inr ⟨key, rfl⟩)
      obtain ⟨rfl, hstored⟩ := hkey key rfl
      rw [hsteady.user] at huser
      rw [hsteady.database] at hdatabase
      subst hs
      cases huser
      cases huser'
      cases hdatabase
      rw [List.append_nil]
      exact .admitted hidentity hexchange hstored (hlink.of_settled hsteady.toSettled)
  · exact alone hauth hevents
  · exact alone hauth hevents

theorem handleStartupPacket_log (version : UInt32) (message : MessageReader) :
    Emits log (handleStartupPacket (V := V) C version message) fun s _ es _ =>
      ∃ rest, es = .startup s.conn.wire.reader.inner.transport s.conn.wire.writer.inner :: rest ∧
        SessionLog C s message rest := by
  intro s
  obtain ⟨es, hlog, h⟩ := emits_bind (emits_quiet (keeps_applyStartupParams message) fun _ _ _ => applyStartupParams_ok)
    (fun _ => authenticateAndProceed_log C) { s with
      log := s.log ++ [.startup s.conn.wire.reader.inner.transport s.conn.wire.writer.inner]
      conn := { s.conn with protocolVersion := some version } }
  refine ⟨_ :: es, by rw [List.append_cons]; exact hlog, es, rfl, ?_⟩
  rcases h with ⟨u, _, _, r₁, ⟨rfl, hok⟩, hrest, rfl⟩ | ⟨_, ⟨rfl, -⟩, -⟩ | ⟨_, ⟨rfl, -⟩, -⟩
  · obtain ⟨identity, hidentity, rfl⟩ := hok u rfl
    exact (hrest _ message identity rfl hidentity).of_settled C ⟨rfl, rfl, rfl, rfl, rfl, rfl, rfl, rfl, rfl⟩
  · exact .rejected (by simp)
  · exact .rejected (by simp)

/-! ## One packet -/

/-- What one packet does. -/
inductive Step (s : Session V) : Outcome ProxyError StartupOutCome → List Event → Session V → Prop
  | encryption {body : Bytes} {code : UInt32} {answer : UInt8} {s' : Session V} :
      packetCode body = some code → Encrypted code s s' →
      Step s (.ok .continued) [.packet body, .reply answer] s'
  | unread {o : Outcome ProxyError StartupOutCome} {s' : Session V} : o ≠ .ok .continued → Step s o [] s'
  | ended {o : Outcome ProxyError StartupOutCome} {body : Bytes} {replies : List Event} {s' : Session V} :
      o ≠ .ok .continued →
      (packetCode body = some PgClient.protocolVersionNumber → s.conn.requiredTls = true ∧ s.conn.sslDone = false) →
      (∀ e ∈ replies, IsReply e) → Step s o (.packet body :: replies) s'
  | startup {o : Outcome ProxyError StartupOutCome} {body : Bytes} {message : MessageReader} {s' : Session V}
      {rest : List Event} :
      o ≠ .ok .continued → body.length ≤ s.conn.pool.maxCapacity →
      (MessageReader.new body).readU32 = (.ok PgClient.protocolVersionNumber, message) →
      (s.conn.requiredTls = true → s.conn.sslDone = true) → SessionLog C s message rest →
      Step s o (.packet body :: .startup s.conn.wire.reader.inner.transport s.conn.wire.writer.inner :: rest) s'

omit [VerifierProvider V] in
theorem step_of_replies {s s' : Session V} {o : Outcome ProxyError StartupOutCome} {body : Bytes} {code : UInt32}
    {es : List Event} (hcode : packetCode body = some code) (hne : code ≠ PgClient.protocolVersionNumber)
    (ho : o ≠ .ok .continued) (hes : ∀ e ∈ es, IsReply e) : Step C s o (.packet body :: es) s' := by
  refine .ended ho (fun h => absurd ?_ hne) hes
  rw [hcode] at h
  exact Option.some.inj h

omit [VerifierProvider V] in
/-- An encryption request of either kind, whose answer ends the packet. -/
theorem encryptionRequest_log {body : Bytes} {code : UInt32} (hcode : packetCode body = some code)
    (hne : code ≠ PgClient.protocolVersionNumber) {x : Proc (Session V) ProxyError Unit}
    (hx : Emits log x fun s o es s' =>
      (∀ e ∈ es, IsReply e) ∧ ∀ u, o = .ok u → (∃ answer, es = [.reply answer]) ∧ Encrypted code s s') :
    Emits log (do x; pure .continued) fun s o es s' => Step C s o (.packet body :: es) s' := by
  refine (emits_bind hx fun _ => emits_pure _).mono fun s o es s' h => ?_
  rcases h with ⟨u, s₁, e₁, e₂, ⟨-, hok⟩, ⟨rfl, rfl, rfl⟩, rfl⟩ | ⟨_, ⟨hes, -⟩, rfl⟩ | ⟨_, ⟨hes, -⟩, rfl⟩
  · obtain ⟨⟨answer, rfl⟩, henc⟩ := hok u rfl
    exact .encryption hcode henc
  · exact step_of_replies C hcode hne (by simp) hes
  · exact step_of_replies C hcode hne (by simp) hes

omit [VerifierProvider V] in
theorem keeps_handleCancelRequest (message : MessageReader) : Keeps SameLog (handleCancelRequest (V := V) message) := by
  refine keeps_bind (keeps_lift _) fun key => keeps_bind keeps_get fun s => ?_
  unfold forwardCancel
  split
  · exact keeps_pure _
  · exact keeps_bind (keeps_modify fun _ => rfl) fun _ => keeps_bind (keeps_attempt (fun _ => rfl)) fun _ => keeps_pure _

/-- A StartupMessage is processed when the guard lets it. -/
theorem startupMessage_log {body : Bytes} {message : MessageReader}
    (hread : (MessageReader.new body).readU32 = (.ok PgClient.protocolVersionNumber, message)) :
    Emits log (do
      let s ← get
      lift (require (s.conn.requiredTls = true → s.conn.sslDone = true) (connectionError .tlsRequired))
      handleStartupPacket (V := V) C PgClient.protocolVersionNumber message)
    fun s o es s' => body.length ≤ s.conn.pool.maxCapacity → Step C s o (.packet body :: es) s' := by
  intro s
  rw [bind_of_ok (get_apply s)]
  by_cases hguard : s.conn.requiredTls = true → s.conn.sslDone = true
  · rw [bind_of_ok (a := ()) (by rw [require, if_pos hguard]; rfl)]
    obtain ⟨es, hlog, ⟨rest, rfl, hsession⟩, hreturns⟩ :=
      (handleStartupPacket_log C PgClient.protocolVersionNumber message).and_ok
      (returns_handleStartupPacket C _ message) s
    exact ⟨_, hlog, fun hlen => .startup (fun ho => hreturns _ ho rfl) hlen hread hguard hsession⟩
  · rw [bind_of_err (e := connectionError .tlsRequired) (by rw [require, if_neg hguard]; rfl)]
    exact ⟨[], (List.append_nil _).symm, fun _ => .ended (by simp) (fun _ => by simpa using hguard) (by simp)⟩

theorem dispatch_log {body : Bytes} {code : UInt32} {message : MessageReader}
    (hread : (MessageReader.new body).readU32 = (.ok code, message)) :
    Emits log (dispatch (V := V) C code message) fun s o es s' =>
      body.length ≤ s.conn.pool.maxCapacity → Step C s o (.packet body :: es) s' := by
  have hcode : packetCode body = some code := by rw [packetCode, hread]; rfl
  unfold dispatch
  split
  · subst code
    exact (encryptionRequest_log C hcode (by decide) handleSslRequest_log).mono fun _ _ _ _ h _ => h
  split
  · subst code
    exact (encryptionRequest_log C hcode (by decide) handleGssncRequest_log).mono fun _ _ _ _ h _ => h
  split
  · subst code
    refine (emits_bind (emits_sameLog (keeps_handleCancelRequest message)) fun _ => emits_pure _).mono fun s o es s' h _ => ?_
    rcases h with ⟨_, _, _, _, rfl, ⟨rfl, rfl, -⟩, rfl⟩ | ⟨_, rfl, rfl⟩ | ⟨_, rfl, rfl⟩ <;>
      exact step_of_replies C hcode (by decide) (by simp) (by simp)
  split
  · subst code
    exact startupMessage_log C hread
  · rename_i hne
    refine (emits_throw _).mono fun s o es s' h _ => ?_
    obtain ⟨rfl, rfl, -⟩ := h
    exact step_of_replies C hcode hne (by simp) (by simp)

omit [VerifierProvider V] in
theorem Encrypted.of_steady {code : UInt32} {s t s' : Session V} (hs : Steady s t) (h : Encrypted code t s') :
    Encrypted code s s' := by
  cases h with
  | ssl hset hssl hssl' hgss hsome hnone =>
    rw [hs.frontendTls] at hsome hnone
    rw [hs.reader, hs.writer] at hnone
    exact .ssl (trans_of Settled hs.toSettled hset) (by rw [← hs.sslDone, hssl]) hssl' (by rw [hgss, hs.gssDone]) hsome hnone
  | gss hset hgss hgss' hssl hreader hwriter =>
    exact .gss (trans_of Settled hs.toSettled hset) (by rw [← hs.gssDone, hgss]) hgss' (by rw [hssl, hs.sslDone])
      (by rw [hreader, hs.reader]) (by rw [hwriter, hs.writer])

omit [VerifierProvider V] in
theorem Step.of_steady {s t s' : Session V} {o : Outcome ProxyError StartupOutCome} {es : List Event} (hs : Steady s t)
    (h : Step C t o es s') : Step C s o es s' := by
  cases h with
  | encryption hcode henc => exact .encryption hcode (henc.of_steady hs)
  | unread ho => exact .unread ho
  | ended ho hguard hes =>
    rw [hs.requiredTls, hs.sslDone] at hguard
    exact .ended ho hguard hes
  | startup ho hlen hread hguard hsession =>
    rw [hs.pool] at hlen
    rw [hs.requiredTls, hs.sslDone] at hguard
    rw [hs.reader, hs.writer]
    exact .startup ho hlen hread hguard (hsession.of_settled C hs.toSettled)

omit [VerifierProvider V] in
/-- A packet has room in the pool. -/
theorem readStartupPacket_length {s s' : Session V} {body : Bytes} (h : readStartupPacket s = (.ok body, s')) :
    body.length ≤ s.conn.pool.maxCapacity := by
  obtain ⟨n, s₁, h₁, g₁⟩ := bind_ok.mp h
  have hpool := ((keeps_readMessageLength : Keeps Silent _).run h₁).1.pool
  obtain ⟨_, s₂, h₂, g₂⟩ := bind_ok.mp g₁
  cases h₂
  obtain ⟨_, s₃, h₃, g₃⟩ := bind_ok.mp g₂
  obtain ⟨-, rfl⟩ := lift_eq_ok.mp h₃
  obtain ⟨read, s₄, h₄, g₄⟩ := bind_ok.mp g₃
  obtain ⟨hread, rfl⟩ := lift_eq_ok.mp g₄
  obtain rfl := okOr_eq_ok.mp hread
  obtain ⟨_, s₅, h₅, g₅⟩ := bind_ok.mp h₄
  cases h₅
  split at g₅
  · cases g₅
  split at g₅
  · cases g₅
  rename_i hcapacity
  obtain ⟨bytes, s₆, h₆, g₆⟩ := bind_ok.mp g₅
  obtain ⟨w, hw, -⟩ := io_eq_ok.mp (mapErr_ok.mp h₆)
  obtain ⟨hbytes, -⟩ := Wire.readExact_ok hw
  cases g₆
  rw [length_get] at hbytes
  rw [hpool] at hcapacity
  simp only [overwrite, List.length_append, List.length_drop, length_get, hbytes]
  omega

theorem handleStartup_log : Emits log (handleStartup (V := V) C) (Step C) := by
  refine Emits.mono (emits_bind ((emits_silent keeps_readStartupPacket).and_ok fun _ _ _ => readStartupPacket_length)
    fun body => emits_bind (Q := fun _ s o es s' => body.length ≤ s.conn.pool.maxCapacity →
      Step C s o (.packet body :: es) s') (emits_emit (.packet body)) fun _ => ?_) fun s o es s' h => ?_
  · rcases hread : (MessageReader.new body).readU32 with ⟨e | code, message⟩
    · refine (emits_throw e).mono fun s o es s' h _ => ?_
      obtain ⟨rfl, rfl, -⟩ := h
      refine .ended (by simp) (fun hcode => ?_) (by simp)
      rw [packetCode, hread] at hcode
      cases hcode
    · exact dispatch_log C hread
  rcases h with ⟨body, s₁, e₁, r₁, ⟨⟨hs, rfl⟩, hlen⟩, h₁, rfl⟩ | ⟨_, ⟨⟨-, rfl⟩, -⟩, rfl⟩ | ⟨_, ⟨⟨-, rfl⟩, -⟩, rfl⟩
  · rcases h₁ with ⟨_, s₂, e₂, r₂, ⟨-, rfl, hs'⟩, h₂, rfl⟩ | ⟨_, ⟨h, -⟩, -⟩ | ⟨_, ⟨h, -⟩, -⟩
    · have hsteady := trans_of Steady hs hs'
      exact (h₂ (by rw [hsteady.pool]; exact hlen body rfl)).of_steady C hsteady
    · cases h
    · cases h
  · exact .unread (by simp)
  · exact .unread (by simp)

end Provider

end Session

end Wirechaos
