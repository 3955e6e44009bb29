/-
  Wirechaos.Conn.VeilProofs — what a session does not see (see `Wirechaos.Conn.Startup`).

  `veil` puts other bytes into the buffers of the session's pool and another link behind
  it. Every function of the startup phase is blind to it but `openLink`, and nothing but
  `openLink` talks to the backend. So what can be said of the link with the session it
  starts (`openSession`) can be said of a whole packet, as long as it can be carried over
  the parts that come before (`Carried`, `carried_handleStartup`).
-/

import Wirechaos.Conn.SecrecyProofs
import Wirechaos.Lib.Fatal

namespace Wirechaos

open Text Async Proc

namespace Session

variable (C : Crypto) {V ε : Type} {f : (Nat → Nat → UInt8) → Nat → Nat → UInt8} {g : LinkEnv → LinkEnv}

def veil (f : (Nat → Nat → UInt8) → Nat → Nat → UInt8) (g : LinkEnv → LinkEnv) (s : Session V) : Session V :=
  { s with
    conn := { s.conn with pool := { s.conn.pool with stale := f s.conn.pool.stale } }
    world := { s.world with link := g s.world.link } }

/-! ## Reading and writing -/

theorem blind_interfere : Blind (veil f g) (modify interfere : Proc (Session V) ε Unit) := blind_modify fun _ => rfl

theorem blind_suspend : Blind (veil f g) (suspend (V := V) (ε := ε)) :=
  blind_get (fun _ => rfl) fun _ => blind_bind blind_interfere fun _ => blind_ite (blind_drop _) (blind_pure _)

theorem blind_io {α : Type} (x : Proc Wire IoError α) : Blind (veil f g) (io (V := V) x) :=
  blind_bind blind_interfere fun _ => blind_mapErr _ (blind_zoom _ (by intro _; rfl) fun _ _ => rfl)

theorem blind_emit (e : Event) : Blind (veil f g) (emit e : Proc (Session V) ε Unit) := blind_modify fun _ => rfl

theorem blind_readMessageLength : Blind (veil f g) (readMessageLength (V := V)) :=
  blind_bind (blind_mapErr _ (blind_io _)) fun _ => blind_lift _

theorem blind_readMessageBody (n : Nat) : Blind (veil f g) (readMessageBody (V := V) n) := by
  intro s
  rw [readMessageBody_eq, readMessageBody_eq]
  refine blind_ite (blind_pure _) (blind_ite (blind_throw _) ?_) s
  exact blind_bind (blind_mapErr _ (blind_io _)) fun _ => blind_pure _

theorem blind_readStartupPacket : Blind (veil f g) (readStartupPacket (V := V)) := by
  refine blind_bind blind_readMessageLength fun _ => blind_get (fun _ => rfl) fun _ => ?_
  exact blind_bind (blind_lift _) fun _ => blind_bind (blind_readMessageBody _) fun _ => blind_lift _

theorem blind_writeMessage (tag : UInt8) (body : Bytes) : Blind (veil f g) (writeMessage (V := V) tag body) := by
  refine blind_bind (blind_emit _) fun _ => blind_bind (blind_io _) fun _ => ?_
  exact blind_bind (blind_io _) fun _ => blind_bind (blind_io _) fun _ => blind_io _

theorem blind_writeReply (answer : UInt8) : Blind (veil f g) (writeReply (V := V) answer) :=
  blind_bind (blind_emit _) fun _ => blind_mapErr _ (blind_bind (blind_io _) fun _ => blind_io _)

/-! ## Authentication -/

theorem blind_readSaslResponse : Blind (veil f g) (readSaslResponse (V := V)) := by
  refine blind_bind (blind_mapErr _ (blind_io _)) fun _ => blind_bind (blind_lift _) fun _ => ?_
  refine blind_bind (blind_mapErr _ blind_readMessageLength) fun _ => blind_bind (blind_lift _) fun _ => ?_
  refine blind_bind (blind_mapErr _ (blind_readMessageBody _)) fun _ => blind_bind (blind_lift _) fun _ => ?_
  exact blind_bind (blind_emit _) fun _ => blind_pure _

theorem blind_sendAuthMessage (code : UInt32) (data : Bytes) :
    Blind (veil f g) (mapErr AuthFailure.internal (sendAuthMessage (V := V) code data)) :=
  blind_mapErr _ (blind_writeMessage _ _)

theorem blind_saslExchange (scram : ScramAuthenticator) (user : Str) :
    Blind (veil f g) (saslExchange (V := V) C scram user) := by
  refine blind_bind (blind_sendAuthMessage _ _) fun _ => ?_
  refine blind_bind (blind_bind blind_readSaslResponse fun _ => blind_lift _) fun chosen => ?_
  refine blind_bind (blind_get (fun _ => rfl) fun _ =>
    blind_bind (blind_modify fun _ => rfl) fun _ => blind_pure _) fun nonce => ?_
  refine blind_bind (blind_lift _) fun first => blind_bind (blind_sendAuthMessage _ _) fun _ => ?_
  refine blind_bind (blind_bind blind_readSaslResponse fun _ => blind_lift _) fun clientFinal => ?_
  refine blind_bind (blind_lift _) fun final => blind_bind (blind_sendAuthMessage _ _) fun _ => ?_
  exact blind_bind (blind_sendAuthMessage _ _) fun _ => blind_pure _

section Provider

variable [VerifierProvider V]

theorem blind_lookup (user : Str) : Blind (veil f g) (lookup (V := V) (ε := ε) user) := by
  refine blind_bind blind_suspend fun _ => blind_get (fun _ => rfl) fun s => ?_
  exact blind_bind (blind_modify fun _ => rfl) fun _ => blind_bind (blind_emit _) fun _ => blind_pure _

theorem blind_handleScramAuth : Blind (veil f g) (handleScramAuth (V := V) C) := by
  refine blind_get (fun _ => rfl) fun s => blind_bind (blind_lift _) fun user => blind_bind (blind_lookup user) fun answer => ?_
  exact blind_get (fun _ => rfl) fun _ => blind_bind (blind_lift _) fun _ => blind_saslExchange C _ _

theorem blind_handleAuthentication : Blind (veil f g) (handleAuthentication (V := V) C) := by
  refine blind_bind (blind_attempt (blind_handleScramAuth C)) fun r => ?_
  rcases r with ⟨e | e⟩ | k
  · exact blind_bind (blind_mapErr _ (blind_writeMessage _ _)) fun _ => blind_pure _
  · exact blind_throw _
  · exact blind_pure _

end Provider

/-! ## The link -/

theorem blind_registerBackend (backend : Backend) : Blind (veil f g) (registerBackend (V := V) backend) := by
  refine blind_get (fun _ => rfl) fun s => blind_bind (blind_modify fun _ => rfl) fun _ => ?_
  refine blind_bind (blind_lift _) fun registered => ?_
  exact blind_modify fun _ => rfl

theorem blind_sendNotifications (notifications : List StartupNotification) :
    Blind (veil f g) (sendNotifications (V := V) notifications) := by
  induction notifications with
  | nil => exact blind_pure _
  | cons notification rest ih => exact blind_bind (blind_mapErr _ (blind_writeMessage _ _)) fun _ => ih

theorem blind_startSession (backend : Backend) : Blind (veil f g) (startSession (V := V) backend) := by
  refine blind_bind (blind_registerBackend backend) fun _ => blind_bind ?_ fun _ =>
    blind_bind ?_ fun _ => blind_bind ?_ fun _ => ?_
  · exact blind_get (fun _ => rfl) fun s => blind_bind (blind_lift _) fun backend => blind_sendNotifications _
  · exact blind_get (fun _ => rfl) fun s => blind_bind (blind_lift _) fun _ => blind_mapErr _ (blind_writeMessage _ _)
  · exact blind_get (fun _ => rfl) fun s => blind_mapErr _ (blind_writeMessage _ _)
  · exact blind_pure _

/-! ## The packets -/

theorem blind_promoteToTls : Blind (veil f g) (promoteToTls (V := V)) := by
  refine blind_get (fun _ => rfl) fun s => blind_bind (blind_modify fun _ => rfl) fun _ => ?_
  refine blind_bind (blind_lift _) fun _ => blind_bind (blind_lift _) fun _ => blind_bind (blind_lift _) fun tls => ?_
  refine blind_bind (blind_mapErr _ (blind_io _)) fun _ => blind_bind (blind_lift _) fun chunks => ?_
  exact blind_modify fun _ => rfl

theorem blind_handleSslRequest : Blind (veil f g) (handleSslRequest (V := V)) := by
  refine blind_get (fun _ => rfl) fun s => blind_bind (blind_lift _) fun _ => blind_bind (blind_modify fun _ => rfl) fun _ => ?_
  refine blind_ite (blind_bind (blind_writeReply _) fun _ => blind_promoteToTls) (blind_writeReply _)

theorem blind_handleGssncRequest : Blind (veil f g) (handleGssncRequest (V := V)) := by
  refine blind_get (fun _ => rfl) fun s => blind_bind (blind_lift _) fun _ => blind_bind (blind_modify fun _ => rfl) fun _ => ?_
  exact blind_writeReply _

theorem blind_handleCancelRequest (message : MessageReader) :
    Blind (veil f g) (handleCancelRequest (V := V) message) := by
  refine blind_bind (blind_lift _) fun key => blind_get (fun _ => rfl) fun s => ?_
  unfold forwardCancel
  split
  · exact blind_pure _
  · refine blind_bind blind_interfere fun _ => blind_bind (blind_attempt ?_) fun _ => blind_pure _
    exact blind_zoom _ (by intro _; rfl) fun _ _ => rfl

theorem blind_applyStartupParams (message : MessageReader) :
    Blind (veil f g) (applyStartupParams (V := V) message) := by
  refine blind_get (fun _ => rfl) fun s => blind_bind (blind_modify fun _ => rfl) fun _ => blind_bind (blind_lift _) fun _ => ?_
  refine blind_bind (blind_lift _) fun _ => blind_bind (blind_lift _) fun _ => blind_bind (blind_modify fun _ => rfl) fun _ => ?_
  refine blind_bind (blind_lift _) fun _ => blind_bind (blind_modify fun _ => rfl) fun _ => blind_bind (blind_lift _) fun _ => ?_
  exact blind_modify fun _ => rfl

/-! ## Up to the link -/

def NoConnect (e : Event) : Prop := ∀ config, e ≠ .connect config

/-- The backend was not talked to, and what decides how it would be is the same. -/
structure Unlinked (s t : Session V) : Prop where
  world : t.world = s.world
  pool : t.conn.pool = s.conn.pool
  appends : Appends log NoConnect s t

instance : IsPreorder (Session V) Unlinked where
  refl s := ⟨rfl, rfl, refl_of (Appends log NoConnect) s⟩
  trans _ _ _ h h' := ⟨h'.world.trans h.world, h'.pool.trans h.pool, trans_of (Appends log NoConnect) h.appends h'.appends⟩

theorem unlinked_of_log {s t : Session V} (hworld : t.world = s.world) (hpool : t.conn.pool = s.conn.pool)
    (hlog : t.log = s.log) : Unlinked s t := ⟨hworld, hpool, appends_of_eq hlog⟩

theorem unlinked_of_extends {α : Type} {p : Event → Prop} {x : Proc (Session V) ε α} (hx : Keeps (Extends p) x)
    (hp : ∀ e, p e → NoConnect e) : Keeps Unlinked x := by
  intro s
  obtain ⟨hs, es, hl, hes⟩ := hx s
  exact ⟨hs.world, hs.pool, es, hl, fun e he => hp e (hes e he)⟩

theorem unlinked_readStartupPacket : Keeps Unlinked (readStartupPacket (V := V)) :=
  unlinked_of_extends (p := fun _ => False) keeps_readStartupPacket fun _ h => h.elim

theorem unlinked_emit {e : Event} (he : NoConnect e) : Keeps Unlinked (emit e : Proc (Session V) ε Unit) :=
  unlinked_of_extends (p := NoConnect) (keeps_emit he) fun _ h => h

theorem unlinked_applyStartupParams (message : MessageReader) : Keeps Unlinked (applyStartupParams (V := V) message) := by
  refine keeps_bind keeps_get fun s => ?_
  refine keeps_bind (keeps_modify fun _ => unlinked_of_log rfl rfl rfl) fun _ => keeps_bind (keeps_lift _) fun _ => ?_
  refine keeps_bind (keeps_lift _) fun _ => keeps_bind (keeps_lift _) fun _ => ?_
  refine keeps_bind (keeps_modify fun _ => unlinked_of_log rfl rfl rfl) fun _ => keeps_bind (keeps_lift _) fun _ => ?_
  refine keeps_bind (keeps_modify fun _ => unlinked_of_log rfl rfl rfl) fun _ => keeps_bind (keeps_lift _) fun _ => ?_
  exact keeps_modify fun _ => unlinked_of_log rfl rfl rfl

section Provider

variable [VerifierProvider V]

theorem unlinked_handleAuthentication : Keeps Unlinked (handleAuthentication (V := V) C) := by
  refine unlinked_of_extends (keeps_handleAuthentication C) fun e he config hconnect => ?_
  rcases he with ⟨_, _, rfl⟩ | ⟨_, rfl⟩ | ⟨_, _, rfl⟩ <;> cases hconnect

theorem unlinked_lookup (user : Str) : Keeps Unlinked (lookup (V := V) (ε := ε) user) :=
  unlinked_of_extends (p := NoConnect) (keeps_lookup fun _ _ h => by cases h) fun _ h => h

/-! ## A packet -/

/-- Open the link and start the session over it. -/
def openSession (config : PgConfig) : Proc (Session V) ProxyError StartupOutCome := do
  let backend ← mapErr ProxyError.ofPg (openLink C config)
  startSession backend

omit [VerifierProvider V] in
theorem appends_of_replies {x : Proc (Session V) ProxyError Unit}
    {P : Outcome ProxyError Unit → List Event → Session V → Session V → Prop}
    (hx : Emits log x fun s o es s' => (∀ e ∈ es, IsReply e) ∧ P o es s s') : Keeps (Appends log NoConnect) x := by
  intro s
  obtain ⟨es, hl, hes, -⟩ := hx s
  refine ⟨es, hl, fun e he config hconnect => ?_⟩
  obtain ⟨answer, rfl⟩ := hes e he
  cases hconnect

variable (f g) in
/-- A property that a run has when the part of it behind the parts that neither see the
    change nor talk to the backend has it. -/
structure Carried (P : (α : Type) → Proc (Session V) ProxyError α → Prop) : Prop where
  alone : ∀ {α : Type} {x : Proc (Session V) ProxyError α}, Blind (veil f g) x → Keeps (Appends log NoConnect) x → P α x
  get : ∀ {α : Type} {k : Session V → Proc (Session V) ProxyError α}, (∀ s, k (veil f g s) = k s) → (∀ s, P α (k s)) →
    P α (Proc.get >>= k)
  bind : ∀ {α β : Type} {x : Proc (Session V) ProxyError α} {k : α → Proc (Session V) ProxyError β}, Blind (veil f g) x →
    Keeps Unlinked x → (∀ a, P β (k a)) → P β (x >>= k)

variable {P : (α : Type) → Proc (Session V) ProxyError α → Prop} (hP : Carried f g P)
  (hopen : ∀ config, P StartupOutCome (openSession C config))

include hP hopen

theorem carried_proceed (clientKey : Option Bytes) : P StartupOutCome (proceed C clientKey) := by
  cases clientKey with
  | none => exact hP.alone (blind_pure _) (keeps_pure _)
  | some key =>
    refine hP.get (fun _ => rfl) fun s => hP.bind (blind_lift _) (keeps_lift _) fun user => ?_
    refine hP.bind (blind_lift _) (keeps_lift _) fun database => ?_
    refine hP.bind (blind_lookup user) (unlinked_lookup user) fun answer => ?_
    -- the link itself
    refine hP.bind (blind_lift _) (keeps_lift _) fun verifier => hP.get (fun _ => rfl) fun s => ?_
    exact hP.bind (blind_lift _) (keeps_lift _) fun address => hopen _

theorem carried_handleStartupPacket (version : UInt32) (message : MessageReader) :
    P StartupOutCome (handleStartupPacket C version message) := by
  refine hP.get (fun _ => rfl) fun s => hP.bind (blind_emit _) (unlinked_emit fun _ h => by cases h) fun _ => ?_
  refine hP.bind (blind_modify fun _ => rfl) (keeps_modify fun _ => unlinked_of_log rfl rfl rfl) fun _ => ?_
  refine hP.bind (blind_applyStartupParams message) (unlinked_applyStartupParams message) fun _ => ?_
  exact hP.bind (blind_handleAuthentication C) (unlinked_handleAuthentication C) fun clientKey =>
    carried_proceed C hP hopen clientKey

theorem carried_dispatch (code : UInt32) (message : MessageReader) : P StartupOutCome (dispatch C code message) := by
  unfold dispatch
  split
  · exact hP.alone (blind_bind blind_handleSslRequest fun _ => blind_pure _)
      (keeps_bind (appends_of_replies handleSslRequest_log) fun _ => keeps_pure _)
  split
  · exact hP.alone (blind_bind blind_handleGssncRequest fun _ => blind_pure _)
      (keeps_bind (appends_of_replies handleGssncRequest_log) fun _ => keeps_pure _)
  split
  · have hsame (s : Session V) : Appends log NoConnect s (handleCancelRequest message s).2 :=
      appends_of_eq (keeps_handleCancelRequest message s)
    exact hP.alone (blind_bind (blind_handleCancelRequest message) fun _ => blind_pure _)
      (keeps_bind hsame fun _ => keeps_pure _)
  split
  · refine hP.get (fun _ => rfl) fun s => hP.bind (blind_lift _) (keeps_lift _) fun _ => ?_
    exact carried_handleStartupPacket C hP hopen _ _
  · exact hP.alone (blind_throw _) (keeps_throw _)

/-- What is so of the link with the session it starts is so of a whole packet. -/
theorem carried_handleStartup : P StartupOutCome (handleStartup C) := by
  refine hP.bind blind_readStartupPacket unlinked_readStartupPacket fun body => ?_
  refine hP.bind (blind_emit _) (unlinked_emit fun _ h => by cases h) fun _ => ?_
  exact hP.bind (blind_lift _) (keeps_lift _) fun code => carried_dispatch C hP hopen _ _

end Provider

/-! ## Instances -/

theorem carried_blind : Carried (V := V) f g fun _ x => Blind (veil f g) x where
  alone hx _ := hx
  get hsame hk := blind_get hsame hk
  bind hx _ hk := blind_bind hx hk

theorem carried_hides {I H : Session V → Prop} {E : ProxyError → ProxyError → Prop} (hE : ∀ e, E e e)
    (hI : ∀ s t : Session V, Unlinked s t → I s → I t) : Carried f g fun _ x => Hides I H E (veil f g) x where
  alone hx _ := hides_of_blind hE hx
  get hsame hk := hides_get hsame hk
  bind hx hunlinked hk := hides_bind hE hx (fun s => hI _ _ (hunlinked s)) hk

theorem carried_fatal {I : Session V → Prop} {fatal : Event → ProxyError → Prop}
    (hfatal : ∀ e, NoConnect e → Harmless fatal e) (hI : ∀ s t : Session V, Unlinked s t → I s → I t) :
    Carried f g fun _ x => Fatal log I fatal x where
  alone _ hx := fatal_of_appends fun s => (hx s).mono hfatal
  get _ hk := fatal_get hk
  bind _ hunlinked hk := fatal_bind (fatal_of_appends fun s => (hunlinked s).appends.mono hfatal)
    (fun s => hI _ _ (hunlinked s)) hk

end Session

end Wirechaos
