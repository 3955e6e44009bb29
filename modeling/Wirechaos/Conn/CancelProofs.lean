/-
  Wirechaos.Conn.CancelProofs — a CancelRequest from the key a session was given to the
  backend it reaches.

  `Sessions` is the registry with the sessions that are in it. A session starts when it
  registers its backend and finishes when its guard is dropped, so that each turn is an
  operation on the registry (`Mirrors`), and what holds of live guards
  (`Registry.Held.Owned`) holds of live sessions. The rest is about the eight bytes of a
  key: any pair of words, negative ones too, is read back as it was written.
-/

import Wirechaos.Backend.RegistryProofs
import Wirechaos.Conn.OutputProofs

namespace Wirechaos

open Text Async Proc Machine

/-! ## Minting -/

namespace SessionKeySecret

theorem or_one_ne_zero (x : Int32) : x ||| 1 ≠ 0 := by
  intro h
  have hbit := congrArg (fun y : Int32 => y.toBitVec.getLsbD 0) h
  simp at hbit

/-- No key has the secret zero. -/
theorem mintFrom_secret (rng : Nat → Int32) (tries drawn : Nat) : (mintFrom rng tries drawn).1.secret ≠ 0 := by
  induction tries generalizing drawn with
  | zero => exact or_one_ne_zero _
  | succ tries ih =>
    unfold mintFrom
    split
    · rename_i hne
      exact hne
    · exact ih _

end SessionKeySecret

namespace Registry

/-- The loop registers a key of its own making, or it gives up and nothing has changed. -/
theorem registerFresh_cases (rng : Nat → Int32) (backend : Backend) (connId : Int32) (tries drawn : Nat) (r : Registry) :
    (∃ key drawn' r', registerFresh rng backend connId tries drawn r = (some (key, ⟨connId, key⟩), drawn', r') ∧
      r.register backend connId key = (.ok ⟨connId, key⟩, r') ∧ key.secret ≠ 0) ∨
    ∃ drawn', registerFresh rng backend connId tries drawn r = (none, drawn', r) := by
  induction tries generalizing drawn with
  | zero => exact Or.inr ⟨drawn, rfl⟩
  | succ tries ih =>
    have hsecret := SessionKeySecret.mintFrom_secret rng 64 drawn
    rw [registerFresh, SessionKeySecret.mint]
    rcases hmint : SessionKeySecret.mintFrom rng 64 drawn with ⟨key, drawn₁⟩
    rw [hmint] at hsecret
    dsimp only
    by_cases htaken : key ∈ r.keySecretBackend
    · have hregister : r.register backend connId key = (.error key, r) := if_pos htaken
      rw [hregister]
      exact ih drawn₁
    · have hregister : r.register backend connId key = (.ok ⟨connId, key⟩, _) := if_neg htaken
      rw [hregister]
      exact Or.inl ⟨key, drawn₁, _, rfl, hregister, hsecret⟩

end Registry

/-! ## Reading a key back -/

/-- The eight bytes of a key in a BackendKeyData and in a CancelRequest. -/
def keyBytes (key : SessionKeySecret) : Bytes := beBytes key.key.toUInt32 ++ beBytes key.secret.toUInt32

/-- A CancelRequest is read as this key. -/
def DecodesTo (packet : Bytes) (key : SessionKeySecret) : Prop :=
  ∃ body m, packet = beBytes 16 ++ body ∧ Session.parseLength (beBytes 16) = .ok body.length ∧
    (MessageReader.new body).readU32 = (.ok cancelRequestCode, m) ∧ Session.parseCancelRequest m = .ok key

theorem parseCancelRequest_keyBytes {m : MessageReader} {key : SessionKeySecret} (h : m.rest = keyBytes key) :
    Session.parseCancelRequest m = .ok key := by
  have hremaining : m.remaining = 8 := by
    rw [MessageReader.remaining_eq, h]
    rfl
  obtain ⟨m₁, hpid, h₁⟩ := MessageReader.readU32_rest h
  obtain ⟨m₂, hsecret, -⟩ := MessageReader.readU32_rest (m := m₁) (t := []) (by rw [h₁, List.append_nil])
  unfold Session.parseCancelRequest
  rw [require, if_pos hremaining, hpid]
  dsimp only
  rw [hsecret]
  rfl

theorem decodesTo_cancelPacket (key : BackendKeyData) : DecodesTo (Backend.cancelPacket key) ⟨key.pid, key.secret⟩ := by
  obtain ⟨m, hcode, hrest⟩ := MessageReader.readU32_rest
    (m := .new (beBytes cancelRequestCode ++ keyBytes ⟨key.pid, key.secret⟩)) rfl
  refine ⟨beBytes cancelRequestCode ++ keyBytes ⟨key.pid, key.secret⟩, m, ?_, rfl, hcode, parseCancelRequest_keyBytes hrest⟩
  simp only [Backend.cancelPacket, keyBytes, List.append_assoc]

/-! ## Forwarding -/

/-- The write and the wait for its end: a prefix is sent, and all of it when neither failed. -/
theorem writePacket_sent (packet : Bytes) (w : Wire) :
    ∃ bs, bs <+: packet ∧ ((do Wire.writeAllRaw packet; let _ ← Wire.await; pure ()) w).2.sent = w.sent ++ bs ∧
      (((do Wire.writeAllRaw packet; let _ ← Wire.await; pure ()) w).1 = .ok () → bs = packet) := by
  obtain ⟨bs, hprefix, hsent⟩ := Wire.writeAllRaw_sent packet w
  rcases hwrite : Wire.writeAllRaw packet w with ⟨u | e | n, w₁⟩ <;> rw [hwrite] at hsent
  · have hall := Wire.writeAllRaw_ok hwrite
    have hmute : Keeps Wire.Mute (do let _ ← Wire.await; pure () : Proc Wire IoError Unit) :=
      keeps_bind Wire.mute_await fun _ => keeps_pure _
    rw [bind_of_ok hwrite]
    exact ⟨packet, List.prefix_refl _, (hmute w₁).sent.trans hall, fun _ => rfl⟩
  · rw [bind_of_err hwrite]
    exact ⟨bs, hprefix, hsent, fun h => by cases h⟩
  · rw [bind_of_dropped hwrite]
    exact ⟨bs, hprefix, hsent, fun h => by cases h⟩

/-- What is sent of a forwarded CancelRequest. -/
theorem sendCancelRequest_sent (key : BackendKeyData) (w : Wire) :
    ∃ bs, bs <+: Backend.cancelPacket key ∧ (Backend.sendCancelRequest key w).2.sent = w.sent ++ bs ∧
      ((Backend.sendCancelRequest key w).1 = .ok () → bs = Backend.cancelPacket key) := by
  have hmute := (Wire.mute_await w).sent
  unfold Backend.sendCancelRequest
  rcases hwait : Wire.await w with ⟨n | e | _ | n, w₁⟩ <;> rw [hwait] at hmute
  · have htimeout : (timeout Wire.await : Proc Wire PgError _) w = (.ok (some (.ok n)), w₁) := by rw [timeout, hwait]
    obtain ⟨bs, hprefix, hsent, hok⟩ := writePacket_sent (Backend.cancelPacket key) w₁
    rw [bind_of_ok htimeout, ← hmute, mapErr_snd]
    refine ⟨bs, hprefix, hsent, fun h => hok ?_⟩
    rw [mapErr_ok.mp (eq_of_fst h)]
  · have htimeout : (timeout Wire.await : Proc Wire PgError _) w = (.ok (some (.error e)), w₁) := by rw [timeout, hwait]
    rw [bind_of_ok htimeout]
    exact ⟨[], List.nil_prefix, by rw [List.append_nil]; exact hmute, fun h => by cases h⟩
  · have htimeout : (timeout Wire.await : Proc Wire PgError _) w = (.ok none, w₁) := by rw [timeout, hwait]
    rw [bind_of_ok htimeout]
    exact ⟨[], List.nil_prefix, by rw [List.append_nil]; exact hmute, fun h => by cases h⟩
  · have htimeout : (timeout Wire.await : Proc Wire PgError _) w = (.dropped n, w₁) := by rw [timeout, hwait]
    rw [bind_of_dropped htimeout]
    exact ⟨[], List.nil_prefix, by rw [List.append_nil]; exact hmute, fun h => by cases h⟩

/-! ## Sessions -/

namespace Session

variable {V : Type}

/-- The session is in the registry under this guard, with this backend. -/
structure Holds (s : Session V) (entry : SessionGuard × Backend) : Prop where
  guard : s.conn.sessionGuard = some entry.1
  backend : s.conn.backend = some entry.2
  keySecret : s.conn.sessionKeySecret = some entry.1.key
  secret : entry.1.key.secret ≠ 0

/-! ## The key -/

/-- The key of the session stays. -/
abbrev SameKey (s s' : Session V) : Prop := s'.conn.sessionKeySecret = s.conn.sessionKeySecret

instance : IsPreorder (Session V) SameKey where
  refl _ := rfl
  trans _ _ _ h h' := h'.trans h

theorem sameKey_writeMessage (tag : UInt8) (body : Bytes) : Keeps SameKey (writeMessage (V := V) tag body) :=
  keeps_writeMessage_of_blind (fun _ _ => rfl) (fun _ _ => rfl) tag body

theorem sameKey_sendStartupNotifications : Keeps SameKey (sendStartupNotifications (V := V)) := by
  refine keeps_bind keeps_get fun _ => keeps_bind (keeps_lift _) fun backend => ?_
  have hall (notifications : List StartupNotification) : Keeps SameKey (sendNotifications (V := V) notifications) := by
    induction notifications with
    | nil => exact keeps_pure _
    | cons notification rest ih => exact keeps_bind (keeps_mapErr (sameKey_writeMessage _ _)) fun _ => ih
  exact hall _

/-- The BackendKeyData is these eight bytes. -/
theorem sendKeySecret_sends {key : SessionKeySecret} {s : Session V} (h : s.conn.sessionKeySecret = some key) :
    (sendKeySecret s).2.log = s.log ++ [.message (byte 'K') (keyBytes key)] ∧
      ∀ u t, sendKeySecret s = (.ok u, t) →
        t.conn.wire.output = s.conn.wire.output ++ frame (byte 'K') (keyBytes key) := by
  have hrun : sendKeySecret s = mapErr ProxyError.internal (writeMessage (byte 'K') (keyBytes key)) s := by
    unfold sendKeySecret
    rw [bind_of_ok (get_apply s), h]
    rfl
  rw [hrun]
  constructor
  · obtain ⟨es, hlog, -, rfl⟩ := emits_writeMessage (V := V) (byte 'K') (keyBytes key) s
    rw [mapErr_snd, hlog]
  · intro u t ht
    exact (writeFrame_ok (mapErr_ok.mp ht)).2

/-! ## Registering -/

theorem registerBackend_cases (backend : Backend) (s : Session V) :
    (∃ key t, registerBackend backend s = (.ok (), t) ∧ t.Holds (⟨s.conn.connId, key⟩, backend) ∧
      s.conn.backendRegistry.register backend s.conn.connId key = (.ok ⟨s.conn.connId, key⟩, t.conn.backendRegistry)) ∨
    ∃ e t, registerBackend backend s = (.err e, t) ∧ t.conn.backendRegistry = s.conn.backendRegistry := by
  unfold registerBackend
  rw [bind_of_ok (get_apply s)]
  rcases Registry.registerFresh_cases s.world.rng backend s.conn.connId 64 s.drawnWords s.conn.backendRegistry with
    ⟨key, drawn, r, hfresh, hregister, hsecret⟩ | ⟨drawn, hfresh⟩
  · rw [hfresh]
    exact Or.inl ⟨key, _, rfl, ⟨rfl, rfl, rfl, hsecret⟩, hregister⟩
  · rw [hfresh]
    exact Or.inr ⟨_, _, rfl, rfl⟩

end Session

/-- The registry and the sessions in it. -/
structure Sessions (V : Type) where
  registry : Registry
  live : List (Session V)

namespace Sessions

variable {V : Type}

inductive Turn (V : Type) where
  /-- A session whose link is open registers it. -/
  | start (s : Session V) (backend : Backend)
  /-- The session at this position ends, and its guard is dropped. -/
  | finish (index : Nat)

def empty : Sessions V := ⟨⟨∅, ∅⟩, []⟩

def release (r : Registry) (s : Session V) : Registry :=
  match s.conn.sessionGuard with
  | some guard => r.release guard
  | none => r

def step (h : Sessions V) : Turn V → Sessions V
  | .start s backend =>
    match Session.registerBackend backend { s with conn := { s.conn with backendRegistry := h.registry } } with
    | (.ok (), t) => ⟨t.conn.backendRegistry, h.live ++ [t]⟩
    | (_, t) => ⟨t.conn.backendRegistry, h.live⟩
  | .finish index =>
    match h.live[index]? with
    | some s => ⟨release h.registry s, h.live.eraseIdx index⟩
    | none => h

/-- Each live session has its guard and its backend. -/
structure Mirrors (h : Sessions V) (held : Registry.Held) : Prop where
  registry : held.registry = h.registry
  live : List.Forall₂ Session.Holds h.live held.live

theorem Mirrors.at {h : Sessions V} {held : Registry.Held} (hm : Mirrors h held) {i : Nat} {s : Session V}
    (hs : h.live[i]? = some s) : ∃ entry, held.live[i]? = some entry ∧ s.Holds entry := by
  obtain ⟨hi, rfl⟩ := List.getElem?_eq_some_iff.mp hs
  have hi' : i < held.live.length := by
    rw [← hm.live.length_eq]
    exact hi
  exact ⟨held.live[i], List.getElem?_eq_getElem hi', hm.live.get hi hi'⟩

/-- A turn of the sessions is an operation on the registry. -/
theorem Mirrors.step {h : Sessions V} {held : Registry.Held} (hm : Mirrors h held) (turn : Turn V) :
    ∃ op, Mirrors (h.step turn) (held.step op) := by
  cases turn with
  | start s backend =>
    rcases Session.registerBackend_cases backend { s with conn := { s.conn with backendRegistry := h.registry } } with
      ⟨key, t, hrun, hholds, hregister⟩ | ⟨e, t, hrun, hsame⟩
    · refine ⟨.register backend s.conn.connId key, ?_⟩
      rw [← hm.registry] at hregister
      simp only [Sessions.step, hrun, Registry.Held.step, hregister]
      exact ⟨rfl, List.rel_append hm.live (.cons hholds .nil)⟩
    · -- no session is there to be dropped
      refine ⟨.drop held.live.length, ?_⟩
      simp only [Sessions.step, hrun, Registry.Held.step, List.getElem?_eq_none (Nat.le_refl _)]
      exact ⟨hm.registry.trans hsame.symm, hm.live⟩
  | finish i =>
    refine ⟨.drop i, ?_⟩
    rcases hi : h.live[i]? with _ | s
    · have hlength : held.live.length ≤ i := by
        rw [← hm.live.length_eq]
        exact List.getElem?_eq_none_iff.mp hi
      simp only [Sessions.step, hi, Registry.Held.step, List.getElem?_eq_none hlength]
      exact hm
    · obtain ⟨entry, hentry, hholds⟩ := hm.at hi
      simp only [Sessions.step, hi, Registry.Held.step, hentry, release, hholds.guard]
      refine ⟨by rw [hm.registry], ?_⟩
      rw [List.eraseIdx_eq_take_drop_succ, List.eraseIdx_eq_take_drop_succ]
      exact List.rel_append (List.forall₂_take i hm.live) (List.forall₂_drop (i + 1) hm.live)

theorem mirrors_run (turns : List (Turn V)) : ∃ held, Mirrors (run step empty turns) held ∧ held.Owned := by
  have hempty : ∃ held, Mirrors (empty : Sessions V) held ∧ held.Owned :=
    ⟨Registry.Held.empty, ⟨rfl, .nil⟩, Registry.Held.owned_empty⟩
  refine run_invariant (I := fun h => ∃ held, Mirrors h held ∧ held.Owned) (fun h turn hheld => ?_) hempty turns
  obtain ⟨held, hm, ho⟩ := hheld
  obtain ⟨op, hstep⟩ := hm.step turn
  exact ⟨held.step op, hstep, ho.of_effect (Registry.Held.step_effect held op)⟩

/-! ## Routing -/

theorem handleCancelRequest_forwards {m : MessageReader} {key : SessionKeySecret} (hm : m.rest = keyBytes key)
    (s : Session V) :
    Session.handleCancelRequest m s = Session.forwardCancel (s.conn.backendRegistry.lookupByKey key) s := by
  unfold Session.handleCancelRequest
  rw [parseCancelRequest_keyBytes hm, bind_of_ok (lift_ok key s), bind_of_ok (get_apply s)]

/-- A cancel is forwarded under the backend's own key. -/
theorem forwardCancel_wire {backend : Backend} {key : BackendKeyData} (hkey : backend.backendKey = some key)
    (s : Session V) :
    (Session.forwardCancel (some backend) s).2.cancelWire = (Backend.sendCancelRequest key s.cancelWire).2 := by
  have hwire : (Session.interfere s).cancelWire = s.cancelWire := rfl
  unfold Session.forwardCancel
  simp only [Option.bind_some, hkey]
  rw [bind_of_ok (modify_apply _ s)]
  refine bind_state (Q := fun t : Session V => t.cancelWire = (Backend.sendCancelRequest key s.cancelWire).2)
    (fun _ => ?_) fun r t h => ?_
  · rw [attempt_snd, zoom_apply, hwire]
  · have hstate := congrArg Prod.snd h
    rw [attempt_snd, zoom_apply, hwire] at hstate
    exact (congrArg Session.cancelWire hstate).symm

/-- What the client of the session is told is these eight bytes. -/
def Announces (s : Session V) (key : SessionKeySecret) : Prop :=
  ∀ u t, Session.sendStartupNotifications s = (.ok u, t) →
    (Session.sendKeySecret t).2.log = t.log ++ [.message (byte 'K') (keyBytes key)] ∧
    ∀ u' t', Session.sendKeySecret t = (.ok u', t') →
      t'.conn.wire.output = t.conn.wire.output ++ frame (byte 'K') (keyBytes key)

/-- The bytes of the backend's own key are sent, as a CancelRequest that is read as that
    key; all of them, unless sending fails. -/
def Forwarded (target : BackendKeyData) (c : Session V) (t : Session V) : Prop :=
  (Backend.cancelPacket target).length = 16 ∧ DecodesTo (Backend.cancelPacket target) ⟨target.pid, target.secret⟩ ∧
    ∃ bs, bs <+: Backend.cancelPacket target ∧ t.cancelWire.sent = c.cancelWire.sent ++ bs ∧
      ((Backend.sendCancelRequest target c.cancelWire).1 = .ok () → bs = Backend.cancelPacket target)

/-- A CancelRequest with these eight bytes is read as the key, and goes to the backend. -/
def Routes (r : Registry) (key : SessionKeySecret) (backend : Backend) : Prop :=
  ∀ (c : Session V) (m : MessageReader), c.conn.backendRegistry = r → m.rest = keyBytes key →
    Session.parseCancelRequest m = .ok key ∧ c.conn.backendRegistry.lookupByKey key = some backend ∧
    Session.handleCancelRequest m c = Session.forwardCancel (some backend) c ∧
    ∀ target, backend.backendKey = some target → Forwarded target c (Session.handleCancelRequest m c).2

theorem announces {s : Session V} {key : SessionKeySecret} (h : s.conn.sessionKeySecret = some key) : Announces s key := by
  intro u t ht
  have hkey : t.conn.sessionKeySecret = some key := (Session.sameKey_sendStartupNotifications.run ht).trans h
  exact Session.sendKeySecret_sends hkey

theorem routes {r : Registry} {key : SessionKeySecret} {backend : Backend} (h : r.lookupByKey key = some backend) :
    Routes (V := V) r key backend := by
  intro c m hc hm
  rw [← hc] at h
  have hhandle := handleCancelRequest_forwards hm c
  rw [h] at hhandle
  refine ⟨parseCancelRequest_keyBytes hm, h, hhandle, fun target htarget => ?_⟩
  obtain ⟨bs, hprefix, hsent, hok⟩ := sendCancelRequest_sent target c.cancelWire
  refine ⟨rfl, decodesTo_cancelPacket target, bs, hprefix, ?_, hok⟩
  rw [hhandle, forwardCancel_wire htarget, hsent]

/-- A live session has a key with a secret that no other live session has. Its client is
    told this key, whatever its two words are, and a CancelRequest with it is forwarded to
    the session's own backend under the backend's own key. -/
theorem cancel_reaches_session (turns : List (Turn V)) {i : Nat} {a : Session V}
    (ha : (run step empty turns).live[i]? = some a) :
    ∃ key backend, a.conn.sessionKeySecret = some key ∧ a.conn.backend = some backend ∧ key.secret ≠ 0 ∧
      (∀ j b, (run step empty turns).live[j]? = some b → j ≠ i → b.conn.sessionKeySecret ≠ some key) ∧
      Announces a key ∧ Routes (V := V) (run step empty turns).registry key backend ∧
      ∀ (pair : SessionKeySecret) (m : MessageReader), m.rest = keyBytes pair → Session.parseCancelRequest m = .ok pair := by
  obtain ⟨held, hm, ho⟩ := mirrors_run turns
  obtain ⟨⟨guard, backend⟩, hentry, hholds⟩ := hm.at ha
  have hfound := ho.found guard backend (List.mem_of_getElem? hentry)
  rw [hm.registry] at hfound
  refine ⟨guard.key, backend, hholds.keySecret, hholds.backend, hholds.secret, fun j b hb hne hsame => ?_,
    announces hholds.keySecret, routes hfound, fun pair m => parseCancelRequest_keyBytes⟩
  obtain ⟨other, hother, hholds'⟩ := hm.at hb
  rw [hholds'.keySecret, Option.some.injEq] at hsame
  have hkeys {k : Nat} {e : SessionGuard × Backend} (he : held.live[k]? = some e) :
      (held.live.map fun p => p.1.key)[k]? = some e.1.key := by
    rw [List.getElem?_map, he]
    rfl
  have hlt : j < (held.live.map fun p => p.1.key).length := (List.getElem?_eq_some_iff.mp (hkeys hother)).1
  have hat : (held.live.map fun p => p.1.key)[j]? = (held.live.map fun p => p.1.key)[i]? := by
    rw [hkeys hother, hkeys hentry, hsame]
  exact hne ((List.getElem?_inj hlt ho.keys).mp hat)

end Sessions

namespace Sample

/-- Two sessions that draw the same words: the second one has to mint again. -/
def twoSessions : List (Sessions.Turn (CredentialStore crypto)) := [.start login backend, .start login backend]

end Sample

namespace Sessions

theorem cancel_reaches_session_second :
    ∃ a key backend, (run step empty Sample.twoSessions).live[1]? = some a ∧
      a.conn.sessionKeySecret = some key ∧ a.conn.backend = some backend ∧ key.secret ≠ 0 ∧
      (∀ j b, (run step empty Sample.twoSessions).live[j]? = some b → j ≠ 1 → b.conn.sessionKeySecret ≠ some key) ∧
      Announces a key ∧
      Routes (V := CredentialStore Sample.crypto) (run step empty Sample.twoSessions).registry key backend ∧
      ∀ (pair : SessionKeySecret) (m : MessageReader), m.rest = keyBytes pair → Session.parseCancelRequest m = .ok pair := by
  have hlength : 1 < (run step empty Sample.twoSessions).live.length := by decide +kernel
  have ha := List.getElem?_eq_getElem hlength
  obtain ⟨key, backend, h⟩ := cancel_reaches_session Sample.twoSessions ha
  exact ⟨_, key, backend, ha, h⟩

end Sessions

end Wirechaos
