/-
  Wirechaos.Conn.Runs — what the operations of a session leave alone, and what they log.

  `Steady` says that the settings of the connection are the same and its two ends are
  the same transports; only the startup packets change these. `Extends p` adds that the
  log has grown, by events of kind `p`. Both are preorders, so that one `Keeps` lemma
  for each operation is a statement about every run of it.
-/

import Wirechaos.Conn.Startup

namespace Wirechaos

open Text Async Proc

namespace Session

variable (C : Crypto) {V : Type} {p q : Event → Prop}

/-- The settings and the parameters of the connection, and the world. -/
structure Settled (s s' : Session V) : Prop where
  world : s'.world = s.world
  config : s'.conn.config = s.conn.config
  pool : s'.conn.pool = s.conn.pool
  requiredTls : s'.conn.requiredTls = s.conn.requiredTls
  frontendTls : s'.conn.frontendTls = s.conn.frontendTls
  params : s'.conn.params = s.conn.params
  user : s'.conn.user = s.conn.user
  database : s'.conn.database = s.conn.database
  replicationMode : s'.conn.replicationMode = s.conn.replicationMode

instance : IsPreorder (Session V) Settled where
  refl _ := ⟨rfl, rfl, rfl, rfl, rfl, rfl, rfl, rfl, rfl⟩
  trans _ _ _ h h' := ⟨h'.world.trans h.world, h'.config.trans h.config, h'.pool.trans h.pool,
    h'.requiredTls.trans h.requiredTls, h'.frontendTls.trans h.frontendTls, h'.params.trans h.params,
    h'.user.trans h.user, h'.database.trans h.database, h'.replicationMode.trans h.replicationMode⟩

structure Steady (s s' : Session V) : Prop extends Settled s s' where
  sslDone : s'.conn.sslDone = s.conn.sslDone
  gssDone : s'.conn.gssDone = s.conn.gssDone
  reader : s'.conn.wire.reader.inner.transport = s.conn.wire.reader.inner.transport
  writer : s'.conn.wire.writer.inner = s.conn.wire.writer.inner

instance : IsPreorder (Session V) Steady where
  refl s := ⟨refl_of Settled s, rfl, rfl, rfl, rfl⟩
  trans _ _ _ h h' := ⟨trans_of Settled h.toSettled h'.toSettled, h'.sslDone.trans h.sslDone,
    h'.gssDone.trans h.gssDone, h'.reader.trans h.reader, h'.writer.trans h.writer⟩

def Extends (p : Event → Prop) (s s' : Session V) : Prop :=
  Steady s s' ∧ ∃ es, s'.log = s.log ++ es ∧ ∀ e ∈ es, p e

instance : IsPreorder (Session V) (Extends p) where
  refl s := ⟨refl_of Steady s, refl_of (Appends log p) s⟩
  trans _ _ _ h h' := ⟨trans_of Steady h.1 h'.1, trans_of (Appends log p) h.2 h'.2⟩

theorem Extends.mono {s s' : Session V} (h : Extends p s s') (hpq : ∀ e, p e → q e) : Extends q s s' :=
  ⟨h.1, Appends.mono h.2 hpq⟩

theorem extends_of_log {s s' : Session V} (hs : Steady s s') (hl : s'.log = s.log) : Extends p s s' :=
  ⟨hs, appends_of_eq hl⟩

/-- No event at all. -/
abbrev Silent (s s' : Session V) : Prop := Extends (fun _ => False) s s'

theorem Silent.log {s s' : Session V} (h : Silent s s') : s'.log = s.log := by
  obtain ⟨-, es, hl, hp⟩ := h
  rw [List.eq_nil_iff_forall_not_mem.mpr hp, List.append_nil] at hl
  exact hl

/-- The events of a run, and what it kept. -/
theorem emits_of_keeps {ε α : Type} {x : Proc (Session V) ε α} (h : Keeps (Extends p) x) :
    Emits log x fun s _ es s' => Steady s s' ∧ ∀ e ∈ es, p e := by
  intro s
  obtain ⟨hs, es, hl, hp⟩ := h s
  exact ⟨es, hl, hs, hp⟩

theorem emits_silent {ε α : Type} {x : Proc (Session V) ε α} (h : Keeps (Extends fun _ => False) x) :
    Emits log x fun s _ es s' => Steady s s' ∧ es = [] := by
  intro s
  exact ⟨[], by rw [Silent.log (h s), List.append_nil], (h s).1, rfl⟩

/-! ## The operations -/

variable {ε α : Type}

theorem keeps_emit {e : Event} (he : p e) : Keeps (Extends p) (emit e : Proc (Session V) ε Unit) :=
  fun _ => ⟨⟨⟨rfl, rfl, rfl, rfl, rfl, rfl, rfl, rfl, rfl⟩, rfl, rfl, rfl, rfl⟩, [e], rfl, by simpa using he⟩

/-- An update of something that is neither a setting, a transport nor the log. -/
theorem keeps_update {f : Session V → Session V} (hf : ∀ s, Steady s (f s)) (hl : ∀ s, (f s).log = s.log) :
    Keeps (Extends p) (modify f : Proc (Session V) ε Unit) := fun s => extends_of_log (hf s) (hl s)

theorem steady_interfere (s : Session V) : Steady s (interfere s) :=
  ⟨⟨rfl, rfl, rfl, rfl, rfl, rfl, rfl, rfl, rfl⟩, rfl, rfl, rfl, rfl⟩

theorem keeps_interfere : Keeps (Extends p) (modify interfere : Proc (Session V) ε Unit) :=
  keeps_update steady_interfere fun _ => rfl

/-- The session after an operation on its connection. -/
def onWire (s : Session V) (w : Wire) : Session V := { interfere s with conn := { (interfere s).conn with wire := w } }

theorem io_eq_ok {x : Proc Wire IoError α} {s s' : Session V} {a : α} :
    io x s = (.ok a, s') ↔ ∃ w, x s.conn.wire = (.ok a, w) ∧ s' = onWire s w := by
  unfold io
  rw [bind_of_ok (modify_apply _ s), mapErr_ok, zoom_apply]
  constructor
  · intro h
    have hfst : (x s.conn.wire).1 = .ok a := congrArg Prod.fst h
    exact ⟨_, eq_of_fst hfst, (congrArg Prod.snd h).symm⟩
  · intro ⟨w, hx, hs⟩
    have hpart : x (interfere s).conn.wire = (.ok a, w) := hx
    rw [hpart, hs]
    rfl

theorem io_state (x : Proc Wire IoError α) (s : Session V) : (io x s).2 = onWire s (x s.conn.wire).2 := by
  unfold io
  rw [bind_of_ok (modify_apply _ s), mapErr_snd, zoom_apply]
  rfl

/-- What a relation says of neither the wire nor the log, a message that is written leaves alone. -/
theorem keeps_writeMessage_of_blind {R : Session V → Session V → Prop} [IsPreorder (Session V) R]
    (hwire : ∀ s w, R s (onWire s w)) (hlog : ∀ s es, R s { s with log := es }) (tag : UInt8) (body : Bytes) :
    Keeps R (writeMessage (V := V) tag body) := by
  have hio {β : Type} (x : Proc Wire IoError β) : Keeps R (io (V := V) x) := fun s => by
    rw [io_state]
    exact hwire s _
  refine keeps_bind (keeps_modify fun s => hlog s _) fun _ => ?_
  exact keeps_bind (hio _) fun _ => keeps_bind (hio _) fun _ => keeps_bind (hio _) fun _ => hio _

theorem keeps_suspend : Keeps (Extends p) (suspend : Proc (Session V) ε Unit) := by
  refine keeps_bind keeps_get fun s => keeps_bind keeps_interfere fun _ => ?_
  exact keeps_ite (keeps_drop _) (keeps_pure _)

theorem keeps_io {x : Proc Wire IoError α} (hx : Keeps Wire.Stable x) : Keeps (Extends p) (io (V := V) x) := by
  refine keeps_bind keeps_interfere fun _ => keeps_mapErr (keeps_zoom hx fun s w h => ?_)
  exact extends_of_log ⟨⟨rfl, rfl, rfl, rfl, rfl, rfl, rfl, rfl, rfl⟩, rfl, rfl, h.reader, h.writer⟩ rfl

theorem keeps_readMessageLength : Keeps (Extends p) (readMessageLength (V := V)) :=
  keeps_bind (keeps_mapErr (keeps_io (Wire.keeps_readExact _))) fun _ => keeps_lift _

theorem keeps_readMessageBody (n : Nat) : Keeps (Extends p) (readMessageBody (V := V) n) := by
  refine keeps_bind keeps_get fun s => keeps_ite (keeps_pure _) (keeps_ite (keeps_throw _) ?_)
  exact keeps_bind (keeps_mapErr (keeps_io (Wire.keeps_readExact _))) fun _ => keeps_pure _

theorem keeps_readStartupPacket : Keeps (Extends p) (readStartupPacket (V := V)) := by
  refine keeps_bind keeps_readMessageLength fun n => keeps_bind keeps_get fun s => ?_
  exact keeps_bind (keeps_lift _) fun _ => keeps_bind (keeps_readMessageBody _) fun _ => keeps_lift _

theorem keeps_writeFrame (tag : UInt8) (body : Bytes) : Keeps (Extends p) (writeFrame (V := V) tag body) := by
  refine keeps_bind (keeps_io (Wire.keeps_writeAll _)) fun _ => ?_
  refine keeps_bind (keeps_io (Wire.keeps_writeAll _)) fun _ => ?_
  exact keeps_bind (keeps_io (Wire.keeps_writeAll _)) fun _ => keeps_io Wire.keeps_flush

theorem keeps_writeMessage {tag : UInt8} {body : Bytes} (h : p (.message tag body)) :
    Keeps (Extends p) (writeMessage (V := V) tag body) :=
  keeps_bind (keeps_emit h) fun _ => keeps_writeFrame _ _

theorem emits_emit (e : Event) :
    Emits log (emit e : Proc (Session V) ε Unit) fun s o es s' => o = .ok () ∧ es = [e] ∧ Steady s s' :=
  fun _ => ⟨[e], rfl, rfl, rfl, ⟨⟨rfl, rfl, rfl, rfl, rfl, rfl, rfl, rfl, rfl⟩, rfl, rfl, rfl, rfl⟩⟩

/-- A message is logged whether or not all of it reaches the socket. -/
theorem emits_writeMessage (tag : UInt8) (body : Bytes) :
    Emits log (writeMessage (V := V) tag body) fun s _ es s' => Steady s s' ∧ es = [.message tag body] := by
  refine (emits_bind (emits_emit _) fun _ => emits_silent (keeps_writeFrame tag body)).mono fun s o es s' h => ?_
  rcases h with ⟨_, s₁, e₁, e₂, ⟨-, rfl, hs⟩, ⟨hs', rfl⟩, rfl⟩ | ⟨e, ⟨h, -⟩, -⟩ | ⟨n, ⟨h, -⟩, -⟩
  · exact ⟨trans_of Steady hs hs', rfl⟩
  · cases h
  · cases h

section Provider

variable [VerifierProvider V]

theorem keeps_lookup {user : Str} (h : ∀ answer, p (.lookup user answer)) :
    Keeps (Extends p) (lookup (V := V) (ε := ε) user) := by
  refine keeps_bind keeps_suspend fun _ => keeps_bind keeps_get fun s => ?_
  refine keeps_bind (keeps_update (fun _ => ?_) fun _ => rfl) fun _ => ?_
  · exact ⟨⟨rfl, rfl, rfl, rfl, rfl, rfl, rfl, rfl, rfl⟩, rfl, rfl, rfl, rfl⟩
  · exact keeps_bind (keeps_emit (h _)) fun _ => keeps_pure _

/-- The provider's answer is what is logged. -/
theorem emits_lookup (user : Str) :
    Emits log (lookup (V := V) (ε := ε) user) fun _ o es _ =>
      (∃ answer, o = .ok answer ∧ es = [.lookup user answer]) ∨ (∀ answer, o ≠ .ok answer) ∧ es = [] := by
  intro s
  have hlog := Silent.log (keeps_suspend (V := V) (ε := ε) s)
  unfold lookup
  rcases hsuspend : (suspend : Proc (Session V) ε Unit) s with ⟨⟨⟩ | e | n, s₁⟩ <;> rw [hsuspend] at hlog
  · rw [bind_of_ok hsuspend, ← hlog]
    exact ⟨_, rfl, Or.inl ⟨_, rfl, rfl⟩⟩
  · rw [bind_of_err hsuspend]
    exact ⟨[], by rw [List.append_nil]; exact hlog, Or.inr ⟨by simp, rfl⟩⟩
  · rw [bind_of_dropped hsuspend]
    exact ⟨[], by rw [List.append_nil]; exact hlog, Or.inr ⟨by simp, rfl⟩⟩

end Provider

end Session

end Wirechaos
