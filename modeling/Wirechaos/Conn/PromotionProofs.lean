/-
  Wirechaos.Conn.PromotionProofs — the encryption requests and the bytes around them
  (see `Wirechaos.Conn.Startup`, `Wirechaos.Wire.Progress`).

  What a client sends arrives in pieces, and a read may leave more in the buffer than it
  needed. Up to an answered SSLRequest the packets are those of the bytes, however they
  came (`drive_leads`, along `Follows`). The promotion drops what is in the buffer
  (`handleSslRequest_buffered`); a declined request leaves it alone, since no write looks
  at the reader (`Blind`). Channel binding is offered with the certificate of the
  connection's own tunnel (`MakesScram.certHash`).
-/

import Wirechaos.Conn.OutputProofs
import Wirechaos.Conn.SecrecyProofs
import Wirechaos.Wire.Progress

namespace Wirechaos

open Text Async Proc

/-! ## Writes and the reader -/

namespace Wire

/-- The same connection with another read half. -/
def withReader (reader : BufReader) (w : Wire) : Wire := { w with reader }

variable (reader : BufReader)

theorem blind_await : Blind (withReader reader) await := by
  intro w
  have hsched : (withReader reader w).sched (withReader reader w).tick = w.sched w.tick := rfl
  unfold await
  simp only [hsched]
  cases w.sched w.tick <;> rfl

theorem blind_pollWrite (data : Bytes) : Blind (withReader reader) (pollWrite data) := by
  refine blind_get (fun _ => rfl) fun w => blind_ite (blind_throw _) ?_
  refine blind_bind (blind_await reader) fun n => blind_ite (blind_throw _) ?_
  exact blind_bind (blind_modify fun _ => rfl) fun _ => blind_pure _

theorem blind_flushBufFrom (fuel : Nat) : Blind (withReader reader) (flushBufFrom fuel) := by
  induction fuel with
  | zero => exact blind_pure _
  | succ fuel ih =>
    refine blind_get (fun _ => rfl) fun w => blind_ite (blind_pure _) ?_
    exact blind_bind (blind_pollWrite reader _) fun n => blind_bind (blind_modify fun _ => rfl) fun _ => ih

theorem blind_flushBuf : Blind (withReader reader) flushBuf :=
  blind_get (fun _ => rfl) fun _ => blind_flushBufFrom reader _

theorem blind_makeRoom (n : Nat) : Blind (withReader reader) (makeRoom n) :=
  blind_get (fun _ => rfl) fun _ => blind_ite (blind_flushBuf reader) (blind_pure _)

theorem blind_writeAllFrom (fuel : Nat) (data : Bytes) : Blind (withReader reader) (writeAllFrom fuel data) := by
  induction fuel generalizing data with
  | zero => exact blind_pure _
  | succ fuel ih =>
    refine blind_ite (blind_pure _) (blind_bind (blind_makeRoom reader _) fun _ => blind_ite ?_ ?_)
    · exact blind_bind (blind_pollWrite reader _) fun n => ih _
    · exact blind_modify fun _ => rfl

theorem blind_writeAll (data : Bytes) : Blind (withReader reader) (writeAll data) := blind_writeAllFrom reader _ _

theorem blind_flush : Blind (withReader reader) flush := by
  refine blind_bind (blind_flushBuf reader) fun _ => blind_get (fun _ => rfl) fun w => ?_
  exact blind_ite (blind_bind (blind_await reader) fun _ => blind_pure _) (blind_pure _)

/-! ## Pieces -/

/-- The same bytes in other pieces, some of them in the buffer already, on any schedule. -/
structure Resplit (w w' : Wire) : Prop where
  input : w'.input = w.input
  transport : w'.reader.inner.transport = w.reader.inner.transport
  writer : w'.writer = w.writer
  sent : w'.sent = w.sent

theorem Resplit.beside {w v v' : Wire} (h : Resplit w v) (h' : Resplit w v') (hsmooth : Smooth v') : Beside [] [] v v' := by
  refine ⟨hsmooth, ⟨w.input, ?_, ?_⟩, ?_⟩
  · rw [h.input, List.append_nil]
  · rw [h'.input, List.append_nil]
  · unfold output
    rw [h.sent, h.writer, h'.sent, h'.writer]

/-- All of it is in the buffer, and nothing stops the connection. -/
def arrived (w : Wire) : Wire :=
  { w with reader := { buf := w.input, inner := { w.reader.inner with chunks := [] } }, sched := fun _ => .ready 1 }

theorem resplit_arrived (w : Wire) : Resplit w w.arrived :=
  ⟨by simp [arrived, input], rfl, rfl, rfl⟩

theorem smooth_arrived {w : Wire} (hreader : w.reader.inner.transport ≠ .empty) (hwriter : w.writer.inner ≠ .empty) :
    Smooth w.arrived :=
  ⟨fun _ => ⟨1, Nat.one_pos, rfl⟩, hreader, hwriter, fun _ h => absurd h List.not_mem_nil⟩

end Wire

namespace Session

variable (C : Crypto) {V : Type}

def withWire (s : Session V) (wire : Wire) : Session V := { s with conn := { s.conn with wire } }

/-- The same session with another read half. -/
def withReader (reader : BufReader) (s : Session V) : Session V := s.withWire (s.conn.wire.withReader reader)

/-- The same session with this in its buffer. -/
def withBuffered (buf : Bytes) (s : Session V) : Session V := withReader { s.conn.wire.reader with buf } s

section Reader

variable (reader : BufReader)

theorem blind_write {x : Proc Wire IoError Unit} (hx : Blind (Wire.withReader reader) x) :
    Blind (withReader reader) (io (V := V) x) := by
  refine blind_bind (blind_modify fun _ => rfl) fun _ => blind_mapErr _ ?_
  exact blind_zoom_of hx (fun _ => rfl) fun _ _ => rfl

theorem blind_reply (answer : UInt8) : Blind (withReader reader) (writeReply (V := V) answer) := by
  refine blind_bind (blind_modify fun _ => rfl) fun _ => blind_mapErr _ ?_
  exact blind_bind (blind_write reader (Wire.blind_writeAll reader _)) fun _ => blind_write reader (Wire.blind_flush reader)

end Reader

theorem writeReply_reader (answer : UInt8) (s : Session V) :
    (writeReply answer s).2.conn.wire.reader = s.conn.wire.reader :=
  blind_part (fun s : Session V => s.conn.wire.reader) withReader (fun reader => blind_reply reader answer) (fun _ => rfl)
    (fun _ _ => rfl) s

/-! ## Declined requests -/

/-- Without a certificate the answer is 'N'. -/
theorem handleSslRequest_declined {s : Session V} (h : s.conn.frontendTls = none) :
    handleSslRequest s = (do
      lift (require (s.conn.sslDone = false) (connectionError .tlsAlreadyDone))
      modify fun s => { s with conn := { s.conn with sslDone := true } }
      writeReply (byte 'N') : Proc (Session V) ProxyError Unit) s := by
  unfold handleSslRequest
  rw [bind_of_ok (get_apply s), h]
  rfl

/-- Nothing is read before a declined request is answered. -/
theorem declined_reader {p : Prop} [Decidable p] (e : ProxyError) (f : Session V → Session V)
    (hf : ∀ s, (f s).conn.wire = s.conn.wire) (s : Session V) :
    (((do
      lift (require p e)
      modify f
      writeReply (byte 'N')) : Proc (Session V) ProxyError Unit) s).2.conn.wire.reader = s.conn.wire.reader := by
  refine bind_state (Q := fun t : Session V => t.conn.wire.reader = s.conn.wire.reader) ?_ ?_
  · intro _
    cases require p e <;> rfl
  · intro u s₁ h
    obtain ⟨-, rfl⟩ := lift_eq_ok.mp h
    rw [bind_of_ok (modify_apply f s₁), writeReply_reader, hf]

theorem handleSslRequest_reader {s : Session V} (h : s.conn.frontendTls = none) :
    (handleSslRequest s).2.conn.wire.reader = s.conn.wire.reader := by
  rw [handleSslRequest_declined h]
  apply declined_reader
  intro _
  rfl

theorem handleGssncRequest_reader (s : Session V) :
    (handleGssncRequest s).2.conn.wire.reader = s.conn.wire.reader := by
  unfold handleGssncRequest
  rw [bind_of_ok (get_apply s)]
  apply declined_reader
  intro _
  rfl

/-! ## The promotion -/

/-- What is in the buffer is not looked at. -/
theorem promoteToTls_buffered (buf : Bytes) (s : Session V) : promoteToTls (s.withBuffered buf) = promoteToTls s := by
  unfold promoteToTls
  rw [bind_of_ok (get_apply _), bind_of_ok (get_apply _), bind_of_ok (modify_apply _ _), bind_of_ok (modify_apply _ _)]
  rfl

/-- The tunnel reads what its handshake made of the bytes still to come. -/
theorem promoteToTls_reader {s s' : Session V} {u : Unit} (h : promoteToTls s = (.ok u, s')) :
    ∃ tls chunks, s.conn.frontendTls = some tls ∧ tls.acceptor s.conn.wire.reader.inner.chunks = some chunks ∧
      s'.conn.wire.reader = { buf := [], inner := { transport := .tls, chunks } } := by
  obtain ⟨_, s₁, hget, h₁⟩ := bind_ok.mp h
  cases hget
  obtain ⟨_, s₂, hmodify, h₂⟩ := bind_ok.mp h₁
  cases hmodify
  obtain ⟨_, s₃, hplain, h₃⟩ := bind_ok.mp h₂
  obtain ⟨-, rfl⟩ := lift_eq_ok.mp hplain
  obtain ⟨_, s₄, hplain', h₄⟩ := bind_ok.mp h₃
  obtain ⟨-, rfl⟩ := lift_eq_ok.mp hplain'
  obtain ⟨tls, s₅, htls, h₅⟩ := bind_ok.mp h₄
  obtain ⟨hsome, rfl⟩ := lift_eq_ok.mp htls
  obtain ⟨_, s₆, -, h₆⟩ := bind_ok.mp h₅
  obtain ⟨chunks, s₇, haccept, h₇⟩ := bind_ok.mp h₆
  obtain ⟨hchunks, rfl⟩ := lift_eq_ok.mp haccept
  cases h₇
  exact ⟨tls, chunks, okOr_eq_ok.mp hsome, okOr_eq_ok.mp hchunks, rfl⟩

/-- The session in which an SSLRequest is answered. -/
def sslMarked (s : Session V) : Session V := { s with conn := { s.conn with sslDone := true } }

theorem handleSslRequest_offered {s : Session V} (hsome : s.conn.frontendTls.isSome = true) (hssl : s.conn.sslDone = false) :
    handleSslRequest s = (do writeReply (byte 'S'); promoteToTls : Proc (Session V) ProxyError Unit) s.sslMarked := by
  unfold handleSslRequest
  have hguard : lift (require (s.conn.sslDone = false) (connectionError .tlsAlreadyDone)) s = (.ok (), s) :=
    lift_eq_ok.mpr ⟨require_eq_ok.mpr hssl, rfl⟩
  rw [bind_of_ok (get_apply s), bind_of_ok hguard, bind_of_ok (modify_apply _ s), if_pos hsome]
  rfl

/-- An SSLRequest that was answered with 'S' and then promoted. -/
theorem handleSslRequest_promoted {s s' : Session V} {u : Unit} (hsome : s.conn.frontendTls.isSome = true)
    (h : handleSslRequest s = (.ok u, s')) :
    ∃ t, s.conn.sslDone = false ∧ writeReply (byte 'S') s.sslMarked = (.ok (), t) ∧ promoteToTls t = (.ok u, s') := by
  have hssl : s.conn.sslDone = false := by
    obtain ⟨_, s₁, hget, h₁⟩ := bind_ok.mp h
    cases hget
    obtain ⟨_, s₂, hguard, -⟩ := bind_ok.mp h₁
    exact require_eq_ok.mp (lift_eq_ok.mp hguard).1
  rw [handleSslRequest_offered hsome hssl] at h
  obtain ⟨_, t, hreply, hpromote⟩ := bind_ok.mp h
  exact ⟨t, hssl, hreply, hpromote⟩

/-- Whatever was in the buffer, the session behind the promotion is the same one. -/
theorem handleSslRequest_buffered {s s' : Session V} {u : Unit} (hsome : s.conn.frontendTls.isSome = true)
    (h : handleSslRequest s = (.ok u, s')) (buf : Bytes) : handleSslRequest (s.withBuffered buf) = (.ok u, s') := by
  obtain ⟨t, hssl, hreply, hpromote⟩ := handleSslRequest_promoted hsome h
  have hreader := writeReply_reader (byte 'S') s.sslMarked
  have hblind := blind_reply { s.conn.wire.reader with buf } (byte 'S') s.sslMarked
  rw [hreply] at hreader hblind
  rw [handleSslRequest_offered (s := s.withBuffered buf) hsome hssl, ← hpromote, ← promoteToTls_buffered buf t]
  refine (bind_of_ok hblind _).trans ?_
  unfold withBuffered
  rw [hreader]
  rfl

theorem handleSslRequest_tunnel {s s' : Session V} {u : Unit} {tls : FrontendTls} (htls : s.conn.frontendTls = some tls)
    (h : handleSslRequest s = (.ok u, s')) :
    ∃ chunks, tls.acceptor s.conn.wire.reader.inner.chunks = some chunks ∧
      s'.conn.wire.reader = { buf := [], inner := { transport := .tls, chunks } } := by
  obtain ⟨t, -, hreply, hpromote⟩ := handleSslRequest_promoted (by rw [htls]; rfl) h
  obtain ⟨tls', chunks, htls', haccept, hreader⟩ := promoteToTls_reader hpromote
  obtain ⟨-, -, hsteady, -⟩ := emits_writeReply (V := V) (byte 'S') s.sslMarked
  have hsame := writeReply_reader (byte 'S') s.sslMarked
  rw [hreply] at hsteady hsame
  rw [hsteady.frontendTls] at htls'
  cases htls.symm.trans htls'
  rw [hsame] at haccept
  exact ⟨chunks, haccept, hreader⟩

/-! ## The same bytes in other pieces -/

/-- The same session on a smooth connection that holds the same bytes. -/
def Beside (s s' : Session V) : Prop := ∃ w, s' = s.withWire w ∧ Wire.Beside [] [] s.conn.wire w

theorem Beside.log {s s' : Session V} (h : Beside s s') : s'.log = s.log := by
  obtain ⟨w, rfl, -⟩ := h
  rfl

/-- An SSLRequest is declined. -/
def Declines (s : Session V) : Prop := s.conn.frontendTls = none

section Follows

variable {ε : Type} {W : Session V → Prop}

theorem follows_io {α : Type} {x : Proc Wire IoError α} (hx : Follows (Wire.Beside [] []) (Wire.Leaves []) x x)
    (hW : ∀ s w, W (onWire s w) → W s) : Follows Beside W (io (V := V) x) (io x) := by
  intro s a t h ht
  obtain ⟨w, hrun, rfl⟩ := io_eq_ok.mp h
  refine ⟨hW s w ht, fun s' hs => ?_⟩
  obtain ⟨w', rfl, hbeside⟩ := hs
  obtain ⟨-, hfollows⟩ := hx s.conn.wire a w hrun (Nat.zero_le _)
  obtain ⟨w₁, hrun', hbeside'⟩ := hfollows w' hbeside
  exact ⟨_, io_eq_ok.mpr ⟨w₁, hrun', rfl⟩, w₁, rfl, hbeside'⟩

/-- An update that neither looks at the connection nor touches it. -/
theorem follows_update {f : Session V → Session V} (hW : ∀ s, W (f s) → W s)
    (hwire : ∀ s w, f (s.withWire w) = (f s).withWire w) (hsame : ∀ s, (f s).conn.wire = s.conn.wire) :
    Follows Beside W (modify f : Proc (Session V) ε Unit) (modify f) := by
  refine follows_modify hW fun s s' h => ?_
  obtain ⟨w, rfl, hbeside⟩ := h
  exact ⟨w, hwire s w, by rw [hsame]; exact hbeside⟩

theorem follows_readMessageLength (hW : ∀ s w, W (onWire s w) → W s) :
    Follows Beside W (readMessageLength (V := V)) readMessageLength :=
  follows_bind (follows_mapErr _ (follows_io (Wire.follows_readExact 4) hW)) fun _ => follows_lift _

theorem follows_readMessageBody (hW : ∀ s w, W (onWire s w) → W s) (n : Nat) :
    Follows Beside W (readMessageBody (V := V) n) (readMessageBody n) := by
  intro s a t h ht
  rw [readMessageBody_eq] at h
  have hread : Follows Beside W (do
      let bytes ← mapErr .internal (io (Wire.readExact n))
      pure (some bytes) : Proc (Session V) ProxyError (Option Bytes)) _ :=
    follows_bind (follows_mapErr _ (follows_io (Wire.follows_readExact n) hW)) fun _ => follows_pure _
  obtain ⟨hs, hfollows⟩ := follows_ite (follows_pure none) (follows_ite (follows_throw _ _) hread) s a t h ht
  refine ⟨hs, fun s' hbeside => ?_⟩
  obtain ⟨t', hrun, hbeside'⟩ := hfollows s' hbeside
  obtain ⟨w, rfl, -⟩ := hbeside
  refine ⟨t', ?_, hbeside'⟩
  rw [readMessageBody_eq]
  exact hrun

theorem follows_readStartupPacket (hW : ∀ s w, W (onWire s w) → W s) :
    Follows Beside W (readStartupPacket (V := V)) readStartupPacket := by
  refine follows_bind (follows_readMessageLength hW) fun n => follows_get (fun s s' h => ?_) fun s => ?_
  · obtain ⟨w, rfl, -⟩ := h
    rfl
  · exact follows_bind (follows_lift _) fun _ => follows_bind (follows_readMessageBody hW _) fun _ => follows_lift _

theorem follows_writeReply (hW : ∀ s w, W (onWire s w) → W s) (hlog : ∀ s log, W { s with log } → W s) (answer : UInt8) :
    Follows Beside W (writeReply (V := V) answer) (writeReply answer) := by
  refine follows_bind (follows_update (fun s => hlog s _) (fun _ _ => rfl) fun _ => rfl) fun _ => follows_mapErr _ ?_
  exact follows_bind (follows_io (Wire.follows_writeAll _) hW) fun _ => follows_io Wire.follows_flush hW

theorem follows_handleGssncRequest :
    Follows Beside (fun _ => True) (handleGssncRequest (V := V)) handleGssncRequest := by
  refine follows_get (fun s s' h => ?_) fun s => ?_
  · obtain ⟨w, rfl, -⟩ := h
    rfl
  · refine follows_bind (follows_lift _) fun _ => ?_
    refine follows_bind (follows_update (fun _ h => h) (fun _ _ => rfl) fun _ => rfl) fun _ => ?_
    exact follows_writeReply (fun _ _ h => h) (fun _ _ h => h) _

/-- A session that declines is not promoted. -/
theorem follows_handleSslRequest : Follows Beside Declines (handleSslRequest (V := V)) handleSslRequest := by
  refine follows_get (fun s s' h => ?_) fun s => ?_
  · obtain ⟨w, rfl, -⟩ := h
    rfl
  · have hreply (answer : UInt8) : Follows Beside Declines (writeReply (V := V) answer) (writeReply answer) :=
      follows_writeReply (fun _ _ h => h) (fun _ _ h => h) answer
    refine follows_bind (follows_lift _) fun _ => ?_
    refine follows_bind (follows_update (fun _ h => h) (fun _ _ => rfl) fun _ => rfl) fun _ => ?_
    refine follows_ite (follows_bind (hreply _) fun _ => ?_) (hreply _)
    intro s u t h ht
    obtain ⟨tls, -, htls, -⟩ := promoteToTls_reader h
    have hsettled := (promoteToTls_ok h).1
    rw [Declines, hsettled.frontendTls, htls] at ht
    cases ht

end Follows

/-! ## The packets before a promotion -/

def packetBody : Event → Option Bytes
  | .packet body => some body
  | _ => none

/-- The packets up to the 'S' that announces a promotion. -/
def plainPackets (es : List Event) : List Bytes := (es.takeWhile (· ≠ .reply (byte 'S'))).filterMap packetBody

theorem plainPackets_offered (es : List Event) : plainPackets (.reply (byte 'S') :: es) = [] := by
  simp [plainPackets]

theorem plainPackets_cons {e : Event} (he : e ≠ .reply (byte 'S')) (es : List Event) :
    plainPackets (e :: es) = (packetBody e).toList ++ plainPackets es := by
  unfold plainPackets
  rw [List.takeWhile_cons_of_pos (by simpa using he)]
  cases h : packetBody e <;> simp [h]

theorem plainPackets_packet (body : Bytes) (es : List Event) : plainPackets (.packet body :: es) = body :: plainPackets es :=
  plainPackets_cons (by simp) es

/-- Events without a packet among them. -/
def Unread (es : List Event) : Prop := ∀ e ∈ es, packetBody e = none

theorem plainPackets_append_unread (es : List Event) {tail : List Event} (htail : Unread tail) :
    plainPackets (es ++ tail) = plainPackets es := by
  induction es with
  | nil =>
    simp only [plainPackets, List.nil_append, List.takeWhile_nil, List.filterMap_nil, List.filterMap_eq_nil_iff]
    intro e he
    exact htail e (List.takeWhile_subset _ he)
  | cons e es ih =>
    by_cases he : e = .reply (byte 'S')
    · subst he
      rw [List.cons_append, plainPackets_offered, plainPackets_offered]
    · rw [List.cons_append, plainPackets_cons he, plainPackets_cons he, ih]

theorem plainPackets_unread {es : List Event} (h : Unread es) : plainPackets es = [] :=
  plainPackets_append_unread [] h

theorem plainPackets_append (es : List Event) {fs gs : List Event} (h : plainPackets fs <+: plainPackets gs) :
    plainPackets (es ++ fs) <+: plainPackets (es ++ gs) := by
  induction es with
  | nil => exact h
  | cons e es ih =>
    by_cases he : e = .reply (byte 'S')
    · subst he
      rw [List.cons_append, plainPackets_offered]
      exact List.nil_prefix
    · rw [List.cons_append, List.cons_append, plainPackets_cons he, plainPackets_cons he]
      exact (List.prefix_append_right_inj _).mpr ih

/-- From a common log, the packets of the first run are the first ones of the second. -/
def Leads (log first second : List Event) : Prop :=
  ∃ es fs, first = log ++ es ∧ second = log ++ fs ∧ plainPackets es <+: plainPackets fs

theorem Leads.append {log first second tail tail' : List Event} (h : Leads log first second) (htail : Unread tail)
    (htail' : Unread tail') : Leads log (first ++ tail) (second ++ tail') := by
  obtain ⟨es, fs, rfl, rfl, hprefix⟩ := h
  refine ⟨es ++ tail, fs ++ tail', by simp, by simp, ?_⟩
  rw [plainPackets_append_unread es htail, plainPackets_append_unread fs htail']
  exact hprefix

/-- What both runs logged before makes no difference. -/
theorem Leads.of_common {log es first second : List Event} (h : Leads (log ++ es) first second) : Leads log first second := by
  obtain ⟨fs, gs, rfl, rfl, hprefix⟩ := h
  exact ⟨es ++ fs, es ++ gs, by simp, by simp, plainPackets_append es hprefix⟩

theorem unread_of_plain {es : List Event} (h : ∀ e ∈ es, IsPlainMessage e) : Unread es := by
  intro e he
  obtain ⟨_, _, rfl, -⟩ := h e he
  rfl

section Provider

variable [VerifierProvider V]

/-- What a packet has the proxy do, once it was read. -/
def answerPacket (body : Bytes) : Proc (Session V) ProxyError StartupOutCome := do
  let (code, message) := (MessageReader.new body).readU32
  let code ← lift code
  dispatch C code message

theorem handleStartup_read {s t : Session V} {body : Bytes} (h : readStartupPacket s = (.ok body, t)) :
    handleStartup C s = answerPacket C body { t with log := t.log ++ [.packet body] } := by
  unfold handleStartup
  rw [bind_of_ok h]
  rfl

theorem handleStartup_unread {s : Session V} (h : ∀ body, (readStartupPacket s).1 ≠ .ok body) :
    (∀ r, (handleStartup C s).1 ≠ .ok r) ∧ (handleStartup C s).2.log = s.log := by
  have hlog := Silent.log (keeps_readStartupPacket (V := V) s)
  unfold handleStartup
  rcases hrun : readStartupPacket s with ⟨body | e | n, t⟩ <;> rw [hrun] at h hlog
  · exact absurd rfl (h body)
  · rw [bind_of_err hrun]
    exact ⟨by simp, hlog⟩
  · rw [bind_of_dropped hrun]
    exact ⟨by simp, hlog⟩

omit [VerifierProvider V] in
/-- A packet is read at the beginning of a step, nowhere else. -/
theorem Step.unread_rest {s s' : Session V} {o : Outcome ProxyError StartupOutCome} {body : Bytes} {es : List Event}
    (h : Step C s o (.packet body :: es) s') : Unread es := by
  have hlater {es : List Event} (h : ∀ e ∈ es, IsLater e) : Unread es := by
    intro e he
    cases e with
    | packet body => exact absurd rfl ((h _ he).1 body)
    | _ => rfl
  cases h with
  | encryption => exact hlater (by simp [IsLater])
  | ended _ _ hreplies => exact hlater fun e he => isLater_of_reply (hreplies e he)
  | startup _ _ _ _ hsession =>
    intro e he
    rcases List.mem_cons.mp he with rfl | he
    · rfl
    · exact hlater (fun e he => isLater_of_event (hsession.events C e he)) e he

theorem answerPacket_log {s : Session V} {body : Bytes} (hlen : body.length ≤ s.conn.pool.maxCapacity) :
    ∃ es, (answerPacket C body s).2.log = s.log ++ es ∧ Unread es := by
  unfold answerPacket
  rcases hread : (MessageReader.new body).readU32 with ⟨e | code, message⟩
  · exact ⟨[], (List.append_nil _).symm, by simp [Unread]⟩
  · obtain ⟨es, hlog, hstep⟩ := dispatch_log C hread s
    exact ⟨es, hlog, (hstep hlen).unread_rest C⟩

omit [VerifierProvider V] in
/-- Reading leaves the log alone, and what was read has room in the pool. -/
theorem readStartupPacket_quiet {s t : Session V} {body : Bytes} (h : readStartupPacket s = (.ok body, t)) :
    t.log = s.log ∧ body.length ≤ t.conn.pool.maxCapacity := by
  have hkeeps := (keeps_readStartupPacket : Keeps Silent _).run h
  refine ⟨Silent.log hkeeps, ?_⟩
  rw [hkeeps.1.pool]
  exact readStartupPacket_length h

/-- One step reads one packet. -/
theorem handleStartup_answered {s t : Session V} {body : Bytes} (h : readStartupPacket s = (.ok body, t)) :
    ∃ es, (handleStartup C s).2.log = s.log ++ .packet body :: es ∧ Unread es := by
  obtain ⟨hlog, hlen⟩ := readStartupPacket_quiet h
  obtain ⟨es, hes, hunread⟩ := answerPacket_log C (s := { t with log := t.log ++ [.packet body] }) hlen
  refine ⟨es, ?_, hunread⟩
  rw [handleStartup_read C h, hes, hlog]
  simp

/-- The session reads on: next to it the other one does so too, or a promotion was
    announced. -/
theorem answerPacket_continued {s t s' : Session V} {body : Bytes} (h : answerPacket C body s = (.ok .continued, t))
    (hbeside : Beside s s') :
    (∃ t', answerPacket C body s' = (.ok .continued, t') ∧ Beside t t') ∨ t.log = s.log ++ [.reply (byte 'S')] := by
  unfold answerPacket at h ⊢
  rcases hread : (MessageReader.new body).readU32 with ⟨e | code, message⟩ <;> rw [hread] at h
  · cases h
  have hlift (s : Session V) : (lift (.ok code : Except ProxyError UInt32) >>= fun code => dispatch C code message) s =
      dispatch C code message s := rfl
  dsimp only at h ⊢
  rw [hlift] at h ⊢
  unfold dispatch at h ⊢
  by_cases hssl : code = sslRequestCode
  · rw [if_pos hssl] at h ⊢
    obtain ⟨u, t₁, hrequest, hpure⟩ := bind_ok.mp h
    cases hpure
    by_cases hdeclines : Declines t
    · obtain ⟨-, hfollows⟩ := follows_handleSslRequest s u t hrequest hdeclines
      obtain ⟨t', hrequest', hbeside'⟩ := hfollows s' hbeside
      left
      exact ⟨t', bind_ok.mpr ⟨u, t', hrequest', rfl⟩, hbeside'⟩
    · obtain ⟨es, -, hlog⟩ := handleSslRequest_log s
      rw [hrequest] at hlog
      have hsettled := (hlog.2 u rfl).2.settled
      have hsome : s.conn.frontendTls.isSome = true := by
        rw [← hsettled.frontendTls]
        exact Option.isSome_iff_ne_none.mpr hdeclines
      obtain ⟨t₁, -, hreply, hpromote⟩ := handleSslRequest_promoted hsome hrequest
      obtain ⟨es, hes, -, rfl⟩ := emits_writeReply (V := V) (byte 'S') s.sslMarked
      have hsame := keeps_promoteToTls.run hpromote
      rw [hreply] at hes
      right
      exact hsame.trans hes
  rw [if_neg hssl] at h ⊢
  by_cases hgss : code = gssencRequestCode
  · rw [if_pos hgss] at h ⊢
    obtain ⟨u, t₁, hrequest, hpure⟩ := bind_ok.mp h
    cases hpure
    obtain ⟨-, hfollows⟩ := follows_handleGssncRequest s u t hrequest trivial
    obtain ⟨t', hrequest', hbeside'⟩ := hfollows s' hbeside
    left
    exact ⟨t', bind_ok.mpr ⟨u, t', hrequest', rfl⟩, hbeside'⟩
  rw [if_neg hgss] at h
  by_cases hcancel : code = cancelRequestCode
  · rw [if_pos hcancel] at h
    obtain ⟨_, _, -, hpure⟩ := bind_ok.mp h
    cases hpure
  rw [if_neg hcancel] at h
  by_cases hstartup : code = PgClient.protocolVersionNumber
  · rw [if_pos hstartup] at h
    obtain ⟨_, _, -, h₁⟩ := bind_ok.mp h
    obtain ⟨_, _, -, h₂⟩ := bind_ok.mp h₁
    exact absurd rfl (returns_handleStartupPacket C _ _ _ _ _ h₂)
  · rw [if_neg hstartup] at h
    cases h

/-! ## The driver -/

theorem driveFrom_continued {s t : Session V} (fuel : Nat) (h : handleStartup C s = (.ok .continued, t)) :
    driveFrom C (fuel + 1) s = driveFrom C fuel t := by
  rw [driveFrom, bind_of_ok (attempt_of_ok h)]

theorem driveFrom_stopped {s : Session V} (fuel : Nat) (h : (handleStartup C s).1 ≠ .ok .continued) :
    ∃ tail, (driveFrom C (fuel + 1) s).2.log = (handleStartup C s).2.log ++ tail ∧ ∀ e ∈ tail, IsPlainMessage e := by
  rw [driveFrom]
  rcases hrun : handleStartup C s with ⟨r | e | n, t⟩ <;> rw [hrun] at h
  · rw [bind_of_ok (attempt_of_ok hrun)]
    cases r with
    | continued => exact absurd rfl h
    | ready => exact ⟨[], (List.append_nil _).symm, by simp⟩
    | close => exact ⟨[], (List.append_nil _).symm, by simp⟩
  · rw [bind_of_ok (attempt_of_err hrun)]
    cases e with
    | internal e => exact ⟨[], (List.append_nil _).symm, by simp⟩
    | connectionError e => exact emits_sendErrorMessage e.code e.message t
  · rw [bind_of_dropped (attempt_of_dropped hrun)]
    exact ⟨[], (List.append_nil _).symm, by simp⟩

/-- The driver logs its first step and then more. -/
theorem driveFrom_extends (fuel : Nat) (s : Session V) :
    (handleStartup C s).2.log <+: (driveFrom C (fuel + 1) s).2.log := by
  by_cases h : (handleStartup C s).1 = .ok .continued
  · have hrun := eq_of_fst h
    obtain ⟨es, hlog, -⟩ := driveFrom_log C fuel (handleStartup C s).2
    rw [driveFrom_continued C fuel hrun, hlog]
    exact List.prefix_append _ _
  · obtain ⟨tail, hlog, -⟩ := driveFrom_stopped C fuel h
    rw [hlog]
    exact List.prefix_append _ _

/-- The run that read a packet has it in its log. -/
theorem driveFrom_read {s t : Session V} {body : Bytes} (fuel : Nat) (h : readStartupPacket s = (.ok body, t)) :
    ∃ es, (driveFrom C (fuel + 1) s).2.log = s.log ++ .packet body :: es := by
  obtain ⟨es, hes, -⟩ := handleStartup_answered C h
  obtain ⟨fs, hfs⟩ := driveFrom_extends C fuel s
  refine ⟨es ++ fs, ?_⟩
  rw [← hfs, hes]
  simp

/-- The run next to it reads all the packets that this one reads. -/
theorem drive_leads (fuel : Nat) {s s' : Session V} (h : Beside s s') :
    Leads s.log (driveFrom C fuel s).2.log (driveFrom C fuel s').2.log := by
  induction fuel generalizing s s' with
  | zero => exact ⟨[], [], (List.append_nil _).symm, by rw [List.append_nil]; exact h.log, List.prefix_refl _⟩
  | succ fuel ih =>
    by_cases hread : ∃ body t, readStartupPacket s = (.ok body, t)
    · obtain ⟨body, t, hrun⟩ := hread
      obtain ⟨-, hfollows⟩ := follows_readStartupPacket (W := fun _ => True) (fun _ _ h => h) s body t hrun trivial
      obtain ⟨t', hrun', w, rfl, hbeside⟩ := hfollows s' h
      -- the packet is in both logs; a run that ends with it, or with the offer of TLS, has no other
      obtain ⟨fs, hfs⟩ := driveFrom_read C fuel hrun'
      rw [h.log] at hfs
      by_cases hgo : ∃ u, handleStartup C s = (.ok .continued, u)
      · obtain ⟨u, hu⟩ := hgo
        have hanswer := hu
        rw [handleStartup_read C hrun] at hanswer
        rw [driveFrom_continued C fuel hu]
        rcases answerPacket_continued C hanswer ⟨w, rfl, hbeside⟩ with ⟨u', hu', hnext⟩ | hoffered
        · obtain ⟨es, hes, -⟩ := handleStartup_log C s
          rw [hu] at hes
          rw [driveFrom_continued C fuel ((handleStartup_read C hrun').trans hu')]
          have hcommon := ih hnext
          rw [hes] at hcommon
          exact hcommon.of_common
        · obtain ⟨es, hes, -⟩ := driveFrom_log C fuel u
          refine ⟨.packet body :: .reply (byte 'S') :: es, .packet body :: fs, ?_, hfs, ?_⟩
          · rw [hes, hoffered, (readStartupPacket_quiet hrun).1]
            simp
          · rw [plainPackets_packet, plainPackets_offered, plainPackets_packet]
            exact List.prefix_append [body] _
      · obtain ⟨tail, htail, hplain⟩ := driveFrom_stopped C (s := s) fuel fun hok => hgo ⟨_, eq_of_fst hok⟩
        obtain ⟨es, hes, hunread⟩ := handleStartup_answered C hrun
        refine ⟨.packet body :: (es ++ tail), .packet body :: fs, ?_, hfs, ?_⟩
        · rw [htail, hes, List.append_assoc, List.cons_append]
        · rw [plainPackets_packet, plainPackets_append_unread es (unread_of_plain hplain), plainPackets_unread hunread,
            plainPackets_packet]
          exact List.prefix_append [body] _
    · obtain ⟨hstop, hlog⟩ := handleStartup_unread C (s := s) fun body h => hread ⟨body, _, eq_of_fst h⟩
      obtain ⟨tail, htail, hplain⟩ := driveFrom_stopped C (s := s) fuel (hstop _)
      obtain ⟨fs, hfs, -⟩ := driveFrom_log C (fuel + 1) s'
      refine ⟨tail, fs, by rw [htail, hlog], by rw [hfs, h.log], ?_⟩
      rw [plainPackets_unread (unread_of_plain hplain)]
      exact List.nil_prefix

/-- Behind the driver there is at most the error message of the deadline. -/
theorem authenticate_tail (s : Session V) :
    ∃ tail, (authenticate C s).2.log = (driveFrom C 3 s).2.log ++ tail ∧ ∀ e ∈ tail, IsPlainMessage e := by
  rcases hdrive : driveFrom C 3 s with ⟨u | e | _ | n, t⟩
  · rw [authenticate_of_ok C hdrive]
    exact ⟨[], (List.append_nil _).symm, by simp⟩
  · rw [authenticate_of_err C hdrive]
    exact ⟨[], (List.append_nil _).symm, by simp⟩
  · rw [authenticate_of_deadline C hdrive]
    exact emits_sendErrorMessage _ _ t
  · rw [authenticate_of_dropped C hdrive]
    exact ⟨[], (List.append_nil _).symm, by simp⟩

omit [VerifierProvider V] in
/-- The permit has nothing to do with the connection. -/
theorem tryAcquire_wire (w : Wire) : Blind (fun s : Session V => s.withWire w) tryAcquire :=
  blind_get (fun _ => rfl) fun _ => blind_ite (blind_pure _) (blind_bind (blind_modify fun _ => rfl) fun _ => blind_pure _)

omit [VerifierProvider V] in
theorem tryAcquire_same (s : Session V) :
    (tryAcquire s).2.log = s.log ∧ (tryAcquire s).2.conn.wire = s.conn.wire := by
  unfold tryAcquire
  rw [bind_of_ok (get_apply s)]
  split
  · exact ⟨rfl, rfl⟩
  · exact ⟨rfl, rfl⟩

theorem handle_leads {s s' : Session V} (h : Beside s s') : Leads s.log (handle C s).2.log (handle C s').2.log := by
  obtain ⟨w, rfl, hbeside⟩ := h
  obtain ⟨acquired, hacquired⟩ := tryAcquire_returns s
  obtain ⟨hlog, hwire⟩ := tryAcquire_same s
  have hrun := eq_of_fst hacquired
  have hrun' := tryAcquire_wire w s
  rw [hacquired] at hrun'
  generalize (tryAcquire s).2 = s₁ at *
  cases acquired with
  | true =>
    have hnext : Beside s₁ (s₁.withWire w) := ⟨w, rfl, by rw [hwire]; exact hbeside⟩
    obtain ⟨tail, htail, hplain⟩ := authenticate_tail C s₁
    obtain ⟨tail', htail', hplain'⟩ := authenticate_tail C (s₁.withWire w)
    rw [handle_of_acquired C hrun, handle_of_acquired C hrun', releasePermit_log, releasePermit_log, htail, htail', ← hlog]
    exact (drive_leads C 3 hnext).append (unread_of_plain hplain) (unread_of_plain hplain')
  | false =>
    rw [handle_of_refused C hrun, handle_of_refused C hrun', ← hlog]
    obtain ⟨es, hes, hplain⟩ := emits_sendErrorMessage (V := V) ConnectionErrorInner.tooManyRequest.code
      ConnectionErrorInner.tooManyRequest.message s₁
    obtain ⟨fs, hfs, -⟩ := emits_sendErrorMessage (V := V) ConnectionErrorInner.tooManyRequest.code
      ConnectionErrorInner.tooManyRequest.message (s₁.withWire w)
    refine ⟨es, fs, hes, hfs, ?_⟩
    rw [plainPackets_unread (unread_of_plain hplain)]
    exact List.nil_prefix

theorem packets_lead {s : Session V} (hs : Fresh s) {w w' : Wire} (h : Wire.Beside [] [] w w') :
    plainPackets (handle C (s.withWire w)).2.log <+: plainPackets (handle C (s.withWire w')).2.log := by
  have hbeside : Beside (s.withWire w) (s.withWire w') := ⟨w', rfl, h⟩
  obtain ⟨es, fs, hes, hfs, hprefix⟩ := handle_leads C hbeside
  have hlog : (s.withWire w).log = [] := hs.log
  rw [hlog, List.nil_append] at hes hfs
  rw [hes, hfs]
  exact hprefix

/-- Two splittings give the same packets, up to where one of the runs was stopped. -/
theorem packets_resplit {s : Session V} (hs : Fresh s) {w w' : Wire} (h : Wire.Resplit s.conn.wire w)
    (h' : Wire.Resplit s.conn.wire w') :
    (plainPackets (handle C (s.withWire w)).2.log <+: plainPackets (handle C (s.withWire w')).2.log ∨
      plainPackets (handle C (s.withWire w')).2.log <+: plainPackets (handle C (s.withWire w)).2.log) ∧
      (w.Smooth → w'.Smooth →
        plainPackets (handle C (s.withWire w)).2.log = plainPackets (handle C (s.withWire w')).2.log) := by
  have harrived := Wire.resplit_arrived s.conn.wire
  have hsmooth : s.conn.wire.arrived.Smooth :=
    Wire.smooth_arrived (by rw [hs.reader]; decide) (by rw [hs.writer]; decide)
  constructor
  · -- both are the first packets of the run that has all the bytes at once
    exact List.prefix_or_prefix_of_prefix (packets_lead C hs (h.beside harrived hsmooth))
      (packets_lead C hs (h'.beside harrived hsmooth))
  · intro hw hw'
    have hprefix := packets_lead C hs (h.beside h' hw')
    exact hprefix.eq_of_length_le (packets_lead C hs (h'.beside h hw)).length_le

/-! ## Channel binding -/

/-- The states in which the driver reads a packet. -/
inductive Drives (s : Session V) : Session V → Prop
  | start : Drives s s
  | continued {t u : Session V} : Drives s t → handleStartup C t = (.ok .continued, u) → Drives s u

/-- `handle_startup_packet` was entered. -/
def entered (s : Session V) (body : Bytes) : Session V :=
  { s with
    log := s.log ++ [.packet body] ++ [.startup s.conn.wire.reader.inner.transport s.conn.wire.writer.inner]
    conn := { s.conn with protocolVersion := some PgClient.protocolVersionNumber } }

/-- In `u`, `handle_scram_auth` makes the authenticator. -/
inductive MakesScram (s : Session V) : Session V → ScramAuthenticator → Prop
  | made {t t₁ t₂ u : Session V} {body : Bytes} {message : MessageReader} {user : Str}
      {answer : Except ProviderError (Option Verifier)} {verifier : Verifier} :
      Drives C s t → readStartupPacket t = (.ok body, t₁) →
      (MessageReader.new body).readU32 = (.ok PgClient.protocolVersionNumber, message) →
      (t₁.conn.requiredTls = true → t₁.conn.sslDone = true) →
      applyStartupParams message (t₁.entered body) = (.ok (), t₂) → t₂.conn.user = some user →
      (lookup user : Proc (Session V) AuthFailure _) t₂ = (.ok answer, u) →
      verifierFor u.conn.provider user answer = .ok verifier → MakesScram s u (.new verifier (scramCertHash u.conn))

/-- A StartupMessage whose parameters are in place goes on to authenticate. -/
theorem handleStartup_entered {t t₁ t₂ : Session V} {body : Bytes} {message : MessageReader}
    (hread : readStartupPacket t = (.ok body, t₁))
    (hcode : (MessageReader.new body).readU32 = (.ok PgClient.protocolVersionNumber, message))
    (hguard : t₁.conn.requiredTls = true → t₁.conn.sslDone = true)
    (hparams : applyStartupParams message (t₁.entered body) = (.ok (), t₂)) :
    handleStartup C t = (do let clientKey ← handleAuthentication C; proceed C clientKey) t₂ := by
  have hlift (s : Session V) : (lift (.ok PgClient.protocolVersionNumber : Except ProxyError UInt32) >>= fun code =>
      dispatch C code message) s = dispatch C PgClient.protocolVersionNumber message s := rfl
  rw [handleStartup_read C hread]
  unfold answerPacket
  rw [hcode]
  dsimp only
  rw [hlift]
  unfold dispatch
  rw [if_neg (by decide), if_neg (by decide), if_neg (by decide), if_pos rfl, bind_of_ok (get_apply _),
    bind_of_ok (a := ()) (lift_eq_ok.mpr ⟨require_eq_ok.mpr hguard, rfl⟩)]
  exact bind_of_ok hparams _

/-- The exchange goes on with that authenticator. -/
theorem MakesScram.exchange {s u : Session V} {a : ScramAuthenticator} (h : MakesScram C s u a) :
    ∃ t user, Drives C s t ∧
      handleStartup C t = (do
        let result ← attempt (saslExchange C a user)
        let clientKey ← answerAuth result
        proceed C clientKey : Proc (Session V) ProxyError StartupOutCome) u := by
  cases h with
  | @made t t₁ t₂ _ body message user answer verifier hdrives hread hcode hguard hparams huser hlookup hverifier =>
    refine ⟨t, user, hdrives, ?_⟩
    have hlift : lift (okOr (t₂.conn.user.filter (· ≠ [])) noUserFailure) t₂ = (.ok user, t₂) := by
      obtain ⟨identity, hidentity, rfl⟩ := applyStartupParams_ok hparams
      cases huser
      obtain ⟨_, _, -, -, -, hnamed, -⟩ := readIdentity_ok.mp hidentity
      have hfilter := (Option.filter_eq_some_iff.mp (okOr_eq_ok.mp hnamed)).2
      exact lift_eq_ok.mpr ⟨okOr_eq_ok.mpr (Option.filter_eq_some_iff.mpr ⟨rfl, hfilter⟩), rfl⟩
    have hscram : handleScramAuth C t₂ = saslExchange C (.new verifier (scramCertHash u.conn)) user u := by
      unfold handleScramAuth
      rw [bind_of_ok (get_apply t₂), bind_of_ok hlift, bind_of_ok hlookup, bind_of_ok (get_apply u),
        bind_of_ok (lift_eq_ok.mpr ⟨hverifier, rfl⟩)]
    rw [handleStartup_entered C hread hcode hguard hparams]
    unfold handleAuthentication
    rw [Proc.bind_assoc, attempt_bind_congr hscram]

theorem Drives.secured {s t : Session V} (h : Drives C s t) (hs : Secured s) :
    Secured t ∧ t.conn.frontendTls = s.conn.frontendTls := by
  induction h with
  | start => exact ⟨hs, rfl⟩
  | @continued t u _ hrun ih =>
    obtain ⟨hsecured, hsame⟩ := ih
    obtain ⟨es, -, hstep⟩ := handleStartup_log C t
    rw [hrun] at hstep
    cases hstep with
    | encryption _ henc => exact ⟨henc.secured hsecured, henc.settled.frontendTls.trans hsame⟩
    | unread hne => exact absurd rfl hne
    | ended hne => exact absurd rfl hne
    | startup hne => exact absurd rfl hne

/-- A certificate hash is the one of the tunnel. -/
theorem MakesScram.certHash {s u : Session V} {a : ScramAuthenticator} (hs : Fresh s) (h : MakesScram C s u a) {hash : CertHash}
    (hhash : a.certHash = some hash) :
    u.conn.wire.reader.inner.transport = .tls ∧ u.conn.wire.writer.inner = .tls ∧
      ∃ tls, s.conn.frontendTls = some tls ∧ u.conn.frontendTls = some tls ∧ tls.certHash = some hash := by
  obtain ⟨hdrives, hread, -, -, hparams, -, hlookup, -⟩ := h
  obtain ⟨hsecured, hsame⟩ := hdrives.secured C fun hssl => by rw [hs.sslDone] at hssl; cases hssl
  obtain ⟨identity, -, rfl⟩ := applyStartupParams_ok hparams
  have hfirst := ((keeps_readStartupPacket : Keeps Silent _).run hread).1
  have hlast := ((keeps_lookup fun _ => trivial : Keeps (Extends fun _ => True) _).run hlookup).1
  have htls : u.conn.frontendTls = s.conn.frontendTls := hlast.frontendTls.trans (hfirst.frontendTls.trans hsame)
  have hdone : u.conn.sslDone = true ∧ u.conn.frontendTls.bind (·.certHash) = some hash := by
    change scramCertHash u.conn = some hash at hhash
    unfold scramCertHash at hhash
    split at hhash
    · exact ⟨‹_›, hhash⟩
    · cases hhash
  obtain ⟨hssl, hbind⟩ := hdone
  obtain ⟨tls, hsome, hcert⟩ := Option.bind_eq_some_iff.mp hbind
  obtain ⟨hreader, hwriter⟩ := hsecured ((hlast.sslDone.trans hfirst.sslDone) ▸ hssl) (by rw [hsame, ← htls, hsome]; rfl)
  exact ⟨hlast.reader.trans (hfirst.reader.trans hreader), hlast.writer.trans (hfirst.writer.trans hwriter), tls,
    htls ▸ hsome, hsome, hcert⟩

/-- The authenticator of a session offers channel binding with the certificate of the
    session's own tunnel. -/
theorem MakesScram.binds {s u : Session V} {a : ScramAuthenticator} (hs : Fresh s) (h : MakesScram C s u a) :
    (Scram.plus ∈ a.mechanisms ↔ ∃ hash, a.certHash = some hash) ∧
      ∀ hash, a.certHash = some hash →
        u.conn.wire.reader.inner.transport = .tls ∧ u.conn.wire.writer.inner = .tls ∧
          ∃ tls, s.conn.frontendTls = some tls ∧ u.conn.frontendTls = some tls ∧ tls.certHash = some hash := by
  refine ⟨?_, fun hash hhash => h.certHash C hs hhash⟩
  unfold ScramAuthenticator.mechanisms
  rw [← Option.isSome_iff_exists]
  by_cases hsome : a.certHash.isSome = true
  · simp [hsome]
  · simp only [hsome]
    decide

/-! ## The encryption requests -/

/-- The packets before a promotion are those of the bytes; behind it nothing is left of
    what came before the handshake, and behind a declined request everything; and channel
    binding is offered on the tunnel whose certificate it is for. -/
theorem tls_promotion_is_clean {s : Session V} (hs : Fresh s) :
    (∀ w w', Wire.Resplit s.conn.wire w → Wire.Resplit s.conn.wire w' →
      (plainPackets (handle C (s.withWire w)).2.log <+: plainPackets (handle C (s.withWire w')).2.log ∨
        plainPackets (handle C (s.withWire w')).2.log <+: plainPackets (handle C (s.withWire w)).2.log) ∧
      (w.Smooth → w'.Smooth →
        plainPackets (handle C (s.withWire w)).2.log = plainPackets (handle C (s.withWire w')).2.log)) ∧
    (∀ (t t' : Session V) (tls : FrontendTls) (u : Unit), t.conn.frontendTls = some tls → handleSslRequest t = (.ok u, t') →
      (∃ chunks, tls.acceptor t.conn.wire.reader.inner.chunks = some chunks ∧
        t'.conn.wire.reader = { buf := [], inner := { transport := .tls, chunks } }) ∧
      ∀ buf, handleSslRequest (t.withBuffered buf) = (.ok u, t')) ∧
    (∀ t : Session V, t.conn.frontendTls = none → (handleSslRequest t).2.conn.wire.reader = t.conn.wire.reader) ∧
    (∀ t : Session V, (handleGssncRequest t).2.conn.wire.reader = t.conn.wire.reader) ∧
    ∀ u a, MakesScram C s u a →
      (Scram.plus ∈ a.mechanisms ↔ ∃ hash, a.certHash = some hash) ∧
        ∀ hash, a.certHash = some hash →
          u.conn.wire.reader.inner.transport = .tls ∧ u.conn.wire.writer.inner = .tls ∧
            ∃ tls, s.conn.frontendTls = some tls ∧ u.conn.frontendTls = some tls ∧ tls.certHash = some hash := by
  refine ⟨fun w w' h h' => packets_resplit C hs h h', fun t t' tls u htls hrun => ?_, fun t h => handleSslRequest_reader h,
    handleGssncRequest_reader, fun u a h => h.binds C hs⟩
  exact ⟨handleSslRequest_tunnel htls hrun, handleSslRequest_buffered (by rw [htls]; rfl) hrun⟩

end Provider

end Session

/-! ## A connection that asks for both kinds of encryption -/

namespace Sample

open Session

def tunnelHash : CertHash := ⟨.sha256, List.replicate 32 9, by decide⟩

/-- What the handshake reads is what comes out of the tunnel. -/
def tunnel : FrontendTls := ⟨some, some tunnelHash⟩

def gssRequest : Bytes := packet gssencRequestCode []
def sslRequest : Bytes := packet sslRequestCode []

/-- Both requests come at once, then Alice's message. -/
def asking : Session (CredentialStore crypto) := requiring (some tunnel) [gssRequest ++ sslRequest, alice]

theorem fresh_asking : Fresh asking := fresh_requiring _ _

/-- The same bytes, and the first request in two pieces. -/
def inPieces : Wire :=
  let w := asking.conn.wire
  { w with
    reader := { buf := gssRequest.take 3, inner := { w.reader.inner with chunks := [gssRequest.drop 3, sslRequest, alice] } } }

theorem smooth_asking : asking.conn.wire.Smooth :=
  ⟨fun _ => ⟨8192, by decide, rfl⟩, by decide, by decide, by decide⟩

theorem smooth_inPieces : inPieces.Smooth := ⟨fun _ => ⟨8192, by decide, rfl⟩, by decide, by decide, by decide⟩

theorem resplit_inPieces : Wire.Resplit asking.conn.wire inPieces := ⟨by decide, rfl, rfl, rfl⟩

/-- The sessions in which the second and the third packet are read. -/
def askingAgain : Session (CredentialStore crypto) := (handleStartup crypto asking).2
def tunneled : Session (CredentialStore crypto) := (handleStartup crypto askingAgain).2

/-- Alice is looked up. -/
def aliceEntered : Session (CredentialStore crypto) :=
  (applyStartupParams ((MessageReader.new (alice.drop 4)).readU32).2 ((readStartupPacket tunneled).2.entered (alice.drop 4))).2

def aliceLookedUp : Session (CredentialStore crypto) := ((lookup "alice" : Proc _ AuthFailure _) aliceEntered).2

theorem aliceLookedUp_makes : MakesScram crypto asking aliceLookedUp (.new aliceVerifier (some tunnelHash)) := by
  have hmakes : MakesScram crypto asking aliceLookedUp (.new aliceVerifier (scramCertHash aliceLookedUp.conn)) :=
    .made (.continued (.continued .start (eq_of_fst (by decide +kernel : (handleStartup crypto asking).1 = .ok .continued)))
      (eq_of_fst (by decide +kernel : (handleStartup crypto askingAgain).1 = .ok .continued)))
      (eq_of_fst (by decide +kernel : (readStartupPacket tunneled).1 = .ok (alice.drop 4)))
      (Prod.ext (by decide +kernel) rfl) (by decide +kernel) (eq_of_fst (by decide +kernel)) (by decide +kernel)
      (eq_of_fst (by decide +kernel :
        ((lookup "alice" : Proc _ AuthFailure _) aliceEntered).1 = .ok (.ok (some aliceVerifier)))) rfl
  have hhash : scramCertHash aliceLookedUp.conn = some tunnelHash := by decide +kernel
  rw [hhash] at hmakes
  exact hmakes

end Sample

namespace Session

theorem tls_promotion_is_clean_asking :
    plainPackets (handle Sample.crypto (Sample.asking.withWire Sample.inPieces)).2.log =
        plainPackets (handle Sample.crypto (Sample.asking.withWire Sample.asking.conn.wire)).2.log ∧
      (handleSslRequest (Sample.asking.withBuffered Sample.sslRequest)).2.conn.wire.reader =
        { buf := [], inner := { transport := .tls, chunks := Sample.asking.conn.wire.reader.inner.chunks } } ∧
      (handleSslRequest Sample.declined).2.conn.wire.reader = Sample.declined.conn.wire.reader ∧
      (handleGssncRequest Sample.asking).2.conn.wire.reader = Sample.asking.conn.wire.reader ∧
      Sample.aliceLookedUp.conn.wire.reader.inner.transport = .tls := by
  obtain ⟨hpackets, hpromotion, hdeclined, hgss, hbinding⟩ := tls_promotion_is_clean Sample.crypto Sample.fresh_asking
  refine ⟨?_, ?_, hdeclined _ rfl, hgss _, ?_⟩
  · exact (hpackets _ _ Sample.resplit_inPieces ⟨rfl, rfl, rfl, rfl⟩).2 Sample.smooth_inPieces Sample.smooth_asking
  · obtain ⟨⟨chunks, haccept, hreader⟩, hbuffered⟩ := hpromotion Sample.asking _ Sample.tunnel () rfl
      (eq_of_fst (by decide +kernel))
    rw [hbuffered Sample.sslRequest]
    cases haccept
    exact hreader
  · exact ((hbinding _ _ Sample.aliceLookedUp_makes).2 Sample.tunnelHash rfl).1

end Session

end Wirechaos
