/-
  Wirechaos.Conn.PiecesProofs — a session and the pieces its bytes come in (see
  `Wirechaos.Wire.Progress`, `Wirechaos.Lib.TwoRuns`).

  On smooth connections the outcome of a read depends on the bytes that are still to come
  and on nothing else, whether there are enough of them or not (`agree_readExact`), and
  writes cannot be told apart by what they have handed out (`agree_writeAll`). A session
  without TLS touches its connection through these only. So two connections that hold the
  same bytes, whatever the sizes of the reads and the short writes, make for one run of
  `handle`: one outcome, one log, one state but for the connection, and the same bytes to
  the client (`pieces_make_no_difference`).
-/

import Wirechaos.Conn.PromotionProofs
import Wirechaos.Wire.WriteProofs

namespace Wirechaos

open Text Async Proc

/-! ## Two connections -/

namespace Wire

/-- Nothing stops either connection; they hold the same bytes and have taken the same. -/
structure Matches (w w' : Wire) : Prop where
  smooth : Smooth w
  smooth' : Smooth w'
  input : w'.input = w.input
  output : w'.output = w.output
  reader : w'.reader.inner.transport = w.reader.inner.transport
  writer : w'.writer.inner = w.writer.inner

theorem matches_of_resplit {w v v' : Wire} (h : Resplit w v) (h' : Resplit w v') (hv : Smooth v) (hv' : Smooth v') :
    Matches v v' := by
  refine ⟨hv, hv', h'.input.trans h.input.symm, ?_, h'.transport.trans h.transport.symm, ?_⟩
  · rw [output, output, h.sent, h.writer, h'.sent, h'.writer]
  · rw [h'.writer, h.writer]

/-- On an exhausted connection the socket read brings nothing. -/
theorem fillBuf_exhausted {w : Wire} (h : Smooth w) (hbuf : w.reader.buf = []) (hinput : w.input = []) :
    ∃ w', fillBuf w = (.ok (), w') ∧ Smooth w' ∧ w'.reader.buf = [] ∧ w'.input = [] := by
  obtain ⟨n, -, hawait⟩ := await_smooth h
  cases hchunks : w.reader.inner.chunks with
  | nil =>
    refine ⟨{ w with tick := w.tick + 1 }, ?_, ⟨h.ready, h.reader, h.writer, h.chunks⟩, hbuf, hinput⟩
    unfold fillBuf
    rw [bind_of_ok (get_apply w), if_neg h.reader, bind_of_ok hawait, modify_apply, hchunks]
  | cons chunk chunks =>
    have hall := h.chunks
    rw [hchunks, List.forall_mem_cons] at hall
    simp only [input, hbuf, hchunks, List.nil_append, List.flatten_cons, List.append_eq_nil_iff] at hinput
    exact absurd hinput.1 hall.1

/-- A read that is not satisfied takes all there is. -/
theorem readExactFrom_short {fuel n : Nat} {acc : Bytes} {w : Wire} (h : Smooth w) (hn : w.input.length < n)
    (hfuel : n < fuel ∨ w.reader.buf ≠ [] ∧ n ≤ fuel) :
    ∃ w', readExactFrom fuel n acc w = (.err .unexpectedEof, w') ∧ Smooth w' ∧ w'.input = [] := by
  induction fuel generalizing n acc w with
  | zero => omega
  | succ fuel ih =>
    have hbuf : w.reader.buf.length ≤ w.input.length := by
      rw [input, List.length_append]
      omega
    unfold readExactFrom
    rw [bind_of_ok (get_apply w), bind_of_ok (modify_apply _ w), if_neg (by omega)]
    have hdrop : w.reader.buf.drop n = [] := List.drop_of_length_le (by omega)
    have hlength : w.input.length = w.reader.buf.length +
        (input { w with reader := { w.reader with buf := w.reader.buf.drop n } }).length := by
      simp [input, hdrop]
    have hsmooth : Smooth { w with reader := { w.reader with buf := w.reader.buf.drop n } } :=
      ⟨h.ready, h.reader, h.writer, h.chunks⟩
    have hempty : ({ w with reader := { w.reader with buf := w.reader.buf.drop n } } : Wire).reader.buf = [] := hdrop
    generalize ({ w with reader := { w.reader with buf := w.reader.buf.drop n } } : Wire) = w₀ at hlength hsmooth hempty ⊢
    by_cases hinput : w₀.input = []
    · obtain ⟨w', hfill, hsmooth', hbuf', hinput'⟩ := fillBuf_exhausted hsmooth hempty hinput
      rw [bind_of_ok hfill, bind_of_ok (get_apply w'), if_pos hbuf']
      exact ⟨w', rfl, hsmooth', hinput'⟩
    · obtain ⟨w', hfill, hsmooth', hbuf'⟩ := fillBuf_smooth hsmooth hempty hinput
      obtain ⟨hkept, -⟩ := fillBuf_ok hfill hempty
      rw [bind_of_ok hfill, bind_of_ok (get_apply w'), if_neg hbuf']
      apply ih hsmooth'
      · rw [hkept]
        omega
      · right
        refine ⟨hbuf', ?_⟩
        rcases hfuel with hfuel | ⟨hne, hfuel⟩
        · omega
        · have := List.length_pos_iff.mpr hne
          omega

theorem readExact_short {n : Nat} {w : Wire} (h : Smooth w) (hn : w.input.length < n) :
    ∃ w', readExact n w = (.err .unexpectedEof, w') ∧ Smooth w' ∧ w'.input = [] :=
  readExactFrom_short h hn (Or.inl (Nat.lt_succ_self n))

theorem agree_readExact (n : Nat) : Agree Matches Matches (readExact n) (readExact n) := by
  intro w w' h
  have hmute := mute_readExact n w
  have hmute' := mute_readExact n w'
  have hstable := keeps_readExact n w
  have hstable' := keeps_readExact n w'
  have hrest (hsmooth : Smooth (readExact n w).2) (hsmooth' : Smooth (readExact n w').2)
      (hinput : (readExact n w').2.input = (readExact n w).2.input) : Matches (readExact n w).2 (readExact n w').2 := by
    refine ⟨hsmooth, hsmooth', hinput, ?_, ?_, ?_⟩
    · rw [hmute'.output, hmute.output, h.output]
    · rw [hstable'.reader, hstable.reader, h.reader]
    · rw [hstable'.writer, hstable.writer, h.writer]
  by_cases hle : n ≤ w.input.length
  · obtain ⟨bytes, t, hrun, hsmooth⟩ := readExact_smooth h.smooth hle
    obtain ⟨bytes', t', hrun', hsmooth'⟩ := readExact_smooth h.smooth' (n := n) (by rw [h.input]; exact hle)
    obtain ⟨hlen, hin, -⟩ := readExact_ok hrun
    obtain ⟨hlen', hin', -⟩ := readExact_ok hrun'
    rw [h.input, hin] at hin'
    obtain ⟨hbytes, hinput⟩ := List.append_inj hin' (by omega)
    rw [hrun, hrun'] at hrest ⊢
    exact ⟨by rw [hbytes], hrest hsmooth hsmooth' hinput.symm⟩
  · obtain ⟨t, hrun, hsmooth, hinput⟩ := readExact_short h.smooth (n := n) (by omega)
    obtain ⟨t', hrun', hsmooth', hinput'⟩ := readExact_short h.smooth' (n := n) (by rw [h.input]; omega)
    rw [hrun, hrun'] at hrest ⊢
    exact ⟨rfl, hrest hsmooth hsmooth' (hinput'.trans hinput.symm)⟩

/-- A write that reads nothing and hands out its data. -/
theorem agree_write {x : Proc Wire IoError Unit} (data : Bytes) (hsmooth : Proceeds Smooth x fun _ => Smooth)
    (hstable : Keeps Stable x)
    (hok : ∀ w w' u, x w = (.ok u, w') → w'.output = w.output ++ data ∧ w'.input = w.input) : Agree Matches Matches x x := by
  intro w w' h
  obtain ⟨u, t, hrun, hs⟩ := hsmooth w h.smooth
  obtain ⟨u', t', hrun', hs'⟩ := hsmooth w' h.smooth'
  obtain ⟨hout, hin⟩ := hok w t u hrun
  obtain ⟨hout', hin'⟩ := hok w' t' u' hrun'
  have hends := hstable.run hrun
  have hends' := hstable.run hrun'
  rw [hrun, hrun']
  refine ⟨rfl, hs, hs', ?_, ?_, ?_, ?_⟩
  · rw [hin', hin, h.input]
  · rw [hout', hout, h.output]
  · rw [hends'.reader, hends.reader, h.reader]
  · rw [hends'.writer, hends.writer, h.writer]

theorem agree_writeAll (data : Bytes) : Agree Matches Matches (writeAll data) (writeAll data) :=
  agree_write data (proceeds_writeAll data) (keeps_writeAll data) fun _ _ _ h => writeAll_ok h

theorem agree_flush : Agree Matches Matches flush flush := by
  refine agree_write [] proceeds_flush keeps_flush fun w w' u h => ?_
  obtain ⟨hsent, hbuf, hin⟩ := flush_ok h
  exact ⟨by simp only [output, hsent, hbuf, List.append_nil], hin⟩

end Wire

/-! ## Two sessions -/

namespace Session

variable (C : Crypto) {V ε : Type}

/-- One session without TLS on two connections. -/
structure Matches (s s' : Session V) : Prop where
  plain : s.conn.frontendTls = none
  wires : ∃ w, s' = s.withWire w ∧ Wire.Matches s.conn.wire w

/-- What does not look at the connection is the same in both. -/
theorem Matches.same {β : Type} {s s' : Session V} (h : Matches s s') {f : Session V → β}
    (hf : ∀ (s : Session V) w, f (s.withWire w) = f s) : f s' = f s := by
  obtain ⟨w, rfl, -⟩ := h.wires
  exact hf s w

/-- Two runs of one computation on matching sessions cannot be told apart. -/
abbrev Splits {α : Type} (x : Proc (Session V) ε α) : Prop := Agree Matches Matches x x

theorem splits_get {β : Type} {f : Session V → Proc (Session V) ε β} (hsame : ∀ (s : Session V) w, f (s.withWire w) = f s)
    (hf : ∀ s : Session V, s.conn.frontendTls = none → Splits (f s)) : Splits (get >>= f) :=
  agree_get (fun _ _ h => h.same hsame) fun s _ h => hf s h.plain

/-- An update that neither looks at the connection nor touches it. -/
theorem splits_modify {f : Session V → Session V} (hwire : ∀ s w, f (s.withWire w) = (f s).withWire w)
    (hsame : ∀ s, (f s).conn.wire = s.conn.wire ∧ (f s).conn.frontendTls = s.conn.frontendTls) :
    Splits (modify f : Proc (Session V) ε Unit) := by
  refine agree_modify fun s s' h => ?_
  obtain ⟨w, rfl, hw⟩ := h.wires
  obtain ⟨hconn, htls⟩ := hsame s
  exact ⟨htls.trans h.plain, w, hwire s w, hconn ▸ hw⟩

theorem splits_emit (e : Event) : Splits (emit e : Proc (Session V) ε Unit) :=
  splits_modify (fun _ _ => rfl) fun _ => ⟨rfl, rfl⟩

theorem splits_interfere : Splits (modify interfere : Proc (Session V) ε Unit) :=
  splits_modify (fun _ _ => rfl) fun _ => ⟨rfl, rfl⟩

theorem splits_suspend : Splits (suspend (V := V) (ε := ε)) :=
  splits_get (fun _ _ => rfl) fun _ _ => agree_then splits_interfere fun _ => agree_ite (agree_drop _) (agree_pure _)

theorem splits_io {α : Type} {x : Proc Wire IoError α} (hx : Agree Wire.Matches Wire.Matches x x) : Splits (io (V := V) x) := by
  refine agree_then splits_interfere fun _ => agree_mapErr _ fun s s' h => ?_
  obtain ⟨w, rfl, hw⟩ := h.wires
  obtain ⟨hout, hstate⟩ := hx s.conn.wire w hw
  rw [zoom_apply, zoom_apply]
  exact ⟨hout, h.plain, (x w).2, rfl, hstate⟩

/-! ## Reading and writing -/

theorem splits_readMessageLength : Splits (readMessageLength (V := V)) :=
  agree_then (agree_mapErr _ (splits_io (Wire.agree_readExact 4))) fun _ => agree_lift _

theorem splits_readMessageBody (n : Nat) : Splits (readMessageBody (V := V) n) := by
  refine splits_get (fun _ _ => rfl) fun s _ => agree_ite (agree_pure _) (agree_ite (agree_throw _) ?_)
  exact agree_then (agree_mapErr _ (splits_io (Wire.agree_readExact _))) fun _ => agree_pure _

theorem splits_readStartupPacket : Splits (readStartupPacket (V := V)) := by
  refine agree_then splits_readMessageLength fun _ => splits_get (fun _ _ => rfl) fun _ _ => ?_
  exact agree_then (agree_lift _) fun _ => agree_then (splits_readMessageBody _) fun _ => agree_lift _

theorem splits_writeMessage (tag : UInt8) (body : Bytes) : Splits (writeMessage (V := V) tag body) := by
  have hwrite (data : Bytes) : Splits (io (V := V) (Wire.writeAll data)) := splits_io (Wire.agree_writeAll data)
  refine agree_then (splits_emit _) fun _ => agree_then (hwrite _) fun _ => agree_then (hwrite _) fun _ => ?_
  exact agree_then (hwrite _) fun _ => splits_io Wire.agree_flush

theorem splits_writeReply (answer : UInt8) : Splits (writeReply (V := V) answer) := by
  refine agree_then (splits_emit _) fun _ => agree_mapErr _ ?_
  exact agree_then (splits_io (Wire.agree_writeAll _)) fun _ => splits_io Wire.agree_flush

/-! ## Authentication -/

theorem splits_sendAuthMessage (code : UInt32) (data : Bytes) :
    Splits (mapErr AuthFailure.internal (sendAuthMessage (V := V) code data)) :=
  agree_mapErr _ (splits_writeMessage _ _)

theorem splits_readSaslResponse : Splits (readSaslResponse (V := V)) := by
  refine agree_then (agree_mapErr _ (splits_io (Wire.agree_readExact 1))) fun _ => agree_then (agree_lift _) fun _ => ?_
  refine agree_then (agree_mapErr _ splits_readMessageLength) fun _ => agree_then (agree_lift _) fun _ => ?_
  refine agree_then (agree_mapErr _ (splits_readMessageBody _)) fun _ => agree_then (agree_lift _) fun _ => ?_
  exact agree_then (splits_emit _) fun _ => agree_pure _

theorem splits_drawServerNonce : Splits (drawServerNonce (V := V) (ε := ε)) :=
  splits_get (fun _ _ => rfl) fun _ _ => agree_then (splits_modify (fun _ _ => rfl) fun _ => ⟨rfl, rfl⟩) fun _ => agree_pure _

theorem splits_saslExchange (scram : ScramAuthenticator) (user : Str) : Splits (saslExchange (V := V) C scram user) := by
  refine agree_then (splits_sendAuthMessage _ _) fun _ => ?_
  refine agree_then (agree_then splits_readSaslResponse fun _ => agree_lift _) fun _ => ?_
  refine agree_then splits_drawServerNonce fun _ => agree_then (agree_lift _) fun _ => ?_
  refine agree_then (splits_sendAuthMessage _ _) fun _ => ?_
  refine agree_then (agree_then splits_readSaslResponse fun _ => agree_lift _) fun _ => agree_then (agree_lift _) fun _ => ?_
  exact agree_then (splits_sendAuthMessage _ _) fun _ => agree_then (splits_sendAuthMessage _ _) fun _ => agree_pure _

section Provider

variable [VerifierProvider V]

theorem splits_lookup (user : Str) : Splits (lookup (V := V) (ε := ε) user) := by
  refine agree_then splits_suspend fun _ => splits_get (fun _ _ => rfl) fun s _ => ?_
  refine agree_then (splits_modify (fun _ _ => rfl) fun _ => ⟨rfl, rfl⟩) fun _ => ?_
  exact agree_then (splits_emit _) fun _ => agree_pure _

theorem splits_handleScramAuth : Splits (handleScramAuth (V := V) C) := by
  refine splits_get (fun _ _ => rfl) fun _ _ => agree_then (agree_lift _) fun user => agree_then (splits_lookup user) fun _ => ?_
  exact splits_get (fun _ _ => rfl) fun _ _ => agree_then (agree_lift _) fun _ => splits_saslExchange C _ _

theorem splits_handleAuthentication : Splits (handleAuthentication (V := V) C) := by
  refine agree_then (agree_attempt (splits_handleScramAuth C)) fun result => ?_
  rcases result with ⟨e | e⟩ | clientKey
  · exact agree_then (agree_mapErr _ (splits_writeMessage _ _)) fun _ => agree_pure _
  · exact agree_throw _
  · exact agree_pure _

end Provider

/-! ## The link -/

theorem splits_registerBackend (backend : Backend) : Splits (registerBackend (V := V) backend) := by
  refine splits_get (fun _ _ => rfl) fun s _ => agree_then (splits_modify (fun _ _ => rfl) fun _ => ⟨rfl, rfl⟩) fun _ => ?_
  exact agree_then (agree_lift _) fun _ => splits_modify (fun _ _ => rfl) fun _ => ⟨rfl, rfl⟩

theorem splits_sendNotifications (notifications : List StartupNotification) :
    Splits (sendNotifications (V := V) notifications) := by
  induction notifications with
  | nil => exact agree_pure _
  | cons notification rest ih => exact agree_then (agree_mapErr _ (splits_writeMessage _ _)) fun _ => ih

theorem splits_startSession (backend : Backend) : Splits (startSession (V := V) backend) := by
  refine agree_then (splits_registerBackend backend) fun _ => agree_then ?_ fun _ =>
    agree_then ?_ fun _ => agree_then ?_ fun _ => ?_
  · exact splits_get (fun _ _ => rfl) fun _ _ => agree_then (agree_lift _) fun _ => splits_sendNotifications _
  · exact splits_get (fun _ _ => rfl) fun _ _ => agree_then (agree_lift _) fun _ => agree_mapErr _ (splits_writeMessage _ _)
  · exact splits_get (fun _ _ => rfl) fun _ _ => agree_mapErr _ (splits_writeMessage _ _)
  · exact agree_pure _

theorem splits_openLink (config : PgConfig) : Splits (openLink (V := V) C config) := by
  refine splits_get (fun _ _ => rfl) fun s _ => agree_then (splits_emit _) fun _ => ?_
  refine agree_then ?_ fun _ => agree_then splits_interfere fun _ => agree_pure _
  refine agree_zoom _ (fun _ _ h => ?_) fun _ _ _ h => h
  exact (h.same (f := fun s => PgClient.fresh s.conn.pool s.world.link) fun _ _ => rfl).symm

/-! ## The packets -/

/-- Without TLS an SSLRequest is declined. -/
theorem splits_handleSslRequest : Splits (handleSslRequest (V := V)) := by
  refine splits_get (fun _ _ => rfl) fun s hplain => agree_then (agree_lift _) fun _ => ?_
  refine agree_then (splits_modify (fun _ _ => rfl) fun _ => ⟨rfl, rfl⟩) fun _ => ?_
  rw [hplain]
  exact splits_writeReply _

theorem splits_handleGssncRequest : Splits (handleGssncRequest (V := V)) := by
  refine splits_get (fun _ _ => rfl) fun s _ => agree_then (agree_lift _) fun _ => ?_
  exact agree_then (splits_modify (fun _ _ => rfl) fun _ => ⟨rfl, rfl⟩) fun _ => splits_writeReply _

theorem splits_handleCancelRequest (message : MessageReader) : Splits (handleCancelRequest (V := V) message) := by
  refine agree_then (agree_lift _) fun key => splits_get (fun _ _ => rfl) fun s _ => ?_
  unfold forwardCancel
  split
  · exact agree_pure _
  · refine agree_then splits_interfere fun _ => agree_then (agree_attempt ?_) fun _ => agree_pure _
    refine agree_zoom _ (fun _ _ h => (h.same fun _ _ => rfl).symm) fun s s' t h => ?_
    obtain ⟨w, rfl, hw⟩ := h.wires
    exact ⟨h.plain, w, rfl, hw⟩

theorem splits_applyStartupParams (message : MessageReader) : Splits (applyStartupParams (V := V) message) := by
  have hset {f : Session V → Session V} (hwire : ∀ s w, f (s.withWire w) = (f s).withWire w)
      (hsame : ∀ s, (f s).conn.wire = s.conn.wire ∧ (f s).conn.frontendTls = s.conn.frontendTls) :
      Splits (modify f : Proc (Session V) ProxyError Unit) := splits_modify hwire hsame
  refine splits_get (fun _ _ => rfl) fun s _ => agree_then (hset (fun _ _ => rfl) fun _ => ⟨rfl, rfl⟩) fun _ => ?_
  refine agree_then (agree_lift _) fun _ => agree_then (agree_lift _) fun _ => agree_then (agree_lift _) fun _ => ?_
  refine agree_then (hset (fun _ _ => rfl) fun _ => ⟨rfl, rfl⟩) fun _ => agree_then (agree_lift _) fun _ => ?_
  refine agree_then (hset (fun _ _ => rfl) fun _ => ⟨rfl, rfl⟩) fun _ => agree_then (agree_lift _) fun _ => ?_
  exact hset (fun _ _ => rfl) fun _ => ⟨rfl, rfl⟩

section Provider

variable [VerifierProvider V]

theorem splits_proceed (clientKey : Option Bytes) : Splits (proceed (V := V) C clientKey) := by
  cases clientKey with
  | none => exact agree_pure _
  | some clientKey =>
    refine splits_get (fun _ _ => rfl) fun _ _ => agree_then (agree_lift _) fun user => ?_
    refine agree_then (agree_lift _) fun database => ?_
    refine agree_then (splits_lookup user) fun answer => agree_then (agree_lift _) fun verifier => ?_
    refine splits_get (fun _ _ => rfl) fun _ _ => agree_then (agree_lift _) fun address => ?_
    exact agree_then (agree_mapErr _ (splits_openLink C _)) fun backend => splits_startSession backend

theorem splits_handleStartupPacket (version : UInt32) (message : MessageReader) :
    Splits (handleStartupPacket (V := V) C version message) := by
  refine agree_get (fun s s' h => ?_) fun s _ _ => agree_then (splits_emit _) fun _ => ?_
  · -- the log names the transports, which are the same
    obtain ⟨w, rfl, hw⟩ := h.wires
    show (emit (.startup w.reader.inner.transport w.writer.inner) >>= _) = _
    rw [hw.reader, hw.writer]
  · refine agree_then (splits_modify (fun _ _ => rfl) fun _ => ⟨rfl, rfl⟩) fun _ => ?_
    refine agree_then (splits_applyStartupParams _) fun _ => agree_then (splits_handleAuthentication C) fun _ => ?_
    exact splits_proceed C _

theorem splits_dispatch (code : UInt32) (message : MessageReader) : Splits (dispatch (V := V) C code message) := by
  refine agree_ite ?_ (agree_ite ?_ (agree_ite ?_ (agree_ite ?_ (agree_throw _))))
  · exact agree_then splits_handleSslRequest fun _ => agree_pure _
  · exact agree_then splits_handleGssncRequest fun _ => agree_pure _
  · exact agree_then (splits_handleCancelRequest message) fun _ => agree_pure _
  · refine splits_get (fun _ _ => rfl) fun s _ => agree_then (agree_lift _) fun _ => ?_
    exact splits_handleStartupPacket C code message

theorem splits_handleStartup : Splits (handleStartup (V := V) C) := by
  refine agree_then splits_readStartupPacket fun body => agree_then (splits_emit _) fun _ => ?_
  exact agree_then (agree_lift _) fun code => splits_dispatch C code _

/-! ## The driver -/

theorem splits_driveFrom (fuel : Nat) : Splits (driveFrom (V := V) C fuel) := by
  induction fuel with
  | zero => exact agree_pure _
  | succ fuel ih =>
    refine agree_then (agree_attempt (splits_handleStartup C)) fun result => ?_
    rcases result with ⟨e | e⟩ | ⟨_ | _ | _⟩
    · exact agree_throw _
    · exact splits_writeMessage _ _
    · exact ih
    · exact agree_pure _
    · exact agree_pure _

theorem splits_authenticate : Splits (authenticate (V := V) C) := by
  refine agree_then (agree_timeout (splits_driveFrom C 3)) fun result => ?_
  rcases result with _ | e | ⟨⟩
  · exact splits_writeMessage _ _
  · exact agree_throw _
  · exact agree_pure _

theorem splits_handle : Splits (handle (V := V) C) := by
  refine agree_then ?_ fun acquired => agree_ite ?_ (splits_writeMessage _ _)
  · refine splits_get (fun _ _ => rfl) fun s _ => agree_ite (agree_pure _) ?_
    exact agree_then (splits_modify (fun _ _ => rfl) fun _ => ⟨rfl, rfl⟩) fun _ => agree_pure _
  · refine agree_ensure (splits_authenticate C) fun s s' h => ?_
    obtain ⟨w, rfl, hw⟩ := h.wires
    exact ⟨h.plain, w, rfl, hw⟩

/-- How the client's bytes are cut up, how much of them is read at once and how much a
    write takes at a time make no difference to a session without TLS: not to its outcome,
    nor to what it leaves behind, nor to the bytes the client gets. -/
theorem pieces_make_no_difference {s : Session V} (hplain : s.conn.frontendTls = none) {w w' : Wire}
    (h : Wire.Resplit s.conn.wire w) (h' : Wire.Resplit s.conn.wire w') (hw : w.Smooth) (hw' : w'.Smooth) :
    ∃ v, handle C (s.withWire w') = ((handle C (s.withWire w)).1, (handle C (s.withWire w)).2.withWire v) ∧
      v.input = (handle C (s.withWire w)).2.conn.wire.input ∧ v.output = (handle C (s.withWire w)).2.conn.wire.output := by
  have hmatches : Matches (s.withWire w) (s.withWire w') := ⟨hplain, w', rfl, Wire.matches_of_resplit h h' hw hw'⟩
  obtain ⟨hout, hend⟩ := splits_handle C _ _ hmatches
  obtain ⟨v, hv, hvmatches⟩ := hend.wires
  exact ⟨v, Prod.ext hout.symm hv, hvmatches.input, hvmatches.output⟩

end Provider

end Session

namespace Sample

open Session

/-- Alice's bytes come in three pieces, and no write takes more than three bytes. -/
def trickle : Wire :=
  let w := login.conn.wire
  { w with
    reader := { buf := [], inner := { w.reader.inner with chunks := [alice.take 5, alice.drop 5, saslMessages] } }
    sched := fun _ => .ready 3 }

theorem resplit_trickle : Wire.Resplit login.conn.wire trickle := ⟨by decide +kernel, rfl, rfl, rfl⟩

theorem smooth_login : login.conn.wire.Smooth := ⟨fun _ => ⟨8192, by decide, rfl⟩, by decide, by decide, by decide +kernel⟩

theorem smooth_trickle : trickle.Smooth := ⟨fun _ => ⟨3, by decide, rfl⟩, by decide, by decide, by decide +kernel⟩

end Sample

namespace Session

theorem pieces_make_no_difference_trickle :
    ∃ v, handle Sample.crypto (Sample.login.withWire Sample.trickle) =
        ((handle Sample.crypto (Sample.login.withWire Sample.login.conn.wire)).1,
          (handle Sample.crypto (Sample.login.withWire Sample.login.conn.wire)).2.withWire v) ∧
      v.input = (handle Sample.crypto (Sample.login.withWire Sample.login.conn.wire)).2.conn.wire.input ∧
      v.output = (handle Sample.crypto (Sample.login.withWire Sample.login.conn.wire)).2.conn.wire.output :=
  pieces_make_no_difference Sample.crypto rfl ⟨rfl, rfl, rfl, rfl⟩ Sample.resplit_trickle Sample.smooth_login
    Sample.smooth_trickle

end Session

end Wirechaos
