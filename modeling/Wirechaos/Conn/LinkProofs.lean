/-
  Wirechaos.Conn.LinkProofs — a link that comes up (see `Wirechaos.Backend.PgClient`,
  `Wirechaos.Backend.Link`).

  The counterpart of `Conn.LoginProofs` on the client's side. On a wire that nothing stops
  (`Passes`) the client's role goes through with whatever server completes the exchange
  with it (`saslBody_completes`), and then collects what it is told up to the ReadyForQuery
  (`handshakeFrom_told`). With a server that has no TLS, a link that does not insist on it
  is up after the messages of `linkBytes`, which are all that is sent (`links`).
-/

import Wirechaos.Backend.NoticeProofs
import Wirechaos.Backend.TlsPolicy
import Wirechaos.Conn.LoginProofs

namespace Wirechaos

open Text Async Proc

/-! ## The wire -/

namespace Wire

/-- What an operation took from the input and handed out, with nothing left in the writer. -/
structure Passes (w w' : Wire) (taken said : Bytes) : Prop where
  line : Smooth w'
  idle : w'.writer.buf = []
  input : w.input = taken ++ w'.input
  sent : w'.sent = w.sent ++ said

theorem Passes.trans {w w' w'' : Wire} {t t' u u' : Bytes} (h : Passes w w' t u) (h' : Passes w' w'' t' u') :
    Passes w w'' (t ++ t') (u ++ u') :=
  ⟨h'.line, h'.idle, by rw [h.input, h'.input, List.append_assoc], by rw [h'.sent, h.sent, List.append_assoc]⟩

theorem Passes.rest {w w' : Wire} {t u rest : Bytes} (h : Passes w w' t u) (hinput : w.input = t ++ rest) :
    w'.input = rest :=
  List.append_cancel_left (h.input.symm.trans hinput)

/-- A wait takes nothing. -/
theorem passes_await {w : Wire} (h : Smooth w) (hidle : w.writer.buf = []) :
    ∃ n w', await w = (.ok n, w') ∧ Passes w w' [] [] ∧ w'.reader = w.reader := by
  obtain ⟨n, -, hrun⟩ := await_smooth h
  exact ⟨n, _, hrun, ⟨⟨h.ready, h.reader, h.writer, h.chunks⟩, hidle, rfl, (List.append_nil _).symm⟩, rfl⟩

theorem pollWrite_smooth {data : Bytes} {w : Wire} (h : Smooth w) (hdata : data ≠ []) :
    ∃ n w', pollWrite data w = (.ok n, w') ∧ 0 < n ∧ Smooth w' ∧ w'.reader = w.reader ∧ w'.writer = w.writer := by
  obtain ⟨n, hn, hrun⟩ := await_smooth h
  have hpos := List.length_pos_iff.mpr hdata
  refine ⟨min n data.length,
    { w with tick := w.tick + 1, sent := w.sent ++ data.take (min n data.length) }, ?_, by omega,
    ⟨h.ready, h.reader, h.writer, h.chunks⟩, rfl, rfl⟩
  unfold pollWrite
  rw [bind_of_ok (get_apply w), if_neg h.writer, bind_of_ok hrun, if_neg (by omega)]
  rfl

theorem writeAllRaw_smooth {w : Wire} (h : Smooth w) (data : Bytes) :
    ∃ w', writeAllRaw data w = (.ok (), w') ∧ Smooth w' ∧ w'.reader = w.reader ∧ w'.writer = w.writer := by
  have hfrom (fuel : Nat) : ∀ (data : Bytes) (w : Wire), Smooth w →
      ∃ w', writeAllRawFrom fuel data w = (.ok (), w') ∧ Smooth w' ∧ w'.reader = w.reader ∧ w'.writer = w.writer := by
    induction fuel with
    | zero => exact fun data w h => ⟨w, rfl, h, rfl, rfl⟩
    | succ fuel ih =>
      intro data w h
      unfold writeAllRawFrom
      by_cases hdata : data = []
      · rw [if_pos hdata]
        exact ⟨w, rfl, h, rfl, rfl⟩
      · obtain ⟨n, w₁, hpoll, -, hs₁, hreader₁, hwriter₁⟩ := pollWrite_smooth h hdata
        obtain ⟨w₂, hrest, hs₂, hreader₂, hwriter₂⟩ := ih (data.drop n) w₁ hs₁
        rw [if_neg hdata, bind_of_ok hpoll]
        exact ⟨w₂, hrest, hs₂, hreader₂.trans hreader₁, hwriter₂.trans hwriter₁⟩
  exact hfrom _ data w h

/-- The next byte, where nothing is buffered. -/
theorem readByteRaw_smooth {w : Wire} {b : UInt8} {rest : Bytes} (h : Smooth w) (hbuf : w.reader.buf = [])
    (hinput : w.input = b :: rest) :
    ∃ w', readByteRaw w = (.ok b, w') ∧ Smooth w' ∧ w'.input = rest ∧ w'.reader.buf = [] := by
  obtain ⟨n, -, hrun⟩ := await_smooth h
  rw [input, hbuf, List.nil_append] at hinput
  rcases hchunks : w.reader.inner.chunks with _ | ⟨_ | ⟨b', bs⟩, cs⟩
  · rw [hchunks] at hinput
    cases hinput
  · exact absurd rfl (h.chunks [] (by rw [hchunks]; exact List.mem_cons_self))
  · have hall := h.chunks
    rw [hchunks, List.forall_mem_cons] at hall
    rw [hchunks, List.flatten_cons, List.cons_append] at hinput
    obtain ⟨rfl, hrest⟩ := List.cons.inj hinput
    refine ⟨{ w with
      tick := w.tick + 1
      reader := { w.reader with inner := { w.reader.inner with chunks := if bs = [] then cs else bs :: cs } } },
      ?_, ⟨h.ready, h.reader, h.writer, ?_⟩, ?_, hbuf⟩
    · unfold readByteRaw
      rw [bind_of_ok hrun, bind_of_ok (get_apply _)]
      dsimp only
      rw [hchunks]
      rfl
    · intro chunk hchunk
      by_cases hbs : bs = []
      · simp only [if_pos hbs] at hchunk
        exact hall.2 chunk hchunk
      · simp only [if_neg hbs, List.mem_cons] at hchunk
        rcases hchunk with rfl | hchunk
        · exact hbs
        · exact hall.2 chunk hchunk
    · rw [← hrest]
      by_cases hbs : bs = []
      · subst hbs
        simp only [input, hbuf, if_true, List.nil_append]
      · simp only [input, hbuf, if_neg hbs, List.nil_append, List.flatten_cons]

end Wire

namespace PgClient

/-- The request, where the server has no TLS. -/
theorem requestTls_no {w : Wire} {rest : Bytes} (h : Wire.Smooth w) (hidle : w.writer.buf = []) (hbuf : w.reader.buf = [])
    (hinput : w.input = byte 'N' :: rest) :
    ∃ w', requestTls w = (.ok false, w') ∧ Wire.Passes w w' [byte 'N'] sslRequest ∧ w'.reader.buf = [] := by
  obtain ⟨w₁, hlength, hs₁, hreader₁, hwriter₁⟩ := Wire.writeAllRaw_smooth h (beBytes 8)
  obtain ⟨w₂, hcode, hs₂, hreader₂, hwriter₂⟩ := Wire.writeAllRaw_smooth hs₁ (beBytes sslRequestCode)
  have hreader : w₂.reader = w.reader := hreader₂.trans hreader₁
  have hinput₂ : w₂.input = byte 'N' :: rest := by
    rw [← hinput, Wire.input, Wire.input, hreader]
  obtain ⟨w₃, hanswer, hs₃, hrest, hbuf₃⟩ := Wire.readByteRaw_smooth hs₂ (by rw [hreader]; exact hbuf) hinput₂
  have hmute := Wire.mute_readByteRaw w₂
  rw [hanswer] at hmute
  refine ⟨w₃, ?_, ⟨hs₃, ?_, ?_, ?_⟩, hbuf₃⟩
  · unfold requestTls
    rw [bind_of_ok hlength, bind_of_ok hcode, bind_of_ok hanswer]
    rfl
  · rw [hmute.writer, hwriter₂, hwriter₁]
    exact hidle
  · rw [hinput, hrest]
    rfl
  · rw [hmute.sent, Wire.writeAllRaw_ok hcode, Wire.writeAllRaw_ok hlength, List.append_assoc]
    rfl

/-! ## Messages -/

/-- Nothing stops the client, and nothing waits in its writer. -/
structure Ready (c : PgClient) : Prop where
  line : Wire.Smooth c.wire
  idle : c.wire.writer.buf = []

theorem Ready.of_passes {c : PgClient} {w : Wire} {t u : Bytes} (h : Wire.Passes c.wire w t u) (l : List PgEvent) :
    Ready { c with wire := w, log := l } := ⟨h.line, h.idle⟩

/-- The client returns `a`; only its wire and its log are others then. -/
def Goes {α : Type} (x : Proc PgClient PgError α) (c : PgClient) (a : α) (taken said : Bytes) : Prop :=
  ∃ w l, x c = (.ok a, { c with wire := w, log := l }) ∧ Wire.Passes c.wire w taken said

variable {c : PgClient}

theorem goes_writeRaw (hc : Ready c) (bytes : Bytes) :
    ∃ w, writeRaw bytes c = (.ok (), { c with wire := w }) ∧ Wire.Passes c.wire w [] bytes := by
  obtain ⟨_, w₁, hwrite, hs₁⟩ := Wire.proceeds_writeAll bytes c.wire hc.line
  obtain ⟨_, w₂, hflush, hs₂⟩ := Wire.proceeds_flush w₁ hs₁
  obtain ⟨houtput, hinput₁⟩ := Wire.writeAll_ok hwrite
  obtain ⟨hsent, hidle, hinput₂⟩ := Wire.flush_ok hflush
  refine ⟨w₂, ?_, ⟨hs₂, hidle, ?_, ?_⟩⟩
  · unfold writeRaw
    rw [bind_of_ok (stream_of_ok hwrite)]
    exact stream_of_ok (c := { c with wire := w₁ }) hflush
  · rw [List.nil_append, hinput₂, hinput₁]
  · rw [hsent, houtput, Wire.output, hc.idle, List.append_nil]

theorem goes_writeMessage (hc : Ready c) (what : Response) (tag : UInt8) (body : Bytes) :
    Goes (writeMessage what tag body) c () [] (frame tag body) := by
  obtain ⟨w, hwrite, hpasses⟩ := goes_writeRaw (c := { c with log := c.log ++ [.wrote what body] }) ⟨hc.line, hc.idle⟩
    (frame tag body)
  exact ⟨w, c.log ++ [.wrote what body], (bind_of_ok (modify_apply _ c) _).trans hwrite, hpasses⟩

theorem mute_readMessage (c : PgClient) : Wire.Mute c.wire (readMessage c).2.wire := by
  have hkeeps : Keeps (fun c c' : PgClient => Wire.Mute c.wire c'.wire) readMessage := by
    have : IsPreorder PgClient fun c c' => Wire.Mute c.wire c'.wire :=
      { refl := fun c => refl_of Wire.Mute c.wire, trans := fun _ _ _ h h' => trans_of Wire.Mute h h' }
    have hstream (n : Nat) : Keeps (fun c c' : PgClient => Wire.Mute c.wire c'.wire) (stream (Wire.readExact n)) := by
      intro c
      rw [stream, within_snd]
      exact Wire.mute_readExact n c.wire
    refine keeps_bind (keeps_bind (hstream 5) fun _ => keeps_lift _) fun header => ?_
    refine keeps_bind (keeps_bind keeps_get fun c => keeps_ite (keeps_throw _) ?_) fun payload => ?_
    · exact keeps_bind (hstream _) fun _ => keeps_pure _
    · exact keeps_bind (keeps_modify fun c => refl_of Wire.Mute c.wire) fun _ => keeps_pure _
  exact hkeeps c

/-- The client has a buffer for the message. -/
structure Room (pool : MultiBufferPool) (m : UInt8 × Bytes) : Prop where
  fits : Fits m
  pool : m.2.length ≤ pool.maxCapacity

theorem goes_readMessage (hc : Ready c) {m : UInt8 × Bytes} {rest : Bytes} (hroom : Room c.pool m)
    (hinput : c.wire.input = frame m.1 m.2 ++ rest) : Goes readMessage c m (frame m.1 m.2) [] := by
  obtain ⟨w, hread, hsmooth, hrest, -⟩ := readMessage_frame hc.line hroom.fits hroom.pool hinput
  have hmute := mute_readMessage c
  rw [hread] at hmute
  refine ⟨w, _, hread, hsmooth, ?_, ?_, ?_⟩
  · rw [hmute.writer]
    exact hc.idle
  · rw [hinput, hrest]
  · rw [hmute.sent, List.append_nil]

/-! ## The exchange -/

/-- What the client's role made of the server's messages in an exchange that completed. -/
theorem exchange_client {C : Crypto} {scram : ScramClient} {chosen : SaslMechanism} {salt : Bytes} {iterations : UInt32}
    {a : ScramAuthenticator} {serverNonceBytes : Key} {user : Str} {r : Wirechaos.Completed}
    (h : exchange C scram chosen salt iterations a serverNonceBytes user = .ok r) :
    ∃ scram', scram.clientFinalMessage C r.serverFirst salt iterations = (.ok r.clientFinal, scram') ∧
      scram'.verifyServerFinal C r.serverFinal = .ok r.verified := by
  unfold exchange at h
  split at h
  · cases h
  · split at h
    · cases h
    · rename_i clientFinal scram' hclient
      rw [parseSaslFinalResponse, fromUtf8_asBytes] at h
      dsimp only [okOr] at h
      split at h
      · cases h
      · split at h
        · cases h
        · rename_i verified hverified
          cases h
          rw [clientAnswers, fromUtf8_asBytes] at hclient
          dsimp only at hclient
          split at hclient
          · cases hclient
          · rename_i hfinal
            cases hclient
            exact ⟨_, hfinal, hverified⟩

variable {C : Crypto} {config : PgConfig}

theorem goes_readAuthenticationData (hc : Ready c) (code : UInt32) {data rest : Bytes}
    (hroom : Room c.pool (byte 'R', authBody code data))
    (hinput : c.wire.input = frame (byte 'R') (authBody code data) ++ rest) :
    Goes (readAuthenticationData code) c data (frame (byte 'R') (authBody code data)) [] := by
  obtain ⟨w, l, hread, hpasses⟩ := goes_readMessage hc hroom hinput
  refine ⟨w, l, ?_, hpasses⟩
  obtain ⟨b₁, b₂, b₃, b₄, hbytes, hcode⟩ := beBytes_eq code
  have hdata : authenticationData code (byte 'R') (authBody code data) = .ok data := by
    rw [authenticationData, authBody, hbytes, require, if_pos (show byte 'R' ≠ byte 'E' by decide), except_bind_ok, require,
      if_pos rfl, except_bind_ok]
    simp only [subCode, List.cons_append, List.nil_append, except_bind_ok, hcode, require, if_true]
    rfl
  unfold readAuthenticationData
  rw [bind_of_ok hread]
  dsimp only
  rw [hdata]
  rfl

/-- The messages of a server that accepts. -/
def acceptance (mechanics : List Str) (r : Wirechaos.Completed) : List (UInt8 × Bytes) :=
  [(byte 'R', authBody authSasl (saslMechanismList mechanics)),
    (byte 'R', authBody authSaslContinue (asBytes r.serverFirst)),
    (byte 'R', authBody authSaslFinal (asBytes r.serverFinal)), (byte 'R', authBody authSaslOk [])]

variable {scram : ScramClient} {chosen : SaslMechanism} {a : ScramAuthenticator} {serverNonceBytes : Key} {user : Str}
  {r : Wirechaos.Completed}

/-- A client whose role completes the exchange sends its two messages and is through. -/
theorem handleSasl_completes (hc : Ready c) {body rest : Bytes}
    (hstart : startSasl config c.peerCertHash (c.nonces c.drawn) body = .ok (chosen, scram))
    (hexchange : exchange C scram chosen config.salt config.iterations a serverNonceBytes user = .ok r)
    (hfirst : Room c.pool (byte 'R', authBody authSaslContinue (asBytes r.serverFirst)))
    (hfinal : Room c.pool (byte 'R', authBody authSaslFinal (asBytes r.serverFinal)))
    (hinput : c.wire.input = frame (byte 'R') (authBody authSaslContinue (asBytes r.serverFirst)) ++
      (frame (byte 'R') (authBody authSaslFinal (asBytes r.serverFinal)) ++ rest)) :
    ∃ w l, handleSasl C config body c =
        (.ok (), { c with wire := w, log := l, drawn := c.drawn + 1, serverSignatureVerified := r.verified }) ∧
      Wire.Passes c.wire w (frame (byte 'R') (authBody authSaslContinue (asBytes r.serverFirst)) ++
        frame (byte 'R') (authBody authSaslFinal (asBytes r.serverFinal))) (Session.saslBytes scram chosen r) := by
  obtain ⟨scram', hclient, hverify⟩ := exchange_client hexchange
  let c₀ : PgClient := { c with drawn := c.drawn + 1 }
  obtain ⟨w₁, l₁, hrun₁, h₁⟩ := goes_writeMessage (c := c₀) ⟨hc.line, hc.idle⟩ .saslInitial (byte 'p')
    (saslInitialResponse chosen.name scram.clientFirstMessage)
  have hinput₁ := h₁.rest hinput
  obtain ⟨w₂, l₂, hrun₂, h₂⟩ := goes_readAuthenticationData (Ready.of_passes (c := c₀) h₁ l₁) authSaslContinue
    hfirst hinput₁
  have hinput₂ := h₂.rest hinput₁
  obtain ⟨w₃, l₃, hrun₃, h₃⟩ := goes_writeMessage (Ready.of_passes (c := { c₀ with wire := w₁, log := l₁ }) h₂ l₂) .saslFinal
    (byte 'p') (asBytes r.clientFinal)
  obtain ⟨w₄, l₄, hrun₄, h₄⟩ := goes_readAuthenticationData
    (Ready.of_passes (c := { c₀ with wire := w₂, log := l₂ }) h₃ l₃) authSaslFinal hfinal (h₃.rest hinput₂)
  refine ⟨w₄, l₄ ++ [.exchanged chosen r.clientFinal r.verified], ?_, ?_⟩
  · unfold handleSasl
    rw [bind_of_ok (get_apply c), hstart, bind_of_ok (lift_ok (chosen, scram) c)]
    dsimp only
    rw [bind_of_ok (modify_apply _ c), bind_of_ok hrun₁]
    refine (bind_of_ok hrun₂ _).trans ?_
    rw [fromUtf8_asBytes, okOr, bind_of_ok (lift_ok r.serverFirst _), hclient]
    dsimp only
    rw [bind_of_ok (lift_ok (r.clientFinal, scram') _)]
    dsimp only
    refine (bind_of_ok hrun₃ _).trans ((bind_of_ok hrun₄ _).trans ?_)
    rw [fromUtf8_asBytes, okOr, bind_of_ok (lift_ok r.serverFinal _), hverify, bind_of_ok (lift_ok r.verified _)]
    rfl
  · have hpasses := h₁.trans (h₂.trans (h₃.trans h₄))
    simpa [Session.saslBytes, Session.firstResponse] using hpasses

/-! ## The handshake -/

/-- One turn of the loop that is not the last. -/
theorem handshakeFrom_turn {m : UInt8 × Bytes} {c₁ c₂ : PgClient} (hread : readMessage c = (.ok m, c₁))
    (h : handleMessage C config m.1 m.2 c₁ = (.ok false, c₂)) (fuel : Nat) :
    handshakeFrom C config (fuel + 1) c = handshakeFrom C config fuel c₂ := by
  rw [handshakeFrom, bind_of_ok hread]
  dsimp only
  rw [bind_of_ok h]
  rfl

/-- The two turns of the authentication. -/
theorem handshakeFrom_acceptance (hc : Ready c) {mechanics : List Str} {rest : Bytes}
    (hstart : startSasl config c.peerCertHash (c.nonces c.drawn) (saslMechanismList mechanics) = .ok (chosen, scram))
    (hexchange : exchange C scram chosen config.salt config.iterations a serverNonceBytes user = .ok r)
    (hroom : ∀ m ∈ acceptance mechanics r, Room c.pool m)
    (hinput : c.wire.input = transcript (acceptance mechanics r) ++ rest) (fuel : Nat) :
    ∃ w l, handshakeFrom C config (fuel + 2) c = handshakeFrom C config fuel
        { c with wire := w, log := l, drawn := c.drawn + 1, serverSignatureVerified := r.verified } ∧
      Wire.Passes c.wire w (transcript (acceptance mechanics r)) (Session.saslBytes scram chosen r) := by
  simp only [acceptance, List.forall_mem_cons] at hroom
  obtain ⟨hroom₁, hroom₂, hroom₃, hroom₄, -⟩ := hroom
  have hbytes : transcript (acceptance mechanics r) = frame (byte 'R') (authBody authSasl (saslMechanismList mechanics)) ++
      (frame (byte 'R') (authBody authSaslContinue (asBytes r.serverFirst)) ++
        frame (byte 'R') (authBody authSaslFinal (asBytes r.serverFinal)) ++ frame (byte 'R') (authBody authSaslOk [])) := by
    simp [acceptance, transcript]
  rw [hbytes, List.append_assoc, List.append_assoc, List.append_assoc] at hinput
  obtain ⟨w₁, l₁, hread₁, h₁⟩ := goes_readMessage hc hroom₁ hinput
  let c₁ : PgClient := { c with wire := w₁, log := l₁ }
  obtain ⟨w₂, l₂, hsasl, h₂⟩ := handleSasl_completes (c := c₁) (Ready.of_passes h₁ l₁) hstart hexchange hroom₂ hroom₃
    (h₁.rest hinput)
  let c₂ : PgClient :=
    { c₁ with wire := w₂, log := l₂, drawn := c.drawn + 1, serverSignatureVerified := r.verified }
  have hinput₂ : c₂.wire.input = frame (byte 'R') (authBody authSaslOk []) ++ rest := by
    apply h₂.rest
    rw [List.append_assoc]
    exact h₁.rest hinput
  obtain ⟨w₃, l₃, hread₃, h₃⟩ := goes_readMessage (c := c₂) ⟨h₂.line, h₂.idle⟩ hroom₄ hinput₂
  refine ⟨w₃, l₃, ?_, ?_⟩
  · have hturn₁ : handleMessage C config (byte 'R') (authBody authSasl (saslMechanismList mechanics)) c₁ =
        (.ok false, c₂) := by
      have hhandle : handleMessage C config (byte 'R') (authBody authSasl (saslMechanismList mechanics)) c₁ =
          (handleSasl C config (saslMechanismList mechanics) >>= fun _ => pure false) c₁ := rfl
      rw [hhandle, bind_of_ok hsasl]
      rfl
    have hturn₃ : handleMessage C config (byte 'R') (authBody authSaslOk []) { c₂ with wire := w₃, log := l₃ } =
        (.ok false, { c₂ with wire := w₃, log := l₃ }) := rfl
    rw [handshakeFrom_turn hread₁ hturn₁, handshakeFrom_turn hread₃ hturn₃]
  · have hpasses := h₁.trans (h₂.trans h₃)
    rw [hbytes]
    simpa using hpasses

/-- It is read as the notification it was made of. -/
def Clean : StartupNotification → Prop
  | .parameterStatus name value => '\x00' ∉ name ∧ '\x00' ∉ value
  | .notice _ => True

theorem handleMessage_notification {notification : StartupNotification} (h : Clean notification) (c : PgClient) :
    handleMessage C config (Session.notificationMessage notification).1 (Session.notificationMessage notification).2 c =
      (.ok false, { c with startupNotifications := c.startupNotifications ++ [notification] }) := by
  cases notification with
  | notice body => rfl
  | parameterStatus name value =>
    have hparse := parseParameterStatus_putCstr h.1 h.2
    show (lift (parseParameterStatus (putCstr name ++ putCstr value)) >>= fun setting =>
      modify (fun c : PgClient => { c with startupNotifications := c.startupNotifications ++
        [.parameterStatus setting.1 setting.2] }) >>= fun _ => pure false : Proc PgClient PgError Bool) c = _
    rw [hparse]
    rfl

theorem handshakeFrom_notifications (C : Crypto) (config : PgConfig) (hc : Ready c)
    {notifications : List StartupNotification} {rest : Bytes}
    (hclean : ∀ n ∈ notifications, Clean n) (hroom : ∀ n ∈ notifications, Room c.pool (Session.notificationMessage n))
    (hinput : c.wire.input = transcript (notifications.map Session.notificationMessage) ++ rest) (fuel : Nat) :
    ∃ w l, handshakeFrom C config (fuel + notifications.length) c = handshakeFrom C config fuel
        { c with wire := w, log := l, startupNotifications := c.startupNotifications ++ notifications } ∧
      Wire.Passes c.wire w (transcript (notifications.map Session.notificationMessage)) [] := by
  induction notifications generalizing c with
  | nil =>
    refine ⟨c.wire, c.log, ?_, ⟨hc.line, hc.idle, rfl, (List.append_nil _).symm⟩⟩
    rw [List.append_nil]
    rfl
  | cons n notifications ih =>
    rw [List.forall_mem_cons] at hclean hroom
    simp only [transcript, List.map_cons, List.flatMap_cons, List.append_assoc] at hinput
    obtain ⟨w₁, l₁, hread, h₁⟩ := goes_readMessage hc hroom.1 hinput
    let c₁ : PgClient := { c with wire := w₁, log := l₁, startupNotifications := c.startupNotifications ++ [n] }
    obtain ⟨w₂, l₂, hrest, h₂⟩ := ih (c := c₁) ⟨h₁.line, h₁.idle⟩ hclean.2 hroom.2 (h₁.rest hinput)
    refine ⟨w₂, l₂, ?_, ?_⟩
    · rw [List.length_cons, ← Nat.add_assoc, handshakeFrom_turn hread (handleMessage_notification hclean.1 _), hrest]
      simp only [c₁, List.append_assoc, List.singleton_append]
    · have hpasses := h₁.trans h₂
      simpa [transcript] using hpasses

/-- What a proxy tells of a session, as its own clients hear it. -/
def told (backend : Backend) (secret : SessionKeySecret) : List (UInt8 × Bytes) :=
  backend.startupNotifications.map Session.notificationMessage ++
    [(byte 'K', keyBytes secret), (byte 'Z', [backend.readyStatus])]

theorem parseBackendKeyData_keyBytes (secret : SessionKeySecret) :
    parseBackendKeyData (keyBytes secret) = .ok ⟨secret.key, secret.secret⟩ := by
  obtain ⟨a, b, c, d, hkey, hkeyWord⟩ := beBytes_eq secret.key.toUInt32
  obtain ⟨e, f, g, h, hsecret, hsecretWord⟩ := beBytes_eq secret.secret.toUInt32
  rw [keyBytes, hkey, hsecret]
  show Except.ok (BackendKeyData.mk (ofBeBytes a b c d).toInt32 (ofBeBytes e f g h).toInt32) = _
  rw [hkeyWord, hsecretWord]
  rfl

/-- The client at the end of a handshake in which it was told this. -/
def informed (backend : Backend) (secret : SessionKeySecret) (c : PgClient) : PgClient :=
  { c with
    startupNotifications := c.startupNotifications ++ backend.startupNotifications
    backendKey := some ⟨secret.key, secret.secret⟩, readyStatus := some backend.readyStatus }

theorem handshakeFrom_told (C : Crypto) (config : PgConfig) (hc : Ready c) {backend : Backend} {secret : SessionKeySecret}
    {rest : Bytes}
    (hclean : ∀ n ∈ backend.startupNotifications, Clean n) (hroom : ∀ m ∈ told backend secret, Room c.pool m)
    (hinput : c.wire.input = transcript (told backend secret) ++ rest) {fuel : Nat}
    (hfuel : (told backend secret).length ≤ fuel) :
    ∃ w l, handshakeFrom C config fuel c = (.ok (), informed backend secret { c with wire := w, log := l }) ∧
      Wire.Passes c.wire w (transcript (told backend secret)) [] := by
  obtain ⟨more, rfl⟩ : ∃ more, fuel = more + 2 + backend.startupNotifications.length := by
    refine ⟨fuel - 2 - backend.startupNotifications.length, ?_⟩
    simp only [told, List.length_append, List.length_map, List.length_cons, List.length_nil] at hfuel
    omega
  simp only [told, List.forall_mem_append, List.forall_mem_map, List.forall_mem_cons] at hroom
  obtain ⟨hroom, hroomKey, hroomReady, -⟩ := hroom
  have hbytes : transcript (told backend secret) =
      transcript (backend.startupNotifications.map Session.notificationMessage) ++
        (frame (byte 'K') (keyBytes secret) ++ frame (byte 'Z') [backend.readyStatus]) := by
    rw [told, transcript_append]
    simp [transcript]
  rw [hbytes, List.append_assoc, List.append_assoc] at hinput
  obtain ⟨w₁, l₁, hrun₁, h₁⟩ := handshakeFrom_notifications C config hc hclean hroom hinput (more + 2)
  let c₁ : PgClient :=
    { c with wire := w₁, log := l₁, startupNotifications := c.startupNotifications ++ backend.startupNotifications }
  obtain ⟨w₂, l₂, hread₂, h₂⟩ := goes_readMessage (c := c₁) ⟨h₁.line, h₁.idle⟩ hroomKey (h₁.rest hinput)
  let c₂ : PgClient := { c₁ with wire := w₂, log := l₂, backendKey := some ⟨secret.key, secret.secret⟩ }
  have hkey : handleMessage C config (byte 'K') (keyBytes secret) { c₁ with wire := w₂, log := l₂ } = (.ok false, c₂) := by
    show (lift (parseBackendKeyData (keyBytes secret)) >>= fun key =>
      modify (fun c : PgClient => { c with backendKey := some key }) >>= fun _ => pure false :
        Proc PgClient PgError Bool) _ = _
    rw [parseBackendKeyData_keyBytes]
    rfl
  obtain ⟨w₃, l₃, hread₃, h₃⟩ := goes_readMessage (c := c₂) ⟨h₂.line, h₂.idle⟩ hroomReady (h₂.rest (h₁.rest hinput))
  refine ⟨w₃, l₃, ?_, ?_⟩
  · rw [hrun₁, handshakeFrom_turn hread₂ hkey, handshakeFrom, bind_of_ok hread₃]
    rfl
  · have hpasses := h₁.trans (h₂.trans h₃)
    rw [hbytes]
    simpa using hpasses

/-- Where the client's role completes the exchange, its messages take the handshake through
    to what it is told. -/
theorem handshake_completes (hc : Ready c) {mechanics : List Str} {backend : Backend} {secret : SessionKeySecret}
    {rest : Bytes}
    (hstart : startSasl config c.peerCertHash (c.nonces c.drawn) (saslMechanismList mechanics) = .ok (chosen, scram))
    (hexchange : exchange C scram chosen config.salt config.iterations a serverNonceBytes user = .ok r)
    (hclean : ∀ n ∈ backend.startupNotifications, Clean n)
    (hroom : ∀ m ∈ acceptance mechanics r ++ told backend secret, Room c.pool m)
    (hinput : c.wire.input = transcript (acceptance mechanics r ++ told backend secret) ++ rest) :
    ∃ w l, handleStartupHandshake C config c =
        (.ok (), informed backend secret
          { c with wire := w, log := l, drawn := c.drawn + 1, serverSignatureVerified := r.verified }) ∧
      Wire.Passes c.wire w (transcript (acceptance mechanics r ++ told backend secret))
        (Session.saslBytes scram chosen r) := by
  rw [List.forall_mem_append] at hroom
  have hlength (ms : List (UInt8 × Bytes)) : ms.length ≤ (transcript ms).length := by
    induction ms with
    | nil => exact Nat.zero_le _
    | cons m ms ih =>
      simp only [transcript, List.flatMap_cons, List.length_append, List.length_cons, frame] at ih ⊢
      omega
  obtain ⟨fuel, hfuel, hleft⟩ : ∃ fuel, c.wire.input.length + 1 = fuel + 2 ∧ (told backend secret).length ≤ fuel := by
    refine ⟨c.wire.input.length - 1, ?_, ?_⟩
    all_goals
      have := hlength (acceptance mechanics r ++ told backend secret)
      rw [hinput]
      simp only [List.length_append, acceptance, List.length_cons, List.length_nil] at this ⊢
      omega
  rw [transcript_append] at hinput ⊢
  obtain ⟨w₁, l₁, hrun₁, h₁⟩ := handshakeFrom_acceptance hc hstart hexchange hroom.1
    (hinput.trans (List.append_assoc _ _ _)) fuel
  let c₁ : PgClient := { c with wire := w₁, log := l₁, drawn := c.drawn + 1, serverSignatureVerified := r.verified }
  have hinput₁ : c₁.wire.input = transcript (told backend secret) ++ rest :=
    h₁.rest (hinput.trans (List.append_assoc _ _ _))
  obtain ⟨w₂, l₂, hrun₂, h₂⟩ := handshakeFrom_told C config (c := c₁) ⟨h₁.line, h₁.idle⟩ hclean hroom.2
    hinput₁ hleft
  refine ⟨w₂, l₂, ?_, ?_⟩
  · unfold handleStartupHandshake
    rw [bind_of_ok (get_apply c), hfuel, hrun₁]
    exact hrun₂
  · have hpasses := h₁.trans h₂
    rwa [List.append_nil] at hpasses

/-! ## The link -/

/-- A line on which nothing fails. -/
structure SmoothLink (env : LinkEnv) : Prop where
  ready : ∀ t, ∃ n, 0 < n ∧ env.sched t = .ready n
  chunks : ∀ chunk ∈ env.chunks, chunk ≠ []

theorem ready_fresh {env : LinkEnv} (h : SmoothLink env) (pool : MultiBufferPool) : Ready (fresh pool env) :=
  ⟨⟨h.ready, by simp [fresh], by simp [fresh], h.chunks⟩, rfl⟩

/-- What a link says about TLS, and what a server without TLS answers. -/
def hello (config : PgConfig) : Bytes := if config.tls.mode = .disable then [] else sslRequest

def helloAnswer (config : PgConfig) : Bytes := if config.tls.mode = .disable then [] else [byte 'N']

/-- It goes on in the clear where there is no TLS. -/
def TakesPlaintext (config : PgConfig) : Prop := config.tls.mode = .disable ∨ config.tls.mode = .prefer

theorem goes_tryTls (env : LinkEnv) (hmode : TakesPlaintext config) (hc : Ready c) (hbuf : c.wire.reader.buf = [])
    {rest : Bytes} (hinput : c.wire.input = helloAnswer config ++ rest) :
    ∃ w, tryTls env config c = (.ok (), { c with wire := w }) ∧
      Wire.Passes c.wire w (helloAnswer config) (hello config) := by
  unfold tryTls hello helloAnswer
  by_cases hdisable : config.tls.mode = .disable
  · rw [if_pos hdisable, if_pos hdisable, if_pos hdisable]
    exact ⟨c.wire, rfl, ⟨hc.line, hc.idle, rfl, (List.append_nil _).symm⟩⟩
  · have hprefer : config.tls.mode = .prefer := hmode.resolve_left hdisable
    rw [if_neg hdisable, if_neg hdisable, if_neg hdisable]
    rw [helloAnswer, if_neg hdisable] at hinput
    obtain ⟨w, hrequest, hpasses, -⟩ := requestTls_no hc.line hc.idle hbuf hinput
    refine ⟨w, ?_, hpasses⟩
    rw [bind_of_ok (within_of_ok .tlsTimeout hrequest), if_neg Bool.false_ne_true, if_pos hprefer]
    rfl

theorem goes_writeStartupMessage (config : PgConfig) (hc : Ready c) :
    Goes (writeStartupMessage config) c () [] (startupMessage config) := by
  obtain ⟨w, hwrite, hpasses⟩ := goes_writeRaw
    (c := { c with log := c.log ++ [.wrote .startup (startupMessage config)] }) ⟨hc.line, hc.idle⟩ (startupMessage config)
  exact ⟨w, c.log ++ [.wrote .startup (startupMessage config)], (bind_of_ok (modify_apply _ c) _).trans hwrite, hpasses⟩

/-- All that a link sends, and all that it reads. -/
def linkBytes (config : PgConfig) (scram : ScramClient) (chosen : SaslMechanism) (r : Wirechaos.Completed) : Bytes :=
  hello config ++ (startupMessage config ++ Session.saslBytes scram chosen r)

def answerBytes (config : PgConfig) (mechanics : List Str) (r : Wirechaos.Completed) (backend : Backend)
    (secret : SessionKeySecret) : Bytes :=
  helloAnswer config ++ transcript (acceptance mechanics r ++ told backend secret)

/-- The link comes up with a server that completes the exchange and starts a session. -/
theorem links {env : LinkEnv} (henv : SmoothLink env) (pool : MultiBufferPool) (hmode : TakesPlaintext config)
    {mechanics : List Str} {backend : Backend} {secret : SessionKeySecret} {rest : Bytes}
    (hstart : startSasl config none (env.nonces 0) (saslMechanismList mechanics) = .ok (chosen, scram))
    (hexchange : exchange C scram chosen config.salt config.iterations a serverNonceBytes user = .ok r)
    (hclean : ∀ n ∈ backend.startupNotifications, Clean n)
    (hroom : ∀ m ∈ acceptance mechanics r ++ told backend secret, Room pool m)
    (hinput : env.chunks.flatten = answerBytes config mechanics r backend secret ++ rest) :
    ∃ w l, connect C env config (fresh pool env) =
        (.ok (), informed backend secret
          { fresh pool env with wire := w, log := l, drawn := 1, serverSignatureVerified := r.verified }) ∧
      Wire.Passes (fresh pool env).wire w (answerBytes config mechanics r backend secret)
        (linkBytes config scram chosen r) := by
  have hready := ready_fresh henv pool
  rw [answerBytes, List.append_assoc] at hinput
  obtain ⟨n, w₀, hawait, h₀, hreader⟩ := Wire.passes_await hready.line hready.idle
  have hinput₀ : w₀.input = helloAnswer config ++ (transcript (acceptance mechanics r ++ told backend secret) ++ rest) := by
    rw [← hinput, Wire.input, hreader]
    rfl
  let c₀ : PgClient := { fresh pool env with wire := w₀ }
  obtain ⟨w₁, htls, h₁⟩ := goes_tryTls env hmode (c := c₀) ⟨h₀.line, h₀.idle⟩ (by rw [hreader]; rfl) hinput₀
  let c₁ : PgClient := { c₀ with wire := w₁ }
  obtain ⟨w₂, l₂, hstartup, h₂⟩ := goes_writeStartupMessage config (c := c₁) ⟨h₁.line, h₁.idle⟩
  let c₂ : PgClient := { c₁ with wire := w₂, log := l₂ }
  obtain ⟨w₃, l₃, hhandshake, h₃⟩ := handshake_completes (c := c₂) ⟨h₂.line, h₂.idle⟩ hstart hexchange hclean hroom
    (h₂.rest (h₁.rest hinput₀))
  refine ⟨w₃, l₃, ?_, ?_⟩
  · have htimeout : (timeout (handleStartupHandshake C config) c₂ : Outcome PgError _ × PgClient) =
        (.ok (some (.ok ())), informed backend secret
          { c₂ with wire := w₃, log := l₃, drawn := c₂.drawn + 1, serverSignatureVerified := r.verified }) := by
      unfold timeout
      rw [hhandshake]
    unfold connect
    rw [bind_of_ok (within_of_ok .connectTimeout hawait), bind_of_ok htls, bind_of_ok hstartup, bind_of_ok htimeout]
    rfl
  · have hpasses := h₀.trans (h₁.trans (h₂.trans h₃))
    simpa [answerBytes, linkBytes] using hpasses

/-- The backend that a link finds in a proxy. -/
def relayed (config : PgConfig) (backend : Backend) (secret : SessionKeySecret) (verified : Bool) : Backend :=
  { startupNotifications := backend.startupNotifications, backendKey := some ⟨secret.key, secret.secret⟩
    readyStatus := backend.readyStatus, serverSignatureVerified := verified, host := config.host, port := config.port
    connectTimeoutMs := config.connectTimeoutMs }

theorem relays {env : LinkEnv} {pool : MultiBufferPool} {backend : Backend} {secret : SessionKeySecret} {c' : PgClient}
    (h : connect C env config (fresh pool env) = (.ok (), c')) (hinformed : ∃ c, c' = informed backend secret c ∧
      c.startupNotifications = [] ∧ c.serverSignatureVerified = r.verified) :
    Backend.new C env config (fresh pool env) = (.ok (relayed config backend secret r.verified), c') := by
  obtain ⟨c, rfl, hnone, hverified⟩ := hinformed
  unfold Backend.new
  rw [bind_of_ok h, bind_of_ok (get_apply _)]
  show (Outcome.ok (Backend.ofClient config (informed backend secret c)), _) = _
  rw [Backend.ofClient, informed, hnone, hverified]
  rfl

end PgClient

end Wirechaos
