/-
  Wirechaos.Conn.OutputProofs — what a run of a connection writes to its client
  (see `Wirechaos.Conn.Output`).

  One triple for each function that writes, in the order of the calls; the functions in
  between only keep the stage. Errors come from two layers: a rejected authentication is
  answered where it happens and returns no key, every other connection error is answered
  by the driver, and after an internal error nothing is written. So the stage is past its
  ErrorResponse wherever no second one may follow (`handle_speaks`).
-/

import Wirechaos.Conn.HandleProofs
import Wirechaos.Conn.Output

namespace Wirechaos

open Text Async Proc Machine

namespace Session

variable (C : Crypto) {V : Type} {ε α : Type}

/-! ## Stages and errors -/

abbrev At (stage : Stage) : Session V → Stage → Prop := fun _ now => now = stage

/-- The flags say which encryption requests were answered. -/
def InHello : Session V → Stage → Prop := fun s now => now = .hello s.conn.sslDone s.conn.gssDone

theorem hello_ne_over (ssl gss : Bool) : Stage.hello ssl gss ≠ .over := Stage.noConfusion

theorem InHello.ne_over {s : Session V} {stage : Stage} (h : InHello s stage) : stage ≠ .over := by
  rw [h]
  exact hello_ne_over _ _

/-- The errors after which an ErrorResponse is written. -/
def IsRejection (e : AuthFailure) : Prop := ∃ error, e = .rejected error

def IsConnectionError (e : ProxyError) : Prop := ∃ error, e = .connectionError error

variable {clean : ε → Prop}

theorem speaks_at {x : Proc (Session V) ε α} (hx : Keeps Hush x) {stage : Stage} (h : stage ≠ .over) :
    Speaks clean (At stage) x fun _ => At stage :=
  speaks_hush hx (fun _ _ _ _ _ _ hnow => hnow) (fun _ _ _ _ _ _ hnow => by rw [hnow]; exact h)

theorem speaks_hello {x : Proc (Session V) ε α} (hx : Keeps Hush x) : Speaks clean InHello x fun _ => InHello := by
  refine speaks_hush hx (fun s a s' stage _ hhush hnow => ?_) fun s e s' stage _ _ hnow => hnow.ne_over
  rw [InHello, hhush.sslDone, hhush.gssDone]
  exact hnow

/-! ## The exchange -/

theorem speaks_sendAuthMessage {code : UInt32} {data : Bytes} {pre : Session V → Stage → Prop} (stage : Stage)
    (h : ∀ s now, pre s now → Next now (authEvent code data) stage) :
    Speaks IsRejection pre (mapErr AuthFailure.internal (sendAuthMessage (V := V) code data)) fun _ => At stage := by
  refine speaks_mapErr_never (speaks_writeMessage (fun _ h => h) fun s s' now _ hnow => ?_) fun e he => ?_
  · exact ⟨stage, h s now hnow, rfl⟩
  · obtain ⟨error, he⟩ := he
    cases he

theorem hush_readSaslResponse : Keeps Hush (readSaslResponse (V := V)) := by
  refine keeps_bind (keeps_mapErr (hush_io (Wire.mute_readExact _))) fun _ => keeps_bind (keeps_lift _) fun _ => ?_
  refine keeps_bind (keeps_mapErr hush_readMessageLength) fun _ => keeps_bind (keeps_lift _) fun _ => ?_
  refine keeps_bind (keeps_mapErr (hush_readMessageBody _)) fun _ => keeps_bind (keeps_lift _) fun _ => ?_
  exact keeps_bind (hush_emit rfl) fun _ => keeps_pure _

theorem speaks_saslExchange (scram : ScramAuthenticator) (user : Str) :
    Speaks IsRejection InHello (saslExchange (V := V) C scram user) fun _ => At .admitted := by
  unfold saslExchange
  refine speaks_bind (speaks_sendAuthMessage .challenged fun s now hnow => ?_) fun _ => ?_
  · rw [hnow]
    exact .challenge _
  refine speaks_bind (speaks_at (keeps_bind hush_readSaslResponse fun _ => keeps_lift _) (by decide)) fun _ => ?_
  refine speaks_bind (speaks_at (keeps_bind keeps_get fun _ => keeps_bind ?_ fun _ => keeps_pure _) (by decide)) fun _ => ?_
  · exact hush_update (fun _ => rfl) (fun _ => rfl) (fun _ => rfl) fun _ => rfl
  refine speaks_bind (speaks_at (keeps_lift _) (by decide)) fun _ => ?_
  refine speaks_bind (speaks_sendAuthMessage .continued fun s now hnow => ?_) fun _ => ?_
  · rw [hnow]
    exact .continuation _
  refine speaks_bind (speaks_at (keeps_bind hush_readSaslResponse fun _ => keeps_lift _) (by decide)) fun _ => ?_
  refine speaks_bind (speaks_at (keeps_lift _) (by decide)) fun _ => ?_
  refine speaks_bind (speaks_sendAuthMessage .signed fun s now hnow => ?_) fun _ => ?_
  · rw [hnow]
    exact .signature _
  refine speaks_bind (speaks_sendAuthMessage .admitted fun s now hnow => ?_) fun _ => ?_
  · rw [hnow]
    exact .authenticationOk
  exact speaks_at (keeps_pure _) (by decide)

/-! ## Errors -/

theorem speaks_sendErrorMessage {clean : InternalError → Prop} (hclean : ∀ e, ¬ clean e) (code message : Str) :
    Speaks clean (fun _ stage => stage ≠ .over) (sendErrorMessage (V := V) code message) fun _ => At .over :=
  speaks_writeMessage hclean fun _ _ _ _ hne => ⟨.over, .error _ hne, rfl⟩

theorem errorMessage_says (code message : Str) {s : Session V} {stage : Stage} (hbuf : s.conn.wire.writer.buf = [])
    (hstage : stage ≠ .over) :
    ∃ es, (sendErrorMessage code message s).2.log = s.log ++ es ∧
      Says Never (fun _ _ _ => True) stage s (sendErrorMessage code message s).1 es (sendErrorMessage code message s).2 := by
  have hspeaks : Speaks Never _ (sendErrorMessage (V := V) code message) _ := speaks_sendErrorMessage (fun _ h => h) code message
  obtain ⟨es, hlog, hspoken⟩ := hspeaks s
  exact ⟨es, hlog, (hspoken stage hstage hbuf).last⟩

section Provider

variable [VerifierProvider V]

theorem hush_lookup (user : Str) : Keeps Hush (lookup (V := V) (ε := ε) user) := by
  refine keeps_bind hush_suspend fun _ => keeps_bind keeps_get fun s => keeps_bind ?_ fun _ => ?_
  · exact hush_update (fun _ => rfl) (fun _ => rfl) (fun _ => rfl) fun _ => rfl
  · exact keeps_bind (hush_emit rfl) fun _ => keeps_pure _

theorem speaks_handleScramAuth : Speaks IsRejection InHello (handleScramAuth (V := V) C) fun _ => At .admitted := by
  unfold handleScramAuth
  refine speaks_bind (speaks_hello keeps_get) fun _ => speaks_bind (speaks_hello (keeps_lift _)) fun user => ?_
  refine speaks_bind (speaks_hello (hush_lookup user)) fun _ => speaks_bind (speaks_hello keeps_get) fun _ => ?_
  exact speaks_bind (speaks_hello (keeps_lift _)) fun _ => speaks_saslExchange C _ _

/-- A key is returned behind the AuthenticationOk only; a rejection has its ErrorResponse. -/
theorem speaks_handleAuthentication :
    Speaks IsConnectionError InHello (handleAuthentication (V := V) C) fun k _ stage => k.isSome → stage = .admitted := by
  refine speaks_match (speaks_handleScramAuth C) (fun k => ?_) (fun e he => ?_) fun e he => ?_
  · exact speaks_pure fun _ _ h _ => h
  · obtain ⟨error, rfl⟩ := he
    refine speaks_bind (speaks_mapErr_never (speaks_sendErrorMessage (fun _ h => h) _ _) fun e he => ?_) fun _ => ?_
    · obtain ⟨_, he⟩ := he
      cases he
    · exact speaks_pure fun _ _ _ h => by cases h
  · cases e with
    | rejected error => exact absurd ⟨error, rfl⟩ he
    | internal error =>
      refine ⟨.internal error, rfl, fun h => ?_⟩
      obtain ⟨_, h⟩ := h
      cases h

end Provider

/-! ## The session -/

theorem hush_registerBackend (backend : Backend) : Keeps Hush (registerBackend (V := V) backend) := by
  refine keeps_bind keeps_get fun s => ?_
  refine keeps_bind ?_ fun _ => keeps_bind (keeps_lift _) fun _ => ?_
  · exact hush_update (fun _ => rfl) (fun _ => rfl) (fun _ => rfl) fun _ => rfl
  · exact hush_update (fun _ => rfl) (fun _ => rfl) (fun _ => rfl) fun _ => rfl

theorem not_isConnectionError_internal (e : InternalError) : ¬ IsConnectionError (.internal e) := by
  intro ⟨_, h⟩
  cases h

/-- A message of the driver's layer. -/
theorem speaks_message {tag : UInt8} {body : Bytes} {stage stage' : Stage} (h : Next stage (.message tag body) stage') :
    Speaks IsConnectionError (At stage) (mapErr ProxyError.internal (writeMessage (V := V) tag body)) fun _ => At stage' := by
  refine speaks_mapErr_never (speaks_writeMessage (fun _ h => h) fun s s' now _ hnow => ?_) not_isConnectionError_internal
  rw [hnow]
  exact ⟨stage', h, rfl⟩

theorem speaks_sendNotifications (notifications : List StartupNotification) :
    Speaks IsConnectionError (At .admitted) (sendNotifications (V := V) notifications) fun _ => At .admitted := by
  induction notifications with
  | nil => exact speaks_at (keeps_pure _) (by decide)
  | cons notification rest ih =>
    refine speaks_bind (speaks_message (.notification _ ?_)) fun _ => ih
    cases notification with
    | parameterStatus name value => exact Or.inl rfl
    | notice body => exact Or.inr rfl

theorem speaks_sendStartupNotifications :
    Speaks IsConnectionError (At .admitted) (sendStartupNotifications (V := V)) fun _ => At .admitted := by
  refine speaks_bind (speaks_at keeps_get (by decide)) fun _ => ?_
  exact speaks_bind (speaks_at (keeps_lift _) (by decide)) fun _ => speaks_sendNotifications _

theorem speaks_sendKeySecret : Speaks IsConnectionError (At .admitted) (sendKeySecret (V := V)) fun _ => At .keyed := by
  refine speaks_bind (speaks_at keeps_get (by decide)) fun _ => ?_
  exact speaks_bind (speaks_at (keeps_lift _) (by decide)) fun _ => speaks_message (.backendKey _)

theorem speaks_sendReadySignal : Speaks IsConnectionError (At .keyed) (sendReadySignal (V := V)) fun _ => At .over :=
  speaks_bind (speaks_at keeps_get (by decide)) fun _ => speaks_message (.ready _)

theorem speaks_startSession (backend : Backend) :
    Speaks IsConnectionError (At .admitted) (startSession (V := V) backend) fun _ => At .over := by
  refine speaks_bind (speaks_at (hush_registerBackend backend) (by decide)) fun _ => ?_
  refine speaks_bind speaks_sendStartupNotifications fun _ => speaks_bind speaks_sendKeySecret fun _ => ?_
  exact speaks_bind speaks_sendReadySignal fun _ => speaks_pure fun _ _ h => h

theorem hush_openLink (config : PgConfig) : Keeps Hush (openLink (V := V) C config) := by
  refine keeps_bind keeps_get fun s => keeps_bind (hush_emit rfl) fun _ => ?_
  exact keeps_bind (fun s => refl_of Hush s) fun _ => keeps_bind hush_interfere fun _ => keeps_pure _

theorem speaks_linkBackend (clientKey : Bytes) (user database : Str) (answer : Except ProviderError (Option Verifier)) :
    Speaks IsConnectionError (At .admitted) (linkBackend (V := V) C clientKey user database answer) fun _ => At .over := by
  refine speaks_bind (speaks_at (keeps_lift _) (by decide)) fun _ => speaks_bind (speaks_at keeps_get (by decide)) fun s => ?_
  refine speaks_bind (speaks_at (keeps_lift _) (by decide)) fun _ => ?_
  exact speaks_bind (speaks_at (keeps_mapErr (hush_openLink C _)) (by decide)) fun backend => speaks_startSession backend

/-! ## Encryption requests -/

/-- An update of neither the connection nor the log, which may change the flags. -/
theorem speaks_update {f : Session V → Session V} (hwire : ∀ s, (f s).conn.wire = s.conn.wire) (hlog : ∀ s, (f s).log = s.log)
    {pre : Session V → Stage → Prop} {post : Unit → Session V → Stage → Prop}
    (hpost : ∀ s stage, pre s stage → post () (f s) stage) :
    Speaks clean pre (modify f : Proc (Session V) ε Unit) post := by
  intro s
  refine ⟨[], by rw [List.append_nil]; exact hlog s, fun stage hstage hbuf => ?_⟩
  have hflushed : Flushed s [] (f s) := ⟨by rw [hwire, hbuf], by rw [hwire, rendered_nil, List.append_nil]⟩
  exact ⟨stage, .nil stage, hflushed.delivered, fun _ _ => ⟨hflushed, hpost s stage hstage⟩, fun e he => by cases he⟩

/-- The one byte of an answer fits into the empty buffer. -/
theorem writeReply_output (answer : UInt8) {s : Session V} (hbuf : s.conn.wire.writer.buf = []) :
    (writeReply answer s).2.conn.wire.output = s.conn.wire.output ++ [answer] ∧
      ∀ u, (writeReply answer s).1 = .ok u → (writeReply answer s).2.conn.wire.writer.buf = [] := by
  have hcap : writerCapacity = 8192 := rfl
  have hfits := Wire.writeAll_fits (w := s.conn.wire) (show _ + [answer].length ≤ _ by simp [hbuf, hcap]) (by simp [hcap])
  rw [writeReply, emit, bind_of_ok (modify_apply _ s)]
  constructor
  · rw [mapErr_snd, bind_of_ok (s := { s with log := s.log ++ [.reply answer] }) (io_eq_ok.mpr ⟨_, hfits, rfl⟩), flush_output]
    exact Wire.output_buffered _ _
  · intro u hu
    obtain ⟨_, s₁, -, hflush⟩ := bind_ok.mp (mapErr_ok.mp (eq_of_fst hu))
    obtain ⟨w, hw, he⟩ := io_eq_ok.mp hflush
    rw [he]
    exact (Wire.flush_ok hw).2.1

theorem speaks_writeReply {answer : UInt8} {pre : Session V → Stage → Prop} {post : Unit → Session V → Stage → Prop}
    (h : ∀ s s' stage, Steady s s' → pre s stage → ∃ stage', Next stage (.reply answer) stage' ∧ post () s' stage') :
    Speaks IsConnectionError pre (writeReply (V := V) answer) post := by
  intro s
  obtain ⟨es, hlog, hsteady, rfl⟩ := emits_writeReply answer s
  refine ⟨_, hlog, fun stage hstage hbuf => ?_⟩
  obtain ⟨hout, hflush⟩ := writeReply_output answer hbuf
  obtain ⟨stage', hnext, hpost⟩ := h s _ stage hsteady hstage
  refine ⟨stage', .one hnext, ⟨[answer], hout, List.prefix_refl _, Or.inl rfl⟩, ?_, ?_⟩
  · intro u hu
    exact ⟨⟨hflush u hu, hout⟩, hpost⟩
  · intro e he hclean
    -- what fails is the connection itself
    obtain ⟨error, rfl⟩ := hclean
    rw [writeReply, emit, bind_of_ok (modify_apply _ s)] at he
    unfold mapErr at he
    split at he <;> cases he

theorem hush_promoteToTls : Keeps Hush (promoteToTls (V := V)) := by
  -- the buffers are new ones
  refine keeps_bind keeps_get fun s => keeps_bind (keeps_modify fun _ => ?_) fun _ => ?_
  · exact ⟨rfl, fun _ => rfl, rfl, rfl, [], (List.append_nil _).symm, rfl⟩
  refine keeps_bind (keeps_lift _) fun _ => keeps_bind (keeps_lift _) fun _ => keeps_bind (keeps_lift _) fun _ => ?_
  refine keeps_bind (keeps_mapErr (hush_io Wire.mute_await)) fun _ => keeps_bind (keeps_lift _) fun _ => ?_
  exact keeps_modify fun _ => ⟨rfl, fun _ => rfl, rfl, rfl, [], (List.append_nil _).symm, rfl⟩

/-- A request that is answered once: its flag was not set, and is set before the answer. -/
theorem speaks_once {flag : Session V → Bool} {e : ProxyError} {mark : Session V → Session V}
    {f : Session V → Proc (Session V) ProxyError Unit} {Q : Session V → Stage → Prop} {post : Unit → Session V → Stage → Prop}
    (hwire : ∀ s, (mark s).conn.wire = s.conn.wire) (hlog : ∀ s, (mark s).log = s.log)
    (hasked : ∀ s stage, flag s = false → InHello s stage → Q (mark s) stage)
    (hf : ∀ s, Speaks IsConnectionError Q (f s) post) :
    Speaks IsConnectionError InHello (do let s ← get; lift (require (flag s = false) e); modify mark; f s) post := by
  refine speaks_bind (Q := fun a s stage => a = s ∧ InHello s stage) ?_ fun a => ?_
  · refine speaks_hush keeps_get (fun s a s' stage ha _ hnow => ?_) fun _ _ _ _ _ _ hnow => hnow.ne_over
    cases ha
    exact ⟨rfl, hnow⟩
  refine speaks_bind (Q := fun _ s stage => flag s = false ∧ InHello s stage) ?_ fun _ => ?_
  · refine speaks_hush (keeps_lift _) (fun s u s' stage hlift _ hnow => ?_) fun _ _ _ _ _ _ hnow => hnow.2.ne_over
    obtain ⟨hrequire, rfl⟩ := lift_eq_ok.mp hlift
    obtain ⟨rfl, hnow⟩ := hnow
    exact ⟨require_eq_ok.mp hrequire, hnow⟩
  refine speaks_bind (Q := fun _ => Q) ?_ fun _ => hf a
  refine speaks_update hwire hlog fun s stage hnow => ?_
  exact hasked s stage hnow.1 hnow.2

theorem speaks_handleSslRequest : Speaks IsConnectionError InHello (handleSslRequest (V := V)) fun _ => InHello := by
  have hanswer {answer : UInt8} (h : answer = byte 'S' ∨ answer = byte 'N') :
      Speaks IsConnectionError (fun s stage => s.conn.sslDone = true ∧ stage = .hello false s.conn.gssDone)
        (writeReply (V := V) answer) fun _ => InHello := by
    refine speaks_writeReply fun s s' stage hsteady hnow => ?_
    obtain ⟨hssl, rfl⟩ := hnow
    refine ⟨_, .ssl h, ?_⟩
    rw [InHello, hsteady.sslDone, hsteady.gssDone, hssl]
  refine speaks_once (Q := fun s stage => s.conn.sslDone = true ∧ stage = .hello false s.conn.gssDone)
    (by intro _; rfl) (by intro _; rfl) (fun s stage hssl hnow => ?_) fun s => ?_
  · rw [InHello, hssl] at hnow
    exact ⟨rfl, hnow⟩
  · split
    · exact speaks_bind (hanswer (Or.inl rfl)) fun _ => speaks_hello hush_promoteToTls
    · exact hanswer (Or.inr rfl)

theorem speaks_handleGssncRequest : Speaks IsConnectionError InHello (handleGssncRequest (V := V)) fun _ => InHello := by
  refine speaks_once (Q := fun s stage => s.conn.gssDone = true ∧ stage = .hello s.conn.sslDone false)
    (by intro _; rfl) (by intro _; rfl) (fun s stage hgss hnow => ?_) fun _ => ?_
  · rw [InHello, hgss] at hnow
    exact ⟨rfl, hnow⟩
  · refine speaks_writeReply fun s s' stage hsteady hnow => ?_
    obtain ⟨hgss, rfl⟩ := hnow
    refine ⟨_, .gss, ?_⟩
    rw [InHello, hsteady.sslDone, hsteady.gssDone, hgss]

/-! ## Packets -/

theorem hush_handleCancelRequest (message : MessageReader) : Keeps Hush (handleCancelRequest (V := V) message) := by
  refine keeps_bind (keeps_lift _) fun key => keeps_bind keeps_get fun s => ?_
  unfold forwardCancel
  split
  · exact keeps_pure _
  · refine keeps_bind hush_interfere fun _ => keeps_bind (keeps_attempt fun s => ?_) fun _ => keeps_pure _
    exact ⟨rfl, id, rfl, rfl, [], (List.append_nil _).symm, rfl⟩

theorem hush_applyStartupParams (message : MessageReader) : Keeps Hush (applyStartupParams (V := V) message) := by
  refine keeps_bind keeps_get fun s => keeps_bind ?_ fun _ => ?_
  · exact hush_update (fun _ => rfl) (fun _ => rfl) (fun _ => rfl) fun _ => rfl
  refine keeps_bind (keeps_lift _) fun _ => keeps_bind (keeps_lift _) fun _ => keeps_bind (keeps_lift _) fun _ => ?_
  refine keeps_bind ?_ fun _ => keeps_bind (keeps_lift _) fun _ => keeps_bind ?_ fun _ => keeps_bind (keeps_lift _) fun _ => ?_
  · exact hush_update (fun _ => rfl) (fun _ => rfl) (fun _ => rfl) fun _ => rfl
  · exact hush_update (fun _ => rfl) (fun _ => rfl) (fun _ => rfl) fun _ => rfl
  · exact hush_update (fun _ => rfl) (fun _ => rfl) (fun _ => rfl) fun _ => rfl

/-! ## The permit -/

theorem tryAcquire_returns (s : Session V) : ∃ acquired, (tryAcquire s).1 = .ok acquired := by
  unfold tryAcquire
  rw [bind_of_ok (get_apply s)]
  split
  · exact ⟨false, rfl⟩
  · exact ⟨true, rfl⟩

/-- Taking a permit writes nothing. -/
theorem tryAcquire_flushed {s : Session V} (hbuf : s.conn.wire.writer.buf = []) :
    (tryAcquire s).2.log = s.log ∧ Flushed s [] (tryAcquire s).2 ∧
      Path Next (.hello s.conn.sslDone s.conn.gssDone) (outputs [])
        (.hello (tryAcquire s).2.conn.sslDone (tryAcquire s).2.conn.gssDone) := by
  unfold tryAcquire
  rw [bind_of_ok (get_apply s)]
  split
  · exact ⟨rfl, ⟨hbuf, (List.append_nil _).symm⟩, .nil _⟩
  · exact ⟨rfl, ⟨hbuf, (List.append_nil _).symm⟩, .nil _⟩

theorem releasePermit_log (s : Session V) : (releasePermit s).log = s.log := rfl

/-- The permit is no part of the stream. -/
theorem Says.released {stage : Stage} {s s' : Session V} {o : Outcome ε α} {es : List Event}
    (h : Says Never (fun _ _ _ => True) stage s o es s') :
    Says Never (fun _ _ _ => True) stage s o es (releasePermit s') := by
  obtain ⟨stage', hpath, ⟨bs, hout, hrest⟩, hok, -⟩ := h
  refine ⟨stage', hpath, ⟨bs, hout, hrest⟩, fun a ha => ?_, fun e _ h => absurd h id⟩
  obtain ⟨⟨hbuf, houtput⟩, -⟩ := hok a ha
  exact ⟨⟨hbuf, houtput⟩, trivial⟩

section Provider

variable [VerifierProvider V]

theorem speaks_openBackend (clientKey : Bytes) :
    Speaks IsConnectionError (At .admitted) (openBackend (V := V) C clientKey) fun _ => At .over := by
  refine speaks_bind (speaks_at keeps_get (by decide)) fun _ => speaks_bind (speaks_at (keeps_lift _) (by decide)) fun user => ?_
  refine speaks_bind (speaks_at (keeps_lift _) (by decide)) fun _ => ?_
  exact speaks_bind (speaks_at (hush_lookup user) (by decide)) fun _ => speaks_linkBackend C _ _ _ _

theorem speaks_proceed (clientKey : Option Bytes) :
    Speaks IsConnectionError (fun _ stage => clientKey.isSome → stage = .admitted) (proceed (V := V) C clientKey)
      fun _ _ _ => True := by
  cases clientKey with
  | none => exact speaks_pure fun _ _ _ => trivial
  | some key => exact (speaks_openBackend C key).mono (fun _ _ h => h rfl) fun _ _ _ _ => trivial

theorem speaks_handleStartupPacket (version : UInt32) (message : MessageReader) :
    Speaks IsConnectionError InHello (handleStartupPacket (V := V) C version message) fun _ _ _ => True := by
  refine speaks_bind (speaks_hello keeps_get) fun _ => speaks_bind (speaks_hello (hush_emit rfl)) fun _ => ?_
  refine speaks_bind (speaks_hello ?_) fun _ => speaks_bind (speaks_hello (hush_applyStartupParams message)) fun _ => ?_
  · exact hush_update (fun _ => rfl) (fun _ => rfl) (fun _ => rfl) fun _ => rfl
  · exact speaks_bind (speaks_handleAuthentication C) fun clientKey => speaks_proceed C clientKey

/-- Only an answered encryption request reads on. -/
def Onward : StartupOutCome → Session V → Stage → Prop := fun r s stage => r = .continued → InHello s stage

theorem speaks_dispatch (code : UInt32) (message : MessageReader) :
    Speaks IsConnectionError InHello (dispatch (V := V) C code message) Onward := by
  unfold dispatch
  split
  · exact speaks_bind speaks_handleSslRequest fun _ => speaks_pure fun _ _ h _ => h
  split
  · exact speaks_bind speaks_handleGssncRequest fun _ => speaks_pure fun _ _ h _ => h
  split
  · exact speaks_bind (speaks_hello (hush_handleCancelRequest message)) fun _ => speaks_pure fun _ _ h _ => h
  split
  · refine speaks_bind (speaks_hello keeps_get) fun _ => speaks_bind (speaks_hello (keeps_lift _)) fun _ => ?_
    refine ((speaks_handleStartupPacket C code message).returns (returns_handleStartupPacket C code message)).mono
      (fun _ _ h => h) fun r s stage h hr => ?_
    exact absurd hr h.2
  · exact speaks_throw fun _ s stage hnow => hnow.ne_over

theorem speaks_handleStartup : Speaks IsConnectionError InHello (handleStartup (V := V) C) Onward := by
  refine speaks_bind (speaks_hello hush_readStartupPacket) fun body => speaks_bind (speaks_hello (hush_emit rfl)) fun _ => ?_
  exact speaks_bind (speaks_hello (keeps_lift _)) fun code => speaks_dispatch C code _

/-! ## The driver -/

theorem speaks_driveFrom (fuel : Nat) : Speaks Never InHello (driveFrom (V := V) C fuel) fun _ _ _ => True := by
  induction fuel with
  | zero => exact speaks_pure fun _ _ _ => trivial
  | succ fuel ih =>
    refine speaks_match (speaks_handleStartup C) (fun r => ?_) (fun e he => ?_) fun e he => ?_
    · cases r with
      | continued => exact ih.mono (fun _ _ h => h rfl) fun _ _ _ h => h
      | ready => exact speaks_pure fun _ _ _ => trivial
      | close => exact speaks_pure fun _ _ _ => trivial
    · obtain ⟨error, rfl⟩ := he
      exact (speaks_sendErrorMessage (fun _ h => h) _ _).mono (fun _ _ h => h) fun _ _ _ _ => trivial
    · cases e with
      | connectionError error => exact absurd ⟨error, rfl⟩ he
      | internal error => exact ⟨error, rfl, id⟩

/-- The authentication deadline drops the driver. -/
def DeadlineFires (s t : Session V) : Prop :=
  ∃ s₁, tryAcquire s = (.ok true, s₁) ∧ driveStartupUntilReady C s₁ = (.dropped 0, t)

theorem authenticate_of_ok {s t : Session V} {u : Unit} (h : driveStartupUntilReady C s = (.ok u, t)) :
    authenticate C s = (.ok (), t) := by
  have htimeout : (timeout (driveStartupUntilReady C) : Proc (Session V) InternalError _) s = (.ok (some (.ok u)), t) := by
    rw [timeout, h]
  unfold authenticate
  rw [bind_of_ok htimeout]
  rfl

theorem authenticate_of_err {s t : Session V} {e : InternalError} (h : driveStartupUntilReady C s = (.err e, t)) :
    authenticate C s = (.err e, t) := by
  have htimeout : (timeout (driveStartupUntilReady C) : Proc (Session V) InternalError _) s = (.ok (some (.error e)), t) := by
    rw [timeout, h]
  unfold authenticate
  rw [bind_of_ok htimeout]
  rfl

/-- A deadline further out. -/
theorem authenticate_of_dropped {s t : Session V} {n : Nat} (h : driveStartupUntilReady C s = (.dropped (n + 1), t)) :
    authenticate C s = (.dropped n, t) := by
  have htimeout : (timeout (driveStartupUntilReady C) : Proc (Session V) InternalError _) s = (.dropped n, t) := by
    rw [timeout, h]
  unfold authenticate
  rw [bind_of_dropped htimeout]

theorem authenticate_of_deadline {s t : Session V} (h : driveStartupUntilReady C s = (.dropped 0, t)) :
    authenticate C s =
      sendErrorMessage ConnectionErrorInner.authTimeout.code ConnectionErrorInner.authTimeout.message t := by
  have htimeout : (timeout (driveStartupUntilReady C) : Proc (Session V) InternalError _) s = (.ok none, t) := by
    rw [timeout, h]
  unfold authenticate
  rw [bind_of_ok htimeout]

theorem handle_of_acquired {s s₁ : Session V} (h : tryAcquire s = (.ok true, s₁)) :
    handle C s = ((authenticate C s₁).1, releasePermit (authenticate C s₁).2) := by
  unfold handle
  rw [bind_of_ok h, if_pos rfl, ensure_apply]

theorem handle_of_refused {s s₁ : Session V} (h : tryAcquire s = (.ok false, s₁)) :
    handle C s = sendErrorMessage ConnectionErrorInner.tooManyRequest.code ConnectionErrorInner.tooManyRequest.message s₁ := by
  unfold handle
  rw [bind_of_ok h, if_neg Bool.false_ne_true]

theorem authenticate_says {s : Session V} (hbuf : s.conn.wire.writer.buf = [])
    (hdeadline : ∀ t, driveStartupUntilReady C s ≠ (.dropped 0, t)) :
    ∃ es, (authenticate C s).2.log = s.log ++ es ∧
      Says Never (fun _ _ _ => True) (.hello s.conn.sslDone s.conn.gssDone) s (authenticate C s).1 es (authenticate C s).2 := by
  obtain ⟨es, hlog, h⟩ := speaks_driveFrom C 3 s
  have hspoken := h _ rfl hbuf
  refine ⟨es, ?_⟩
  rcases hdrive : driveFrom C 3 s with ⟨u | e | _ | n, t⟩ <;> rw [hdrive] at hlog hspoken
  · rw [authenticate_of_ok C hdrive]
    exact ⟨hlog, hspoken⟩
  · rw [authenticate_of_err C hdrive]
    exact ⟨hlog, hspoken⟩
  · exact absurd hdrive (hdeadline t)
  · rw [authenticate_of_dropped C hdrive]
    exact ⟨hlog, hspoken.stop (by simp) (by simp)⟩

theorem handle_says {s : Session V} (hbuf : s.conn.wire.writer.buf = []) (hdeadline : ∀ t, ¬ DeadlineFires C s t) :
    ∃ es, (handle C s).2.log = s.log ++ es ∧
      Says Never (fun _ _ _ => True) (.hello s.conn.sslDone s.conn.gssDone) s (handle C s).1 es (handle C s).2 := by
  obtain ⟨acquired, h⟩ := tryAcquire_returns s
  have hacquire := eq_of_fst h
  obtain ⟨hlog, hflushed, hpath⟩ := tryAcquire_flushed hbuf
  cases acquired with
  | true =>
    obtain ⟨es, hes, hspoken⟩ := authenticate_says C hflushed.buf fun t ht => hdeadline t ⟨_, hacquire, ht⟩
    rw [handle_of_acquired C hacquire, ← hlog]
    exact ⟨es, (releasePermit_log _).trans hes, (hspoken.after hpath hflushed).released⟩
  | false =>
    obtain ⟨es, hes, hspoken⟩ := errorMessage_says ConnectionErrorInner.tooManyRequest.code
      ConnectionErrorInner.tooManyRequest.message hflushed.buf
      (hello_ne_over (tryAcquire s).2.conn.sslDone (tryAcquire s).2.conn.gssDone)
    rw [handle_of_refused C hacquire, ← hlog]
    exact ⟨es, hes, hspoken.after hpath hflushed⟩

/-- What the client is told when the deadline fires. -/
def authTimeoutBody : Bytes :=
  prepareErrorBuf "FATAL" ConnectionErrorInner.authTimeout.code ConnectionErrorInner.authTimeout.message

theorem handle_of_deadline {s t : Session V} (h : DeadlineFires C s t) :
    handle C s = ((writeMessage (byte 'E') authTimeoutBody t).1,
      releasePermit (writeMessage (byte 'E') authTimeoutBody t).2) := by
  obtain ⟨s₁, hacquire, hdrive⟩ := h
  rw [handle_of_acquired C hacquire, authenticate_of_deadline C hdrive, sendErrorMessage, authTimeoutBody]

theorem deadline_log {s t : Session V} (h : DeadlineFires C s t) :
    (handle C s).2.log = t.log ++ [.message (byte 'E') authTimeoutBody] := by
  obtain ⟨es, hlog, -, rfl⟩ := emits_writeMessage (V := V) (byte 'E') authTimeoutBody t
  rw [handle_of_deadline C h, releasePermit_log, hlog]

/-- What a connection writes is the beginning of a run of the protocol, whatever ends it;
    the third packet is the last. -/
theorem handle_speaks {s : Session V} (hs : Fresh s) (hbuf : s.conn.wire.writer.buf = [])
    (hdeadline : ∀ t, ¬ DeadlineFires C s t) :
    (∃ es full bs, (handle C s).2.log = s.log ++ es ∧ Path Next (.hello false false) full .over ∧ outputs es <+: full ∧
      (handle C s).2.conn.wire.output = s.conn.wire.output ++ bs ∧ bs <+: rendered (outputs es)) ∧
    (∀ extra, driveFrom (V := V) C (2 + extra + 1) = driveStartupUntilReady C) ∧
    ∀ t t₁ t₂ t₃ : Session V, handleStartup C t = (.ok .continued, t₁) → handleStartup C t₁ = (.ok .continued, t₂) →
      handleStartup C t₂ ≠ (.ok .continued, t₃) := by
  refine ⟨?_, driveFrom_eq C, ?_⟩
  · obtain ⟨es, hlog, stage, hpath, ⟨bs, hout, hprefix, -⟩, -, -⟩ := handle_says C hbuf hdeadline
    rw [hs.sslDone, hs.gssDone] at hpath
    obtain ⟨full, hfull, hes⟩ := hpath.completes completes
    exact ⟨es, full, bs, hlog, hfull, hes, hout, by rw [rendered_outputs]; exact hprefix⟩
  · intro t t₁ t₂ t₃ h₁ h₂ h₃
    have hp₁ := pending_of_continued C h₁
    have hp₂ := pending_of_continued C h₂
    have hp₃ := pending_of_continued C h₃
    have hle : pending t ≤ 2 := by
      unfold pending
      split <;> split <;> omega
    omega

theorem handle_speaks_login :
    (∃ es full bs, (handle Sample.crypto Sample.login).2.log = Sample.login.log ++ es ∧
      Path Next (.hello false false) full .over ∧ outputs es <+: full ∧
      (handle Sample.crypto Sample.login).2.conn.wire.output = Sample.login.conn.wire.output ++ bs ∧
      bs <+: rendered (outputs es)) ∧
    (∀ extra, driveFrom (V := CredentialStore Sample.crypto) Sample.crypto (2 + extra + 1) =
      driveStartupUntilReady Sample.crypto) ∧
    ∀ t t₁ t₂ t₃ : Session (CredentialStore Sample.crypto), handleStartup Sample.crypto t = (.ok .continued, t₁) →
      handleStartup Sample.crypto t₁ = (.ok .continued, t₂) → handleStartup Sample.crypto t₂ ≠ (.ok .continued, t₃) := by
  refine handle_speaks Sample.crypto Sample.fresh_login rfl fun t hfires => ?_
  have hlog := (deadline_log Sample.crypto hfires).symm.trans Sample.login_log
  have hlast := congrArg List.getLast? hlog
  rw [List.getLast?_concat] at hlast
  exact absurd hlast (by decide)

end Provider

end Session

end Wirechaos
