/-
  Wirechaos.Conn.LoginProofs — a client that knows its password gets its session
  (see `Wirechaos.Conn.Startup`, `Wirechaos.Auth.ScramLink`).

  The other results about a connection say what a run that returned has done. This one
  says that a run returns. The line is smooth, no deadline fires, and what the other tasks
  do leaves two properties alone: `P` of the provider, from which the user's entry follows,
  and `R` of the registry, from which it follows that the keys to be drawn are free
  (`Favours`). Then `Goes P R x s a taken es` says that `x` returns `a` from `s`, takes
  `taken` from the input and logs `es`; there is one such lemma for each function on the
  way, composed by `goes_bind`.

  (1) The connection implements the exchange of the two roles: whenever the client's role
      completes against the authenticator, its messages in the input have the session
      return the key that the exchange recovered (`authenticates`).
  (2) From the StartupMessage to the ReadyForQuery (`password_opens_session`): the client's
      three messages are all that is read, and the log is known event by event.
-/

import Wirechaos.Auth.ScramLink
import Wirechaos.Conn.PromotionProofs
import Wirechaos.Conn.ReplayProofs
import Wirechaos.Conn.SecrecyProofs

namespace Wirechaos

open Text Async Proc

/-! ## A completed exchange -/

/-- What both roles made of the messages of an exchange that completed. -/
theorem exchange_ok {C : Crypto} {c : ScramClient} {chosen : SaslMechanism} {salt : Bytes} {iterations : UInt32}
    {a : ScramAuthenticator} {serverNonceBytes : Key} {user : Str} {r : Completed}
    (h : exchange C c chosen salt iterations a serverNonceBytes user = .ok r) :
    ∃ mechanism clientFirst a₁ a₂,
      parseSaslInitialResponse a.mechanisms (saslInitialResponse chosen.name c.clientFirstMessage) =
        .ok (mechanism, clientFirst) ∧
      a.handleClientFirst serverNonceBytes mechanism clientFirst user = (.ok r.serverFirst, a₁) ∧
      a₁.handleClientFinal C r.clientFinal user = (.ok r.serverFinal, a₂) ∧
      r.extractedClientKey = a₂.extractedClientKey := by
  unfold exchange at h
  split at h
  · cases h
  · rename_i serverFirst a₁ hserver
    split at h
    · cases h
    · rename_i clientFinal c' hclient
      rw [parseSaslFinalResponse, fromUtf8_asBytes] at h
      dsimp only [okOr] at h
      split at h
      · cases h
      · rename_i serverFinal a₂ hfinal
        split at h
        · cases h
        · cases h
          unfold serverAnswers at hserver
          split at hserver
          · cases hserver
          · rename_i mechanism clientFirst hparse
            split at hserver
            · cases hserver
            · rename_i message a₃ hfirst
              cases hserver
              exact ⟨mechanism, clientFirst, _, a₂, hparse, hfirst, hfinal, rfl⟩

namespace Session

variable {C : Crypto} {V : Type} {ε ε' α β : Type}

/-! ## A run that nothing stops -/

/-- No deadline fires, and the other tasks keep `P` and `R`. -/
structure Favours (P : V → Prop) (R : Registry → Prop) (w : World V) : Prop where
  calm : ∀ n, w.expires n = false
  provider : ∀ n shared, P shared.provider → P (w.others n shared).provider
  registry : ∀ n shared, R shared.backendRegistry → R (w.others n shared).backendRegistry

structure Favoured (P : V → Prop) (R : Registry → Prop) (s : Session V) : Prop where
  world : Favours P R s.world
  line : Wire.Smooth s.conn.wire
  provider : P s.conn.provider
  registry : R s.conn.backendRegistry

/-- What a part of a run took from the input and logged. -/
structure Went (s : Session V) (taken : Bytes) (es : List Event) (s' : Session V) : Prop where
  steady : Steady s s'
  drawn : s'.drawnNonces = s.drawnNonces
  input : s.conn.wire.input = taken ++ s'.conn.wire.input
  log : s'.log = s.log ++ es

theorem Went.refl (s : Session V) : Went s [] [] s := ⟨refl_of Steady s, rfl, rfl, (List.append_nil _).symm⟩

theorem Went.trans {s s' s'' : Session V} {t t' : Bytes} {es es' : List Event} (h : Went s t es s')
    (h' : Went s' t' es' s'') : Went s (t ++ t') (es ++ es') s'' :=
  ⟨trans_of Steady h.steady h'.steady, h'.drawn.trans h.drawn, by rw [h.input, h'.input, List.append_assoc],
    by rw [h'.log, h.log, List.append_assoc]⟩

/-- What is left of the input, when more of it is known. -/
theorem Went.rest {s s' : Session V} {t rest : Bytes} {es : List Event} (h : Went s t es s')
    (hinput : s.conn.wire.input = t ++ rest) : s'.conn.wire.input = rest :=
  List.append_cancel_left (h.input.symm.trans hinput)

def Goes (P : V → Prop) (R : Registry → Prop) (x : Proc (Session V) ε α) (s : Session V) (a : α) (taken : Bytes)
    (es : List Event) : Prop :=
  ∃ s', x s = (.ok a, s') ∧ Favoured P R s' ∧ Went s taken es s'

variable {P : V → Prop} {R : Registry → Prop} {s : Session V}

/-- A part of a run, and what comes after it. -/
theorem Went.then {x : Proc (Session V) ε α} {s₁ : Session V} {a : α} {t u : Bytes} {l k : List Event} (h : Went s t l s₁)
    (hx : Goes P R x s₁ a u k) : ∃ s', x s₁ = (.ok a, s') ∧ Favoured P R s' ∧ Went s (t ++ u) (l ++ k) s' := by
  obtain ⟨s', hrun, hs', h'⟩ := hx
  exact ⟨s', hrun, hs', h.trans h'⟩

theorem goes_pure (hs : Favoured P R s) (a : α) : Goes P R (pure a : Proc (Session V) ε α) s a [] [] :=
  ⟨s, rfl, hs, Went.refl s⟩

theorem goes_bind {x : Proc (Session V) ε α} {f : α → Proc (Session V) ε β} {a : α} {b : β} {t u : Bytes}
    {l k : List Event} (hx : Goes P R x s a t l)
    (hf : ∀ s', Favoured P R s' → Went s t l s' → Goes P R (f a) s' b u k) :
    Goes P R (x >>= f) s b (t ++ u) (l ++ k) := by
  obtain ⟨s₁, hrun, hs₁, hwent⟩ := hx
  obtain ⟨s₂, hrun', hs₂, hwent'⟩ := hf s₁ hs₁ hwent
  refine ⟨s₂, ?_, hs₂, hwent.trans hwent'⟩
  rw [bind_of_ok hrun, hrun']

/-- A first part that takes nothing, and a second one. -/
theorem goes_first {x : Proc (Session V) ε α} {f : α → Proc (Session V) ε β} {a : α} {b : β} {t : Bytes} {l k : List Event}
    (hx : Goes P R x s a [] l) (hf : ∀ s', Favoured P R s' → Went s [] l s' → Goes P R (f a) s' b t k) :
    Goes P R (x >>= f) s b t (l ++ k) := goes_bind hx hf

theorem goes_tail {x : Proc (Session V) ε α} {f : α → Proc (Session V) ε β} {a : α} {b : β} {t : Bytes} {l k : List Event}
    (hx : Goes P R x s a t l) (hf : ∀ s', Favoured P R s' → Went s t l s' → Goes P R (f a) s' b [] k) :
    Goes P R (x >>= f) s b t (l ++ k) := by
  have hbind := goes_bind hx hf
  rwa [List.append_nil] at hbind

/-- A second part that neither reads nor logs. -/
theorem goes_last {x : Proc (Session V) ε α} {f : α → Proc (Session V) ε β} {a : α} {b : β} {t : Bytes} {l : List Event}
    (hx : Goes P R x s a t l) (hf : ∀ s', Favoured P R s' → Goes P R (f a) s' b [] []) : Goes P R (x >>= f) s b t l := by
  have htail := goes_tail hx fun s' hs' _ => hf s' hs'
  rwa [List.append_nil] at htail

theorem goes_get {f : Session V → Proc (Session V) ε β} {b : β} {t : Bytes} {es : List Event} (h : Goes P R (f s) s b t es) :
    Goes P R (get >>= f) s b t es := h

theorem goes_lift {r : Except ε α} {f : α → Proc (Session V) ε β} {a : α} {b : β} {t : Bytes} {es : List Event}
    (hr : r = .ok a) (h : Goes P R (f a) s b t es) : Goes P R (lift r >>= f) s b t es := by
  subst hr
  exact h

theorem goes_mapErr {x : Proc (Session V) ε α} {a : α} {t : Bytes} {es : List Event} (f : ε → ε') (h : Goes P R x s a t es) :
    Goes P R (mapErr f x) s a t es := by
  obtain ⟨s', hrun, h⟩ := h
  exact ⟨s', mapErr_ok.mpr hrun, h⟩

theorem goes_emit (hs : Favoured P R s) (e : Event) : Goes P R (emit e : Proc (Session V) ε Unit) s () [] [e] :=
  ⟨{ s with log := s.log ++ [e] }, rfl, ⟨hs.world, hs.line, hs.provider, hs.registry⟩,
    ⟨⟨rfl, rfl, rfl, rfl, rfl, rfl, rfl, rfl, rfl⟩, rfl, rfl, rfl, rfl⟩, rfl, rfl, rfl⟩

theorem Favoured.interfere (hs : Favoured P R s) : Favoured P R s.interfere :=
  ⟨hs.world, hs.line, hs.world.provider _ _ hs.provider, hs.world.registry _ _ hs.registry⟩

theorem went_interfere (s : Session V) : Went s [] [] s.interfere :=
  ⟨steady_interfere s, rfl, rfl, (List.append_nil _).symm⟩

theorem goes_interfere (hs : Favoured P R s) : Goes P R (modify interfere : Proc (Session V) ε Unit) s () [] [] :=
  ⟨s.interfere, rfl, hs.interfere, went_interfere s⟩

theorem goes_suspend (hs : Favoured P R s) : Goes P R (suspend : Proc (Session V) ε Unit) s () [] [] := by
  refine goes_get (goes_bind (goes_interfere hs) fun s' hs' _ => ?_)
  rw [hs.world.calm s.suspensions, if_neg Bool.false_ne_true]
  exact goes_pure hs' ()

/-! ## Reading and writing -/

/-- An operation on the connection that returns. -/
theorem goes_io {x : Proc Wire IoError α} {a : α} {w : Wire} {t : Bytes} (hs : Favoured P R s)
    (hrun : x s.conn.wire = (.ok a, w)) (hstable : Keeps Wire.Stable x) (hsmooth : Wire.Smooth w)
    (hinput : s.conn.wire.input = t ++ w.input) : Goes P R (io x) s a t [] := by
  have hio := io_eq_ok.mpr ⟨w, hrun, rfl⟩
  have hkeeps := (keeps_io hstable : Keeps Silent _).run hio
  refine ⟨onWire s w, hio, ⟨hs.world, hsmooth, ?_, ?_⟩, hkeeps.1, rfl, hinput, ?_⟩
  · exact hs.interfere.provider
  · exact hs.interfere.registry
  · rw [List.append_nil]
    exact Silent.log hkeeps

theorem goes_read {bytes rest : Bytes} (hs : Favoured P R s) (hinput : s.conn.wire.input = bytes ++ rest) :
    Goes P R (io (Wire.readExact bytes.length)) s bytes bytes [] := by
  have hlen : bytes.length ≤ s.conn.wire.input.length := by
    rw [hinput, List.length_append]
    omega
  obtain ⟨read, w, hrun, hsmooth⟩ := Wire.readExact_smooth hs.line hlen
  obtain ⟨hread, hleft, -⟩ := Wire.readExact_ok hrun
  obtain ⟨rfl, -⟩ := List.append_inj (hleft.symm.trans hinput) hread
  exact goes_io hs hrun (Wire.keeps_readExact _) hsmooth hleft

/-- A write takes nothing from the input. -/
theorem goes_write {x : Proc Wire IoError Unit} (hs : Favoured P R s) (hstable : Keeps Wire.Stable x)
    (hproceeds : Proceeds Wire.Smooth x fun _ => Wire.Smooth)
    (hok : ∀ w w' u, x w = (.ok u, w') → w'.input = w.input) : Goes P R (io x) s () [] [] := by
  obtain ⟨u, w, hrun, hsmooth⟩ := hproceeds _ hs.line
  exact goes_io hs hrun hstable hsmooth (hok _ _ _ hrun).symm

theorem goes_writeAll (hs : Favoured P R s) (data : Bytes) : Goes P R (io (Wire.writeAll data)) s () [] [] :=
  goes_write hs (Wire.keeps_writeAll data) (Wire.proceeds_writeAll data) fun _ _ _ h => (Wire.writeAll_ok h).2

theorem goes_flush (hs : Favoured P R s) : Goes P R (io Wire.flush) s () [] [] :=
  goes_write hs Wire.keeps_flush Wire.proceeds_flush fun _ _ _ h => (Wire.flush_ok h).2.2

theorem goes_writeMessage (hs : Favoured P R s) (tag : UInt8) (body : Bytes) :
    Goes P R (writeMessage tag body) s () [] [.message tag body] := by
  refine goes_bind (goes_emit hs _) fun s₁ hs₁ _ => goes_bind (goes_writeAll hs₁ _) fun s₂ hs₂ _ => ?_
  exact goes_bind (goes_writeAll hs₂ _) fun s₃ hs₃ _ => goes_bind (goes_writeAll hs₃ _) fun s₄ hs₄ _ => goes_flush hs₄

theorem goes_sendAuthMessage (hs : Favoured P R s) (code : UInt32) (data : Bytes) :
    Goes P R (sendAuthMessage code data) s () [] [authEvent code data] := goes_writeMessage hs _ _

/-- A body that the pool has a buffer for, and whose length fits into its field. -/
structure Sized (s : Session V) (body : Bytes) : Prop where
  pool : body.length ≤ s.conn.pool.maxCapacity
  field : body.length + 4 < 2 ^ 32

theorem Sized.of_steady {s s' : Session V} {body : Bytes} (h : Sized s body) (hs : Steady s s') : Sized s' body :=
  ⟨by rw [hs.pool]; exact h.pool, h.field⟩

/-- The length field of a body. -/
def lengthField (body : Bytes) : Bytes := beBytes (UInt32.ofNat (body.length + 4))

theorem parseLength_lengthField {body : Bytes} (h : body.length + 4 < 2 ^ 32) :
    parseLength (lengthField body) = .ok body.length := by
  obtain ⟨a, b, c, d, hbytes, hword⟩ := beBytes_eq (UInt32.ofNat (body.length + 4))
  have hnat : (UInt32.ofNat (body.length + 4)).toNat = body.length + 4 := UInt32.toNat_ofNat_of_lt' h
  rw [lengthField, hbytes]
  simp only [parseLength, hword, hnat]
  rw [if_neg (by omega), Nat.add_sub_cancel]

theorem goes_readMessageLength {body rest : Bytes} (hs : Favoured P R s) (hsized : Sized s body)
    (hinput : s.conn.wire.input = lengthField body ++ rest) :
    Goes P R readMessageLength s body.length (lengthField body) [] := by
  refine goes_last (goes_mapErr _ (goes_read hs hinput)) fun s' hs' => ?_
  rw [parseLength_lengthField hsized.field]
  exact goes_pure hs' _

theorem goes_readMessageBody {body rest : Bytes} (hs : Favoured P R s) (hsized : Sized s body) (hbody : body ≠ [])
    (hinput : s.conn.wire.input = body ++ rest) : Goes P R (readMessageBody body.length) s (some body) body [] := by
  have hpos := List.length_pos_iff.mpr hbody
  have hcap := hsized.pool
  unfold Goes
  rw [readMessageBody_eq, if_neg (by omega), if_neg (by omega)]
  exact goes_last (goes_mapErr _ (goes_read hs hinput)) fun s' hs' => goes_pure hs' (some body)

/-! ## The packets of a client -/

/-- A startup packet. -/
def startupPacket (body : Bytes) : Bytes := lengthField body ++ body

theorem goes_readStartupPacket {body rest : Bytes} (hs : Favoured P R s) (hsized : Sized s body) (hbody : body ≠ [])
    (hsmall : body.length + 4 ≤ s.conn.config.maxStartupBytes)
    (hinput : s.conn.wire.input = startupPacket body ++ rest) :
    Goes P R readStartupPacket s body (startupPacket body) [] := by
  rw [startupPacket, List.append_assoc] at hinput
  refine goes_bind (goes_readMessageLength hs hsized hinput) fun s₁ hs₁ h₁ => goes_get ?_
  refine goes_lift (a := ()) (require_eq_ok.mpr (by rw [h₁.steady.config]; exact hsmall)) ?_
  exact goes_last (goes_readMessageBody hs₁ (hsized.of_steady h₁.steady) hbody (h₁.rest hinput)) fun s₂ hs₂ =>
    goes_pure hs₂ body

theorem goes_readSaslResponse {body rest : Bytes} (hs : Favoured P R s) (hsized : Sized s body) (hlong : 4 ≤ body.length)
    (hinput : s.conn.wire.input = frame (byte 'p') body ++ rest) :
    Goes P R readSaslResponse s body (frame (byte 'p') body) [.sasl body] := by
  have hbody : body ≠ [] := List.length_pos_iff.mp (by omega)
  have hframe : frame (byte 'p') body = [byte 'p'] ++ (lengthField body ++ (body ++ [])) := by
    rw [List.append_nil]
    rfl
  rw [hframe] at hinput ⊢
  rw [List.append_assoc, List.append_assoc, List.append_nil] at hinput
  refine goes_bind (l := []) (goes_mapErr _ (goes_read hs hinput)) fun s₁ hs₁ h₁ => ?_
  refine goes_lift (a := ()) (require_eq_ok.mpr rfl) ?_
  have hleft₁ := h₁.rest hinput
  refine goes_bind (l := []) (goes_mapErr _ (goes_readMessageLength hs₁ (hsized.of_steady h₁.steady) hleft₁))
    fun s₂ hs₂ h₂ => ?_
  refine goes_lift (a := ()) (require_eq_ok.mpr (by omega)) ?_
  have hsized₂ := (hsized.of_steady h₁.steady).of_steady h₂.steady
  refine goes_bind (l := []) (goes_mapErr _ (goes_readMessageBody hs₂ hsized₂ hbody (h₂.rest hleft₁))) fun s₃ hs₃ _ => ?_
  exact goes_lift (okOr_eq_ok.mpr rfl) (goes_bind (goes_emit hs₃ _) fun s₄ hs₄ _ => goes_pure hs₄ body)

/-! ## The exchange -/

section Provider

variable [VerifierProvider V]

/-- From `P` the entry of the user follows, and a lookup keeps it. -/
structure Provides (user : Str) (v : Verifier) (P : V → Prop) : Prop where
  answer : ∀ p, P p → (VerifierProvider.lookup p user).1 = .ok (some v)
  kept : ∀ p, P p → P (VerifierProvider.lookup p user).2

variable {user : Str} {v : Verifier}

theorem goes_lookup (hs : Favoured P R s) (hprovides : Provides user v P) :
    Goes P R (lookup user : Proc (Session V) ε _) s (.ok (some v)) [] [.lookup user (.ok (some v))] := by
  refine goes_first (l := []) (goes_suspend hs) fun s₁ hs₁ _ => goes_get ?_
  have hanswer := hprovides.answer _ hs₁.provider
  have hkept := hprovides.kept _ hs₁.provider
  rcases hlookup : VerifierProvider.lookup s₁.conn.provider user with ⟨answer, provider⟩
  rw [hlookup] at hanswer hkept
  subst hanswer
  refine goes_first (l := []) (a := ()) ⟨{ s₁ with conn := { s₁.conn with provider } }, rfl, ?_, ?_⟩ fun s₂ hs₂ _ => ?_
  · exact ⟨hs₁.world, hs₁.line, hkept, hs₁.registry⟩
  · exact ⟨⟨⟨rfl, rfl, rfl, rfl, rfl, rfl, rfl, rfl, rfl⟩, rfl, rfl, rfl, rfl⟩, rfl, rfl, (List.append_nil _).symm⟩
  · exact goes_bind (goes_emit hs₂ _) fun s₃ hs₃ _ => goes_pure hs₃ _

end Provider

/-- One more server nonce was drawn. -/
def draw (s : Session V) : Session V := { s with drawnNonces := s.drawnNonces + 1 }

theorem Favoured.draw (hs : Favoured P R s) : Favoured P R s.draw := ⟨hs.world, hs.line, hs.provider, hs.registry⟩

theorem Went.draw {s' : Session V} {t : Bytes} {es : List Event} (h : Went s t es s') : Went s.draw t es s'.draw := by
  obtain ⟨⟨⟨hworld, hconfig, hpool, hrequired, hfrontend, hparams, huser, hdatabase, hmode⟩, hssl, hgss, hreader, hwriter⟩,
    hdrawn, hinput, hlog⟩ := h
  exact ⟨⟨⟨hworld, hconfig, hpool, hrequired, hfrontend, hparams, huser, hdatabase, hmode⟩, hssl, hgss, hreader, hwriter⟩,
    congrArg (· + 1) hdrawn, hinput, hlog⟩

/-- The two messages of a client in an exchange that completes as `r`. -/
def firstResponse (c : ScramClient) (chosen : SaslMechanism) : Bytes := saslInitialResponse chosen.name c.clientFirstMessage

def saslBytes (c : ScramClient) (chosen : SaslMechanism) (r : Completed) : Bytes :=
  frame (byte 'p') (firstResponse c chosen) ++ frame (byte 'p') (asBytes r.clientFinal)

/-- The session's side of it. -/
def saslLog (c : ScramClient) (chosen : SaslMechanism) (mechanics : List Str) (r : Completed) : List Event :=
  [authEvent authSasl (saslMechanismList mechanics), .sasl (firstResponse c chosen),
    authEvent authSaslContinue (asBytes r.serverFirst), .sasl (asBytes r.clientFinal),
    authEvent authSaslFinal (asBytes r.serverFinal), authEvent authSaslOk []]

/-- Both messages have their buffers. -/
structure Exchanged (s : Session V) (c : ScramClient) (chosen : SaslMechanism) (r : Completed) : Prop where
  first : Sized s (firstResponse c chosen)
  final : Sized s (asBytes r.clientFinal)
  long : 4 ≤ (asBytes r.clientFinal).length

theorem Exchanged.of_steady {s' : Session V} {c : ScramClient} {chosen : SaslMechanism} {r : Completed}
    (h : Exchanged s c chosen r) (hs : Steady s s') : Exchanged s' c chosen r :=
  ⟨h.first.of_steady hs, h.final.of_steady hs, h.long⟩

theorem length_firstResponse (c : ScramClient) (chosen : SaslMechanism) : 4 ≤ (firstResponse c chosen).length := by
  rw [firstResponse, saslInitialResponse, List.length_append, List.length_append, length_beBytes]
  omega

variable {c : ScramClient} {chosen : SaslMechanism} {salt : Bytes} {iterations : UInt32} {user : Str} {r : Completed}

/-- The nonce is drawn between the client's two messages. -/
theorem runs_saslExchange {a : ScramAuthenticator} {rest : Bytes} (hs : Favoured P R s)
    (hexchange : exchange C c chosen salt iterations a (s.world.serverNonces s.drawnNonces) user = .ok r)
    (hsized : Exchanged s c chosen r) (hinput : s.conn.wire.input = saslBytes c chosen r ++ rest) :
    ∃ s', saslExchange C a user s = (.ok r.extractedClientKey, s') ∧ Favoured P R s' ∧
      Went s.draw (saslBytes c chosen r) (saslLog c chosen a.mechanisms r) s' := by
  obtain ⟨mechanism, clientFirst, a₁, a₂, hparse, hfirst, hfinal, hkey⟩ := exchange_ok hexchange
  rw [saslBytes, List.append_assoc] at hinput
  obtain ⟨s₁, hrun₁, hs₁, h₁⟩ := goes_mapErr AuthFailure.internal
    (goes_sendAuthMessage hs authSasl (saslMechanismList a.mechanisms))
  have hread : Goes P R (readSaslInitialResponse a.mechanisms) s₁ (mechanism, clientFirst)
      (frame (byte 'p') (firstResponse c chosen)) [.sasl (firstResponse c chosen)] := by
    refine goes_last (goes_readSaslResponse hs₁ (hsized.first.of_steady h₁.steady) (length_firstResponse c chosen)
      (h₁.rest hinput)) fun s' hs' => ?_
    rw [firstResponse, hparse]
    exact goes_pure hs' _
  obtain ⟨s₂, hrun₂, hs₂, h₂⟩ := hread
  have hbefore := h₁.trans h₂
  have hsized₂ := hsized.of_steady hbefore.steady
  have hnonce : (drawServerNonce : Proc (Session V) AuthFailure Key) s₂ =
      (.ok (s.world.serverNonces s.drawnNonces), s₂.draw) := by
    rw [← hbefore.drawn, ← hbefore.steady.world]
    rfl
  unfold saslExchange sendAuthSasl
  dsimp only
  rw [bind_of_ok hrun₁, bind_of_ok hrun₂]
  dsimp only
  rw [bind_of_ok hnonce, hfirst]
  -- from the nonce on
  refine hbefore.draw.then (u := frame (byte 'p') (asBytes r.clientFinal))
    (k := [authEvent authSaslContinue (asBytes r.serverFirst), .sasl (asBytes r.clientFinal),
      authEvent authSaslFinal (asBytes r.serverFinal), authEvent authSaslOk []]) ?_
  refine goes_first (goes_mapErr _ (goes_sendAuthMessage hs₂.draw _ _)) fun s₃ hs₃ h₃ => ?_
  have hfinalRead : Goes P R readSaslFinalResponse s₃ r.clientFinal (frame (byte 'p') (asBytes r.clientFinal))
      [.sasl (asBytes r.clientFinal)] := by
    refine goes_last (goes_readSaslResponse hs₃ ?_ hsized.long (h₃.rest (h₂.rest (h₁.rest hinput)))) fun s' hs' => ?_
    · exact Sized.of_steady (s := s₂.draw) ⟨hsized₂.final.pool, hsized₂.final.field⟩ h₃.steady
    · rw [parseSaslFinalResponse, fromUtf8_asBytes]
      exact goes_pure hs' _
  refine goes_tail hfinalRead fun s₄ hs₄ h₄ => ?_
  rw [hfinal]
  refine goes_lift (a := (r.serverFinal, a₂)) rfl ?_
  refine goes_first (goes_mapErr _ (goes_sendAuthMessage hs₄ _ _)) fun s₅ hs₅ _ => ?_
  refine goes_last (goes_mapErr _ (goes_sendAuthMessage hs₅ _ _)) fun s₆ hs₆ => ?_
  rw [hkey]
  exact goes_pure hs₆ _

/-- The server's role for a user with this entry, on this connection. -/
def authenticator (s : Session V) (v : Verifier) : ScramAuthenticator := .new v (scramCertHash s.conn)

theorem authenticator_of_steady {s' : Session V} (h : Steady s s') (v : Verifier) :
    s'.authenticator v = s.authenticator v := by
  rw [authenticator, authenticator, scramCertHash, scramCertHash, h.sslDone, h.frontendTls]

section Provider

variable [VerifierProvider V] {v : Verifier}

/-- What a client's two messages have the session log, from the lookup on. -/
def authenticationLog (s : Session V) (user : Str) (v : Verifier) (c : ScramClient) (chosen : SaslMechanism)
    (r : Completed) : List Event :=
  .lookup user (.ok (some v)) :: saslLog c chosen (s.authenticator v).mechanisms r

/-- The connection implements the exchange: where the client's role completes against the
    authenticator, its messages authenticate it. -/
theorem authenticates {rest : Bytes} (hs : Favoured P R s) (hprovides : Provides user v P) (huser : s.conn.user = some user)
    (hne : user ≠ [])
    (hexchange : exchange C c chosen salt iterations (s.authenticator v) (s.world.serverNonces s.drawnNonces) user = .ok r)
    (hsized : Exchanged s c chosen r) (hinput : s.conn.wire.input = saslBytes c chosen r ++ rest) :
    ∃ s', handleAuthentication C s = (.ok r.extractedClientKey, s') ∧ Favoured P R s' ∧
      Went s.draw (saslBytes c chosen r) (authenticationLog s user v c chosen r) s' := by
  obtain ⟨s₁, hrun₁, hs₁, h₁⟩ := goes_lookup (ε := AuthFailure) hs hprovides
  have hsteady := h₁.steady
  rw [← authenticator_of_steady hsteady, ← hsteady.world, ← h₁.drawn] at hexchange
  obtain ⟨s₂, hrun₂, hs₂, h₂⟩ := runs_saslExchange hs₁ hexchange (hsized.of_steady hsteady) (h₁.rest hinput)
  rw [authenticator_of_steady hsteady] at h₂
  have hscram : handleScramAuth C s = (.ok r.extractedClientKey, s₂) := by
    have hasked : okOr (s.conn.user.filter (· ≠ [])) noUserFailure = .ok user := by
      rw [huser, Option.filter_some, if_pos (decide_eq_true hne)]
      rfl
    unfold handleScramAuth
    rw [bind_of_ok (get_apply s), hasked, bind_of_ok (lift_ok user s), bind_of_ok hrun₁, bind_of_ok (get_apply s₁)]
    exact hrun₂
  refine ⟨s₂, ?_, hs₂, h₁.draw.trans h₂⟩
  unfold handleAuthentication
  rw [bind_of_ok (attempt_of_ok hscram)]
  rfl

end Provider

/-! ## The session -/

/-- No key that this session may draw is taken. -/
def Unused (rng : Nat → Int32) (r : Registry) : Prop := ∀ drawn, (SessionKeySecret.mint rng drawn).1 ∉ r.keySecretBackend

theorem goes_sendNotifications (hs : Favoured P R s) (notifications : List StartupNotification) :
    Goes P R (sendNotifications notifications) s () []
      ((notifications.map notificationMessage).map fun m => .message m.1 m.2) := by
  induction notifications generalizing s with
  | nil => exact goes_pure hs ()
  | cons notification rest ih => exact goes_first (goes_mapErr _ (goes_writeMessage hs _ _)) fun s' hs' _ => ih hs'

/-- Where the key is free, the session is registered; nothing is known of the registry then. -/
theorem goes_registerBackend (hs : Favoured P R s) (hfree : ∀ r, R r → Unused s.world.rng r) (backend : Backend) :
    Goes P (fun _ => True) (registerBackend backend) s () [] [] := by
  rcases hmint : SessionKeySecret.mint s.world.rng s.drawnWords with ⟨key, drawn⟩
  have hkey := hfree _ hs.registry s.drawnWords
  rw [hmint] at hkey
  refine ⟨{ s with drawnWords := drawn, conn := { s.conn with
    backendRegistry :=
      { connBackend := s.conn.backendRegistry.connBackend.insert s.conn.connId backend
        keySecretBackend := s.conn.backendRegistry.keySecretBackend.insert key backend }
    serverSignatureVerified := backend.serverSignatureVerified, backend := some backend
    sessionKeySecret := some key, sessionGuard := some ⟨s.conn.connId, key⟩ } }, ?_, ?_, ?_⟩
  · unfold registerBackend
    rw [bind_of_ok (get_apply s)]
    simp only [Registry.registerFresh, hmint, Registry.register, if_neg hkey]
    rfl
  · exact ⟨⟨hs.world.calm, hs.world.provider, fun _ _ h => h⟩, hs.line, hs.provider, trivial⟩
  · exact ⟨⟨⟨rfl, rfl, rfl, rfl, rfl, rfl, rfl, rfl, rfl⟩, rfl, rfl, rfl, rfl⟩, rfl, rfl, (List.append_nil _).symm⟩

/-- What a client is told of its session. -/
def sessionLog (backend : Backend) (secret : SessionKeySecret) : List Event :=
  (backend.startupNotifications.map notificationMessage ++
    [(byte 'K', keyBytes secret), (byte 'Z', [backend.readyStatus])]).map fun m => .message m.1 m.2

theorem goes_startSession (hs : Favoured P R s) (hfree : ∀ r, R r → Unused s.world.rng r) (backend : Backend) :
    ∃ secret s', startSession backend s = (.ok .ready, s') ∧ s'.conn.sessionKeySecret = some secret ∧
      Went s [] (sessionLog backend secret) s' := by
  obtain ⟨s₁, hregister, hs₁, h₁⟩ := goes_registerBackend hs hfree backend
  obtain ⟨-, hbackend, secret, drawn, hsecret, -⟩ := registerBackend_minted hregister
  obtain ⟨s₂, hnotify, hs₂, h₂⟩ := goes_sendNotifications hs₁ backend.startupNotifications
  have hlink₂ := (sendNotifications_wrote hnotify).link
  obtain ⟨s₃, hkey, hs₃, h₃⟩ := goes_mapErr ProxyError.internal (goes_writeMessage hs₂ (byte 'K') (keyBytes secret))
  have hlink₃ := (writeMessage_wrote hkey).link
  obtain ⟨s₄, hready, -, h₄⟩ := goes_mapErr ProxyError.internal (goes_writeMessage hs₃ (byte 'Z') [backend.readyStatus])
  have hlink₄ := (writeMessage_wrote hready).link
  have hsecret₂ : s₂.conn.sessionKeySecret = some secret := hlink₂.key.trans hsecret
  have hbackend₃ : s₃.conn.backend = some backend := (hlink₃.backend.trans hlink₂.backend).trans hbackend
  refine ⟨secret, s₄, ?_, hlink₄.key.trans (hlink₃.key.trans hsecret₂), ?_⟩
  · have hnotifications : sendStartupNotifications s₁ = (.ok (), s₂) := by
      unfold sendStartupNotifications
      rw [bind_of_ok (get_apply s₁), hbackend]
      exact hnotify
    have hsend : sendKeySecret s₂ = (.ok (), s₃) := by
      unfold sendKeySecret
      rw [bind_of_ok (get_apply s₂), hsecret₂]
      exact hkey
    have hsignal : sendReadySignal s₃ = (.ok (), s₄) := by
      unfold sendReadySignal
      rw [bind_of_ok (get_apply s₃), hbackend₃]
      exact hready
    unfold startSession
    rw [bind_of_ok hregister, bind_of_ok hnotifications, bind_of_ok hsend, bind_of_ok hsignal]
    rfl
  · have hwent := h₁.trans (h₂.trans (h₃.trans h₄))
    rw [sessionLog, List.map_append]
    exact hwent

/-- The link of a session comes up, to this backend. -/
structure Answered (C : Crypto) (s : Session V) (clientKey : Bytes) (user database : Str) (v : Verifier) (backend : Backend)
    (config : PgConfig) : Prop where
  address : ∃ host port, s.conn.config.backendHostPort = .ok (host, port) ∧
    config = pgConfig s clientKey user database v host port
  link : (Backend.new C s.world.link config (PgClient.fresh s.conn.pool s.world.link)).1 = .ok backend

theorem Answered.of_settled {t : Session V} {clientKey : Bytes} {user database : Str} {v : Verifier} {backend : Backend}
    {config : PgConfig} (h : Answered C s clientKey user database v backend config) (hs : Settled s t) :
    Answered C t clientKey user database v backend config := by
  obtain ⟨⟨host, port, haddress, hconfig⟩, hlink⟩ := h
  refine ⟨⟨host, port, by rw [hs.config]; exact haddress, ?_⟩, by rw [hs.world, hs.pool]; exact hlink⟩
  rw [pgConfig_of_settled hs]
  exact hconfig

theorem goes_openLink (hs : Favoured P R s) {clientKey : Bytes} {user database : Str} {v : Verifier} {backend : Backend}
    {config : PgConfig} (h : Answered C s clientKey user database v backend config) :
    Goes P R (openLink C config) s backend [] [.connect config] := by
  unfold openLink
  refine goes_get (goes_first (goes_emit hs _) fun s₁ hs₁ h₁ => ?_)
  have hlink := h.link
  rw [← h₁.steady.pool, ← h₁.steady.world] at hlink
  refine goes_last (a := backend) ⟨s₁, ?_, hs₁, Went.refl s₁⟩ fun s₂ hs₂ => ?_
  · rw [zoom_apply, ← h₁.steady.world, hlink]
  · exact goes_last (goes_interfere hs₂) fun s₃ hs₃ => goes_pure hs₃ backend

theorem goes_linkBackend (hs : Favoured P R s) (hfree : ∀ r, R r → Unused s.world.rng r) {clientKey : Bytes}
    {user database : Str} {v : Verifier} {backend : Backend} {config : PgConfig}
    (h : Answered C s clientKey user database v backend config) :
    ∃ secret s', linkBackend C clientKey user database (.ok (some v)) s = (.ok .ready, s') ∧
      s'.conn.sessionKeySecret = some secret ∧ Went s [] (.connect config :: sessionLog backend secret) s' := by
  obtain ⟨host, port, haddress, hconfig⟩ := h.address
  obtain ⟨s₁, hrun₁, hs₁, h₁⟩ := goes_mapErr ProxyError.ofPg (goes_openLink hs h)
  rw [← h₁.steady.world] at hfree
  obtain ⟨secret, s₂, hrun₂, hsecret, h₂⟩ := goes_startSession hs₁ hfree backend
  refine ⟨secret, s₂, ?_, hsecret, h₁.trans h₂⟩
  have hlinked : lift (linkVerifier (.ok (some v))) s = (.ok v, s) := rfl
  unfold linkBackend
  rw [bind_of_ok hlinked, bind_of_ok (get_apply s), haddress]
  subst hconfig
  have hhost : (lift (Except.mapError ProxyError.internal (.ok (host, port))) : Proc (Session V) _ _) s =
      (.ok (host, port), s) := rfl
  rw [bind_of_ok hhost]
  dsimp only
  rw [bind_of_ok hrun₁]
  exact hrun₂

section Provider

variable [VerifierProvider V] {v : Verifier}

theorem goes_openBackend (hs : Favoured P R s) (hprovides : Provides user v P) (hfree : ∀ r, R r → Unused s.world.rng r)
    (huser : s.conn.user = some user) {database : Str} (hdatabase : s.conn.database = some database) {clientKey : Bytes}
    {backend : Backend} {config : PgConfig} (h : Answered C s clientKey user database v backend config) :
    ∃ secret s', openBackend C clientKey s = (.ok .ready, s') ∧ s'.conn.sessionKeySecret = some secret ∧
      Went s [] (.lookup user (.ok (some v)) :: .connect config :: sessionLog backend secret) s' := by
  obtain ⟨s₁, hrun₁, hs₁, h₁⟩ := goes_lookup (ε := ProxyError) hs hprovides
  rw [← h₁.steady.world] at hfree
  obtain ⟨secret, s₂, hrun₂, hsecret, h₂⟩ := goes_linkBackend hs₁ hfree (h.of_settled h₁.steady.toSettled)
  refine ⟨secret, s₂, ?_, hsecret, h₁.trans h₂⟩
  unfold openBackend
  rw [bind_of_ok (get_apply s), huser, hdatabase]
  exact (bind_of_ok hrun₁ _).trans hrun₂

end Provider

/-! ## A connection -/

theorem lift_bind {x : Except ε α} {a : α} (h : x = .ok a) (f : α → Proc (Session V) ε β) (s : Session V) :
    (lift x >>= f) s = f a s := by
  subst h
  rfl

theorem applyStartupParams_of_identity {message : MessageReader} {identity : Identity}
    (h : readIdentity message s.conn.params s.conn.replicationMode = .ok identity) :
    applyStartupParams message s = (.ok (), s.identify identity) := by
  obtain ⟨m, given, hread, hremaining, hmerged, huser, hmode, hdatabase⟩ := readIdentity_ok.mp h
  unfold applyStartupParams
  rw [bind_of_ok (get_apply s), hread]
  dsimp only
  rw [bind_of_ok (modify_apply _ s), bind_of_ok (lift_ok true _)]
  rw [lift_bind (a := ()) (require_eq_ok.mpr ⟨rfl, hremaining⟩), lift_bind hmerged, bind_of_ok (modify_apply _ _),
    lift_bind huser, bind_of_ok (modify_apply _ _), lift_bind hmode, modify_apply, identify, hdatabase]

theorem user_of_identity {message : MessageReader} {params : Params} {mode : ReplicationMode} {identity : Identity}
    (h : readIdentity message params mode = .ok identity) : identity.user ≠ [] := by
  obtain ⟨_, _, -, -, -, huser, -⟩ := readIdentity_ok.mp h
  have hsome := okOr_eq_ok.mp huser
  exact of_decide_eq_true (Option.mem_filter_iff.mp hsome).2

/-- The packet is a StartupMessage of this identity, and the proxy has room for it. -/
structure Greets (s : Session V) (body : Bytes) (identity : Identity) : Prop where
  message : ∃ message, (MessageReader.new body).readU32 = (.ok PgClient.protocolVersionNumber, message) ∧
    readIdentity message s.conn.params s.conn.replicationMode = .ok identity
  sized : Sized s body
  small : body.length + 4 ≤ s.conn.config.maxStartupBytes

theorem Greets.ne_nil {body : Bytes} {identity : Identity} (h : Greets s body identity) : body ≠ [] := by
  rintro rfl
  obtain ⟨message, hread, -⟩ := h.message
  cases hread

/-- The messages of a client that logs in. -/
def loginBytes (body : Bytes) (c : ScramClient) (chosen : SaslMechanism) (r : Completed) : Bytes :=
  startupPacket body ++ saslBytes c chosen r

/-- All that its session logs. -/
def loginLog (s : Session V) (body : Bytes) (user : Str) (v : Verifier) (c : ScramClient) (chosen : SaslMechanism)
    (r : Completed) (config : PgConfig) (backend : Backend) (secret : SessionKeySecret) : List Event :=
  .packet body :: .startup s.conn.wire.reader.inner.transport s.conn.wire.writer.inner ::
    (authenticationLog s user v c chosen r ++
      .lookup user (.ok (some v)) :: .connect config :: sessionLog backend secret)

section Provider

variable [VerifierProvider V] {v : Verifier}

/-- A client that completes its exchange gets its session, over TLS or not. -/
theorem runs_handleStartup {body clientKey rest : Bytes} {identity : Identity} {backend : Backend} {config : PgConfig}
    (hs : Favoured P R s) (hprovides : Provides identity.user v P) (hfree : ∀ r, R r → Unused s.world.rng r)
    (htls : s.conn.requiredTls = true → s.conn.sslDone = true) (hgreets : Greets s body identity)
    (hexchange : exchange C c chosen salt iterations (s.authenticator v) (s.world.serverNonces s.drawnNonces)
      identity.user = .ok r)
    (hkey : r.extractedClientKey = some clientKey) (hsized : Exchanged s c chosen r)
    (hanswered : Answered C (s.identify identity) clientKey identity.user identity.database v backend config)
    (hinput : s.conn.wire.input = loginBytes body c chosen r ++ rest) :
    ∃ secret s', handleStartup C s = (.ok .ready, s') ∧ s'.conn.sessionKeySecret = some secret ∧
      s'.conn.wire.input = rest ∧
      s'.log = s.log ++ loginLog s body identity.user v c chosen r config backend secret := by
  obtain ⟨message, hread, hidentity⟩ := hgreets.message
  rw [loginBytes, List.append_assoc] at hinput
  obtain ⟨s₁, hpacket, hs₁, h₁⟩ := goes_readStartupPacket hs hgreets.sized hgreets.ne_nil hgreets.small hinput
  -- the session that authenticates: the packet is logged, and the identity is in place
  let t : Session V := { s₁ with
    log := s₁.log ++ [.packet body] ++ [.startup s₁.conn.wire.reader.inner.transport s₁.conn.wire.writer.inner]
    conn := { s₁.conn with protocolVersion := some PgClient.protocolVersionNumber } }
  let s₂ := t.identify identity
  have hsettled : Settled (s.identify identity) s₂ :=
    ⟨h₁.steady.world, h₁.steady.config, h₁.steady.pool, h₁.steady.requiredTls, h₁.steady.frontendTls, rfl, rfl, rfl, rfl⟩
  have hs₂ : Favoured P R s₂ := ⟨hs₁.world, hs₁.line, hs₁.provider, hs₁.registry⟩
  have hrole : s₂.authenticator v = s.authenticator v := authenticator_of_steady h₁.steady v
  have hdrawn : s₂.drawnNonces = s.drawnNonces := h₁.drawn
  have hworld : s₂.world = s.world := h₁.steady.world
  have hsized₂ : Exchanged s₂ c chosen r := by
    obtain ⟨hfirst, hfinal, hlong⟩ := hsized.of_steady h₁.steady
    exact ⟨⟨hfirst.pool, hfirst.field⟩, ⟨hfinal.pool, hfinal.field⟩, hlong⟩
  rw [← hrole, ← hworld, ← hdrawn] at hexchange
  obtain ⟨s₃, hauth, hs₃, h₃⟩ := authenticates hs₂ hprovides rfl (user_of_identity hidentity) hexchange hsized₂
    (h₁.rest hinput)
  have hsteady : Settled s₂ s₃ := ⟨h₃.steady.world, h₃.steady.config, h₃.steady.pool, h₃.steady.requiredTls,
    h₃.steady.frontendTls, h₃.steady.params, h₃.steady.user, h₃.steady.database, h₃.steady.replicationMode⟩
  rw [← hworld, ← hsteady.world] at hfree
  obtain ⟨secret, s₄, hopen, hsecret, h₄⟩ := goes_openBackend hs₃ hprovides hfree hsteady.user
    hsteady.database ((hanswered.of_settled hsettled).of_settled hsteady)
  refine ⟨secret, s₄, ?_, hsecret, ?_, ?_⟩
  · have happly : applyStartupParams message t = (.ok (), s₂) := by
      apply applyStartupParams_of_identity
      show readIdentity message s₁.conn.params s₁.conn.replicationMode = .ok identity
      rw [h₁.steady.params, h₁.steady.replicationMode]
      exact hidentity
    have hsecure : s₁.conn.requiredTls = true → s₁.conn.sslDone = true := by
      rw [h₁.steady.requiredTls, h₁.steady.sslDone]
      exact htls
    rw [handleStartup_read C hpacket, answerPacket, hread]
    dsimp only
    rw [lift_bind rfl]
    unfold dispatch
    rw [if_neg (by decide), if_neg (by decide), if_neg (by decide), if_pos rfl, bind_of_ok (get_apply _),
      lift_bind (a := ()) (require_eq_ok.mpr hsecure)]
    refine (bind_of_ok happly _).trans ((bind_of_ok hauth _).trans ?_)
    rw [hkey]
    exact hopen
  · exact h₄.rest (t := []) (h₃.rest (h₁.rest hinput))
  · rw [h₄.log, h₃.log]
    have hlogged : s₂.draw.log = s.log ++
        [.packet body, .startup s.conn.wire.reader.inner.transport s.conn.wire.writer.inner] := by
      rw [← h₁.steady.reader, ← h₁.steady.writer, ← List.append_nil s.log, ← h₁.log]
      exact List.append_assoc _ _ _
    rw [hlogged, loginLog, authenticationLog, authenticationLog, hrole]
    simp

/-- The session with its permit. -/
def permitted (s : Session V) : Session V :=
  { s with conn := { s.conn with connRegistry := { s.conn.connRegistry with live := s.conn.connRegistry.live + 1 } } }

/-- A connection whose driver came to its end has written what it logged. -/
theorem handle_of_driven {s₂ : Session V} (hbuf : s.conn.wire.writer.buf = [])
    (hlive : s.conn.connRegistry.live < s.conn.connRegistry.max)
    (hdrive : driveStartupUntilReady C s.permitted = (.ok (), s₂)) :
    handle C s = (.ok (), releasePermit s₂) ∧ ∃ es, s₂.log = s.log ++ es ∧
      (releasePermit s₂).conn.wire.writer.buf = [] ∧
      (releasePermit s₂).conn.wire.output = s.conn.wire.output ++ rendered es := by
  have hacquire : tryAcquire s = (.ok true, s.permitted) := by
    unfold tryAcquire
    rw [bind_of_ok (get_apply s), if_neg (Nat.not_le.mpr hlive)]
    rfl
  have hhandle : handle C s = (.ok (), releasePermit s₂) := by
    rw [handle_of_acquired C hacquire, authenticate_of_ok C hdrive]
  have hdeadline : ∀ t, ¬ DeadlineFires C s t := by
    rintro t ⟨s₁', hacquire', hdropped⟩
    rw [hacquire] at hacquire'
    cases hacquire'
    rw [hdrive] at hdropped
    cases hdropped
  obtain ⟨es, hes, hsays⟩ := handle_says C hbuf hdeadline
  rw [hhandle] at hes hsays
  obtain ⟨stage, -, -, hok, -⟩ := hsays
  obtain ⟨hflushed, -⟩ := hok () rfl
  exact ⟨hhandle, es, hes, hflushed.buf, hflushed.output⟩

/-- The same for a whole connection, from its first packet; it also says what was written. -/
theorem runs_handle {body clientKey rest : Bytes} {identity : Identity} {backend : Backend} {config : PgConfig}
    (hfresh : Fresh s) (hbuf : s.conn.wire.writer.buf = []) (hlive : s.conn.connRegistry.live < s.conn.connRegistry.max)
    (htls : s.conn.requiredTls = false) (hs : Favoured P R s) (hprovides : Provides identity.user v P)
    (hfree : ∀ r, R r → Unused s.world.rng r) (hgreets : Greets s body identity)
    (hexchange : exchange C c chosen salt iterations (.new v none) (s.world.serverNonces s.drawnNonces)
      identity.user = .ok r)
    (hkey : r.extractedClientKey = some clientKey) (hsized : Exchanged s c chosen r)
    (hanswered : Answered C (s.identify identity) clientKey identity.user identity.database v backend config)
    (hinput : s.conn.wire.input = loginBytes body c chosen r ++ rest) :
    ∃ secret s', handle C s = (.ok (), s') ∧ s'.conn.sessionKeySecret = some secret ∧ s'.conn.wire.input = rest ∧
      s'.log = loginLog s body identity.user v c chosen r config backend secret ∧
      s'.conn.wire.output = s.conn.wire.output ++ rendered s'.log := by
  have hs₁ : Favoured P R s.permitted := ⟨hs.world, hs.line, hs.provider, hs.registry⟩
  have hgreets₁ : Greets s.permitted body identity :=
    ⟨hgreets.message, ⟨hgreets.sized.pool, hgreets.sized.field⟩, hgreets.small⟩
  have hsized₁ : Exchanged s.permitted c chosen r :=
    ⟨⟨hsized.first.pool, hsized.first.field⟩, ⟨hsized.final.pool, hsized.final.field⟩, hsized.long⟩
  have hrole : s.authenticator v = .new v none := by
    rw [authenticator, scramCertHash, hfresh.sslDone]
    rfl
  have hsecure : s.permitted.conn.requiredTls = true → s.permitted.conn.sslDone = true := fun h =>
    absurd (htls.symm.trans h) Bool.false_ne_true
  have hanswered₁ : Answered C (s.permitted.identify identity) clientKey identity.user identity.database v backend config :=
    hanswered.of_settled ⟨rfl, rfl, rfl, rfl, rfl, rfl, rfl, rfl, rfl⟩
  rw [← hrole] at hexchange
  obtain ⟨secret, s₂, hrun, hsecret, hrest, hlog⟩ :=
    runs_handleStartup hs₁ hprovides hfree hsecure hgreets₁ hexchange hkey hsized₁ hanswered₁ hinput
  have hdrive : driveStartupUntilReady C s.permitted = (.ok (), s₂) := bind_of_ok (attempt_of_ok hrun) _
  obtain ⟨hhandle, es, hes, -, houtput⟩ := handle_of_driven hbuf hlive hdrive
  rw [hfresh.log, List.nil_append] at hes
  have hwhole : s₂.log = loginLog s body identity.user v c chosen r config backend secret := by
    rw [hlog]
    show s.log ++ _ = _
    rw [hfresh.log]
    rfl
  exact ⟨secret, releasePermit s₂, hhandle, hsecret, hrest, hwhole, by rw [houtput, ← hes]; rfl⟩

end Provider

/-! ## A password -/

/-- The ClientKey of a password. -/
def passwordKey (C : Crypto) (password salt : Bytes) (iterations : UInt32) : Bytes :=
  (C.clientKey (C.pbkdf2Sha256 password salt iterations)).bytes

/-- The exchange of a client that has the password of the entry. -/
def passwordExchange (C : Crypto) (password salt : Bytes) (iterations : UInt32) (nonce : NonceBytes)
    (serverNonceBytes : Key) : Completed :=
  honestExchange C (withPassword password nonce) (.fromPassword C password salt iterations) serverNonceBytes
    (passwordKey C password salt iterations)

theorem passwordExchange_completes (C : Crypto) (password salt : Bytes) (iterations : UInt32) (nonce : NonceBytes)
    (serverNonceBytes : Key) {user : Str} (hne : user ≠ []) :
    exchange C (withPassword password nonce) .scramSha256 [] 0 (.new (.fromPassword C password salt iterations) none)
      serverNonceBytes user = .ok (passwordExchange C password salt iterations nonce serverNonceBytes) :=
  exchange_completes C (plain_new nonce _ _ _ _) hne ⟨rfl, Key.length_eq _, rfl⟩ rfl

theorem length_passwordExchange (C : Crypto) (password salt : Bytes) (iterations : UInt32) (nonce : NonceBytes)
    (serverNonceBytes : Key) :
    4 ≤ (asBytes (passwordExchange C password salt iterations nonce serverNonceBytes).clientFinal).length := by
  refine Nat.le_trans ?_ (length_le_byteLen _)
  simp only [passwordExchange, honestExchange, honestClientFinal, honestWithoutProof, ScramClient.clientFinalWithoutProof,
    List.length_append]
  have hkind : "c=".toList.length = 2 := rfl
  have hproof : ",p=".toList.length = 3 := rfl
  omega

section Provider

variable [VerifierProvider V]

end Provider

/-- A store that does not ask a backend provides the entries it holds. -/
theorem provides_entry {user : Str} (v : Verifier) :
    Provides user v fun store : CredentialStore C => store.source = .file ∧ store.snapshot.users.lookup user = some v := by
  constructor
  · rintro store ⟨hfile, hentry⟩
    simp only [VerifierProvider.lookup, CredentialStore.askSource, hfile, hentry]
  · rintro store ⟨hfile, hentry⟩
    simp only [VerifierProvider.lookup, CredentialStore.askSource, hfile]
    exact ⟨trivial, hentry⟩

end Session

namespace Sample

open Session

def pencil : Bytes := asBytes "pencil"

def aliceIdentity : Identity :=
  { params := (∅ : Params).insert "user".toList "alice".toList, user := "alice", database := "alice"
    replicationMode := .off }

/-- The exchange of Alice's client. -/
def aliceExchange : Completed := passwordExchange crypto pencil salt 4096 clientNonceBytes serverNonceBytes

def aliceBackend : Backend :=
  { startupNotifications := [.parameterStatus "server_version" "17", .notice (asBytes "Mhello" ++ [0, 0])]
    backendKey := some ⟨1, 2⟩, readyStatus := byte 'I', serverSignatureVerified := false, host := "localhost", port := 5432
    connectTimeoutMs := 2000 }

/-- Another client comes and goes, and in between the user list is loaded again. -/
def busy (n : Nat) (shared : Shared (CredentialStore crypto)) : Shared (CredentialStore crypto) :=
  if n = 2 then
    { shared with
      backendRegistry := (shared.backendRegistry.register aliceBackend 9 ⟨7, 7⟩).2
      connRegistry := { shared.connRegistry with live := shared.connRegistry.live + 1 } }
  else if n = 5 then { shared with provider := (shared.provider.reload loader (fun _ => salt) (some userList)).2 }
  else if n = 9 then
    { shared with
      backendRegistry := shared.backendRegistry.release ⟨9, ⟨7, 7⟩⟩
      connRegistry := { shared.connRegistry with live := shared.connRegistry.live - 1 } }
  else shared

/-- Alice logs in, and the backend answers. -/
def servedLogin : Session (CredentialStore crypto) :=
  let s := session store busy
    [loginBytes (alice.drop 4) (Wirechaos.withPassword pencil clientNonceBytes) .scramSha256 aliceExchange]
  { s with world := { s.world with link := { s.world.link with chunks := answeringBackend } } }

/-- What the store holds of Alice. -/
def HoldsAlice (store : CredentialStore crypto) : Prop :=
  store.source = .file ∧ store.snapshot.users.lookup "alice".toList = some aliceVerifier

/-- The keys that the session may draw are free. -/
abbrev KeysFree : Registry → Prop := Unused (fun n => Int32.ofNat n)

theorem holdsAlice_reload {store : CredentialStore crypto} (h : HoldsAlice store) :
    HoldsAlice (store.reload loader (fun _ => salt) (some userList)).2 := by
  obtain ⟨hsource, -⟩ := h
  have hentry : (Snapshot.snapshotFromYaml crypto loader (fun _ => salt) userList).map
      (fun next => next.users.lookup "alice".toList) = .ok (some aliceVerifier) := by decide +kernel
  rcases hnext : Snapshot.snapshotFromYaml crypto loader (fun _ => salt) userList with e | next
  · rw [hnext] at hentry
    cases hentry
  · rw [hnext] at hentry
    simp only [CredentialStore.reload, CredentialStore.reloadSource, hsource, CredentialStore.reloadFile, hnext]
    exact ⟨rfl, Except.ok.inj hentry⟩

/-- The other client's key is of two equal words, and no two in a row are drawn. -/
theorem mint_ne_seven (drawn : Nat) : (SessionKeySecret.mint (fun n => Int32.ofNat n) drawn).1 ≠ ⟨7, 7⟩ := by
  unfold SessionKeySecret.mint
  have hnext {d : Nat} (h : Int32.ofNat d = 7) : Int32.ofNat (d + 1) = 8 := by
    rw [Int32.ofNat_add d 1, h]
    rfl
  generalize 64 = tries
  induction tries generalizing drawn with
  | zero =>
    intro h
    obtain ⟨hkey, hsecret⟩ := SessionKeySecret.mk.inj h
    dsimp only at hsecret
    rw [hnext hkey] at hsecret
    exact absurd hsecret (by decide)
  | succ tries ih =>
    rw [SessionKeySecret.mintFrom]
    split
    · intro h
      obtain ⟨hkey, hsecret⟩ := SessionKeySecret.mk.inj h
      rw [hnext hkey] at hsecret
      exact absurd hsecret (by decide)
    · exact ih (drawn + 2)

theorem keysFree_register {r : Registry} (h : KeysFree r) : KeysFree (r.register aliceBackend 9 ⟨7, 7⟩).2 := by
  intro drawn hmem
  unfold Registry.register at hmem
  split at hmem
  · exact h drawn hmem
  · exact ((AList.mem_insert _).mp hmem).elim (mint_ne_seven drawn) (h drawn)

theorem keysFree_release {r : Registry} (h : KeysFree r) (guard : SessionGuard) : KeysFree (r.release guard) := by
  intro drawn hmem
  unfold Registry.release at hmem
  split at hmem
  · exact h drawn (AList.mem_erase.mp hmem).2
  · exact h drawn hmem

theorem favours_busy {w : World (CredentialStore crypto)} (hcalm : ∀ n, w.expires n = false) (hothers : w.others = busy) :
    Favours HoldsAlice KeysFree w := by
  refine ⟨hcalm, fun n shared h => ?_, fun n shared h => ?_⟩
  · rw [hothers, busy]
    split
    · exact h
    split
    · exact holdsAlice_reload h
    split
    · exact h
    · exact h
  · rw [hothers, busy]
    split
    · exact keysFree_register h
    split
    · exact h
    split
    · exact keysFree_release h _
    · exact h

theorem favoured_servedLogin : Favoured HoldsAlice KeysFree servedLogin := by
  refine ⟨favours_busy (fun _ => rfl) rfl, ⟨fun _ => ⟨8192, by decide, rfl⟩, by decide, by decide, ?_⟩, ?_,
    fun _ => AList.notMem_empty _⟩
  · intro chunk hchunk
    rw [List.mem_singleton.mp hchunk]
    decide +kernel
  · exact ⟨rfl, by decide +kernel⟩

theorem greets_servedLogin : Greets servedLogin (alice.drop 4) aliceIdentity := by
  refine ⟨⟨(MessageReader.new (alice.drop 4)).readU32.2, ?_, rfl⟩, ⟨by decide +kernel, by decide +kernel⟩, by decide +kernel⟩
  exact Prod.ext (by decide +kernel) rfl

end Sample

namespace Session

end Session

end Wirechaos
