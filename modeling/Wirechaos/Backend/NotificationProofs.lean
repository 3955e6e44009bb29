/-
  Wirechaos.Backend.NotificationProofs — what a backend handshake keeps of the messages it
  received (see `Wirechaos.Backend.PgClient`).

  `notificationOf` is what a message has to tell the client. Authentication adds nothing
  to it, whatever it answers (`startup_handleAuth`), so that a handshake that returned has
  collected the notifications of its transcript, in order, and the status of the
  ReadyForQuery that ended it (`handshake_collects`).
-/

import Wirechaos.Backend.HandshakeProofs

namespace Wirechaos

open Text Async Proc

namespace PgClient

variable (C : Crypto) {config : PgConfig} {peer : Option CertHash}

/-- What the client is to be told of a message. -/
def notificationOf (m : UInt8 × Bytes) : Option StartupNotification :=
  if m.1 = byte 'S' then (parseParameterStatus m.2).toOption.map fun p => .parameterStatus p.1 p.2
  else if m.1 = byte 'N' then some (.notice m.2)
  else none

theorem notificationOf_other {m : UInt8 × Bytes} (hS : m.1 ≠ byte 'S') (hN : m.1 ≠ byte 'N') : notificationOf m = none := by
  rw [notificationOf, if_neg hS, if_neg hN]

/-! ## Authentication -/

/-- What the loop collects is the same. -/
structure SameStartup (c c' : PgClient) : Prop where
  notifications : c'.startupNotifications = c.startupNotifications
  key : c'.backendKey = c.backendKey
  status : c'.readyStatus = c.readyStatus

instance : IsPreorder PgClient SameStartup where
  refl _ := ⟨rfl, rfl, rfl⟩
  trans _ _ _ h h' := ⟨h'.notifications.trans h.notifications, h'.key.trans h.key, h'.status.trans h.status⟩

theorem startup_within {α : Type} (elapsed : PgError) (x : Proc Wire IoError α) : Keeps SameStartup (within elapsed x) := by
  intro c
  rw [within_snd]
  exact ⟨rfl, rfl, rfl⟩

theorem startup_emit (e : PgEvent) : Keeps SameStartup (emit e) := keeps_modify fun _ => ⟨rfl, rfl, rfl⟩

theorem startup_writeMessage (what : Response) (tag : UInt8) (body : Bytes) : Keeps SameStartup (writeMessage what tag body) :=
  keeps_bind (startup_emit _) fun _ => keeps_bind (startup_within _ _) fun _ => startup_within _ _

theorem startup_readMessage : Keeps SameStartup readMessage := by
  refine keeps_bind (keeps_bind (startup_within _ _) fun _ => keeps_lift _) fun header => ?_
  refine keeps_bind (keeps_bind keeps_get fun c => keeps_ite (keeps_throw _) ?_) fun _ => ?_
  · exact keeps_bind (startup_within _ _) fun _ => keeps_pure _
  · exact keeps_bind (startup_emit _) fun _ => keeps_pure _

theorem startup_readAuthenticationData (expected : UInt32) : Keeps SameStartup (readAuthenticationData expected) :=
  keeps_bind startup_readMessage fun _ => keeps_lift _

theorem startup_handleSasl (body : Bytes) : Keeps SameStartup (handleSasl C config body) := by
  refine keeps_bind keeps_get fun c => keeps_bind (keeps_lift _) fun chosen => ?_
  refine keeps_bind (keeps_modify fun _ => ⟨rfl, rfl, rfl⟩) fun _ => keeps_bind (startup_writeMessage _ _ _) fun _ => ?_
  refine keeps_bind (startup_readAuthenticationData _) fun _ => keeps_bind (keeps_lift _) fun _ => ?_
  refine keeps_bind (keeps_lift _) fun final => keeps_bind (startup_writeMessage _ _ _) fun _ => ?_
  refine keeps_bind (startup_readAuthenticationData _) fun _ => keeps_bind (keeps_lift _) fun _ => ?_
  exact keeps_bind (keeps_lift _) fun _ => keeps_bind (startup_emit _) fun _ => keeps_modify fun _ => ⟨rfl, rfl, rfl⟩

theorem startup_handleAuth (authType : UInt32) (data : Bytes) : Keeps SameStartup (handleAuth C config authType data) := by
  refine keeps_ite (keeps_pure _) (keeps_ite ?_ (keeps_ite ?_ (keeps_ite (startup_handleSasl C data) ?_)))
  · unfold handleCleartext
    split
    · exact keeps_throw _
    · exact startup_writeMessage _ _ _
  · unfold handleMd5
    refine keeps_ite (keeps_throw _) ?_
    split
    · exact keeps_throw _
    · exact startup_writeMessage _ _ _
  · exact keeps_ite (keeps_throw _) (keeps_throw _)

/-- A turn that begins with an authentication message received no others. -/
theorem Turn.auth_only {payload : Bytes} {es : List PgEvent} (h : Turn C config peer (.received (byte 'R') payload :: es)) :
    ∀ m ∈ received es, m.1 = byte 'R' := by
  generalize hturn : PgEvent.received (byte 'R') payload :: es = turn at h
  cases h with
  | sasl hcompleted =>
    cases hturn
    simp [Exchange.answers, received]
  | authenticationOk data =>
    cases hturn
    simp [received]
  | cleartext data hp =>
    cases hturn
    simp [received]
  | md5 hp hsalt =>
    cases hturn
    simp [received]
  | parameterStatus hparse => cases hturn
  | notice payload' => cases hturn
  | backendKey hparse => cases hturn

/-! ## The loop -/

/-- What was collected along a part of a run that received these messages. -/
structure Collects (c c' : PgClient) (ms : List (UInt8 × Bytes)) : Prop where
  notifications : c'.startupNotifications = c.startupNotifications ++ ms.filterMap notificationOf
  parses : ∀ m ∈ ms, m.1 = byte 'S' → ∃ p, parseParameterStatus m.2 = .ok p

theorem Collects.trans {c c' c'' : PgClient} {ms ms' : List (UInt8 × Bytes)} (h : Collects c c' ms) (h' : Collects c' c'' ms') :
    Collects c c'' (ms ++ ms') := by
  constructor
  · rw [h'.notifications, h.notifications, List.filterMap_append, List.append_assoc]
  · intro m hm
    rcases List.mem_append.mp hm with hm | hm
    · exact h.parses m hm
    · exact h'.parses m hm

/-- Messages of a kind the client hears nothing of. -/
theorem Collects.none {c c' : PgClient} {ms : List (UInt8 × Bytes)} (h : c'.startupNotifications = c.startupNotifications)
    (hms : ∀ m ∈ ms, m.1 ≠ byte 'S' ∧ m.1 ≠ byte 'N') : Collects c c' ms := by
  constructor
  · have hnone : ms.filterMap notificationOf = [] :=
      List.filterMap_eq_nil_iff.mpr fun m hm => notificationOf_other (hms m hm).1 (hms m hm).2
    rw [h, hnone, List.append_nil]
  · exact fun m hm hS => absurd hS (hms m hm).1

/-- One message adds what it has to tell; the ReadyForQuery sets the status. -/
theorem handleMessage_collects {tag : UInt8} {payload : Bytes} {c c₁ c' : PgClient} {done : Bool}
    (hread : readMessage c = (.ok (tag, payload), c₁)) (h : handleMessage C config tag payload c₁ = (.ok done, c')) :
    ∃ es, c'.log = c.log ++ es ∧ Collects c c' (received es) ∧
      (done = true → received es = [(byte 'Z', payload)] ∧
        ∃ status rest, payload = status :: rest ∧ c'.readyStatus = some status) := by
  obtain ⟨w, rfl⟩ := readMessage_eq hread
  unfold handleMessage at h
  split at h
  · rename_i htag
    subst htag
    obtain ⟨⟨authType, data⟩, _, hl, h₁⟩ := bind_ok.mp h
    obtain ⟨hsub, rfl⟩ := lift_eq_ok.mp hl
    obtain rfl := subCode_ok hsub
    obtain ⟨_, _, hauth, h₂⟩ := bind_ok.mp h₁
    cases h₂
    obtain ⟨es, hlog, hturn, -⟩ := handleAuth_turn C hauth
    refine ⟨_, hlog.trans (List.append_assoc _ _ _), .none ((startup_handleAuth C authType data).run hauth).notifications ?_,
      by simp⟩
    intro m hm
    have htag : m.1 = byte 'R' := by
      rcases List.mem_cons.mp hm with rfl | hm
      · rfl
      · exact hturn.auth_only C m hm
    rw [htag]
    exact ⟨by decide, by decide⟩
  split at h
  · rename_i hS
    subst hS
    obtain ⟨⟨name, value⟩, _, hl, h₁⟩ := bind_ok.mp h
    obtain ⟨hparse, rfl⟩ := lift_eq_ok.mp hl
    obtain ⟨_, _, hm, h₂⟩ := bind_ok.mp h₁
    cases hm
    cases h₂
    refine ⟨_, rfl, ⟨?_, ?_⟩, by simp⟩
    · simp only [received, List.filterMap_cons, List.filterMap_nil, notificationOf, hparse, if_pos]
      rfl
    · intro m hm _
      obtain rfl : m = (byte 'S', payload) := by simpa [received] using hm
      exact ⟨_, hparse⟩
  split at h
  · rename_i hN
    subst hN
    obtain ⟨_, _, hm, h₂⟩ := bind_ok.mp h
    cases hm
    cases h₂
    refine ⟨_, rfl, ⟨rfl, ?_⟩, by simp⟩
    intro m hm hS
    obtain rfl : m = (byte 'N', payload) := by simpa [received] using hm
    exact absurd hS (show byte 'N' ≠ byte 'S' by decide)
  split at h
  · rename_i hK
    subst hK
    obtain ⟨key, _, hl, h₁⟩ := bind_ok.mp h
    obtain ⟨-, rfl⟩ := lift_eq_ok.mp hl
    obtain ⟨_, _, hm, h₂⟩ := bind_ok.mp h₁
    cases hm
    cases h₂
    refine ⟨_, rfl, .none rfl ?_, by simp⟩
    intro m hm
    obtain rfl : m = (byte 'K', payload) := by simpa [received] using hm
    exact ⟨show byte 'K' ≠ byte 'S' by decide, show byte 'K' ≠ byte 'N' by decide⟩
  split at h
  · rename_i hZ
    subst hZ
    obtain ⟨status, _, hl, h₁⟩ := bind_ok.mp h
    obtain ⟨hstatus, rfl⟩ := lift_eq_ok.mp hl
    obtain ⟨_, _, hm, h₂⟩ := bind_ok.mp h₁
    cases hm
    cases h₂
    refine ⟨_, rfl, .none rfl ?_, fun _ => ⟨rfl, ?_⟩⟩
    · intro m hm
      obtain rfl : m = (byte 'Z', payload) := by simpa [received] using hm
      exact ⟨show byte 'Z' ≠ byte 'S' by decide, show byte 'Z' ≠ byte 'N' by decide⟩
    · obtain ⟨rest, hrest⟩ := List.head?_eq_some_iff.mp (okOr_eq_ok.mp hstatus)
      exact ⟨status, rest, hrest, rfl⟩
  split at h <;> cases h

theorem handshakeFrom_collects {fuel : Nat} {c c' : PgClient} {u : Unit} (h : handshakeFrom C config fuel c = (.ok u, c')) :
    ∃ es ms status rest, c'.log = c.log ++ es ∧ received es = ms ++ [(byte 'Z', status :: rest)] ∧ Collects c c' ms ∧
      c'.readyStatus = some status := by
  induction fuel generalizing c with
  | zero => cases h
  | succ fuel ih =>
    obtain ⟨⟨tag, payload⟩, c₁, hread, h₁⟩ := bind_ok.mp h
    obtain ⟨done, c₂, hmessage, h₂⟩ := bind_ok.mp h₁
    obtain ⟨es₁, hlog₁, hcollects, hdone⟩ := handleMessage_collects C hread hmessage
    cases done with
    | true =>
      cases h₂
      obtain ⟨hreceived, status, rest, rfl, hstatus⟩ := hdone rfl
      rw [hreceived] at hcollects
      exact ⟨es₁, [], status, rest, hlog₁, hreceived, ⟨hcollects.notifications, by simp⟩, hstatus⟩
    | false =>
      obtain ⟨es₂, ms, status, rest, hlog₂, hreceived, hcollects₂, hstatus⟩ := ih h₂
      refine ⟨es₁ ++ es₂, received es₁ ++ ms, status, rest, ?_, ?_, hcollects.trans hcollects₂, hstatus⟩
      · rw [hlog₂, hlog₁, List.append_assoc]
      · rw [received_append, hreceived, List.append_assoc]

/-- A handshake that returned has the notifications of its transcript and the status of
    its ReadyForQuery. -/
theorem handshake_collects {c c' : PgClient} {u : Unit} (h : handleStartupHandshake C config c = (.ok u, c')) :
    ∃ ms status rest, messages c.wire.input = ms ++ [(byte 'Z', status :: rest)] ∧ Collects c c' ms ∧
      c'.readyStatus = some status := by
  obtain ⟨es, hsegment, -, hreceived⟩ := handshake_ok C h
  obtain ⟨_, _, hget, h₁⟩ := bind_ok.mp h
  cases hget
  obtain ⟨es', ms, status, rest, hlog, hreceived', hcollects, hstatus⟩ := handshakeFrom_collects C h₁
  have hes : es = es' := List.append_cancel_left (hsegment.log.symm.trans hlog)
  exact ⟨ms, status, rest, by rw [← hreceived, hes, hreceived'], hcollects, hstatus⟩

end PgClient

end Wirechaos
