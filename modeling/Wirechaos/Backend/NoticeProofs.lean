/-
  Wirechaos.Backend.NoticeProofs — a notice in the middle of a backend handshake
  (see `Wirechaos.Backend.PgClient`).

  The messages of the backend are read in two places: by the loop, which collects a
  notice, and inside a SASL exchange, which takes authentication messages only. A part of
  a handshake sees no more of the input than what it reads (`follows_handleMessage`), so
  that a notice between two turns of the loop adds itself to the notifications and changes
  nothing else. Between the messages of an exchange it ends the handshake. So the place of
  the notice decides (`notice_tolerated_iff`).
-/

import Wirechaos.Backend.NotificationProofs
import Wirechaos.Wire.Progress

namespace Wirechaos

open Text Async Proc

namespace PgClient

variable (C : Crypto) {config : PgConfig} {peer : Option CertHash}

/-! ## Frames -/

/-- The length field has room for it. -/
def Fits (m : UInt8 × Bytes) : Prop := m.2.length + 4 < 2 ^ 31

theorem frame_inj {m m' : UInt8 × Bytes} {x y : Bytes} (hm : Fits m) (hm' : Fits m')
    (h : frame m.1 m.2 ++ x = frame m'.1 m'.2 ++ y) : m = m' ∧ x = y := by
  obtain ⟨tag, payload⟩ := m
  obtain ⟨tag', payload'⟩ := m'
  have hheader : (tag, payload.length) = (tag', payload'.length) := by
    apply Except.ok.inj (ε := PgError)
    rw [← parseHeader_frame x hm, ← parseHeader_frame y hm']
    exact congrArg (fun bytes => parseHeader (bytes.take 5)) h
  rw [Prod.mk.injEq] at hheader
  have hbody : payload ++ x = payload' ++ y := congrArg (List.drop 5) h
  obtain ⟨hpayload, hrest⟩ := List.append_inj hbody hheader.2
  exact ⟨Prod.ext hheader.1 hpayload, hrest⟩

/-- Of two transcripts at the start of the same bytes one continues the other. -/
theorem transcript_comparable {ms ms' : List (UInt8 × Bytes)} {x y : Bytes} (hms : ∀ m ∈ ms, Fits m)
    (hms' : ∀ m ∈ ms', Fits m) (h : transcript ms ++ x = transcript ms' ++ y) :
    (∃ more, ms' = ms ++ more ∧ x = transcript more ++ y) ∨ ∃ m more, ms = ms' ++ m :: more := by
  induction ms generalizing ms' with
  | nil => exact Or.inl ⟨ms', rfl, h⟩
  | cons m ms ih =>
    cases ms' with
    | nil => exact Or.inr ⟨m, ms, rfl⟩
    | cons m' ms' =>
      rw [List.forall_mem_cons] at hms hms'
      simp only [transcript, List.flatMap_cons, List.append_assoc] at h
      obtain ⟨rfl, hrest⟩ := frame_inj hms.1 hms'.1 h
      rcases ih hms.2 hms'.2 hrest with ⟨more, rfl, hx⟩ | ⟨m', more, rfl⟩
      · exact Or.inl ⟨more, rfl, hx⟩
      · exact Or.inr ⟨m', more, rfl⟩

/-! ## Next to another client -/

/-- At least this much is left to read. -/
def Leaves (rest : Bytes) (c : PgClient) : Prop := Wire.Leaves rest c.wire

/-- The second client is in the same place of its handshake. It may have begun with other
    notifications, and another rest is behind what both have to read. -/
structure Beside (capacity : Nat) (told told' : List StartupNotification) (rest rest' : Bytes) (c c' : PgClient) : Prop where
  wire : Wire.Beside rest rest' c.wire c'.wire
  maxCapacity : c.pool.maxCapacity = capacity ∧ c'.pool.maxCapacity = capacity
  peerCertHash : c'.peerCertHash = c.peerCertHash
  nonces : c'.nonces = c.nonces
  drawn : c'.drawn = c.drawn
  backendKey : c'.backendKey = c.backendKey
  readyStatus : c'.readyStatus = c.readyStatus
  serverSignatureVerified : c'.serverSignatureVerified = c.serverSignatureVerified
  notifications : ∃ more, c.startupNotifications = told ++ more ∧ c'.startupNotifications = told' ++ more

variable {capacity : Nat} {told told' : List StartupNotification} {rest rest' : Bytes}

theorem follows_stream {α : Type} {x : Proc Wire IoError α}
    (hx : Follows (Wire.Beside rest rest') (Wire.Leaves rest) x x) :
    Follows (Beside capacity told told' rest rest') (Leaves rest) (stream x) (stream x) := by
  intro c a t h ht
  obtain ⟨w, hrun, rfl⟩ := stream_ok h
  obtain ⟨hW, hR⟩ := hx c.wire a w hrun ht
  refine ⟨hW, fun c' hbeside => ?_⟩
  obtain ⟨w', hrun', hwire⟩ := hR c'.wire hbeside.wire
  exact ⟨_, stream_of_ok hrun', { hbeside with wire := hwire }⟩

theorem follows_emit (e e' : PgEvent) : Follows (Beside capacity told told' rest rest') (Leaves rest) (emit e) (emit e') :=
  follows_modify (fun _ h => h) fun _ _ h => { h with }

theorem follows_writeMessage (what : Response) (tag : UInt8) (body : Bytes) :
    Follows (Beside capacity told told' rest rest') (Leaves rest) (writeMessage what tag body) (writeMessage what tag body) := by
  refine follows_bind (follows_emit _ _) fun _ => ?_
  exact follows_bind (follows_stream (Wire.follows_writeAll _)) fun _ => follows_stream Wire.follows_flush

theorem follows_readMessageBody (n : Nat) :
    Follows (Beside capacity told told' rest rest') (Leaves rest) (readMessageBody n) (readMessageBody n) := by
  intro c bytes t h ht
  rw [readMessageBody_eq] at h
  split at h
  · cases h
  · rename_i hcapacity
    have hstream : Follows (Beside capacity told told' rest rest') (Leaves rest) (stream (Wire.readExact n)) _ :=
      follows_stream (Wire.follows_readExact n)
    obtain ⟨hW, hR⟩ := hstream c bytes t h ht
    refine ⟨hW, fun c' hbeside => ?_⟩
    have hcapacity' : ¬ n > c'.pool.maxCapacity := by
      rw [hbeside.maxCapacity.2, ← hbeside.maxCapacity.1]
      exact hcapacity
    rw [readMessageBody_eq, if_neg hcapacity']
    exact hR c' hbeside

theorem follows_readMessage : Follows (Beside capacity told told' rest rest') (Leaves rest) readMessage readMessage := by
  refine follows_bind (follows_bind (follows_stream (Wire.follows_readExact 5)) fun _ => follows_lift _) fun header => ?_
  exact follows_bind (follows_readMessageBody _) fun _ => follows_bind (follows_emit _ _) fun _ => follows_pure _

theorem follows_readAuthenticationData (expected : UInt32) :
    Follows (Beside capacity told told' rest rest') (Leaves rest) (readAuthenticationData expected)
      (readAuthenticationData expected) :=
  follows_bind follows_readMessage fun _ => follows_lift _

theorem follows_handleSasl (body : Bytes) :
    Follows (Beside capacity told told' rest rest') (Leaves rest) (handleSasl C config body) (handleSasl C config body) := by
  refine follows_get (fun c c' h => ?_) fun c => ?_
  · rw [h.peerCertHash, h.nonces, h.drawn]
  refine follows_bind (follows_lift _) fun chosen => ?_
  refine follows_bind (follows_modify (fun _ h => h) fun _ _ h => { h with drawn := congrArg (· + 1) h.drawn }) fun _ => ?_
  refine follows_bind (follows_writeMessage _ _ _) fun _ => follows_bind (follows_readAuthenticationData _) fun _ => ?_
  refine follows_bind (follows_lift _) fun _ => follows_bind (follows_lift _) fun final => ?_
  refine follows_bind (follows_writeMessage _ _ _) fun _ => follows_bind (follows_readAuthenticationData _) fun _ => ?_
  refine follows_bind (follows_lift _) fun _ => follows_bind (follows_lift _) fun _ => ?_
  exact follows_bind (follows_emit _ _) fun _ => follows_modify (fun _ h => h) fun _ _ h =>
    { h with serverSignatureVerified := rfl }

theorem follows_handleAuth (authType : UInt32) (data : Bytes) :
    Follows (Beside capacity told told' rest rest') (Leaves rest) (handleAuth C config authType data)
      (handleAuth C config authType data) := by
  refine follows_ite (follows_pure _) (follows_ite ?_ (follows_ite ?_ (follows_ite (follows_handleSasl C data) ?_)))
  · unfold handleCleartext
    split
    · exact follows_throw _ _
    · exact follows_writeMessage _ _ _
  · unfold handleMd5
    refine follows_ite (follows_throw _ _) ?_
    split
    · exact follows_throw _ _
    · exact follows_writeMessage _ _ _
  · exact follows_ite (follows_throw _ _) (follows_throw _ _)

theorem follows_notify (notification : StartupNotification) :
    Follows (Beside capacity told told' rest rest') (Leaves rest)
      (modify fun c => { c with startupNotifications := c.startupNotifications ++ [notification] } : Proc PgClient PgError Unit)
      (modify fun c => { c with startupNotifications := c.startupNotifications ++ [notification] }) := by
  refine follows_modify (fun _ h => h) fun c c' h => ?_
  obtain ⟨more, hmore, hmore'⟩ := h.notifications
  refine { h with notifications := ⟨more ++ [notification], ?_, ?_⟩ }
  · rw [← List.append_assoc, ← hmore]
  · rw [← List.append_assoc, ← hmore']

theorem follows_handleMessage (tag : UInt8) (payload : Bytes) :
    Follows (Beside capacity told told' rest rest') (Leaves rest) (handleMessage C config tag payload)
      (handleMessage C config tag payload) := by
  refine follows_ite ?_ (follows_ite ?_ (follows_ite ?_ (follows_ite ?_ (follows_ite ?_ ?_))))
  · refine follows_bind (follows_lift _) fun request => ?_
    exact follows_bind (follows_handleAuth C _ _) fun _ => follows_pure _
  · refine follows_bind (follows_lift _) fun setting => ?_
    exact follows_bind (follows_notify _) fun _ => follows_pure _
  · exact follows_bind (follows_notify _) fun _ => follows_pure _
  · refine follows_bind (follows_lift _) fun key => ?_
    exact follows_bind (follows_modify (fun _ h => h) fun _ _ h => { h with backendKey := rfl }) fun _ => follows_pure _
  · refine follows_bind (follows_lift _) fun status => ?_
    exact follows_bind (follows_modify (fun _ h => h) fun _ _ h => { h with readyStatus := rfl }) fun _ => follows_pure _
  · exact follows_ite (follows_throw _ _) (follows_throw _ _)

/-- A turn, as the loop makes it. -/
theorem follows_turn : Follows (Beside capacity told told' rest rest') (Leaves rest)
    (readMessage >>= fun m => handleMessage C config m.1 m.2) (readMessage >>= fun m => handleMessage C config m.1 m.2) :=
  follows_bind follows_readMessage fun _ => follows_handleMessage C _ _

theorem follows_handshakeFrom {n m : Nat} (hnm : n ≤ m) :
    Follows (Beside capacity told told' rest rest') (Leaves rest) (handshakeFrom C config n) (handshakeFrom C config m) := by
  induction n generalizing m with
  | zero => exact follows_throw _ _
  | succ n ih =>
    obtain ⟨m, rfl⟩ : ∃ k, m = k + 1 := ⟨m - 1, by omega⟩
    refine follows_bind follows_readMessage fun message => follows_bind (follows_handleMessage C _ _) fun done => ?_
    exact follows_ite (follows_pure _) (ih (by omega))

/-! ## The notice -/

/-- A message that is there to be read, and fits into the pool, is read. -/
theorem readMessage_frame {m : UInt8 × Bytes} {c : PgClient} (hsmooth : Wire.Smooth c.wire) (hm : Fits m)
    (hcapacity : m.2.length ≤ c.pool.maxCapacity) (hinput : c.wire.input = frame m.1 m.2 ++ rest) :
    ∃ w, readMessage c = (.ok m, { c with wire := w, log := c.log ++ [.received m.1 m.2] }) ∧ Wire.Smooth w ∧
      w.input = rest ∧ w.output = c.wire.output := by
  obtain ⟨tag, payload⟩ := m
  have hlength : (frame tag payload ++ rest).length = 5 + (payload ++ rest).length := by
    simp [frame, length_beBytes]
    omega
  obtain ⟨header, w₁, hread₁, hsmooth₁⟩ := Wire.readExact_smooth hsmooth (n := 5) (by rw [hinput, hlength]; omega)
  obtain ⟨hlen₁, hin₁, hout₁⟩ := Wire.readExact_ok hread₁
  have hheader : header = (frame tag payload ++ rest).take 5 := by
    rw [← hinput, hin₁, ← hlen₁, List.take_left]
  have hinput₁ : w₁.input = payload ++ rest := by
    have : (frame tag payload ++ rest).drop 5 = w₁.input := by rw [← hinput, hin₁, ← hlen₁, List.drop_left]
    rw [← this]
    rfl
  obtain ⟨bytes, w₂, hread₂, hsmooth₂⟩ := Wire.readExact_smooth hsmooth₁ (n := payload.length)
    (by rw [hinput₁, List.length_append]; omega)
  obtain ⟨hlen₂, hin₂, hout₂⟩ := Wire.readExact_ok hread₂
  obtain ⟨rfl, hrest⟩ := List.append_inj (hinput₁.symm.trans hin₂) hlen₂.symm
  refine ⟨w₂, ?_, hsmooth₂, hrest.symm, by rw [hout₂, hout₁]⟩
  have hhead : readMessageHeader c = (.ok (tag, payload.length), { c with wire := w₁ }) := by
    unfold readMessageHeader
    rw [bind_of_ok (stream_of_ok hread₁), hheader, parseHeader_frame _ hm]
    rfl
  have hbody : readMessageBody payload.length { c with wire := w₁ } = (.ok payload, { c with wire := w₂ }) := by
    rw [readMessageBody_eq, if_neg (Nat.not_lt.mpr hcapacity)]
    exact stream_of_ok (c := { c with wire := w₁ }) hread₂
  unfold readMessage
  rw [bind_of_ok hhead]
  dsimp only
  rw [bind_of_ok hbody]
  rfl

/-- The message before a notice that comes between the messages of an exchange. -/
def MidExchange (ms : List (UInt8 × Bytes)) : Prop :=
  ∃ front code data, ms = front ++ [(byte 'R', beBytes code ++ data)] ∧ (code = 10 ∨ code = 11)

theorem not_midExchange_nil : ¬ MidExchange [] := by
  intro h
  obtain ⟨front, _, _, heq, -⟩ := h
  simp at heq

theorem not_midExchange_auth {code : UInt32} {data : Bytes} (hcode : ¬ (code = 10 ∨ code = 11)) :
    ¬ MidExchange [(byte 'R', beBytes code ++ data)] := by
  intro h
  obtain ⟨front, code', data', heq, hcode'⟩ := h
  obtain ⟨-, hm⟩ := List.append_inj' ((List.nil_append _).trans heq) rfl
  simp only [List.cons.injEq, Prod.mk.injEq, true_and, and_true] at hm
  obtain rfl := beBytes_inj (List.append_inj hm rfl).1
  exact hcode hcode'

theorem MidExchange.append (ms : List (UInt8 × Bytes)) {ms' : List (UInt8 × Bytes)} (h : MidExchange ms') :
    MidExchange (ms ++ ms') := by
  obtain ⟨front, code, data, rfl, hcode⟩ := h
  exact ⟨ms ++ front, code, data, (List.append_assoc _ _ _).symm, hcode⟩

theorem MidExchange.tail {m : UInt8 × Bytes} {ms : List (UInt8 × Bytes)} (h : MidExchange (m :: ms)) (hne : ms ≠ []) :
    MidExchange ms := by
  obtain ⟨front, code, data, heq, hcode⟩ := h
  cases front with
  | nil => exact absurd (List.cons.inj heq).2 hne
  | cons m' front => exact ⟨front, code, data, (List.cons.inj heq).2, hcode⟩

/-- The messages of a turn: one, which is not of an exchange, or the three of an exchange. -/
theorem Turn.messages {es : List PgEvent} (h : Turn C config peer es) :
    (∃ m, received es = [m] ∧ ¬ MidExchange [m]) ∨
      ∃ d₁ d₂ d₃, received es = [(byte 'R', beBytes 10 ++ d₁), (byte 'R', beBytes 11 ++ d₂), (byte 'R', beBytes 12 ++ d₃)] := by
  have hother {tag : UInt8} {payload : Bytes} (htag : tag ≠ byte 'R') : ¬ MidExchange [(tag, payload)] := by
    intro h
    obtain ⟨front, code, data, heq, -⟩ := h
    obtain ⟨-, hm⟩ := List.append_inj' ((List.nil_append _).trans heq) rfl
    simp only [List.cons.injEq, Prod.mk.injEq] at hm
    exact htag hm.1.1
  cases h with
  | authenticationOk data => exact Or.inl ⟨_, rfl, not_midExchange_auth (by decide)⟩
  | cleartext data hpassword => exact Or.inl ⟨_, rfl, not_midExchange_auth (by decide)⟩
  | md5 hpassword hsalt => exact Or.inl ⟨_, rfl, not_midExchange_auth (by decide)⟩
  | sasl hcompleted => exact Or.inr ⟨_, _, _, rfl⟩
  | parameterStatus hparse => exact Or.inl ⟨_, rfl, hother (by decide)⟩
  | notice payload => exact Or.inl ⟨_, rfl, hother (by decide)⟩
  | backendKey hparse => exact Or.inl ⟨_, rfl, hother (by decide)⟩

/-- Only authentication messages come in the middle of an exchange. -/
theorem midExchange_next {turns : List (List PgEvent)} {ready : Bytes} {pre post : List (UInt8 × Bytes)} {m : UInt8 × Bytes}
    (hturns : ∀ turn ∈ turns, Turn C config peer turn)
    (h : received turns.flatten ++ [(byte 'Z', ready)] = pre ++ m :: post) (hmid : MidExchange pre) : m.1 = byte 'R' := by
  induction turns generalizing pre with
  | nil =>
    cases pre with
    | nil => exact absurd hmid not_midExchange_nil
    | cons m' pre =>
      have := congrArg List.length h
      simp [received] at this
  | cons turn turns ih =>
    rw [List.forall_mem_cons] at hturns
    rw [List.flatten_cons, received_append, List.append_assoc] at h
    rcases hturns.1.messages C with ⟨m₁, hm, hsingle⟩ | ⟨d₁, d₂, d₃, hm⟩
    · rw [hm] at h
      cases pre with
      | nil => exact absurd hmid not_midExchange_nil
      | cons m' pre =>
        obtain ⟨rfl, hrest⟩ := List.cons.inj h
        by_cases hpre : pre = []
        · subst hpre
          exact absurd hmid hsingle
        · exact ih hturns.2 hrest (hmid.tail hpre)
    · rw [hm] at h
      cases pre with
      | nil => exact absurd hmid not_midExchange_nil
      | cons m₁ pre =>
        obtain ⟨rfl, h₁⟩ := List.cons.inj h
        cases pre with
        | nil => exact (congrArg Prod.fst (List.cons.inj h₁).1).symm
        | cons m₂ pre =>
          obtain ⟨rfl, h₂⟩ := List.cons.inj h₁
          cases pre with
          | nil => exact (congrArg Prod.fst (List.cons.inj h₂).1).symm
          | cons m₃ pre =>
            obtain ⟨rfl, h₃⟩ := List.cons.inj h₂
            have hlast := (hmid.tail (List.cons_ne_nil _ _)).tail (List.cons_ne_nil _ _)
            by_cases hpre : pre = []
            · subst hpre
              exact absurd hlast (not_midExchange_auth (by decide))
            · exact ih hturns.2 h₃ (hlast.tail hpre)

/-! ## The handshake -/

/-- All of a turn at once: its messages, what it collected, and what it was. -/
theorem turn_ok {tag : UInt8} {payload : Bytes} {c c₁ c' : PgClient} {done : Bool}
    (hread : readMessage c = (.ok (tag, payload), c₁)) (h : handleMessage C config tag payload c₁ = (.ok done, c')) :
    ∃ es, Segment c c' es ∧ Collects c c' (received es) ∧ (done = false → Turn C config c.peerCertHash es) ∧
      (done = true → received es = [(byte 'Z', payload)]) := by
  obtain ⟨es, hsegment, -⟩ := handleMessage_ok C hread h
  obtain ⟨es₁, hlog₁, hcollects, hdone⟩ := handleMessage_collects C hread h
  obtain ⟨es₂, hlog₂, -, hturn, -⟩ := handleMessage_turn C hread h
  obtain rfl : es = es₁ := List.append_cancel_left (hsegment.log.symm.trans hlog₁)
  obtain rfl : es = es₂ := List.append_cancel_left (hlog₁.symm.trans hlog₂)
  exact ⟨es, hsegment, hcollects, hturn, fun h => (hdone h).1⟩

/-- A turn in front of the place ends in front of it. -/
theorem turn_in_front {tag : UInt8} {payload : Bytes} {pre : List (UInt8 × Bytes)} {c c₁ c' : PgClient} {done : Bool}
    (hread : readMessage c = (.ok (tag, payload), c₁)) (h : handleMessage C config tag payload c₁ = (.ok done, c'))
    (hinput : c.wire.input = transcript pre ++ rest) (hpre : ∀ m ∈ pre, Fits m ∧ m.1 ≠ byte 'Z') (hne : pre ≠ [])
    (hplace : ¬ MidExchange pre) :
    ∃ turn more, done = false ∧ pre = turn ++ more ∧ c'.wire.input = transcript more ++ rest ∧ Collects c c' turn := by
  obtain ⟨es, hsegment, hcollects, hturn, hdone⟩ := turn_ok C hread h
  obtain ⟨m₀, pre₀, rfl⟩ := List.exists_cons_of_ne_nil hne
  rcases transcript_comparable hsegment.parses (fun m hm => (hpre m hm).1) (hsegment.input.symm.trans hinput) with
    ⟨more, hmore, hrest⟩ | ⟨m, more, hlong⟩
  · refine ⟨received es, more, ?_, hmore, hrest, hcollects⟩
    cases done with
    | false => rfl
    | true =>
      rw [hdone rfl] at hmore
      exact absurd (congrArg Prod.fst (List.cons.inj hmore).1) (hpre m₀ List.mem_cons_self).2
  · -- the place would be inside of this turn
    exfalso
    cases done with
    | true =>
      rw [hdone rfl] at hlong
      simp at hlong
    | false =>
      rcases (hturn rfl).messages C with ⟨m', hm, -⟩ | ⟨d₁, d₂, d₃, hm⟩
      · rw [hm] at hlong
        simp at hlong
      · rw [hm] at hlong
        obtain ⟨h₁, hlong₁⟩ := List.cons.inj hlong
        subst h₁
        cases pre₀ with
        | nil => exact hplace ⟨[], 10, d₁, rfl, Or.inl rfl⟩
        | cons m₁ pre₁ =>
          obtain ⟨h₂, hlong₂⟩ := List.cons.inj hlong₁
          subst h₂
          cases pre₁ with
          | nil => exact hplace ⟨[_], 11, d₂, rfl, Or.inr rfl⟩
          | cons m₂ pre₂ => simp at hlong₂

/-- A notice that is next is collected, and the two go on alike. -/
theorem handshakeFrom_next {n k : Nat} (hnk : n ≤ k) {body : Bytes} {c c' c₂ : PgClient} {u : Unit}
    (h : handshakeFrom C config n c = (.ok u, c')) (hinput : c.wire.input = rest) (hbody : Fits (byte 'N', body))
    (hcapacity : body.length ≤ capacity) (hbeside : Beside capacity [] [] rest (frame (byte 'N') body ++ rest) c c₂) :
    ∃ c₂', handshakeFrom C config (k + 1) c₂ = (.ok (), c₂') ∧
      Beside capacity c.startupNotifications (c.startupNotifications ++ [.notice body]) [] [] c' c₂' := by
  have hnext : c₂.wire.input = [] ++ (frame (byte 'N') body ++ rest) :=
    hbeside.wire.next (hinput.trans (List.nil_append rest).symm)
  obtain ⟨w, hread, hsmooth, hin, hout⟩ := readMessage_frame (m := (byte 'N', body)) hbeside.wire.smooth hbody
    (hbeside.maxCapacity.2.symm ▸ hcapacity) hnext
  obtain ⟨more, hmore, hmore₂⟩ := hbeside.notifications
  let c₃ : PgClient :=
    { c₂ with wire := w, log := c₂.log ++ [.received (byte 'N') body]
              startupNotifications := c₂.startupNotifications ++ [.notice body] }
  have hnotice : handshakeFrom C config (k + 1) c₂ = handshakeFrom C config k c₃ := by
    rw [handshakeFrom, bind_of_ok hread]
    rfl
  have hbeside₃ : Beside capacity c.startupNotifications (c.startupNotifications ++ [.notice body]) [] [] c c₃ := by
    refine { hbeside with wire := ⟨hsmooth, ⟨rest, ?_, ?_⟩, hout.trans hbeside.wire.output⟩, notifications := ⟨[], ?_, ?_⟩ }
    · rw [hinput, List.append_nil]
    · rw [hin, List.append_nil]
    · rw [List.append_nil]
    · show c₂.startupNotifications ++ [.notice body] = _
      rw [hmore, hmore₂, List.append_nil]
  have hfollows : Follows (Beside capacity c.startupNotifications (c.startupNotifications ++ [.notice body]) [] [])
      (Leaves []) (handshakeFrom C config n) (handshakeFrom C config k) := follows_handshakeFrom C hnk
  obtain ⟨c₂', hrun, hbeside'⟩ := (hfollows c u c' h (Nat.zero_le _)).2 c₃ hbeside₃
  exact ⟨c₂', hnotice.trans hrun, hbeside'⟩

/-- Along the loop the two are alike up to the notice, and again behind it. -/
theorem handshakeFrom_notice {n k : Nat} (hnk : n ≤ k) {pre : List (UInt8 × Bytes)} {body : Bytes} {c c' c₂ : PgClient} {u : Unit}
    (h : handshakeFrom C config n c = (.ok u, c')) (hinput : c.wire.input = transcript pre ++ rest)
    (hpre : ∀ m ∈ pre, Fits m ∧ m.1 ≠ byte 'Z') (hplace : ¬ MidExchange pre) (hbody : Fits (byte 'N', body))
    (hcapacity : body.length ≤ capacity) (hbeside : Beside capacity [] [] rest (frame (byte 'N') body ++ rest) c c₂) :
    ∃ c₂', handshakeFrom C config (k + 1) c₂ = (.ok (), c₂') ∧
      Beside capacity (c.startupNotifications ++ pre.filterMap notificationOf)
        (c.startupNotifications ++ pre.filterMap notificationOf ++ [.notice body]) [] [] c' c₂' := by
  induction n generalizing k pre c c₂ with
  | zero => cases h
  | succ n ih =>
    by_cases hne : pre = []
    · subst hne
      rw [List.filterMap_nil, List.append_nil]
      exact handshakeFrom_next C hnk h hinput hbody hcapacity hbeside
    · obtain ⟨⟨tag, payload⟩, c₁, hread, h₁⟩ := bind_ok.mp h
      obtain ⟨done, cmid, hmessage, h₂⟩ := bind_ok.mp h₁
      obtain ⟨turn, more, rfl, rfl, hrest, hcollects⟩ := turn_in_front C hread hmessage hinput hpre hne hplace
      have hfollows : Follows (Beside capacity [] [] rest (frame (byte 'N') body ++ rest)) (Leaves rest)
          (readMessage >>= fun m => handleMessage C config m.1 m.2) _ := follows_turn C
      have hleaves : Leaves rest cmid := by
        rw [Leaves, Wire.Leaves, hrest, List.length_append]
        exact Nat.le_add_left _ _
      obtain ⟨d, hrun, hbeside'⟩ := (hfollows c false cmid (bind_ok.mpr ⟨_, _, hread, hmessage⟩) hleaves).2 c₂ hbeside
      obtain ⟨m, d₁, hread₂, hmessage₂⟩ := bind_ok.mp hrun
      obtain ⟨k, rfl⟩ : ∃ i, k = i + 1 := ⟨k - 1, by omega⟩
      obtain ⟨c₂', hrest₂, hend⟩ := ih (k := k) (by omega) h₂ hrest (fun m hm => hpre m (List.mem_append_right _ hm))
        (fun hmid => hplace (hmid.append _)) hbeside'
      refine ⟨c₂', ?_, ?_⟩
      · rw [handshakeFrom, bind_of_ok hread₂]
        dsimp only
        rw [bind_of_ok hmessage₂]
        exact hrest₂
      · rw [hcollects.notifications, List.append_assoc c.startupNotifications, ← List.filterMap_append] at hend
        exact hend

/-- The end of a handshake in which there was one notice more, next to the end without it. -/
structure SameButNotice (told : List StartupNotification) (body : Bytes) (c c₂ : PgClient) : Prop where
  backendKey : c₂.backendKey = c.backendKey
  readyStatus : c₂.readyStatus = c.readyStatus
  serverSignatureVerified : c₂.serverSignatureVerified = c.serverSignatureVerified
  output : c₂.wire.output = c.wire.output
  notifications : ∃ more, c.startupNotifications = told ++ more ∧ c₂.startupNotifications = told ++ .notice body :: more

/-- A handshake that returned goes on to do so with a notice among the messages before its
    ReadyForQuery, exactly when the notice is not between the messages of an exchange. -/
theorem notice_tolerated_iff {c c' : PgClient} {w₂ : Wire} {pre : List (UInt8 × Bytes)} {rest body : Bytes} {u : Unit}
    (h : handleStartupHandshake C config c = (.ok u, c')) (hinput : c.wire.input = transcript pre ++ rest)
    (hpre : ∀ m ∈ pre, Fits m ∧ m.1 ≠ byte 'Z') (hbody : Fits (byte 'N', body)) (hcapacity : body.length ≤ c.pool.maxCapacity)
    (hsmooth : Wire.Smooth w₂) (houtput : w₂.output = c.wire.output)
    (hinput₂ : w₂.input = transcript (pre ++ [(byte 'N', body)]) ++ rest) :
    (∃ c₂', handleStartupHandshake C config { c with wire := w₂ } = (.ok (), c₂') ∧
      SameButNotice (c.startupNotifications ++ pre.filterMap notificationOf) body c' c₂') ↔ ¬ MidExchange pre := by
  constructor
  · intro ⟨c₂', hrun, _⟩ hmid
    obtain ⟨es, hsegment, -, -⟩ := handshake_ok C hrun
    obtain ⟨turns, ready, haccepted⟩ := accepts_turns C hrun
    obtain rfl : es = turns.flatten ++ [.received (byte 'Z') ready] :=
      List.append_cancel_left (hsegment.log.symm.trans haccepted.log)
    have hfits : ∀ m ∈ pre ++ [(byte 'N', body)], Fits m := by
      intro m hm
      rcases List.mem_append.mp hm with hm | hm
      · exact (hpre m hm).1
      · rw [List.mem_singleton.mp hm]
        exact hbody
    have hready : (byte 'Z', ready) ∈ received (turns.flatten ++ [.received (byte 'Z') ready]) := by
      rw [received_append]
      exact List.mem_append_right _ (List.mem_singleton_self _)
    rcases transcript_comparable hfits hsegment.parses (hinput₂.symm.trans hsegment.input) with
      ⟨more, hmore, -⟩ | ⟨m, more, hshort⟩
    · rw [received_append, List.append_assoc] at hmore
      exact absurd (midExchange_next C haccepted.turns hmore hmid) (show byte 'N' ≠ byte 'R' by decide)
    · -- the ReadyForQuery comes later than the notice
      have hmem : (byte 'Z', ready) ∈ pre ++ [(byte 'N', body)] := by
        rw [hshort]
        exact List.mem_append_left _ hready
      rcases List.mem_append.mp hmem with hm | hm
      · exact (hpre _ hm).2 rfl
      · exact absurd (congrArg Prod.fst (List.mem_singleton.mp hm)) (show byte 'Z' ≠ byte 'N' by decide)
  · intro hplace
    obtain ⟨_, _, hget, h₁⟩ := bind_ok.mp h
    cases hget
    have hsplit : w₂.input = transcript pre ++ (frame (byte 'N') body ++ rest) := by
      rw [hinput₂, transcript_append, List.append_assoc]
      simp [transcript]
    have hbeside : Beside c.pool.maxCapacity [] [] rest (frame (byte 'N') body ++ rest) c { c with wire := w₂ } :=
      ⟨⟨hsmooth, ⟨_, hinput, hsplit⟩, houtput⟩, ⟨rfl, rfl⟩, rfl, rfl, rfl, rfl, rfl, rfl, _, rfl, rfl⟩
    have hfuel : c.wire.input.length + 1 ≤ w₂.input.length := by
      rw [hinput, hsplit]
      simp only [List.length_append, frame, List.length_cons]
      omega
    obtain ⟨c₂', hrun, hend⟩ := handshakeFrom_notice C hfuel h₁ hinput hpre hplace hbody hcapacity hbeside
    refine ⟨c₂', hrun, hend.backendKey, hend.readyStatus, hend.serverSignatureVerified, hend.wire.output, ?_⟩
    obtain ⟨more, hmore, hmore₂⟩ := hend.notifications
    exact ⟨more, hmore, by rw [hmore₂, List.append_assoc]; rfl⟩

end PgClient

/-! ## Two places -/

namespace Sample

/-- The exchange of the binding backend in its parts. -/
def challenge : UInt8 × Bytes :=
  (byte 'R', beBytes 10 ++ (putCstr "SCRAM-SHA-256-PLUS" ++ putCstr "SCRAM-SHA-256" ++ [0]))

def afterChallenge : Bytes :=
  auth 11 (asBytes serverFirst) ++ auth 12 (asBytes "v=ykuMWyV5HBuP1C0BIsR/RSnIGkODbZRhoQfB0xsEUpI=") ++ auth 0 [] ++ ready

def notice : Bytes := asBytes "Mhello" ++ [0, 0]

end Sample

namespace PgClient

theorem notice_tolerated_iff_first :
    (∃ c₂', handleStartupHandshake Sample.boundCrypto Sample.pgConfig
        { Sample.pgClient Sample.bindingBackend with
          wire := (Sample.pgClient (frame (byte 'N') Sample.notice ++ Sample.bindingBackend)).wire } = (.ok (), c₂') ∧
      SameButNotice [] Sample.notice
        (handleStartupHandshake Sample.boundCrypto Sample.pgConfig (Sample.pgClient Sample.bindingBackend)).2 c₂') ↔
    ¬ MidExchange [] :=
  notice_tolerated_iff Sample.boundCrypto (eq_of_fst Sample.bindingBackend_ok) (show _ = transcript [] ++ _ from rfl)
    (by simp) (show _ < _ by decide) (by decide) ⟨fun _ => ⟨8192, by decide, rfl⟩, by decide, by decide, by decide +kernel⟩ rfl
    (by simp [Sample.pgClient, Wire.input, transcript])

/-- A notice behind the challenge ends a handshake that returns without it. -/
theorem notice_ends_an_exchange :
    Sample.bindingBackend = transcript [Sample.challenge] ++ Sample.afterChallenge ∧
    (handleStartupHandshake Sample.boundCrypto Sample.pgConfig (Sample.pgClient Sample.bindingBackend)).1 = .ok () ∧
    (handleStartupHandshake Sample.boundCrypto Sample.pgConfig (Sample.pgClient
      (transcript ([Sample.challenge] ++ [(byte 'N', Sample.notice)]) ++ Sample.afterChallenge))).1 =
        .err (.protocol "expected an authentication message, got 'N'") := by
  exact ⟨by decide +kernel, Sample.bindingBackend_ok, by decide +kernel⟩

end PgClient

end Wirechaos
