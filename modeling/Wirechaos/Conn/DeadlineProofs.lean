/-
  Wirechaos.Conn.DeadlineProofs — what the client has been sent when the authentication
  deadline drops the driver, and the ErrorResponse that is written behind it.

  A dropped write leaves its bytes in the buffer, so that the ErrorResponse follows them.
  That is a well-formed stream as long as no ErrorResponse was begun and the message that
  was being written had been handed over whole (`Undisturbed`). Nothing checks either:
  an ErrorResponse that waits for its flush gets a second one behind it.
-/

import Wirechaos.Conn.OutputProofs

namespace Wirechaos

open Text Async Proc Machine

/-! ## Messages in a stream -/

/-- A message can be told from what follows it. -/
theorem frame_append_inj {tag tag' : UInt8} {body body' rest rest' : Bytes} (hlen : body.length + 4 < 2 ^ 32)
    (hlen' : body'.length + 4 < 2 ^ 32) (h : frame tag body ++ rest = frame tag' body' ++ rest') :
    tag = tag' ∧ body = body' ∧ rest = rest' := by
  unfold frame at h
  simp only [List.cons_append, List.append_assoc, List.cons.injEq] at h
  obtain ⟨htag, h⟩ := h
  obtain ⟨hlength, h⟩ := List.append_inj h rfl
  have heq := congrArg UInt32.toNat (beBytes_inj hlength)
  rw [UInt32.toNat_ofNat_of_lt' hlen, UInt32.toNat_ofNat_of_lt' hlen'] at heq
  obtain ⟨hbody, hrest⟩ := List.append_inj h (by omega)
  exact ⟨htag, hbody, hrest⟩

namespace Session

def isErrorResponse : Event → Bool
  | .message tag _ => tag == byte 'E'
  | _ => false

/-- A single-byte reply or a message. -/
def IsItem : Event → Prop
  | .reply answer => answer = byte 'S' ∨ answer = byte 'N'
  | .message _ _ => True
  | _ => False

/-- Replies and complete messages, at most one of them an ErrorResponse. -/
def WellFramed (bs : Bytes) : Prop :=
  ∃ items, (∀ e ∈ items, IsItem e) ∧ items.countP isErrorResponse ≤ 1 ∧ rendered items = bs

theorem Next.isItem {stage stage' : Stage} {e : Event} (h : Next stage e stage') : IsItem e := by
  cases h with
  | ssl h => exact h
  | gss => exact Or.inr rfl
  | challenge data => trivial
  | continuation data => trivial
  | signature data => trivial
  | authenticationOk => trivial
  | notification body h => trivial
  | backendKey body => trivial
  | ready status => trivial
  | error body h => trivial

/-- A stream that begins with a message, of no tag that could be a reply, is read as that
    message. -/
theorem rendered_frame {items : List Event} {tag : UInt8} {body rest : Bytes} (hitems : ∀ e ∈ items, IsItem e)
    (htag : tag ≠ byte 'S' ∧ tag ≠ byte 'N') (hshort : (frame tag body ++ rest).length < 2 ^ 32)
    (h : rendered items = frame tag body ++ rest) :
    ∃ items', items = .message tag body :: items' ∧ rendered items' = rest := by
  cases items with
  | nil => cases h
  | cons e items =>
    have hitem := hitems e List.mem_cons_self
    have hcons : rendered (e :: items) = outputBytes e ++ rendered items := rfl
    rw [hcons] at h
    cases e with
    | reply answer =>
      -- the first byte is the tag
      obtain rfl : answer = tag := (List.cons.inj h).1
      cases hitem with
      | inl hanswer => exact absurd hanswer htag.1
      | inr hanswer => exact absurd hanswer htag.2
    | message tag' body' =>
      have hlen (t : UInt8) (b r : Bytes) : (frame t b ++ r).length = b.length + r.length + 5 := by
        simp only [frame, List.cons_append, List.length_cons, List.length_append, length_beBytes]
        omega
      have hlength := congrArg List.length h
      rw [outputBytes, hlen, hlen] at hlength
      rw [hlen] at hshort
      obtain ⟨rfl, rfl, rfl⟩ := frame_append_inj (by omega) (by omega) h
      exact ⟨items, rfl, rfl⟩
    | packet body => cases hitem
    | startup reader writer => cases hitem
    | lookup user answer => cases hitem
    | sasl body => cases hitem
    | connect config => cases hitem

/-- Two ErrorResponses are one too many. -/
theorem not_wellFramed_errors {body body' : Bytes}
    (hshort : (frame (byte 'E') body ++ frame (byte 'E') body').length < 2 ^ 32) :
    ¬ WellFramed (frame (byte 'E') body ++ frame (byte 'E') body') := by
  intro ⟨items, hitems, hcount, h⟩
  have htag : byte 'E' ≠ byte 'S' ∧ byte 'E' ≠ byte 'N' := by decide
  obtain ⟨items₁, rfl, h₁⟩ := rendered_frame hitems htag hshort h
  rw [← List.append_nil (frame (byte 'E') body')] at h₁
  have hshort₁ : (frame (byte 'E') body' ++ []).length < 2 ^ 32 := by
    rw [List.length_append] at hshort
    rw [List.append_nil]
    omega
  obtain ⟨items₂, rfl, -⟩ := rendered_frame (fun e he => hitems e (List.mem_cons_of_mem _ he)) htag hshort₁ h₁
  simp only [List.countP_cons, isErrorResponse, beq_self_eq_true, if_true] at hcount
  omega

/-! ## The deadline -/

variable (C : Crypto) {V : Type}

/-- Nothing of an ErrorResponse was written, and the message that was being written, if
    there was one, fits into the buffer or has all its bytes in the output. -/
structure Undisturbed (s t : Session V) : Prop where
  unanswered : ∀ body, .message (byte 'E') body ∉ t.log
  uncut : ∀ pre tag body, t.log = pre ++ [.message tag body] → body.length + 5 ≤ writerCapacity ∨
    s.conn.wire.output.length + (rendered t.log).length ≤ t.conn.wire.output.length

/-- What was begun is in the output whole. -/
theorem Undisturbed.whole {s t : Session V} (h : Undisturbed s t) (hdelivered : Delivered s t.log t) :
    t.conn.wire.output = s.conn.wire.output ++ rendered t.log := by
  obtain ⟨bs, hout, hprefix, hwhole⟩ := hdelivered
  rcases hwhole with rfl | ⟨pre, tag, body, hlog, hlong⟩
  · exact hout
  · rcases h.uncut pre tag body hlog with hfits | hlength
    · omega
    · rw [hout, List.length_append] at hlength
      rw [hout, hprefix.eq_of_length_le (by omega)]

section Provider

variable [VerifierProvider V]

/-- The deadline drops the driver in the middle of a run of the protocol. -/
theorem deadline_delivers {s t : Session V} (hs : Fresh s) (hbuf : s.conn.wire.writer.buf = []) (h : DeadlineFires C s t) :
    ∃ stage, Path Next (.hello false false) (outputs t.log) stage ∧ Delivered s t.log t := by
  obtain ⟨s₁, hacquire, hdrive⟩ := h
  obtain ⟨hlog, hflushed, hpath⟩ := tryAcquire_flushed hbuf
  rw [hacquire] at hlog hflushed hpath
  obtain ⟨es, hes, hspoken⟩ := speaks_driveFrom C 3 s₁
  have hdropped := (hspoken _ rfl hflushed.buf).after hpath hflushed
  rw [driveStartupUntilReady] at hdrive
  rw [hdrive, hlog, hs.log] at hes
  rw [hdrive, hs.sslDone, hs.gssDone] at hdropped
  obtain ⟨stage, hpath, hdelivered, -⟩ := hdropped
  have hlog : t.log = [] ++ es := hes
  rw [hlog]
  exact ⟨stage, hpath, hdelivered⟩

/-- Behind an undisturbed run the ErrorResponse of the deadline is the only one, and the
    client is sent this stream or, when the connection fails, a part of it. -/
theorem deadline_wellFramed {s t : Session V} (hs : Fresh s) (hbuf : s.conn.wire.writer.buf = [])
    (hfires : DeadlineFires C s t) (h : Undisturbed s t) :
    ∃ bs bs', t.conn.wire.output = s.conn.wire.output ++ bs ∧ WellFramed (bs ++ frame (byte 'E') authTimeoutBody) ∧
      (handle C s).2.conn.wire.output = t.conn.wire.output ++ bs' ∧ bs' <+: frame (byte 'E') authTimeoutBody ∧
      ((handle C s).1 = .ok () → bs' = frame (byte 'E') authTimeoutBody) := by
  obtain ⟨stage, hpath, hdelivered⟩ := deadline_delivers C hs hbuf hfires
  have hwhole := h.whole hdelivered
  have hwellFramed : WellFramed (rendered t.log ++ frame (byte 'E') authTimeoutBody) := by
    refine ⟨outputs t.log ++ [.message (byte 'E') authTimeoutBody], fun e he => ?_, ?_, ?_⟩
    · rcases List.mem_append.mp he with he | he
      · exact hpath.labels (fun _ _ _ hnext => hnext.isItem) e he
      · rw [List.mem_singleton.mp he]
        trivial
    · have hnone : (outputs t.log).countP isErrorResponse = 0 := by
        rw [List.countP_eq_zero]
        intro e he herror
        have hlog : e ∈ t.log := List.mem_of_mem_filter he
        cases e with
        | message tag body =>
          obtain rfl : tag = byte 'E' := eq_of_beq herror
          exact h.unanswered body hlog
        | _ => cases herror
      rw [List.countP_append, hnone]
      exact Nat.le_refl 1
    · rw [rendered_append, rendered_outputs]
      exact congrArg (rendered t.log ++ ·) (List.append_nil _)
  obtain ⟨bs', hprefix, hout, hok⟩ := adds_writeFrame (byte 'E') authTimeoutBody
    { t with log := t.log ++ [.message (byte 'E') authTimeoutBody] }
  have hwrite : writeMessage (byte 'E') authTimeoutBody t =
      writeFrame (byte 'E') authTimeoutBody { t with log := t.log ++ [.message (byte 'E') authTimeoutBody] } := by
    rw [writeMessage, emit, bind_of_ok (modify_apply _ t)]
  rw [handle_of_deadline C hfires, hwrite]
  refine ⟨rendered t.log, bs', hwhole, hwellFramed, hout, hprefix, hok ()⟩

end Provider

end Session

/-! ## Two connections -/

namespace Sample

open Session

/-- Alice asks for encryption, logs in without it and sends no more: the offer of mechanisms
    waits for its flush when the deadline fires. -/
def stalled : Session (CredentialStore crypto) :=
  let s := session store (fun _ shared => shared) [packet gssencRequestCode [], alice]
  { s with conn := { s.conn with wire := { s.conn.wire with sched := fun n => if n < 3 then .ready 8192 else .expire 0 } } }

/-- A packet whose length is invalid, and the deadline in the flush of the answer to it. -/
def malformed : Session (CredentialStore crypto) :=
  let s := session store (fun _ shared => shared) [[0, 0, 0, 3]]
  { s with conn := { s.conn with wire := { s.conn.wire with sched := fun n => if n = 1 then .expire 0 else .ready 8192 } } }

def timedOut (s : Session (CredentialStore crypto)) : Session (CredentialStore crypto) :=
  (driveStartupUntilReady crypto (tryAcquire s).2).2

theorem stalled_expires : DeadlineFires crypto stalled (timedOut stalled) :=
  ⟨(tryAcquire stalled).2, eq_of_fst (by decide +kernel), eq_of_fst (by decide +kernel)⟩

theorem malformed_expires : DeadlineFires crypto malformed (timedOut malformed) :=
  ⟨(tryAcquire malformed).2, eq_of_fst (by decide +kernel), eq_of_fst (by decide +kernel)⟩

/-- The reply is out, the offer is not. -/
theorem stalled_log : (timedOut stalled).log =
    [.packet (beBytes gssencRequestCode), .reply (byte 'N'), .packet (alice.drop 4), .startup .plain .plain,
      .lookup "alice" (.ok (some aliceVerifier)), authEvent authSasl (saslMechanismList [Scram.scramSha256])] := by
  decide +kernel

end Sample

namespace Session

theorem deadline_wellFramed_stalled :
    ∃ bs bs', (Sample.timedOut Sample.stalled).conn.wire.output = Sample.stalled.conn.wire.output ++ bs ∧
      WellFramed (bs ++ frame (byte 'E') authTimeoutBody) ∧
      (handle Sample.crypto Sample.stalled).2.conn.wire.output = (Sample.timedOut Sample.stalled).conn.wire.output ++ bs' ∧
      bs' <+: frame (byte 'E') authTimeoutBody ∧
      ((handle Sample.crypto Sample.stalled).1 = .ok () → bs' = frame (byte 'E') authTimeoutBody) := by
  refine deadline_wellFramed Sample.crypto ⟨rfl, rfl, rfl, rfl, rfl, rfl, rfl, rfl, rfl⟩ rfl Sample.stalled_expires ⟨?_, ?_⟩
  · intro body
    rw [Sample.stalled_log]
    simp [authEvent, byte]
  · intro pre tag body h
    have hlast := congrArg List.getLast? h
    rw [Sample.stalled_log, List.getLast?_concat] at hlast
    simp only [List.getLast?_cons_cons, List.getLast?_singleton, authEvent, Option.some.injEq, Event.message.injEq] at hlast
    rw [← hlast.2]
    exact .inl (by decide)

/-- The ErrorResponse that the deadline finds in the buffer is followed by another one. -/
theorem deadline_repeats_error :
    Fresh Sample.malformed ∧ Sample.malformed.conn.wire.writer.buf = [] ∧
      DeadlineFires Sample.crypto Sample.malformed (Sample.timedOut Sample.malformed) ∧
      ∃ bs, (Sample.timedOut Sample.malformed).conn.wire.output = Sample.malformed.conn.wire.output ++ bs ∧
        ¬ WellFramed (bs ++ frame (byte 'E') authTimeoutBody) := by
  refine ⟨⟨rfl, rfl, rfl, rfl, rfl, rfl, rfl, rfl, rfl⟩, rfl, Sample.malformed_expires,
    frame (byte 'E') (prepareErrorBuf "FATAL" ConnectionErrorInner.invalidMessageLength.code
      ConnectionErrorInner.invalidMessageLength.message), ?_, not_wellFramed_errors ?_⟩
  · decide +kernel
  · decide +kernel

end Session

end Wirechaos
