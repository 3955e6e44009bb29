/-
  Wirechaos.Conn.DriverProofs — whole runs of a connection (see `Wirechaos.Conn.Startup`).

  A run is a number of answered encryption requests (`Waits`) and one last packet, after
  which there is at most an error message (`RunLog`). `handle_log` says so of every run
  of `handle`, whatever ends it.
-/

import Wirechaos.Conn.StartupProofs

namespace Wirechaos

open Text Async Proc

namespace Session

variable (C : Crypto) {V : Type}

/-! ## The encryption requests -/

/-- A packet with this code was read. -/
def HasRead (code : UInt32) (es : List Event) : Prop := ∃ body, .packet body ∈ es ∧ packetCode body = some code

/-- Encryption requests were read and answered, and nothing else. -/
inductive Waits : Session V → List Event → Session V → Prop
  | done (s : Session V) : Waits s [] s
  | answered {s t u : Session V} {body : Bytes} {code : UInt32} {answer : UInt8} {quiet : List Event} :
      packetCode body = some code → Encrypted code s t → Waits t quiet u →
      Waits s (.packet body :: .reply answer :: quiet) u

theorem Encrypted.settled {code : UInt32} {s t : Session V} (h : Encrypted code s t) : Settled s t := by
  cases h <;> assumption

theorem Encrypted.code {code : UInt32} {s t : Session V} (h : Encrypted code s t) :
    code = sslRequestCode ∨ code = gssencRequestCode := by
  cases h
  · exact Or.inl rfl
  · exact Or.inr rfl

/-- A connection that answered an SSLRequest with a certificate at hand speaks TLS. -/
def Secured (s : Session V) : Prop :=
  s.conn.sslDone = true → s.conn.frontendTls.isSome = true →
    s.conn.wire.reader.inner.transport = .tls ∧ s.conn.wire.writer.inner = .tls

theorem Encrypted.secured {code : UInt32} {s t : Session V} (h : Encrypted code s t) (hs : Secured s) : Secured t := by
  intro hssl hsome
  cases h with
  | ssl hset _ _ _ htls _ => exact htls (by rw [← hset.frontendTls]; exact hsome)
  | gss hset _ _ hsame hreader hwriter =>
    rw [hreader, hwriter]
    exact hs (hsame ▸ hssl) (by rw [← hset.frontendTls]; exact hsome)

namespace Waits

variable {s t : Session V} {quiet : List Event}

theorem settled (h : Waits s quiet t) : Settled s t := by
  induction h with
  | done s => exact refl_of Settled s
  | answered _ henc _ ih => exact trans_of Settled henc.settled ih

theorem secured (h : Waits s quiet t) (hs : Secured s) : Secured t := by
  induction h with
  | done s => exact hs
  | answered _ henc _ ih => exact ih (henc.secured hs)

/-- Without a certificate nothing is ever promoted. -/
theorem plain (h : Waits s quiet t) (hnone : s.conn.frontendTls = none) :
    t.conn.wire.reader.inner.transport = s.conn.wire.reader.inner.transport := by
  induction h with
  | done s => rfl
  | answered _ henc _ ih =>
    rw [ih (by rw [henc.settled.frontendTls, hnone])]
    cases henc with
    | ssl _ _ _ _ _ hsame => exact (hsame hnone).1
    | gss _ _ _ _ hreader _ => exact hreader

/-- No StartupMessage is among the packets. -/
theorem events (h : Waits s quiet t) : ∀ e ∈ quiet, IsReply e ∨
    ∃ body code, e = .packet body ∧ packetCode body = some code ∧ (code = sslRequestCode ∨ code = gssencRequestCode) := by
  induction h with
  | done => simp
  | @answered _ _ _ body code answer _ hcode henc _ ih =>
    intro e he
    rcases List.mem_cons.mp he with rfl | he
    · exact Or.inr ⟨body, code, rfl, hcode, henc.code⟩
    rcases List.mem_cons.mp he with rfl | he
    · exact Or.inl ⟨answer, rfl⟩
    · exact ih e he

/-- The flag says whether an SSLRequest was read. -/
theorem sslDone (h : Waits s quiet t) :
    t.conn.sslDone = true ↔ s.conn.sslDone = true ∨ HasRead sslRequestCode quiet := by
  induction h with
  | done => simp [HasRead]
  | @answered _ _ _ body code answer quiet hcode henc _ ih =>
    have hread : HasRead sslRequestCode (.packet body :: .reply answer :: quiet) ↔
        code = sslRequestCode ∨ HasRead sslRequestCode quiet := by
      simp [HasRead, or_and_right, exists_or, hcode]
    rw [ih, hread]
    cases henc with
    | ssl _ _ hssl => simp [hssl]
    | gss _ _ _ hsame =>
      rw [hsame]
      simp [show gssencRequestCode ≠ sslRequestCode by decide]

end Waits

/-! ## Whole runs -/

/-- Requests, the last packet, and what the end of the phase has to say. -/
def RunLog (s : Session V) (es : List Event) : Prop :=
  ∃ quiet t o last s' tail, Waits s quiet t ∧ o ≠ .ok .continued ∧ Step C t o last s' ∧
    (∀ e ∈ tail, IsPlainMessage e) ∧ es = quiet ++ (last ++ tail)

theorem RunLog.of_steady {s t : Session V} {es : List Event} (hs : Steady s t) (h : RunLog C t es) : RunLog C s es := by
  obtain ⟨quiet, u, o, last, s', tail, hwaits, ho, hstep, htail, rfl⟩ := h
  cases hwaits with
  | done => exact ⟨[], s, o, last, s', tail, .done s, ho, hstep.of_steady C hs, htail, rfl⟩
  | answered hcode henc hwaits =>
    exact ⟨_, u, o, last, s', tail, .answered hcode (henc.of_steady hs) hwaits, ho, hstep, htail, rfl⟩

theorem runLog_of_tail {s : Session V} {es : List Event} (hes : ∀ e ∈ es, IsPlainMessage e) : RunLog C s es :=
  ⟨[], s, .ok .close, [], s, es, .done s, by simp, .unread (by simp), hes, rfl⟩

theorem RunLog.append {s : Session V} {es tail : List Event} (h : RunLog C s es) (htail : ∀ e ∈ tail, IsPlainMessage e) :
    RunLog C s (es ++ tail) := by
  obtain ⟨quiet, u, o, last, s', tail', hwaits, ho, hstep, htail', rfl⟩ := h
  refine ⟨quiet, u, o, last, s', tail' ++ tail, hwaits, ho, hstep, fun e he => ?_, by simp⟩
  rcases List.mem_append.mp he with he | he
  · exact htail' e he
  · exact htail e he

section Provider

variable [VerifierProvider V]

omit [VerifierProvider V] in
theorem emits_sendErrorMessage (code message : Str) :
    Emits log (sendErrorMessage (V := V) code message) fun _ _ es _ => ∀ e ∈ es, IsPlainMessage e := by
  refine (emits_writeMessage _ _).mono fun s o es s' h => ?_
  rw [h.2]
  simp [isPlainMessage_error]

theorem driveFrom_log (fuel : Nat) : Emits log (driveFrom (V := V) C fuel) fun s _ es _ => RunLog C s es := by
  induction fuel with
  | zero => exact (emits_pure _).mono fun s o es s' h => by rw [h.2.1]; exact runLog_of_tail C (by simp)
  | succ fuel ih =>
    have plain {r : Except ProxyError StartupOutCome} {x : Proc (Session V) InternalError Unit} (hr : r ≠ .ok .continued)
        (hx : Emits log x fun _ _ es _ => ∀ e ∈ es, IsPlainMessage e) : Emits log x fun s _ es _ =>
          (r = .ok .continued ∧ RunLog C s es) ∨ (r ≠ .ok .continued ∧ ∀ e ∈ es, IsPlainMessage e) :=
      hx.mono fun _ _ _ _ h => Or.inr ⟨hr, h⟩
    have quiet {x : Proc (Session V) InternalError Unit} (hx : Keeps SameLog x) :
        Emits log x fun _ _ es _ => ∀ e ∈ es, IsPlainMessage e :=
      (emits_sameLog hx).mono fun _ _ _ _ h => by simp [h]
    refine Emits.mono (emits_bind (Q := fun r s _ es _ => (r = .ok .continued ∧ RunLog C s es) ∨
      (r ≠ .ok .continued ∧ ∀ e ∈ es, IsPlainMessage e)) (emits_attempt (handleStartup_log C)) fun r => ?_)
      fun s o es s' h => ?_
    · -- only an answered request reads on
      split
      · exact ih.mono fun _ _ _ _ h => Or.inl ⟨rfl, h⟩
      · exact plain (by simp) (quiet (keeps_pure _))
      · exact plain (by simp) (quiet (keeps_pure _))
      · exact plain (by simp) (quiet (keeps_throw _))
      · exact plain (by simp) (emits_sendErrorMessage _ _)
    rcases h with ⟨r, t, e₁, e₂, ⟨o', hstep, ho'⟩, hdrive, rfl⟩ | ⟨_, ⟨o', -, ho'⟩, -⟩ | ⟨n, ⟨o', hstep, ho'⟩, -⟩
    · rcases hdrive with ⟨rfl, hrun⟩ | ⟨hr, htail⟩
      · cases o' <;> cases ho'
        obtain ⟨quiet, u, o, last, s'', tail, hwaits, ho, hlast, htail, rfl⟩ := hrun
        cases hstep with
        | encryption hcode henc => exact ⟨_, u, o, last, s'', tail, .answered hcode henc hwaits, ho, hlast, htail, rfl⟩
        | unread hne => exact absurd rfl hne
        | ended hne => exact absurd rfl hne
        | startup hne => exact absurd rfl hne
      · refine ⟨[], s, o', e₁, t, e₂, .done s, ?_, hstep, htail, rfl⟩
        intro heq
        subst heq
        cases ho'
        exact hr rfl
    · cases o' <;> cases ho'
    · refine ⟨[], s, o', es, s', [], .done s, ?_, hstep, by simp, by simp⟩
      intro heq
      subst heq
      cases ho'

/-- The encryption requests that can still be answered. -/
def pending (s : Session V) : Nat := (if s.conn.sslDone then 0 else 1) + (if s.conn.gssDone then 0 else 1)

omit [VerifierProvider V] in
theorem Encrypted.pending {code : UInt32} {s t : Session V} (h : Encrypted code s t) : pending t + 1 = pending s := by
  cases h with
  | ssl _ hssl hssl' hgss => simp [Session.pending, hssl, hssl', hgss]; omega
  | gss _ hgss hgss' hssl => simp [Session.pending, hgss, hgss', hssl]

theorem encrypted_of_continued {s t : Session V} (h : handleStartup C s = (.ok .continued, t)) : ∃ code, Encrypted code s t := by
  obtain ⟨es, -, hstep⟩ := handleStartup_log C s
  rw [h] at hstep
  cases hstep with
  | encryption _ henc => exact ⟨_, henc⟩
  | unread hne => exact absurd rfl hne
  | ended hne => exact absurd rfl hne
  | startup hne => exact absurd rfl hne

theorem pending_of_continued {s t : Session V} (h : handleStartup C s = (.ok .continued, t)) : pending t + 1 = pending s := by
  obtain ⟨code, henc⟩ := encrypted_of_continued C h
  exact henc.pending

/-- Only an answered request reads on. -/
theorem driveFrom_succ_congr {m n : Nat} {s : Session V}
    (h : ∀ t, handleStartup C s = (.ok .continued, t) → driveFrom C m t = driveFrom C n t) :
    driveFrom C (m + 1) s = driveFrom C (n + 1) s := by
  unfold driveFrom
  rcases hs : handleStartup C s with ⟨r | e | k, t⟩
  · rw [bind_of_ok (attempt_of_ok hs), bind_of_ok (attempt_of_ok hs)]
    cases r with
    | continued => exact h t hs
    | ready => rfl
    | close => rfl
  · rw [bind_of_ok (attempt_of_err hs), bind_of_ok (attempt_of_err hs)]
    cases e <;> rfl
  · rw [bind_of_dropped (attempt_of_dropped hs), bind_of_dropped (attempt_of_dropped hs)]

theorem driveFrom_fuel (k extra : Nat) {s : Session V} (hs : pending s ≤ k) :
    driveFrom C (k + extra + 1) s = driveFrom C (k + 1) s := by
  induction k generalizing s with
  | zero =>
    refine driveFrom_succ_congr C fun t ht => ?_
    have := pending_of_continued C ht
    omega
  | succ k ih =>
    refine driveFrom_succ_congr C fun t ht => ?_
    have := pending_of_continued C ht
    rw [Nat.succ_add]
    exact ih (by omega)

/-- More fuel makes no difference: there are two requests to answer and one last packet. -/
theorem driveFrom_eq (extra : Nat) : driveFrom (V := V) C (2 + extra + 1) = driveStartupUntilReady C := by
  funext s
  refine driveFrom_fuel C 2 extra ?_
  unfold pending
  split <;> split <;> omega

theorem authenticate_log : Emits log (authenticate (V := V) C) fun s _ es _ => RunLog C s es := by
  refine Emits.mono (emits_bind (Q := fun _ _ _ es _ => ∀ e ∈ es, IsPlainMessage e)
    (emits_timeout (driveFrom_log C 3)) fun r => ?_) fun s o es s' h => ?_
  · split
    · exact (emits_pure _).mono fun _ _ _ _ h => by simp [h.2.1]
    · exact (emits_throw _).mono fun _ _ _ _ h => by simp [h.2.1]
    · exact emits_sendErrorMessage _ _
  rcases h with ⟨r, t, e₁, e₂, ⟨_, hrun, -⟩, htail, rfl⟩ | ⟨_, ⟨_, hrun, -⟩, -⟩ | ⟨_, ⟨_, hrun, -⟩, -⟩
  · exact hrun.append C htail
  · exact hrun
  · exact hrun

theorem handle_log : Emits log (handle (V := V) C) fun s _ es _ => RunLog C s es := by
  have hacquire : Keeps (Extends fun _ => False) (tryAcquire (V := V)) := by
    refine keeps_bind keeps_get fun s => keeps_ite (keeps_pure _) ?_
    exact keeps_bind (keeps_update (fun _ => ⟨⟨rfl, rfl, rfl, rfl, rfl, rfl, rfl, rfl, rfl⟩, rfl, rfl, rfl, rfl⟩) fun _ => rfl)
      fun _ => keeps_pure _
  refine Emits.mono (emits_bind (emits_silent hacquire) fun acquired => emits_ite
    (emits_ensure (authenticate_log C) fun _ => rfl) (emits_sendErrorMessage _ _)) fun s o es s' h => ?_
  rcases h with ⟨_, t, e₁, e₂, ⟨hs, rfl⟩, h, rfl⟩ | ⟨_, ⟨-, rfl⟩, -⟩ | ⟨_, ⟨-, rfl⟩, -⟩
  · rcases h with ⟨-, _, hrun⟩ | ⟨-, htail⟩
    · exact hrun.of_steady C hs
    · exact runLog_of_tail C htail
  · exact runLog_of_tail C (by simp)
  · exact runLog_of_tail C (by simp)

end Provider

end Session

end Wirechaos
