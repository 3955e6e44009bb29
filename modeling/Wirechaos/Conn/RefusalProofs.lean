/-
  Wirechaos.Conn.RefusalProofs — what a client learns of a backend that refuses it (see
  `Wirechaos.Backend.RefusalProofs`, `Wirechaos.Conn.VeilProofs`).

  A link that fails ends the packet with its error (`fatal_handleStartup`), and the driver
  writes the code and the message of that error, and nothing else (`handle_tells`). An
  ErrorResponse with a code of the pass-through class therefore reaches the client with its
  own message, as the body that `prepareErrorBuf` makes and `parseErrorResponse` reads
  (`error_responses_agree`). Of any other ErrorResponse only the code is left: two backends
  that refuse with the same code cannot be told apart (`backend_detail_does_not_leak`).
-/

import Wirechaos.Backend.ErrorFields
import Wirechaos.Backend.RefusalProofs
import Wirechaos.Conn.OutputProofs
import Wirechaos.Conn.VeilProofs

namespace Wirechaos

open Text Async Proc

/-! ## The errors -/

theorem PgError.message_of_passThrough {severity code message : Str} (h : classifyBackendError code = .passThrough) :
    (PgError.backend severity code message).message = message := if_pos h

/-- Outside that class the message is chosen by the code. -/
theorem PgError.message_of_generalised {severity severity' code message message' : Str}
    (h : classifyBackendError code = .generalised) :
    (PgError.backend severity code message).message = (PgError.backend severity' code message').message := by
  have hne : ¬ classifyBackendError code = .passThrough := by rw [h]; decide
  rw [PgError.message, PgError.message, if_neg hne, if_neg hne]
  rfl

namespace Session

variable (C : Crypto) {V : Type}

/-! ## One link -/

/-- The same session in front of another backend. -/
def relink (link : LinkEnv) (s : Session V) : Session V := { s with world := { s.world with link } }

/-- What a link is opened with. -/
def Facing (link : LinkEnv) (pool : MultiBufferPool) (s : Session V) : Prop := s.world.link = link ∧ s.conn.pool = pool

/-- The code of an ErrorResponse. -/
def sqlstate (body : Bytes) : Str := (PgClient.parseErrorResponse body).code

/-- Both backends refuse the configuration, with one code, which is not to be passed through. -/
def RefusedAlike (link link' : LinkEnv) (pool : MultiBufferPool) (config : PgConfig) : Prop :=
  ∃ body body', Backend.Refuses C link pool config body ∧ Backend.Refuses C link' pool config body' ∧
    sqlstate body' = sqlstate body ∧ classifyBackendError (sqlstate body) = .generalised

theorem Unlinked.facing {link : LinkEnv} {pool : MultiBufferPool} {s t : Session V} (h : Unlinked s t) (hs : Facing link pool s) :
    Facing link pool t := ⟨h.world ▸ hs.1, h.pool.trans hs.2⟩

/-- What opening a link with this configuration ends with. -/
def linkEnd (link : LinkEnv) (pool : MultiBufferPool) (config : PgConfig) : Outcome PgError Backend :=
  (Backend.new C link config (PgClient.fresh pool link)).1

theorem emits_openSession (config : PgConfig) : Emits log (openSession (V := V) C config) fun _ _ es _ =>
    .connect config ∈ es ∧ ∀ config', .connect config' ∈ es → config' = config := by
  refine (emits_bind (emits_mapErr (emits_openLink C config)) fun backend =>
    emits_of_keeps (keeps_startSession backend)).mono fun s o es s' h => ?_
  have hone (config' : PgConfig) (h : Event.connect config' ∈ [Event.connect config]) : config' = config := by
    cases List.mem_singleton.mp h
    rfl
  rcases h with ⟨backend, _, _, e₂, ⟨_, rfl, -⟩, ⟨-, hplain⟩, rfl⟩ | ⟨e, ⟨_, rfl, -⟩, -⟩ | ⟨n, ⟨_, rfl, -⟩, -⟩
  · refine ⟨List.mem_append_left _ List.mem_cons_self, fun config' hconnect => ?_⟩
    rcases List.mem_append.mp hconnect with h | h
    · exact hone config' h
    · obtain ⟨tag, body, h, -⟩ := hplain _ h
      cases h
  · exact ⟨List.mem_cons_self, hone⟩
  · exact ⟨List.mem_cons_self, hone⟩

theorem openSession_of_err {link : LinkEnv} {pool : MultiBufferPool} {config : PgConfig} {e : PgError} {s : Session V}
    (hs : Facing link pool s) (h : linkEnd C link pool config = .err e) :
    openSession C config s = (.err (.ofPg e), { s with log := s.log ++ [.connect config] }) := by
  obtain ⟨rfl, rfl⟩ := hs
  have hlink : openLink C config s = (.err e, { s with log := s.log ++ [.connect config] }) := by
    have hemit : (emit (.connect config) : Proc (Session V) PgError Unit) s =
        (.ok (), { s with log := s.log ++ [.connect config] }) := rfl
    unfold openLink
    rw [bind_of_ok (get_apply s), bind_of_ok hemit]
    refine bind_of_err ?_ _
    rw [zoom_apply]
    exact Prod.ext h rfl
  exact bind_of_err (by rw [mapErr, hlink]) _

/-- A link that fails, and the error of the packet it is opened for. -/
def LinkFails (link : LinkEnv) (pool : MultiBufferPool) (event : Event) (error : ProxyError) : Prop :=
  ∃ config e, event = .connect config ∧ linkEnd C link pool config = .err e ∧ error = .ofPg e

theorem fatal_openSession (link : LinkEnv) (pool : MultiBufferPool) (config : PgConfig) :
    Fatal log (Facing link pool) (LinkFails C link pool) (openSession (V := V) C config) := by
  intro s
  obtain ⟨es, hl, -, hone⟩ := emits_openSession C config s
  refine ⟨es, hl, fun hs event hevent error herror => ?_⟩
  obtain ⟨config', e, rfl, hend, rfl⟩ := herror
  cases hone config' hevent
  rw [openSession_of_err C hs hend]

section Provider

variable [VerifierProvider V]

/-- A packet that opens a link ends with the error of the link. -/
theorem fatal_handleStartup (link : LinkEnv) (pool : MultiBufferPool) :
    Fatal log (Facing link pool) (LinkFails C link pool) (handleStartup (V := V) C) := by
  refine carried_handleStartup (f := id) (g := id) C (carried_fatal (fun e he error herror => ?_) fun s t h => h.facing)
    (fatal_openSession C link pool)
  obtain ⟨config, _, rfl, -⟩ := herror
  exact he config rfl

/-! ## The driver -/

/-- The body that tells the client of an error. -/
def told (e : PgError) : Bytes := prepareErrorBuf "FATAL" e.code e.message

omit [VerifierProvider V] in
theorem told_of_passThrough {severity code message : Str} (h : classifyBackendError code = .passThrough) :
    told (.backend severity code message) = prepareErrorBuf "FATAL" code message := by
  unfold told
  rw [PgError.message_of_passThrough h]
  rfl

/-- A link that failed is told of, and where a clean run returns, the client has been sent
    all of that. -/
def Tells (clean : Session V → Prop) (s : Session V) (o : Outcome InternalError Unit) (es : List Event) (s' : Session V) :
    Prop :=
  ∀ config e, .connect config ∈ es → linkEnd C s.world.link s.conn.pool config = .err e →
    .message (byte 'E') (told e) ∈ es ∧
      ∀ u, o = .ok u → clean s → ∃ bs, s'.conn.wire.sent = bs ++ frame (byte 'E') (told e)

omit [VerifierProvider V] in
theorem sendErrorMessage_sent {code message : Str} {s s' : Session V} {u : Unit}
    (h : sendErrorMessage code message s = (.ok u, s')) :
    ∃ bs, s'.conn.wire.sent = bs ++ frame (byte 'E') (prepareErrorBuf "FATAL" code message) := by
  obtain ⟨_, s₁, -, hframe⟩ := bind_ok.mp h
  obtain ⟨hbuf, hout⟩ := writeFrame_ok hframe
  rw [Wire.output, hbuf, List.append_nil] at hout
  exact ⟨_, hout⟩

omit [VerifierProvider V] in
theorem sendErrorMessage_log (code message : Str) (s : Session V) :
    (sendErrorMessage code message s).2.log = s.log ++ [.message (byte 'E') (prepareErrorBuf "FATAL" code message)] := by
  obtain ⟨_, hl, -, rfl⟩ := emits_writeMessage (V := V) (byte 'E') (prepareErrorBuf "FATAL" code message) s
  exact hl

theorem driveFrom_tells (fuel : Nat) : Emits log (driveFrom (V := V) C fuel) (Tells C fun _ => True) := by
  induction fuel with
  | zero => exact (emits_pure _).mono fun s o es s' h config e hconnect => by simp [h.2.1] at hconnect
  | succ fuel ih =>
    intro s
    obtain ⟨es, hl, hfatal⟩ := fatal_handleStartup C s.world.link s.conn.pool s
    have hends {config : PgConfig} {e : PgError} (hconnect : .connect config ∈ es)
        (hend : linkEnd C s.world.link s.conn.pool config = .err e) : (handleStartup C s).1 = .err (.ofPg e) :=
      hfatal ⟨rfl, rfl⟩ _ hconnect _ ⟨config, e, rfl, hend, rfl⟩
    have quiet {o : Outcome InternalError Unit} {s' : Session V} (hne : ∀ e, (handleStartup C s).1 ≠ .err (.ofPg e)) :
        Tells C (fun _ => True) s o es s' := fun config e hconnect hend => absurd (hends hconnect hend) (hne e)
    unfold driveFrom
    rcases hrun : handleStartup C s with ⟨r | e | n, t⟩ <;> rw [hrun] at hl hends quiet
    · rw [bind_of_ok (attempt_of_ok hrun)]
      cases r with
      | continued =>
        -- an answered request: no link was opened yet
        obtain ⟨es', hl', htells⟩ := ih t
        obtain ⟨_, henc⟩ := encrypted_of_continued C hrun
        refine ⟨es ++ es', by rw [hl', hl, List.append_assoc], fun config e hconnect hend => ?_⟩
        rcases List.mem_append.mp hconnect with h | h
        · cases hends h hend
        · rw [← henc.settled.world, ← henc.settled.pool] at hend
          obtain ⟨hmessage, hsent⟩ := htells config e h hend
          exact ⟨List.mem_append_right _ hmessage, hsent⟩
      | ready => exact ⟨es, hl, quiet (by simp)⟩
      | close => exact ⟨es, hl, quiet (by simp)⟩
    · rw [bind_of_ok (attempt_of_err hrun)]
      cases e with
      | internal e => exact ⟨es, hl, quiet (by simp [ProxyError.ofPg])⟩
      | connectionError e =>
        refine ⟨_, (sendErrorMessage_log _ _ t).trans (by rw [hl, List.append_assoc]), fun config e' hconnect hend => ?_⟩
        rcases List.mem_append.mp hconnect with h | h
        · cases hends h hend
          exact ⟨List.mem_append_right _ List.mem_cons_self, fun u hu _ => sendErrorMessage_sent (eq_of_fst hu)⟩
        · cases List.mem_singleton.mp h
    · rw [bind_of_dropped (attempt_of_dropped hrun)]
      exact ⟨es, hl, quiet (by simp)⟩

theorem authenticate_tells :
    Emits log (authenticate (V := V) C) (Tells C fun s => ∀ t, driveStartupUntilReady C s ≠ (.dropped 0, t)) := by
  intro s
  obtain ⟨es, hl, htells⟩ := driveFrom_tells C 3 s
  rcases hdrive : driveFrom C 3 s with ⟨u | e | _ | n, t⟩ <;> rw [hdrive] at hl htells
  · rw [authenticate_of_ok C hdrive]
    refine ⟨es, hl, fun config e hconnect hend => ?_⟩
    obtain ⟨hmessage, hsent⟩ := htells config e hconnect hend
    exact ⟨hmessage, fun _ _ _ => hsent u rfl trivial⟩
  · rw [authenticate_of_err C hdrive]
    exact ⟨es, hl, fun config e hconnect hend => ⟨(htells config e hconnect hend).1, fun _ h => by cases h⟩⟩
  · rw [authenticate_of_deadline C hdrive]
    refine ⟨_, by rw [sendErrorMessage_log, hl, List.append_assoc], fun config e hconnect hend => ?_⟩
    rcases List.mem_append.mp hconnect with h | h
    · exact ⟨List.mem_append_left _ (htells config e h hend).1, fun _ _ hclean => absurd hdrive (hclean t)⟩
    · cases List.mem_singleton.mp h
  · rw [authenticate_of_dropped C hdrive]
    exact ⟨es, hl, fun config e hconnect hend => ⟨(htells config e hconnect hend).1, fun _ h => by cases h⟩⟩

omit [VerifierProvider V] in
theorem tryAcquire_unlinked (s : Session V) :
    (tryAcquire s).2.log = s.log ∧ (tryAcquire s).2.world = s.world ∧ (tryAcquire s).2.conn.pool = s.conn.pool := by
  unfold tryAcquire
  rw [bind_of_ok (get_apply s)]
  split
  · exact ⟨rfl, rfl, rfl⟩
  · exact ⟨rfl, rfl, rfl⟩

omit [VerifierProvider V] in
theorem releasePermit_wire (s : Session V) : (releasePermit s).conn.wire = s.conn.wire := rfl

/-- What a client is told of a link that failed. -/
theorem handle_tells : Emits log (handle (V := V) C) (Tells C fun s => ∀ t, ¬ DeadlineFires C s t) := by
  intro s
  obtain ⟨hlog, hworld, hpool⟩ := tryAcquire_unlinked s
  obtain ⟨acquired, h⟩ := tryAcquire_returns s
  have hacquire := eq_of_fst h
  cases acquired with
  | true =>
    obtain ⟨es, hl, htells⟩ := authenticate_tells C (tryAcquire s).2
    rw [Tells, hworld, hpool] at htells
    rw [handle_of_acquired C hacquire]
    generalize authenticate C (tryAcquire s).2 = run at hl htells
    refine ⟨es, by rw [releasePermit_log, hl, hlog], fun config e hconnect hend => ?_⟩
    obtain ⟨hmessage, hsent⟩ := htells config e hconnect hend
    refine ⟨hmessage, fun u hu hclean => ?_⟩
    have hdeadline (t : Session V) : driveStartupUntilReady C (tryAcquire s).2 ≠ (.dropped 0, t) := fun ht =>
      hclean t ⟨(tryAcquire s).2, hacquire, ht⟩
    rw [releasePermit_wire]
    exact hsent u hu hdeadline
  | false =>
    have hl := sendErrorMessage_log ConnectionErrorInner.tooManyRequest.code ConnectionErrorInner.tooManyRequest.message
      (tryAcquire s).2
    rw [hlog, ← handle_of_refused C hacquire] at hl
    refine ⟨_, hl, fun config e hconnect => ?_⟩
    cases List.mem_singleton.mp hconnect

/-! ## Both ways -/

/-- What the proxy writes as an ErrorResponse is read back as it was; what it reads of any
    other body is found within the body, and of a well-formed one the last fields; and an
    ErrorResponse of the pass-through class is written to the client with the code and the
    message that were read. -/
theorem error_responses_agree :
    (∀ severity code message, PgClient.NoNul (severity, code, message) →
      PgClient.parseErrorResponse (prepareErrorBuf severity code message) = .backend severity code message) ∧
    (∀ body, ∃ severity code message, PgClient.scanFields body 0 ("FATAL", "XX000", []) = some (severity, code, message) ∧
      PgClient.parseErrorResponse body = .backend severity code message) ∧
    (∀ fields rest, PgClient.parseErrorResponse (PgClient.writeFields fields ++ 0 :: rest) =
      .backend (PgClient.lastValue [byte 'S', byte 'V'] "FATAL" fields) (PgClient.lastValue [byte 'C'] "XX000" fields)
        (PgClient.lastValue [byte 'M'] [] fields)) ∧
    ∀ (s : Session V) (es : List Event) (config : PgConfig) (body : Bytes) (severity code message : Str),
      (handle C s).2.log = s.log ++ es → .connect config ∈ es → Backend.Refuses C s.world.link s.conn.pool config body →
      PgClient.parseErrorResponse body = .backend severity code message → classifyBackendError code = .passThrough →
      ∃ answer, .message (byte 'E') answer ∈ es ∧ PgClient.parseErrorResponse answer = .backend "FATAL" code message ∧
        ((handle C s).1 = .ok () → (∀ t, ¬ DeadlineFires C s t) →
          ∃ bs, (handle C s).2.conn.wire.sent = bs ++ frame (byte 'E') answer) := by
  refine ⟨fun severity code message h => PgClient.parseErrorResponse_prepareErrorBuf h.1 h.2.1 h.2.2, fun body => ?_,
    PgClient.parseErrorResponse_writeFields, ?_⟩
  · exact ⟨_, _, _, PgClient.scanFields_eq (Nat.le_refl _) _, rfl⟩
  · intro s es config body severity code message hlog hconnect hrefuses hparse hclass
    obtain ⟨es', hlog', htells⟩ := handle_tells C s
    obtain rfl : es' = es := List.append_cancel_left (hlog'.symm.trans hlog)
    have hend : linkEnd C s.world.link s.conn.pool config = .err (.backend severity code message) := by
      rw [← hparse]
      exact Backend.new_of_refuses hrefuses
    obtain ⟨hmessage, hsent⟩ := htells config _ hconnect hend
    obtain ⟨-, hcode, htext⟩ := PgClient.noNul_parseErrorResponse hparse
    rw [told_of_passThrough hclass] at hmessage hsent
    refine ⟨_, hmessage, PgClient.parseErrorResponse_prepareErrorBuf (by decide) hcode htext, ?_⟩
    exact fun hok hclean => hsent () hok hclean

end Provider

end Session

namespace Sample

open Session

/-- A backend without TLS that answers the startup message with this body. -/
def refusing (body : Bytes) : LinkEnv := { login.world.link with chunks := [[byte 'N'], frame (byte 'E') body] }

/-- Alice logs in, and is refused. -/
def refusedLogin (body : Bytes) : Session (CredentialStore crypto) := login.relink (refusing body)

def missingDatabase : Bytes := prepareErrorBuf "FATAL" "3D000" "database \"alice\" does not exist"

def wrongPassword : Bytes := prepareErrorBuf "FATAL" "28P01" "password authentication failed for user \"alice\""

/-- The same code, with other texts, in another order and with a field more. -/
def wrongPasswordElsewhere : Bytes :=
  byte 'C' :: putCstr "28P01" ++ byte 'S' :: putCstr "FATALE" ++ byte 'M' :: putCstr "autenticazione fallita" ++
    byte 'F' :: putCstr "auth.c" ++ [0]

/-- What is logged when the client is told of it. -/
def refusedLog (body : Bytes) : List Event :=
  beforeOk ++ authEvent authSaslOk [] ::
    [.lookup "alice" (.ok (some aliceVerifier)), .connect (linkTo aliceVerifier), .message (byte 'E') body]

theorem missingDatabase_run : (handle crypto (refusedLogin missingDatabase)).1 = .ok () ∧
    (handle crypto (refusedLogin missingDatabase)).2.log = refusedLog missingDatabase := by
  decide +kernel

theorem wrongPassword_log : (handle crypto (refusedLogin wrongPassword)).2.log =
    refusedLog (prepareErrorBuf "FATAL" "28P01" "backend authentication failed") := by
  decide +kernel

theorem refusedAlike_wrongPassword :
    RefusedAlike crypto (refusing wrongPassword) (refusing wrongPasswordElsewhere) login.conn.pool (linkTo aliceVerifier) :=
  ⟨wrongPassword, wrongPasswordElsewhere, by decide +kernel, by decide +kernel, by decide +kernel, by decide +kernel⟩

theorem connect_refusedLog {body : Bytes} {config : PgConfig} (h : .connect config ∈ refusedLog body) :
    config = linkTo aliceVerifier := by
  simpa [refusedLog, beforeOk, authEvent] using h

end Sample

namespace Session

variable (C : Crypto) {V : Type}

theorem error_responses_agree_missing_database :
    ∃ answer, .message (byte 'E') answer ∈ Sample.refusedLog Sample.missingDatabase ∧
      PgClient.parseErrorResponse answer = .backend "FATAL" "3D000" "database \"alice\" does not exist" ∧
      ∃ bs, (handle Sample.crypto (Sample.refusedLogin Sample.missingDatabase)).2.conn.wire.sent =
        bs ++ frame (byte 'E') answer := by
  obtain ⟨hok, hlog⟩ := Sample.missingDatabase_run
  obtain ⟨answer, hmessage, hparse, hsent⟩ := (error_responses_agree Sample.crypto).2.2.2
    (Sample.refusedLogin Sample.missingDatabase) (Sample.refusedLog Sample.missingDatabase)
    (Sample.linkTo Sample.aliceVerifier) Sample.missingDatabase "FATAL" "3D000" "database \"alice\" does not exist"
    hlog (by simp [Sample.refusedLog]) (by decide +kernel) (by decide +kernel) (by decide)
  refine ⟨answer, hmessage, hparse, hsent hok fun t hfires => ?_⟩
  have hlast := congrArg List.getLast? ((deadline_log Sample.crypto hfires).symm.trans hlog)
  rw [List.getLast?_concat] at hlast
  exact absurd hlast (by decide +kernel)

/-! ## Two backends -/

/-- The client is told the same. -/
def SameReport : ProxyError → ProxyError → Prop
  | .connectionError e, .connectionError e' => e'.code = e.code ∧ e'.message = e.message
  | e, e' => e' = e

theorem SameReport.refl (e : ProxyError) : SameReport e e := by
  cases e with
  | internal e => rfl
  | connectionError e => exact ⟨rfl, rfl⟩

/-- Neither the severity nor the message of the backend is in the report. -/
theorem sameReport_of_code {body body' : Bytes} (hcode : sqlstate body' = sqlstate body)
    (hclass : classifyBackendError (sqlstate body) = .generalised) :
    SameReport (.ofPg (PgClient.parseErrorResponse body)) (.ofPg (PgClient.parseErrorResponse body')) := by
  refine ⟨hcode, ?_⟩
  obtain ⟨severity, code, message, -, hparse⟩ : ∃ severity code message, True ∧
      PgClient.parseErrorResponse body = .backend severity code message := ⟨_, _, _, trivial, rfl⟩
  obtain ⟨severity', code', message', -, hparse'⟩ : ∃ severity code message, True ∧
      PgClient.parseErrorResponse body' = .backend severity code message := ⟨_, _, _, trivial, rfl⟩
  rw [sqlstate, sqlstate, hparse, hparse'] at hcode
  rw [sqlstate, hparse] at hclass
  rw [hparse, hparse']
  obtain rfl : code' = code := hcode
  exact (PgError.message_of_generalised hclass)

variable {C} {link link' : LinkEnv} {pool : MultiBufferPool}

variable (C link link' pool) in
/-- Every link of the run was refused by both backends alike. -/
def LinksRefused (s : Session V) : Prop := ∀ config, .connect config ∈ s.log → RefusedAlike C link link' pool config

theorem backward_of_emits {ε α : Type} {x : Proc (Session V) ε α} {P : Session V → Outcome ε α → List Event → Session V → Prop}
    (hx : Emits log x P) : Keeps (Backward (LinksRefused C link link' pool)) x := by
  intro s h config hconnect
  obtain ⟨es, hl, -⟩ := hx s
  apply h config
  rw [hl]
  exact List.mem_append_left _ hconnect

theorem hides_openSession (config : PgConfig) : Hides (Facing link pool) (LinksRefused C link link' pool) SameReport
    (relink link') (openSession (V := V) C config) := by
  intro s hs hrefused
  obtain ⟨es, hl, hconnect, -⟩ := emits_openSession C config s
  obtain ⟨body, body', h, h', hcode, hclass⟩ := hrefused config (by rw [hl]; exact List.mem_append_right _ hconnect)
  have hs' : Facing link' pool (relink link' s) := ⟨rfl, hs.2⟩
  rw [openSession_of_err C hs (Backend.new_of_refuses h), openSession_of_err C hs' (Backend.new_of_refuses h')]
  exact ⟨.err (sameReport_of_code hcode hclass), rfl⟩

section Provider

variable [VerifierProvider V]

theorem hides_handleStartup : Hides (Facing link pool) (LinksRefused C link link' pool) SameReport (relink link')
    (handleStartup (V := V) C) :=
  carried_handleStartup (f := id) (g := fun _ => link') C (carried_hides SameReport.refl fun _ _ h => h.facing)
    hides_openSession

omit [VerifierProvider V] in
theorem blind_sendErrorMessage (code message : Str) : Blind (relink link') (sendErrorMessage (V := V) code message) :=
  blind_writeMessage (f := id) (g := fun _ => link') _ _

theorem hides_driveFrom (fuel : Nat) : Hides (Facing link pool) (LinksRefused C link link' pool) Eq (relink link')
    (driveFrom (V := V) C fuel) := by
  induction fuel with
  | zero => exact hides_of_blind (fun _ => rfl) (blind_pure ())
  | succ fuel ih =>
    refine hides_attempt (fun _ => rfl) hides_handleStartup (fun r => ?_) (fun r => ?_) (fun e e' he => ?_) fun e => ?_
    · split
      · exact backward_of_emits (driveFrom_log C fuel)
      · exact keeps_pure _
      · exact keeps_pure _
      · exact keeps_throw _
      · exact backward_of_emits (emits_sendErrorMessage _ _)
    · cases r with
      | continued =>
        -- an answered request leaves the backend and the pool as they are
        intro t ht
        obtain ⟨s, hs, hrun⟩ := ht
        obtain ⟨_, henc⟩ := encrypted_of_continued C hrun
        exact ih t ⟨henc.settled.world ▸ hs.1, henc.settled.pool.trans hs.2⟩
      | ready => exact hides_of_blind (fun _ => rfl) (blind_pure ())
      | close => exact hides_of_blind (fun _ => rfl) (blind_pure ())
    · cases e with
      | internal e => cases he; rfl
      | connectionError e =>
        cases e' with
        | internal e' => cases he
        | connectionError e' =>
          dsimp only
          rw [he.1, he.2]
    · cases e with
      | internal e => exact blind_throw e
      | connectionError e => exact blind_sendErrorMessage _ _

theorem hides_authenticate : Hides (Facing link pool) (LinksRefused C link link' pool) Eq (relink link')
    (authenticate (V := V) C) := by
  refine hides_timeout (hides_driveFrom 3) (fun r => ?_) fun r => ?_
  · split
    · exact keeps_pure _
    · exact keeps_throw _
    · exact backward_of_emits (emits_sendErrorMessage _ _)
  · split
    · exact blind_pure _
    · exact blind_throw _
    · exact blind_sendErrorMessage _ _

theorem hides_handle : Hides (Facing link pool) (LinksRefused C link link' pool) Eq (relink link') (handle (V := V) C) := by
  have hacquire : Blind (relink link') (tryAcquire (V := V)) :=
    blind_get (fun _ => rfl) fun s => blind_ite (blind_pure _) (blind_bind (blind_modify fun _ => rfl) fun _ => blind_pure _)
  have hkeeps : Keeps (Maintains (Facing link pool)) (tryAcquire (V := V)) := by
    intro s hs
    obtain ⟨-, hworld, hpool⟩ := tryAcquire_unlinked s
    exact ⟨hworld ▸ hs.1, hpool.trans hs.2⟩
  refine hides_bind (fun _ => rfl) hacquire hkeeps fun acquired => hides_ite ?_ ?_
  · exact hides_ensure hides_authenticate (fun _ h => h) fun _ => rfl
  · exact hides_of_blind (fun _ => rfl) (blind_sendErrorMessage _ _)

end Provider

/-- Two backends that refuse a startup, wherever in the handshake and whatever they have
    sent before, with ErrorResponses of one code outside the pass-through class: the client
    is sent the same bytes, and no other part of the session tells them apart either. -/
theorem backend_detail_does_not_leak [VerifierProvider V] {s : Session V} {link' : LinkEnv}
    (h : ∀ config, .connect config ∈ (handle C s).2.log → RefusedAlike C s.world.link link' s.conn.pool config) :
    (handle C (s.relink link')).2.conn.wire.sent = (handle C s).2.conn.wire.sent ∧
      handle C (s.relink link') = ((handle C s).1, (handle C s).2.relink link') := by
  obtain ⟨hend, hstate⟩ := hides_handle s ⟨rfl, rfl⟩ h
  have hrun : handle C (s.relink link') = ((handle C s).1, (handle C s).2.relink link') := Prod.ext hend.eq hstate
  exact ⟨by rw [hrun]; rfl, hrun⟩

theorem backend_detail_does_not_leak_wrong_password :
    (handle Sample.crypto ((Sample.refusedLogin Sample.wrongPassword).relink
        (Sample.refusing Sample.wrongPasswordElsewhere))).2.conn.wire.sent =
      (handle Sample.crypto (Sample.refusedLogin Sample.wrongPassword)).2.conn.wire.sent ∧
    handle Sample.crypto ((Sample.refusedLogin Sample.wrongPassword).relink
        (Sample.refusing Sample.wrongPasswordElsewhere)) =
      ((handle Sample.crypto (Sample.refusedLogin Sample.wrongPassword)).1,
        (handle Sample.crypto (Sample.refusedLogin Sample.wrongPassword)).2.relink
          (Sample.refusing Sample.wrongPasswordElsewhere)) := by
  refine backend_detail_does_not_leak fun config hconnect => ?_
  rw [Sample.wrongPassword_log] at hconnect
  rw [Sample.connect_refusedLog hconnect]
  exact Sample.refusedAlike_wrongPassword

end Session

end Wirechaos
