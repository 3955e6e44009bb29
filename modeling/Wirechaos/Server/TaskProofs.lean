/-
  Wirechaos.Server.TaskProofs — a session's task keeps to its part of the server
  (see `Wirechaos.Server.Serve`).

  A `Plan` says what the other tasks do at each suspension of this one: any actions of
  theirs. What these come to depends on what the others hold, which the shared state does
  not tell; so the world in which they are carried out keeps a server beside the
  credentials (`Hosted`), a ghost that the code never looks at.

  `Stands` places a session in a run of the server: the planned actions are those of the
  other tasks so far, the shared state is the server's, and phase and guard are those of
  its task. Every operation of the session can be followed by actions of its task
  (`Wirechaos.Lib.Shadow`), and so can the whole task, however it ends: `task_shadows`
  leads from `waiting` to `gone`. What holds in every run of the server therefore holds
  around the code (`task_runs_in_server`).
-/

import Wirechaos.Conn.StartupProofs
import Wirechaos.Lib.Shadow
import Wirechaos.Server.Admission

namespace Wirechaos

open Text Async Proc Machine

namespace Server

variable {V : Type}

/-- What the tasks share. -/
def shared (h : Server V) : Shared V := ⟨h.state.credentials, h.state.backends, h.state.connections⟩

/-! ## The other tasks -/

/-- What the others do at each suspension of task `i`. -/
structure Plan (V : Type) (i : Nat) where
  acts : Nat → List (Act V)
  spares : ∀ n, ∀ a ∈ acts n, a.task ≠ some i

/-- The credentials, and the server as the other tasks have left it. -/
structure Hosted (V : Type) where
  credentials : V
  server : Server V

/-- It answers as the credentials do, and the code asks it for nothing else. -/
instance [VerifierProvider V] : VerifierProvider (Hosted V) where
  lookup p user :=
    ((VerifierProvider.lookup p.credentials user).1, { p with credentials := (VerifierProvider.lookup p.credentials user).2 })
  getDummyVerifier p user := VerifierProvider.getDummyVerifier p.credentials user
  isDummy_getDummyVerifier p user := VerifierProvider.isDummy_getDummyVerifier p.credentials user

/-- The server that the others find: theirs, with what is shared as this task left it. -/
def Hosted.resume (x : Shared (Hosted V)) : Server V :=
  ⟨{ x.provider.server.state with
      credentials := x.provider.credentials, backends := x.backendRegistry, connections := x.connRegistry },
    x.provider.server.tasks⟩

/-- What the task itself sees of it. -/
def Hosted.visible (x : Shared (Hosted V)) : Shared V := ⟨x.provider.credentials, x.backendRegistry, x.connRegistry⟩

section Provider

variable [VerifierProvider V]

/-- The others carry out their plan. -/
def Plan.others {i : Nat} (plan : Plan V i) (n : Nat) (x : Shared (Hosted V)) : Shared (Hosted V) :=
  let h := run step (Hosted.resume x) (plan.acts n)
  ⟨⟨h.state.credentials, h⟩, h.state.backends, h.state.connections⟩

/-- The actions of the other tasks in a run. -/
def ofOthers (i : Nat) (as : List (Act V)) : List (Act V) := as.filter fun a => a.task ≠ some i

/-- What is planned for the suspensions from `n₀` to `n`. -/
def Plan.between {i : Nat} (plan : Plan V i) (n₀ n : Nat) : List (Act V) := (List.range' n₀ (n - n₀)).flatMap plan.acts

omit [VerifierProvider V] in
theorem Plan.between_succ {i : Nat} (plan : Plan V i) {n₀ n : Nat} (h : n₀ ≤ n) :
    plan.between n₀ (n + 1) = plan.between n₀ n ++ plan.acts n := by
  have hlen : n + 1 - n₀ = (n - n₀) + 1 := by omega
  have hlast : n₀ + 1 * (n - n₀) = n := by omega
  rw [between, hlen, List.range'_concat, hlast, List.flatMap_append, List.flatMap_singleton, between]

/-- A run in which the others have taken the planned actions. -/
def Interleaved {i : Nat} (h₀ : Server V) (n₀ : Nat) (plan : Plan V i) (n : Nat) (h : Server V) : Prop :=
  n₀ ≤ n ∧ ∃ as, h = run step h₀ as ∧ ofOthers i as = plan.between n₀ n

variable {i : Nat} {h₀ h : Server V} {n₀ n : Nat} {plan : Plan V i}

theorem Interleaved.own (hr : Interleaved h₀ n₀ plan n h) {a : Act V} (ha : a.task = some i) :
    Interleaved h₀ n₀ plan n (h.step a) := by
  obtain ⟨hn, as, rfl, has⟩ := hr
  refine ⟨hn, as ++ [a], (run_concat step h₀ as a).symm, ?_⟩
  rw [ofOthers, List.filter_append, List.filter_singleton, ← ofOthers, has]
  simp [ha]

theorem Interleaved.resumed (hr : Interleaved h₀ n₀ plan n h) :
    Interleaved h₀ n₀ plan (n + 1) (run step h (plan.acts n)) := by
  obtain ⟨hn, as, rfl, has⟩ := hr
  refine ⟨Nat.le_succ_of_le hn, as ++ plan.acts n, (run_append step h₀ as _).symm, ?_⟩
  have hplanned : ofOthers i (plan.acts n) = plan.acts n :=
    List.filter_eq_self.mpr fun a ha => by simpa using plan.spares n a ha
  rw [ofOthers, List.filter_append, ← ofOthers, ← ofOthers, has, hplanned, plan.between_succ hn]

/-! ### What another task cannot touch -/

omit [VerifierProvider V] in
/-- An action of another task leaves this one as it is. -/
theorem task_of_effect {h' : Server V} {a : Act V} (heffect : Effect h a h') (ha : a.task ≠ some i) {task : Task}
    (ht : h.tasks[i]? = some task) : h'.tasks[i]? = some task := by
  have hset {h₀ : Server V} (htasks : h₀.tasks = h.tasks) {j : Nat} {connId : Int32} {p : TaskPhase} (hj : some j ≠ some i) :
      (h₀.setPhase j connId p).tasks[i]? = some task := by
    show (h₀.tasks.set j _)[i]? = _
    rw [List.getElem?_set_ne (fun he => hj (congrArg some he)), htasks, ht]
  cases heffect with
  | idle => exact ht
  | accepted socket =>
    obtain ⟨hi, -⟩ := List.getElem?_eq_some_iff.mp ht
    show (h.tasks ++ _)[i]? = _
    rw [List.getElem?_append_left hi, ht]
  | changed v => exact ht
  | admitted => exact hset rfl ha
  | refused => exact hset rfl ha
  | registered => exact hset rfl ha
  | left => exact hset rfl ha
  | dropped => exact hset rfl ha

theorem task_of_run {task : Task} (ht : h.tasks[i]? = some task) {as : List (Act V)}
    (has : ∀ a ∈ as, a.task ≠ some i) : (run step h as).tasks[i]? = some task := by
  induction as generalizing h with
  | nil => exact ht
  | cons a as ih =>
    obtain ⟨ha, has⟩ := List.forall_mem_cons.mp has
    exact ih (task_of_effect (step_effect h a) ha ht) has

/-- The same to everyone but task `i`. -/
structure SameOff (i : Nat) (g h : Server V) : Prop where
  state : g.state = h.state
  length : g.tasks.length = h.tasks.length
  tasks : ∀ j, j ≠ i → g.tasks[j]? = h.tasks[j]?

omit [VerifierProvider V] in
theorem SameOff.setPhase {g : Server V} (hs : SameOff i g h) (j : Nat) (connId : Int32) (p : TaskPhase) :
    SameOff i (g.setPhase j connId p) (h.setPhase j connId p) := by
  refine ⟨hs.state, ?_, fun k hk => ?_⟩
  · show (g.tasks.set j _).length = (h.tasks.set j _).length
    rw [List.length_set, List.length_set, hs.length]
  · show (g.tasks.set j _)[k]? = (h.tasks.set j _)[k]?
    rw [List.getElem?_set, List.getElem?_set, hs.tasks k hk, hs.length]

omit [VerifierProvider V] in
/-- The phase of the task itself is its own affair. -/
theorem SameOff.setOwn {g : Server V} (hs : SameOff i g h) (connId : Int32) (p : TaskPhase) :
    SameOff i g (h.setPhase i connId p) := by
  refine ⟨hs.state, ?_, fun k hk => ?_⟩
  · rw [hs.length]
    exact (List.length_set ..).symm
  · rw [hs.tasks k hk]
    exact (List.getElem?_set_ne (Ne.symm hk)).symm

omit [VerifierProvider V] in
theorem SameOff.setConnections {g : Server V} (hs : SameOff i g h) (r : ConnRegistry) :
    SameOff i (g.setConnections r) (h.setConnections r) :=
  ⟨congrArg (fun state => { state with connections := r }) hs.state, hs.length, hs.tasks⟩

omit [VerifierProvider V] in
theorem SameOff.setBackends {g : Server V} (hs : SameOff i g h) (r : Registry) :
    SameOff i (g.setBackends r) (h.setBackends r) :=
  ⟨congrArg (fun state => { state with backends := r }) hs.state, hs.length, hs.tasks⟩

omit [VerifierProvider V] in
theorem SameOff.setCredentials {g : Server V} (hs : SameOff i g h) (v : V) :
    SameOff i (g.setCredentials v) (h.setCredentials v) :=
  ⟨congrArg (fun state => { state with credentials := v }) hs.state, hs.length, hs.tasks⟩

/-- Another task acts on what it sees, and that is the same in both. -/
theorem SameOff.step {g : Server V} (hs : SameOff i g h) {a : Act V} (ha : a.task ≠ some i) :
    SameOff i (g.step a) (h.step a) := by
  have htask {j : Nat} (hj : some j ≠ some i) : g.tasks[j]? = h.tasks[j]? := hs.tasks j fun he => hj (congrArg some he)
  cases a with
  | accept socket =>
    cases socket with
    | none => exact hs
    | some socket =>
      refine ⟨?_, ?_, fun j hj => ?_⟩
      · show { g.state with nextId := g.state.nextId + 1 } = { h.state with nextId := h.state.nextId + 1 }
        rw [hs.state]
      · show (g.tasks ++ _).length = (h.tasks ++ _).length
        rw [List.length_append, List.length_append, hs.length]
        rfl
      · show (g.tasks ++ [⟨g.state.nextId, .waiting⟩])[j]? = (h.tasks ++ [⟨h.state.nextId, .waiting⟩])[j]?
        rw [List.getElem?_append, List.getElem?_append, hs.tasks j hj, hs.length, hs.state]
  | enter j =>
    rcases ht : h.tasks[j]? with _ | ⟨connId, _ | _ | _ | _ | _⟩
    all_goals simp only [Server.step, htask ha, ht]
    case some.waiting =>
      rw [hs.state]
      cases h.state.connections.tryAcquire with
      | none => exact hs.setPhase j connId .refused
      | some r => exact (hs.setConnections r).setPhase j connId (.admitted none)
    all_goals exact hs
  | lookup j user =>
    rcases ht : h.tasks[j]? with _ | ⟨connId, _ | _ | ⟨_ | entry⟩ | _ | _⟩
    all_goals simp only [Server.step, htask ha, ht]
    case some.admitted.none =>
      rw [hs.state]
      exact hs.setCredentials _
    all_goals exact hs
  | register j backend key =>
    rcases ht : h.tasks[j]? with _ | ⟨connId, _ | _ | ⟨_ | entry⟩ | _ | _⟩
    all_goals simp only [Server.step, htask ha, ht]
    case some.admitted.none =>
      rw [hs.state]
      rcases h.state.backends.register backend connId key with ⟨_ | guard, r⟩
      · exact hs
      · exact (hs.setBackends r).setPhase j connId (.admitted (some (guard, backend)))
    all_goals exact hs
  | leave j =>
    rcases ht : h.tasks[j]? with _ | ⟨connId, _ | _ | entry | _ | _⟩
    all_goals simp only [Server.step, htask ha, ht]
    case some.admitted =>
      rw [hs.state]
      exact (hs.setConnections _).setPhase j connId (.leaving entry)
    all_goals exact hs
  | drop j =>
    rcases ht : h.tasks[j]? with _ | ⟨connId, _ | _ | _ | entry | _⟩
    all_goals simp only [Server.step, htask ha, ht]
    case some.refused => exact hs.setPhase j connId .gone
    case some.leaving =>
      rw [hs.state]
      exact (hs.setBackends _).setPhase j connId .gone
    all_goals exact hs
  | change f =>
    show SameOff i (g.setCredentials (f g.state.credentials)) (h.setCredentials (f h.state.credentials))
    rw [hs.state]
    exact hs.setCredentials _

theorem SameOff.run {g : Server V} (hs : SameOff i g h) {as : List (Act V)} (has : ∀ a ∈ as, a.task ≠ some i) :
    SameOff i (run Server.step g as) (run Server.step h as) := by
  induction as generalizing g h with
  | nil => exact hs
  | cons a as ih =>
    obtain ⟨ha, has⟩ := List.forall_mem_cons.mp has
    exact ih (hs.step ha) has

end Provider

end Server

namespace Session

open Server (Hosted Interleaved Plan SameOff)

variable {V : Type}

/-- What the session shares, as it sees it. -/
def shared (s : Session V) : Shared V := ⟨s.conn.provider, s.conn.backendRegistry, s.conn.connRegistry⟩

def HoldsEntry (s : Session V) : Option Entry → Prop
  | some entry => s.Holds entry
  | none => s.conn.sessionGuard = none

/-- The part of a session that its task in the server knows of. -/
structure SameShare (s s' : Session V) : Prop where
  world : s'.world = s.world
  suspensions : s'.suspensions = s.suspensions
  shared : s'.shared = s.shared
  connId : s'.conn.connId = s.conn.connId
  guard : s'.conn.sessionGuard = s.conn.sessionGuard
  backend : s'.conn.backend = s.conn.backend
  keySecret : s'.conn.sessionKeySecret = s.conn.sessionKeySecret

theorem HoldsEntry.of_same {s s' : Session V} {entry : Option Entry} (h : s.HoldsEntry entry)
    (hguard : s'.conn.sessionGuard = s.conn.sessionGuard) (hbackend : s'.conn.backend = s.conn.backend)
    (hkey : s'.conn.sessionKeySecret = s.conn.sessionKeySecret) : s'.HoldsEntry entry := by
  cases entry with
  | none => exact hguard.trans h
  | some entry => exact ⟨hguard.trans h.guard, hbackend.trans h.backend, hkey.trans h.keySecret, h.secret⟩

variable [VerifierProvider V]

/-- The session of task `i`, in this phase, in a run from `h₀` in which the others follow
    their plan. -/
structure Stands {i : Nat} (h₀ : Server V) (n₀ : Nat) (plan : Plan V i) (p : TaskPhase) (s : Session (Hosted V))
    (h : Server V) : Prop where
  world : s.world.others = plan.others
  run : Interleaved h₀ n₀ plan s.suspensions h
  same : SameOff i (Hosted.resume s.shared) h
  task : h.tasks[i]? = some ⟨s.conn.connId, p⟩
  entry : s.HoldsEntry p.entry

variable {i : Nat} {h₀ : Server V} {n₀ : Nat} {plan : Plan V i} {p : TaskPhase} {ε α : Type}

theorem Stands.of_same {s s' : Session (Hosted V)} {h : Server V} (hat : Stands h₀ n₀ plan p s h) (hs : SameShare s s') :
    Stands h₀ n₀ plan p s' h := by
  refine ⟨hs.world ▸ hat.world, hs.suspensions ▸ hat.run, hs.shared ▸ hat.same, hs.connId ▸ hat.task, ?_⟩
  exact hat.entry.of_same hs.guard hs.backend hs.keySecret

theorem Stands.parts {s : Session (Hosted V)} {h : Server V} (hat : Stands h₀ n₀ plan p s h) :
    h.state.credentials = s.conn.provider.credentials ∧ h.state.backends = s.conn.backendRegistry ∧
      h.state.connections = s.conn.connRegistry :=
  ⟨congrArg ServerState.credentials hat.same.state.symm, congrArg ServerState.backends hat.same.state.symm,
    congrArg ServerState.connections hat.same.state.symm⟩

/-- The task acts, and its phase is another one. -/
theorem Stands.acts {s s' : Session (Hosted V)} {h h' : Server V} {q : TaskPhase} (hat : Stands h₀ n₀ plan p s h)
    {a : Server.Act V} (ha : a.task = some i) (hstep : h.step a = h'.setPhase i s.conn.connId q) (htasks : h'.tasks = h.tasks)
    (hsame : SameOff i (Hosted.resume s'.shared) h') (hworld : s'.world = s.world)
    (hsuspensions : s'.suspensions = s.suspensions) (hconnId : s'.conn.connId = s.conn.connId)
    (hentry : s'.HoldsEntry q.entry) : Stands h₀ n₀ plan q s' (Machine.run Server.step h [a]) := by
  have hrun : Interleaved h₀ n₀ plan s'.suspensions (h.step a) := hsuspensions ▸ hat.run.own ha
  obtain ⟨hi, -⟩ := List.getElem?_eq_some_iff.mp hat.task
  rw [run_cons, run_nil]
  refine ⟨hworld ▸ hat.world, hrun, ?_, ?_, hentry⟩
  · rw [hstep]
    exact hsame.setOwn s.conn.connId q
  · rw [hstep, hconnId]
    exact List.getElem?_set_self (htasks ▸ hi)

/-- The other tasks run. -/
theorem Stands.interfere {s : Session (Hosted V)} {h : Server V} (hat : Stands h₀ n₀ plan p s h) :
    Stands h₀ n₀ plan p (Session.interfere s) (Machine.run Server.step h (plan.acts s.suspensions)) := by
  have hspares := plan.spares s.suspensions
  refine ⟨hat.world, hat.run.resumed, ?_, Server.task_of_run hat.task hspares, hat.entry.of_same rfl rfl rfl⟩
  have hresume : Hosted.resume (Session.interfere s).shared =
      Machine.run Server.step (Hosted.resume s.shared) (plan.acts s.suspensions) := by
    show Hosted.resume (s.world.others s.suspensions s.shared) = _
    rw [hat.world]
    rfl
  rw [hresume]
  exact hat.same.run hspares

abbrev StaysAt (h₀ : Server V) (n₀ : Nat) (plan : Plan V i) (p : TaskPhase) (x : Proc (Session (Hosted V)) ε α) : Prop :=
  Stays Server.step (Stands h₀ n₀ plan p) x

theorem staysAt_modify {f : Session (Hosted V) → Session (Hosted V)} (hf : ∀ s, SameShare s (f s)) :
    StaysAt h₀ n₀ plan p (modify f : Proc (Session (Hosted V)) ε Unit) := stays_modify fun s _ hat => hat.of_same (hf s)

theorem staysAt_emit (e : Event) : StaysAt h₀ n₀ plan p (emit e : Proc (Session (Hosted V)) ε Unit) :=
  staysAt_modify fun _ => ⟨rfl, rfl, rfl, rfl, rfl, rfl, rfl⟩

theorem staysAt_interfere : StaysAt h₀ n₀ plan p (modify interfere : Proc (Session (Hosted V)) ε Unit) :=
  fun _ _ hat => ⟨_, hat.interfere⟩

theorem staysAt_suspend : StaysAt h₀ n₀ plan p (suspend : Proc (Session (Hosted V)) ε Unit) :=
  stays_bind stays_get fun _ => stays_bind staysAt_interfere fun _ => stays_ite (stays_drop _) (stays_pure _)

theorem staysAt_io (x : Proc Wire IoError α) : StaysAt h₀ n₀ plan p (io (V := Hosted V) x) := by
  refine stays_bind staysAt_interfere fun _ => stays_mapErr (stays_zoom ?_)
  exact fun s w' h hat => hat.of_same ⟨rfl, rfl, rfl, rfl, rfl, rfl, rfl⟩

/-! ## Messages -/

theorem staysAt_readMessageLength : StaysAt h₀ n₀ plan p (readMessageLength (V := Hosted V)) :=
  stays_bind (stays_mapErr (staysAt_io _)) fun _ => stays_lift _

theorem staysAt_readMessageBody (n : Nat) : StaysAt h₀ n₀ plan p (readMessageBody (V := Hosted V) n) := by
  refine stays_bind stays_get fun s => stays_ite (stays_pure _) (stays_ite (stays_throw _) ?_)
  exact stays_bind (stays_mapErr (staysAt_io _)) fun _ => stays_pure _

theorem staysAt_readStartupPacket : StaysAt h₀ n₀ plan p (readStartupPacket (V := Hosted V)) := by
  refine stays_bind staysAt_readMessageLength fun n => stays_bind stays_get fun s => ?_
  exact stays_bind (stays_lift _) fun _ => stays_bind (staysAt_readMessageBody _) fun _ => stays_lift _

theorem staysAt_writeMessage (tag : UInt8) (body : Bytes) : StaysAt h₀ n₀ plan p (writeMessage (V := Hosted V) tag body) := by
  refine stays_bind (staysAt_emit _) fun _ => stays_bind (staysAt_io _) fun _ => ?_
  exact stays_bind (staysAt_io _) fun _ => stays_bind (staysAt_io _) fun _ => staysAt_io _

theorem staysAt_writeReply (answer : UInt8) : StaysAt h₀ n₀ plan p (writeReply (V := Hosted V) answer) := by
  refine stays_bind (staysAt_emit _) fun _ => stays_mapErr ?_
  exact stays_bind (staysAt_io _) fun _ => staysAt_io _

/-! ## Encryption and cancel requests -/

theorem staysAt_promoteToTls : StaysAt h₀ n₀ plan p (promoteToTls (V := Hosted V)) := by
  refine stays_bind stays_get fun s => ?_
  refine stays_bind (staysAt_modify fun _ => ⟨rfl, rfl, rfl, rfl, rfl, rfl, rfl⟩) fun _ => ?_
  refine stays_bind (stays_lift _) fun _ => stays_bind (stays_lift _) fun _ => stays_bind (stays_lift _) fun tls => ?_
  refine stays_bind (stays_mapErr (staysAt_io _)) fun _ => stays_bind (stays_lift _) fun chunks => ?_
  exact staysAt_modify fun _ => ⟨rfl, rfl, rfl, rfl, rfl, rfl, rfl⟩

theorem staysAt_handleSslRequest : StaysAt h₀ n₀ plan p (handleSslRequest (V := Hosted V)) := by
  refine stays_bind stays_get fun s => stays_bind (stays_lift _) fun _ => ?_
  refine stays_bind (staysAt_modify fun _ => ⟨rfl, rfl, rfl, rfl, rfl, rfl, rfl⟩) fun _ => ?_
  apply stays_ite
  · exact stays_bind (staysAt_writeReply _) fun _ => staysAt_promoteToTls
  · exact staysAt_writeReply _

theorem staysAt_handleGssncRequest : StaysAt h₀ n₀ plan p (handleGssncRequest (V := Hosted V)) := by
  refine stays_bind stays_get fun s => stays_bind (stays_lift _) fun _ => ?_
  refine stays_bind (staysAt_modify fun _ => ⟨rfl, rfl, rfl, rfl, rfl, rfl, rfl⟩) fun _ => ?_
  exact staysAt_writeReply _

theorem staysAt_handleCancelRequest (message : MessageReader) :
    StaysAt h₀ n₀ plan p (handleCancelRequest (V := Hosted V) message) := by
  refine stays_bind (stays_lift _) fun key => stays_bind stays_get fun s => ?_
  unfold forwardCancel
  split
  · exact stays_pure _
  · refine stays_bind staysAt_interfere fun _ => stays_bind (stays_attempt (stays_zoom ?_)) fun _ => stays_pure _
    exact fun s w' h hat => hat.of_same ⟨rfl, rfl, rfl, rfl, rfl, rfl, rfl⟩

theorem staysAt_applyStartupParams (message : MessageReader) :
    StaysAt h₀ n₀ plan p (applyStartupParams (V := Hosted V) message) := by
  have hset {f : Session (Hosted V) → Session (Hosted V)} (hf : ∀ s, SameShare s (f s)) :
      StaysAt h₀ n₀ plan p (modify f : Proc (Session (Hosted V)) ProxyError Unit) := staysAt_modify hf
  refine stays_bind stays_get fun s => stays_bind (hset fun _ => ⟨rfl, rfl, rfl, rfl, rfl, rfl, rfl⟩) fun _ => ?_
  refine stays_bind (stays_lift _) fun _ => stays_bind (stays_lift _) fun _ => stays_bind (stays_lift _) fun _ => ?_
  refine stays_bind (hset fun _ => ⟨rfl, rfl, rfl, rfl, rfl, rfl, rfl⟩) fun _ => stays_bind (stays_lift _) fun _ => ?_
  refine stays_bind (hset fun _ => ⟨rfl, rfl, rfl, rfl, rfl, rfl, rfl⟩) fun _ => stays_bind (stays_lift _) fun _ => ?_
  exact hset fun _ => ⟨rfl, rfl, rfl, rfl, rfl, rfl, rfl⟩

/-! ## Authentication -/

/-- Only a session that was admitted asks for credentials. -/
theorem staysAt_lookup (user : Str) : StaysAt h₀ n₀ plan (.admitted none) (lookup (V := Hosted V) (ε := ε) user) := by
  refine stays_bind staysAt_suspend fun _ => ?_
  intro s h hat
  have hstep : h.step (.lookup i user) = h.setCredentials (VerifierProvider.lookup s.conn.provider.credentials user).2 := by
    simp only [Server.step, hat.task, hat.parts.1]
  have hrun : Interleaved h₀ n₀ plan s.suspensions (h.step (.lookup i user)) := hat.run.own rfl
  refine ⟨[.lookup i user], hat.world, hrun, ?_, ?_, hat.entry⟩
  · rw [run_cons, run_nil, hstep]
    exact hat.same.setCredentials _
  · rw [run_cons, run_nil, hstep]
    exact hat.task

theorem staysAt_readSaslResponse : StaysAt h₀ n₀ plan p (readSaslResponse (V := Hosted V)) := by
  refine stays_bind (stays_mapErr (staysAt_io _)) fun _ => stays_bind (stays_lift _) fun _ => ?_
  refine stays_bind (stays_mapErr staysAt_readMessageLength) fun _ => stays_bind (stays_lift _) fun _ => ?_
  refine stays_bind (stays_mapErr (staysAt_readMessageBody _)) fun _ => stays_bind (stays_lift _) fun _ => ?_
  exact stays_bind (staysAt_emit _) fun _ => stays_pure _

theorem staysAt_saslExchange (C : Crypto) (scram : ScramAuthenticator) (user : Str) :
    StaysAt h₀ n₀ plan p (saslExchange (V := Hosted V) C scram user) := by
  refine stays_bind (stays_mapErr (staysAt_writeMessage _ _)) fun _ => ?_
  refine stays_bind (stays_bind staysAt_readSaslResponse fun _ => stays_lift _) fun first => ?_
  refine stays_bind (stays_bind stays_get fun _ => ?_) fun nonce => stays_bind (stays_lift _) fun _ => ?_
  · exact stays_bind (staysAt_modify fun _ => ⟨rfl, rfl, rfl, rfl, rfl, rfl, rfl⟩) fun _ => stays_pure _
  refine stays_bind (stays_mapErr (staysAt_writeMessage _ _)) fun _ => ?_
  refine stays_bind (stays_bind staysAt_readSaslResponse fun _ => stays_lift _) fun final => ?_
  refine stays_bind (stays_lift _) fun _ => stays_bind (stays_mapErr (staysAt_writeMessage _ _)) fun _ => ?_
  exact stays_bind (stays_mapErr (staysAt_writeMessage _ _)) fun _ => stays_pure _

theorem staysAt_handleAuthentication (C : Crypto) :
    StaysAt h₀ n₀ plan (.admitted none) (handleAuthentication (V := Hosted V) C) := by
  refine stays_bind (stays_attempt ?_) fun result => ?_
  · refine stays_bind stays_get fun s => stays_bind (stays_lift _) fun user => ?_
    refine stays_bind (staysAt_lookup _) fun answer => stays_bind stays_get fun s => ?_
    exact stays_bind (stays_lift _) fun verifier => staysAt_saslExchange C _ _
  · cases result with
    | ok clientKey => exact stays_pure _
    | error failure =>
      cases failure with
      | rejected e => exact stays_bind (stays_mapErr (staysAt_writeMessage _ _)) fun _ => stays_pure _
      | internal e => exact stays_throw _

/-! ## The link to the backend -/

theorem staysAt_openLink (C : Crypto) (pg : PgConfig) : StaysAt h₀ n₀ plan p (openLink (V := Hosted V) C pg) := by
  refine stays_bind stays_get fun s => stays_bind (staysAt_emit _) fun _ => ?_
  refine stays_bind (stays_zoom fun _ _ _ hat => hat) fun backend => ?_
  exact stays_bind staysAt_interfere fun _ => stays_pure _

/-- A session that holds a permit, with its guard or without. -/
def Admitted (h₀ : Server V) (n₀ : Nat) (plan : Plan V i) (s : Session (Hosted V)) (h : Server V) : Prop :=
  ∃ entry, Stands h₀ n₀ plan (.admitted entry) s h

theorem StaysAt.admitted {x : Proc (Session (Hosted V)) ε α} (hx : ∀ entry, StaysAt h₀ n₀ plan (.admitted entry) x) :
    Stays Server.step (Admitted h₀ n₀ plan) x := by
  intro s h ⟨entry, hat⟩
  obtain ⟨as, hat'⟩ := hx entry s h hat
  exact ⟨as, entry, hat'⟩

theorem StaysAt.shadows_admitted {entry : Option Entry} {x : Proc (Session (Hosted V)) ε α}
    (hx : StaysAt h₀ n₀ plan (.admitted entry) x) :
    Shadows Server.step (Stands h₀ n₀ plan (.admitted entry)) x fun _ => Admitted h₀ n₀ plan :=
  hx.shadows fun _ _ _ hat => ⟨entry, hat⟩

theorem StaysAt.andThen {β : Type} {x : Proc (Session (Hosted V)) ε α} {f : α → Proc (Session (Hosted V)) ε β}
    (hx : StaysAt h₀ n₀ plan (.admitted none) x)
    (hf : ∀ a, Shadows Server.step (Stands h₀ n₀ plan (.admitted none)) (f a) fun _ => Admitted h₀ n₀ plan) :
    Shadows Server.step (Stands h₀ n₀ plan (.admitted none)) (x >>= f) fun _ => Admitted h₀ n₀ plan :=
  hx.bind hf (fun _ _ _ hat => ⟨none, hat⟩) fun _ _ _ hat => ⟨none, hat⟩

/-- A session registers its backend while it has no guard. -/
theorem registerBackend_shadows (backend : Backend) :
    Shadows Server.step (Stands h₀ n₀ plan (.admitted none)) (registerBackend backend) fun _ => Admitted h₀ n₀ plan := by
  intro s h hat
  obtain ⟨-, hbackends, -⟩ := hat.parts
  unfold registerBackend
  rw [bind_of_ok (get_apply s)]
  rcases Registry.registerFresh_cases s.world.rng backend s.conn.connId 64 s.drawnWords s.conn.backendRegistry with
    ⟨key, drawn, r, hfresh, hregister, hsecret⟩ | ⟨drawn, hfresh⟩
  · rw [hfresh]
    have hstep : h.step (.register i backend key) =
        (h.setBackends r).setPhase i s.conn.connId (.admitted (some (⟨s.conn.connId, key⟩, backend))) := by
      simp only [Server.step, hat.task, hbackends, hregister]
    refine ⟨[.register i backend key], some (⟨s.conn.connId, key⟩, backend), ?_⟩
    exact hat.acts rfl hstep rfl (hat.same.setBackends r) rfl rfl rfl ⟨rfl, rfl, rfl, hsecret⟩
  · rw [hfresh]
    exact ⟨[], none, hat.of_same ⟨rfl, rfl, rfl, rfl, rfl, rfl, rfl⟩⟩

theorem staysAt_sendStartupNotifications : StaysAt h₀ n₀ plan p (sendStartupNotifications (V := Hosted V)) := by
  refine stays_bind stays_get fun s => stays_bind (stays_lift _) fun backend => ?_
  have hall (notifications : List StartupNotification) :
      StaysAt h₀ n₀ plan p (sendNotifications (V := Hosted V) notifications) := by
    induction notifications with
    | nil => exact stays_pure _
    | cons notification rest ih => exact stays_bind (stays_mapErr (staysAt_writeMessage _ _)) fun _ => ih
  exact hall _

theorem startSession_shadows (backend : Backend) :
    Shadows Server.step (Stands h₀ n₀ plan (.admitted none)) (startSession backend) fun _ => Admitted h₀ n₀ plan := by
  refine shadows_bind (registerBackend_shadows backend) (fun _ => StaysAt.admitted fun entry => ?_)
    (fun _ _ _ h => h) fun _ _ _ h => h
  refine stays_bind staysAt_sendStartupNotifications fun _ => ?_
  refine stays_bind (stays_bind stays_get fun s => stays_bind (stays_lift _) fun _ => ?_) fun _ => ?_
  · exact stays_mapErr (staysAt_writeMessage _ _)
  · exact stays_bind (stays_bind stays_get fun s => stays_mapErr (staysAt_writeMessage _ _)) fun _ => stays_pure _

theorem linkBackend_shadows (C : Crypto) (clientKey : Bytes) (user database : Str)
    (answer : Except ProviderError (Option Verifier)) :
    Shadows Server.step (Stands h₀ n₀ plan (.admitted none)) (linkBackend C clientKey user database answer)
      fun _ => Admitted h₀ n₀ plan := by
  refine StaysAt.andThen (stays_lift _) fun _ => StaysAt.andThen stays_get fun _ => StaysAt.andThen (stays_lift _) fun _ => ?_
  exact StaysAt.andThen (stays_mapErr (staysAt_openLink C _)) fun backend => startSession_shadows backend

theorem proceed_shadows (C : Crypto) (clientKey : Option Bytes) :
    Shadows Server.step (Stands h₀ n₀ plan (.admitted none)) (proceed (V := Hosted V) C clientKey)
      fun _ => Admitted h₀ n₀ plan := by
  cases clientKey with
  | none => exact StaysAt.shadows_admitted (stays_pure _)
  | some clientKey =>
    refine StaysAt.andThen stays_get fun _ => StaysAt.andThen (stays_lift _) fun _ => ?_
    refine StaysAt.andThen (stays_lift _) fun _ => StaysAt.andThen (staysAt_lookup _) fun answer => ?_
    exact linkBackend_shadows C _ _ _ _

/-! ## The driver -/

theorem handleStartupPacket_shadows (C : Crypto) (version : UInt32) (message : MessageReader) :
    Shadows Server.step (Stands h₀ n₀ plan (.admitted none)) (handleStartupPacket (V := Hosted V) C version message)
      fun _ => Admitted h₀ n₀ plan := by
  refine StaysAt.andThen stays_get fun s => StaysAt.andThen (staysAt_emit _) fun _ => ?_
  refine StaysAt.andThen (staysAt_modify fun _ => ⟨rfl, rfl, rfl, rfl, rfl, rfl, rfl⟩) fun _ => ?_
  refine StaysAt.andThen (staysAt_applyStartupParams message) fun _ => ?_
  exact StaysAt.andThen (staysAt_handleAuthentication C) fun clientKey => proceed_shadows C clientKey

/-- After a packet the session holds its permit; if another packet may come, it has no guard. -/
def AfterPacket (h₀ : Server V) (n₀ : Nat) (plan : Plan V i) (o : Outcome ProxyError StartupOutCome) (s : Session (Hosted V))
    (h : Server V) : Prop := Admitted h₀ n₀ plan s h ∧ (o = .ok .continued → Stands h₀ n₀ plan (.admitted none) s h)

theorem StaysAt.afterPacket {x : Proc (Session (Hosted V)) ProxyError StartupOutCome}
    (hx : StaysAt h₀ n₀ plan (.admitted none) x) :
    Shadows Server.step (Stands h₀ n₀ plan (.admitted none)) x (AfterPacket h₀ n₀ plan) :=
  hx.shadows fun _ _ _ hat => ⟨⟨none, hat⟩, fun _ => hat⟩

theorem dispatch_shadows (C : Crypto) (code : UInt32) (message : MessageReader) :
    Shadows Server.step (Stands h₀ n₀ plan (.admitted none)) (dispatch (V := Hosted V) C code message)
      (AfterPacket h₀ n₀ plan) := by
  unfold dispatch
  by_cases hssl : code = sslRequestCode
  · rw [if_pos hssl]
    exact StaysAt.afterPacket (stays_bind staysAt_handleSslRequest fun _ => stays_pure _)
  rw [if_neg hssl]
  by_cases hgss : code = gssencRequestCode
  · rw [if_pos hgss]
    exact StaysAt.afterPacket (stays_bind staysAt_handleGssncRequest fun _ => stays_pure _)
  rw [if_neg hgss]
  by_cases hcancel : code = cancelRequestCode
  · rw [if_pos hcancel]
    exact StaysAt.afterPacket (stays_bind (staysAt_handleCancelRequest message) fun _ => stays_pure _)
  rw [if_neg hcancel]
  by_cases hversion : code = PgClient.protocolVersionNumber
  · rw [if_pos hversion]
    have hrun := StaysAt.andThen (stays_get : StaysAt h₀ n₀ plan (.admitted none) _) fun s : Session (Hosted V) =>
      StaysAt.andThen (stays_lift (require (s.conn.requiredTls = true → s.conn.sslDone = true) (connectionError .tlsRequired)))
        fun _ => handleStartupPacket_shadows C code message
    -- a StartupMessage is the last packet
    have hlast : Returns (· ≠ .continued) (do
        let s ← get
        lift (require (s.conn.requiredTls = true → s.conn.sslDone = true) (connectionError .tlsRequired))
        handleStartupPacket (V := Hosted V) C code message) :=
      returns_bind fun _ => returns_bind fun _ => returns_handleStartupPacket C code message
    intro s h hat
    obtain ⟨as, hadmitted⟩ := hrun s h hat
    exact ⟨as, hadmitted, fun ho => absurd rfl (hlast s _ _ (eq_of_fst ho))⟩
  · rw [if_neg hversion]
    exact StaysAt.afterPacket (stays_throw _)

theorem handleStartup_shadows (C : Crypto) :
    Shadows Server.step (Stands h₀ n₀ plan (.admitted none)) (handleStartup (V := Hosted V) C) (AfterPacket h₀ n₀ plan) := by
  have hstop (e : ProxyError) (s : Session (Hosted V)) (h : Server V) (hat : Stands h₀ n₀ plan (.admitted none) s h) :
      AfterPacket h₀ n₀ plan (.err e) s h := ⟨⟨none, hat⟩, fun _ => hat⟩
  have hdrop (n : Nat) (s : Session (Hosted V)) (h : Server V) (hat : Stands h₀ n₀ plan (.admitted none) s h) :
      AfterPacket h₀ n₀ plan (.dropped n) s h := ⟨⟨none, hat⟩, fun _ => hat⟩
  refine Stays.bind staysAt_readStartupPacket (fun body => ?_) hstop hdrop
  refine Stays.bind (staysAt_emit _) (fun _ => ?_) hstop hdrop
  exact Stays.bind (stays_lift _) (fun code => dispatch_shadows C code _) hstop hdrop

theorem driveFrom_shadows (C : Crypto) (fuel : Nat) :
    Shadows Server.step (Stands h₀ n₀ plan (.admitted none)) (driveFrom (V := Hosted V) C fuel) fun _ => Admitted h₀ n₀ plan := by
  induction fuel with
  | zero => exact StaysAt.shadows_admitted (stays_pure _)
  | succ fuel ih =>
    refine shadows_bind (shadows_attempt (handleStartup_shadows C)) (fun result => ?_) ?_ ?_
    · intro s h hcases
      rcases hcases with ⟨outcome, ho, hadmitted, hcontinued⟩ | ⟨e, ho, hadmitted, -⟩ | ⟨n, ho, -⟩
      · cases ho
        cases outcome with
        | continued => exact ih s h (hcontinued rfl)
        | ready => exact ⟨[], hadmitted⟩
        | close => exact ⟨[], hadmitted⟩
      · cases ho
        cases e with
        | internal e => exact ⟨[], hadmitted⟩
        | connectionError e => exact StaysAt.admitted (fun _ => staysAt_writeMessage _ _) s h hadmitted
      · cases ho
    · intro e s h hcases
      rcases hcases with ⟨outcome, ho, -⟩ | ⟨e', ho, -⟩ | ⟨n, ho, -⟩ <;> cases ho
    · intro n s h hcases
      rcases hcases with ⟨outcome, ho, -⟩ | ⟨e', ho, -⟩ | ⟨n, -, hadmitted, -⟩
      · cases ho
      · cases ho
      · exact hadmitted

theorem authenticate_shadows (C : Crypto) :
    Shadows Server.step (Stands h₀ n₀ plan (.admitted none)) (authenticate (V := Hosted V) C) fun _ => Admitted h₀ n₀ plan := by
  have htimeout : Shadows Server.step (Stands h₀ n₀ plan (.admitted none))
      (timeout (driveStartupUntilReady (V := Hosted V) C) : Proc (Session (Hosted V)) InternalError _)
      fun _ => Admitted h₀ n₀ plan := by
    intro s h hat
    rw [timeout_snd]
    exact driveFrom_shadows C 3 s h hat
  refine shadows_bind htimeout (fun result => ?_) (fun _ _ _ h => h) fun _ _ _ h => h
  rcases result with _ | e | _
  · exact StaysAt.admitted fun _ => staysAt_writeMessage _ _
  · exact stays_throw _
  · exact stays_pure _

/-! ## The task -/

/-- A session whose task has no permit any more, or has never had one. -/
def Ending (h₀ : Server V) (n₀ : Nat) (plan : Plan V i) (s : Session (Hosted V)) (h : Server V) : Prop :=
  ∃ p, Server.Ends p ∧ Stands h₀ n₀ plan p s h

theorem releasePermit_leaves {s : Session (Hosted V)} {h : Server V} (hadmitted : Admitted h₀ n₀ plan s h) :
    ∃ as, Ending h₀ n₀ plan (releasePermit s) (run Server.step h as) := by
  obtain ⟨entry, hat⟩ := hadmitted
  obtain ⟨-, -, hconnections⟩ := hat.parts
  have hstep : h.step (.leave i) =
      (h.setConnections h.state.connections.release).setPhase i s.conn.connId (.leaving entry) := by
    simp only [Server.step, hat.task]
  refine ⟨[.leave i], .leaving entry, .inr ⟨entry, rfl⟩, ?_⟩
  rw [hconnections] at hstep
  exact hat.acts rfl hstep rfl (hat.same.setConnections _) rfl rfl rfl (hat.entry.of_same rfl rfl rfl)

theorem dropConn_goes {s : Session (Hosted V)} {h : Server V} (hending : Ending h₀ n₀ plan s h) :
    ∃ as, Stands h₀ n₀ plan .gone (dropConn s) (run Server.step h as) := by
  obtain ⟨p, hends, hat⟩ := hending
  obtain ⟨-, hbackends, -⟩ := hat.parts
  have hstep : h.step (.drop i) =
      (h.setBackends (Server.releaseEntry h.state.backends p.entry)).setPhase i s.conn.connId .gone := by
    rcases hends with rfl | ⟨entry, rfl⟩
    · simp only [Server.step, hat.task]
      rfl
    · simp only [Server.step, hat.task]
      rfl
  refine ⟨[.drop i], ?_⟩
  have hentry := hat.entry
  rw [hbackends] at hstep
  rcases hp : p.entry with _ | ⟨guard, backend⟩
  · rw [hp] at hentry hstep
    have hguard : s.conn.sessionGuard = none := hentry
    have hdrop : dropConn s = s := by rw [dropConn, hguard]
    rw [hdrop]
    exact hat.acts rfl hstep rfl (hat.same.setBackends _) rfl rfl rfl hguard
  · rw [hp] at hentry hstep
    have hguard : s.conn.sessionGuard = some guard := hentry.guard
    have hdrop : dropConn s = { s with conn := { s.conn with
        backendRegistry := s.conn.backendRegistry.release guard, sessionGuard := none } } := by rw [dropConn, hguard]
    rw [hdrop]
    exact hat.acts rfl hstep rfl (hat.same.setBackends _) rfl rfl rfl rfl

/-- A permit is taken, or the session is refused. -/
theorem handle_shadows (C : Crypto) :
    Shadows Server.step (Stands h₀ n₀ plan .waiting) (handle (V := Hosted V) C) fun _ => Ending h₀ n₀ plan := by
  intro s h hat
  obtain ⟨-, -, hconnections⟩ := hat.parts
  have hguard : s.conn.sessionGuard = none := hat.entry
  unfold handle tryAcquire
  rw [bind_assoc, bind_of_ok (get_apply s)]
  by_cases hfull : s.conn.connRegistry.live ≥ s.conn.connRegistry.max
  · have hstep : h.step (.enter i) = h.setPhase i s.conn.connId .refused := by
      simp only [Server.step, hat.task, ConnRegistry.tryAcquire, hconnections, if_pos hfull]
    have hrefused : Stands h₀ n₀ plan .refused s (h.step (.enter i)) :=
      hat.acts rfl hstep rfl hat.same rfl rfl rfl hguard
    obtain ⟨as, hat'⟩ := staysAt_writeMessage (byte 'E') (prepareErrorBuf "FATAL"
      ConnectionErrorInner.tooManyRequest.code ConnectionErrorInner.tooManyRequest.message) s _ hrefused
    rw [if_pos hfull]
    exact ⟨.enter i :: as, .refused, .inl rfl, hat'⟩
  · have hstep : h.step (.enter i) = (h.setConnections
        { s.conn.connRegistry with live := s.conn.connRegistry.live + 1 }).setPhase i s.conn.connId (.admitted none) := by
      simp only [Server.step, hat.task, ConnRegistry.tryAcquire, hconnections, if_neg hfull]
    let s₁ : Session (Hosted V) := { s with conn := { s.conn with
      connRegistry := { s.conn.connRegistry with live := s.conn.connRegistry.live + 1 } } }
    have hadmitted : Stands h₀ n₀ plan (.admitted none) s₁ (h.step (.enter i)) :=
      hat.acts rfl hstep rfl (hat.same.setConnections _) rfl rfl rfl hguard
    obtain ⟨as, hend⟩ := shadows_ensure (authenticate_shadows C) (fun _ _ => releasePermit_leaves) s₁ _ hadmitted
    rw [if_neg hfull]
    exact ⟨.enter i :: as, hend⟩

/-- The task of a session takes its part in a run of the server, from the moment it is
    spawned to the moment it is gone, however it ends. -/
theorem task_shadows (C : Crypto) :
    Shadows Server.step (Stands h₀ n₀ plan .waiting) (task (V := Hosted V) C) fun _ => Stands h₀ n₀ plan .gone := by
  refine shadows_ensure (I := Ending h₀ n₀ plan) ?_ fun _ _ => dropConn_goes
  have hhandle : Shadows Server.step (Stands h₀ n₀ plan .waiting)
      (attempt (handle (V := Hosted V) C) : Proc (Session (Hosted V)) Empty _) fun _ => Ending h₀ n₀ plan := by
    intro s h hat
    rw [attempt_snd]
    exact handle_shadows C s h hat
  refine shadows_bind hhandle (fun _ => ?_) (fun _ _ _ h => h) fun _ _ _ h => h
  intro s h ⟨p, hends, hat⟩
  exact ⟨_, p, hends, hat.interfere⟩

end Session

namespace Server

variable {V : Type} [VerifierProvider V]

/-- The state of the accept loop with the server, as it is once this socket was accepted,
    beside the credentials. -/
def accepting (h : Server V) (socket : Socket) : ServerState (Hosted V) :=
  { h.state with credentials := ⟨h.state.credentials, h.step (.accept (some socket))⟩ }

/-- A connection is accepted at some point in a run of the server, and its task runs while the
    others follow any plan. When it is over, however it ended, what the tasks share is as in
    the run in which the others have taken the actions planned for its suspensions, no more
    and no fewer, and this task is gone: the count is that of the others. -/
theorem task_runs_in_server (C : Crypto) (config : ServerConfig V) (pre : List (Act V)) (socket : Socket)
    (plan : Plan V (run step (start config) pre).tasks.length) (s : Session (Hosted V))
    (hconn : (serveStep (accepting (run step (start config) pre) socket) (some socket)).1 = some s.conn)
    (hworld : s.world.others = plan.others) :
    ∃ as h, h = run step (start config) (pre ++ .accept (some socket) :: as) ∧
      ofOthers (run step (start config) pre).tasks.length as =
        plan.between s.suspensions (Session.task C s).2.suspensions ∧
      h.tasks[(run step (start config) pre).tasks.length]? = some ⟨(Session.task C s).2.conn.connId, .gone⟩ ∧
      shared h = Hosted.visible (Session.task C s).2.shared ∧ (Session.task C s).2.conn.sessionGuard = none ∧
      (Session.task C s).2.conn.connRegistry.live = admitted h ∧ admitted h ≤ config.maxConnections := by
  have hnew : Conn.new (run step (start config) pre).state.nextId socket _ _ _ _ _ _ = s.conn := Option.some.inj hconn
  have hat : Session.Stands (run step (start config) (pre ++ [.accept (some socket)])) s.suspensions plan .waiting s
      (run step (start config) (pre ++ [.accept (some socket)])) := by
    have hplanned : plan.between s.suspensions s.suspensions = [] := by simp [Plan.between]
    rw [run_concat]
    refine ⟨hworld, ⟨Nat.le_refl _, [], rfl, hplanned.symm⟩, ?_, ?_, ?_⟩
    · rw [Session.shared, ← hnew]
      exact ⟨rfl, rfl, fun _ _ => rfl⟩
    · rw [← hnew]
      exact List.getElem?_concat_length ..
    · show s.conn.sessionGuard = none
      rw [← hnew]
      rfl
  obtain ⟨bs, hgone⟩ := Session.task_shadows C s _ hat
  obtain ⟨-, as, hrun, hothers⟩ := hgone.run
  rw [hrun, ← run_append, List.append_assoc, List.singleton_append] at hgone
  obtain ⟨hcredentials, hbackends, hconnections⟩ := hgone.parts
  obtain ⟨hlive, hcap, hbounded⟩ := counted_run config (pre ++ .accept (some socket) :: as)
  rw [hlive, hcap] at hbounded
  rw [hconnections] at hlive
  refine ⟨as, _, rfl, hothers, hgone.task, ?_, hgone.entry, hlive, hbounded⟩
  rw [shared, hcredentials, hbackends, hconnections]
  rfl

end Server

namespace Sample

open Server (Hosted Plan)

/-- A server with room for one, in which the first client is in. -/
def narrow : ServerConfig (CredentialStore crypto) := { server with maxConnections := 1 }

def firstIn : List (Server.Act (CredentialStore crypto)) := [.accept (some socket), .enter 0]

/-- The first client leaves while the second one is turned away, and a third comes in. -/
def relief : Plan (CredentialStore crypto) 1 where
  acts n := if n = 1 then [.leave 0, .drop 0] else if n = 2 then [.accept (some socket), .enter 2] else []
  spares n a ha := by
    split at ha
    · simp only [List.mem_cons, List.not_mem_nil, or_false] at ha
      obtain rfl | rfl := ha <;> simp [Server.Act.task]
    split at ha
    · simp only [List.mem_cons, List.not_mem_nil, or_false] at ha
      obtain rfl | rfl := ha <;> simp [Server.Act.task]
    · cases ha

/-- Alice is the second client. -/
def second : Session (Hosted (CredentialStore crypto)) :=
  let s := session ⟨store, (run Server.step (Server.start narrow) firstIn).step (.accept (some socket))⟩ relief.others
    [alice ++ saslMessages]
  { s with conn := { s.conn with connId := 2, connRegistry := ⟨1, 1⟩ } }

end Sample

namespace Server

theorem second_runs_in_server :
    ∃ as h, h = run step (start Sample.narrow) (Sample.firstIn ++ .accept (some Sample.socket) :: as) ∧
      ofOthers 1 as = Sample.relief.between 0 (Session.task Sample.crypto Sample.second).2.suspensions ∧
      h.tasks[1]? = some ⟨(Session.task Sample.crypto Sample.second).2.conn.connId, .gone⟩ ∧
      shared h = Hosted.visible (Session.task Sample.crypto Sample.second).2.shared ∧
      (Session.task Sample.crypto Sample.second).2.conn.sessionGuard = none ∧
      (Session.task Sample.crypto Sample.second).2.conn.connRegistry.live = admitted h ∧ admitted h ≤ 1 :=
  task_runs_in_server Sample.crypto Sample.narrow Sample.firstIn Sample.socket Sample.relief Sample.second rfl rfl

/-- The task that turned Alice away counts the third client alone. -/
example : (Session.task Sample.crypto Sample.second).2.suspensions = 5 ∧
    (Session.task Sample.crypto Sample.second).2.conn.connRegistry.live = 1 := by decide +kernel

end Server

end Wirechaos
