/-
  Wirechaos.Server.Serve — the accept loop and what its tasks share (server.rs,
  conn_registry.rs, `Conn::new` in conn.rs).

  `serveStep` is one turn of the loop, `Session.task` the body of the task it spawns. The
  tasks share the credentials, the registry of backends and the count of live connections,
  each behind a lock. `Server.step` says what a task may do to these, one lock at a time,
  and in which phase of its life: it takes a permit or is refused, it asks for
  credentials, it registers a backend once, it gives the permit back and then its guard.
  `Wirechaos.Server.TaskProofs` shows that the code does nothing else.
-/

import Wirechaos.Conn.CancelProofs

namespace Wirechaos

open Text Async Proc

/-! ## Permits -/

namespace ConnRegistry

def new (max : Nat) : ConnRegistry := ⟨0, max⟩

/-- `try_acquire`: the count after the permit was taken. -/
def tryAcquire (r : ConnRegistry) : Option ConnRegistry :=
  if r.live ≥ r.max then none else some { r with live := r.live + 1 }

/-- `ConnPermit::drop`. -/
def release (r : ConnRegistry) : ConnRegistry := { r with live := r.live - 1 }

end ConnRegistry

/-! ## The accept loop -/

/-- What arrives on an accepted socket, and how every wait on it ends. -/
structure Socket where
  chunks : List Bytes
  sched : Nat → Await

structure ServerConfig (V : Type) where
  config : Config
  /-- `config.limits.max_connections`. -/
  maxConnections : Nat
  credentials : V
  frontendTls : Option FrontendTls
  /-- The pool that `pool_min` and `pool_max` make. -/
  pool : MultiBufferPool

structure ServerState (V : Type) where
  config : Config
  credentials : V
  frontendTls : Option FrontendTls
  pool : MultiBufferPool
  backends : Registry
  connections : ConnRegistry
  nextId : Int32

variable {V : Type}

def ServerState.new (config : ServerConfig V) : ServerState V :=
  { config := config.config, credentials := config.credentials, frontendTls := config.frontendTls, pool := config.pool
    backends := ⟨∅, ∅⟩, connections := .new config.maxConnections, nextId := 1 }

def Conn.new (connId : Int32) (socket : Socket) (pool : MultiBufferPool) (frontendTls : Option FrontendTls) (provider : V)
    (backendRegistry : Registry) (connRegistry : ConnRegistry) (config : Config) : Conn V :=
  { connId, pool, frontendTls, provider, backendRegistry, connRegistry, config
    wire :=
      { reader := { buf := [], inner := { transport := .plain, chunks := socket.chunks } }
        writer := { buf := [], inner := .plain }, sent := [], sched := socket.sched, tick := 0 }
    sslDone := false, requiredTls := false, gssDone := false, protocolVersion := none, params := ∅, user := none
    database := none, replicationMode := .off, sessionKeySecret := none, backend := none
    serverSignatureVerified := false, sessionGuard := none }

/-- One turn of the loop: a failed accept is logged, an accepted socket gets the next id
    (`fetch_add` wraps around) and a task of its own. -/
def serveStep (st : ServerState V) : Option Socket → Option (Conn V) × ServerState V
  | none => (none, st)
  | some socket =>
    (some (.new st.nextId socket st.pool st.frontendTls st.credentials st.backends st.connections st.config),
      { st with nextId := st.nextId + 1 })

/-! ## The task of a connection -/

namespace Session

/-- The guard goes with the connection. -/
def dropConn (s : Session V) : Session V :=
  match s.conn.sessionGuard with
  | some guard =>
    { s with conn := { s.conn with backendRegistry := s.conn.backendRegistry.release guard, sessionGuard := none } }
  | none => s

/-- A fault of one session is logged. The permit is back before the connection is dropped,
    and other tasks may run in between. -/
def task (C : Crypto) [VerifierProvider V] : Proc (Session V) Empty Unit :=
  ensure (do
    let _ ← attempt (handle C)
    modify interfere) dropConn

end Session

/-! ## What a task may do to what is shared -/

/-- A guard and the backend it was handed out for. -/
abbrev Entry : Type := SessionGuard × Backend

inductive TaskPhase where
  /-- Spawned; `try_acquire` comes first. -/
  | waiting
  | refused
  /-- Holds a permit, and after registration a guard. -/
  | admitted (entry : Option Entry)
  /-- The permit is back; the guard is still there. -/
  | leaving (entry : Option Entry)
  | gone

structure Task where
  connId : Int32
  phase : TaskPhase

namespace TaskPhase

def admits : TaskPhase → Bool
  | .admitted _ => true
  | _ => false

def entry : TaskPhase → Option Entry
  | .admitted entry => entry
  | .leaving entry => entry
  | _ => none

end TaskPhase

/-- The state of the loop and the tasks it has spawned, in order. -/
structure Server (V : Type) where
  state : ServerState V
  tasks : List Task

namespace Server

inductive Act (V : Type) where
  | accept (socket : Option Socket)
  | enter (task : Nat)
  | lookup (task : Nat) (user : Str)
  | register (task : Nat) (backend : Backend) (key : SessionKeySecret)
  | leave (task : Nat)
  | drop (task : Nat)
  /-- Reloads, cache expiry: the credentials change without a session's doing. -/
  | change (f : V → V)

/-- The task that acts. -/
def Act.task : Act V → Option Nat
  | .accept _ => none
  | .enter i => some i
  | .lookup i _ => some i
  | .register i _ _ => some i
  | .leave i => some i
  | .drop i => some i
  | .change _ => none

def start (config : ServerConfig V) : Server V := ⟨.new config, []⟩

def setPhase (h : Server V) (i : Nat) (connId : Int32) (phase : TaskPhase) : Server V :=
  { h with tasks := h.tasks.set i ⟨connId, phase⟩ }

def setConnections (h : Server V) (r : ConnRegistry) : Server V := { h with state := { h.state with connections := r } }

def setBackends (h : Server V) (r : Registry) : Server V := { h with state := { h.state with backends := r } }

def setCredentials (h : Server V) (v : V) : Server V := { h with state := { h.state with credentials := v } }

def releaseEntry (r : Registry) : Option Entry → Registry
  | some entry => r.release entry.1
  | none => r

variable [VerifierProvider V]

/-- An action out of its phase does nothing. -/
def step (h : Server V) : Act V → Server V
  | .accept socket =>
    match serveStep h.state socket with
    | (some conn, state) => ⟨state, h.tasks ++ [⟨conn.connId, .waiting⟩]⟩
    | (none, state) => ⟨state, h.tasks⟩
  | .enter i =>
    match h.tasks[i]? with
    | some ⟨connId, .waiting⟩ =>
      match h.state.connections.tryAcquire with
      | some r => (h.setConnections r).setPhase i connId (.admitted none)
      | none => h.setPhase i connId .refused
    | _ => h
  | .lookup i user =>
    match h.tasks[i]? with
    | some ⟨_, .admitted none⟩ => h.setCredentials (VerifierProvider.lookup h.state.credentials user).2
    | _ => h
  | .register i backend key =>
    match h.tasks[i]? with
    | some ⟨connId, .admitted none⟩ =>
      match h.state.backends.register backend connId key with
      | (.ok guard, r) => (h.setBackends r).setPhase i connId (.admitted (some (guard, backend)))
      | (.error _, _) => h
    | _ => h
  | .leave i =>
    match h.tasks[i]? with
    | some ⟨connId, .admitted entry⟩ => (h.setConnections h.state.connections.release).setPhase i connId (.leaving entry)
    | _ => h
  | .drop i =>
    match h.tasks[i]? with
    | some ⟨connId, .refused⟩ => h.setPhase i connId .gone
    | some ⟨connId, .leaving entry⟩ => (h.setBackends (releaseEntry h.state.backends entry)).setPhase i connId .gone
    | _ => h
  | .change f => h.setCredentials (f h.state.credentials)

end Server

end Wirechaos
