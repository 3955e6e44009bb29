/-
  Wirechaos.Conn.StaleProofs — what a rented buffer held before (see
  `Wirechaos.Wire.Packet`, `Wirechaos.Conn.Startup`).

  `restale` puts other bytes into the buffers of the pool. Every function of the backend's
  handshake is blind to it, as those of the startup phase are (`veil`): a buffer is looked at
  when it was read full, and then holds only what was read (`readMessageBody_eq`); a read that
  failed leaves the buffer to its pool. So two runs whose rentals come out of two pools, however
  these were used, do not differ (`stale_bytes_do_not_leak`).
-/

import Wirechaos.Backend.PgClientProofs
import Wirechaos.Conn.VeilProofs
import Wirechaos.Wire.BufferPool

namespace Wirechaos

open Text Async Proc

variable (stale : Nat → Nat → UInt8) (C : Crypto)

def MultiBufferPool.restale (pool : MultiBufferPool) : MultiBufferPool := { pool with stale }

/-! ## The backend -/

namespace PgClient

def restale (c : PgClient) : PgClient := { c with pool := c.pool.restale stale }

variable {config : PgConfig}

theorem blind_within {α : Type} (elapsed : PgError) (x : Proc Wire IoError α) : Blind (restale stale) (within elapsed x) := by
  refine blind_bind (blind_timeout (blind_zoom _ (by intro _; rfl) fun _ _ => rfl)) fun r => ?_
  rcases r with _ | _ | a
  · exact blind_throw _
  · exact blind_throw _
  · exact blind_pure a

theorem blind_emit (e : PgEvent) : Blind (restale stale) (emit e) := blind_modify fun _ => rfl

theorem blind_writeRaw (bytes : Bytes) : Blind (restale stale) (writeRaw bytes) :=
  blind_bind (blind_within stale _ _) fun _ => blind_within stale _ _

theorem blind_writeMessage (what : Response) (tag : UInt8) (body : Bytes) :
    Blind (restale stale) (writeMessage what tag body) :=
  blind_bind (blind_emit stale _) fun _ => blind_writeRaw stale _

theorem blind_readMessageBody (n : Nat) : Blind (restale stale) (readMessageBody n) := by
  intro c
  rw [readMessageBody_eq, readMessageBody_eq]
  exact blind_ite (blind_throw _) (blind_within stale _ _) c

theorem blind_readMessage : Blind (restale stale) readMessage := by
  refine blind_bind (blind_bind (blind_within stale _ _) fun _ => blind_lift _) fun header => ?_
  exact blind_bind (blind_readMessageBody stale _) fun _ => blind_bind (blind_emit stale _) fun _ => blind_pure _

theorem blind_readAuthenticationData (expected : UInt32) : Blind (restale stale) (readAuthenticationData expected) :=
  blind_bind (blind_readMessage stale) fun _ => blind_lift _

theorem blind_handleSasl (body : Bytes) : Blind (restale stale) (handleSasl C config body) := by
  refine blind_get (fun _ => rfl) fun c => blind_bind (blind_lift _) fun chosen => ?_
  refine blind_bind (blind_modify fun _ => rfl) fun _ => blind_bind (blind_writeMessage stale _ _ _) fun _ => ?_
  refine blind_bind (blind_readAuthenticationData stale _) fun _ => blind_bind (blind_lift _) fun _ => ?_
  refine blind_bind (blind_lift _) fun final => blind_bind (blind_writeMessage stale _ _ _) fun _ => ?_
  refine blind_bind (blind_readAuthenticationData stale _) fun _ => blind_bind (blind_lift _) fun _ => ?_
  exact blind_bind (blind_lift _) fun _ => blind_bind (blind_emit stale _) fun _ => blind_modify fun _ => rfl

theorem blind_handleAuth (authType : UInt32) (data : Bytes) : Blind (restale stale) (handleAuth C config authType data) := by
  refine blind_ite (blind_pure _) (blind_ite ?_ (blind_ite ?_ (blind_ite (blind_handleSasl stale C data) ?_)))
  · unfold handleCleartext
    split
    · exact blind_throw _
    · exact blind_writeMessage stale _ _ _
  · unfold handleMd5
    refine blind_ite (blind_throw _) ?_
    split
    · exact blind_throw _
    · exact blind_writeMessage stale _ _ _
  · exact blind_ite (blind_throw _) (blind_throw _)

theorem blind_handleMessage (tag : UInt8) (payload : Bytes) :
    Blind (restale stale) (handleMessage C config tag payload) := by
  refine blind_ite ?_ (blind_ite ?_ (blind_ite ?_ (blind_ite ?_ (blind_ite ?_ ?_))))
  · refine blind_bind (blind_lift _) fun request => ?_
    exact blind_bind (blind_handleAuth stale C _ _) fun _ => blind_pure _
  · refine blind_bind (blind_lift _) fun setting => ?_
    exact blind_bind (blind_modify fun _ => rfl) fun _ => blind_pure _
  · exact blind_bind (blind_modify fun _ => rfl) fun _ => blind_pure _
  · refine blind_bind (blind_lift _) fun key => ?_
    exact blind_bind (blind_modify fun _ => rfl) fun _ => blind_pure _
  · refine blind_bind (blind_lift _) fun status => ?_
    exact blind_bind (blind_modify fun _ => rfl) fun _ => blind_pure _
  · exact blind_ite (blind_throw _) (blind_throw _)

theorem blind_handshakeFrom (fuel : Nat) : Blind (restale stale) (handshakeFrom C config fuel) := by
  induction fuel with
  | zero => exact blind_throw _
  | succ fuel ih =>
    refine blind_bind (blind_readMessage stale) fun m => blind_bind (blind_handleMessage stale C _ _) fun done => ?_
    exact blind_ite (blind_pure _) ih

theorem blind_handleStartupHandshake : Blind (restale stale) (handleStartupHandshake C config) :=
  blind_get (fun _ => rfl) fun _ => blind_handshakeFrom stale C _

theorem blind_tryTls (env : LinkEnv) : Blind (restale stale) (tryTls env config) := by
  refine blind_ite (blind_pure _) (blind_bind (blind_within stale _ _) fun supported => blind_ite ?_ ?_)
  · refine blind_bind (blind_lift _) fun _ => blind_bind (blind_lift _) fun _ => blind_bind (blind_within stale _ _) fun _ => ?_
    exact blind_get (fun _ => rfl) fun _ => blind_bind (blind_lift _) fun _ => blind_modify fun _ => rfl
  · exact blind_ite (blind_pure _) (blind_throw _)

theorem blind_connect (env : LinkEnv) : Blind (restale stale) (connect C env config) := by
  refine blind_bind (blind_within stale _ _) fun _ => blind_bind (blind_tryTls stale env) fun _ => ?_
  refine blind_bind (blind_bind (blind_emit stale _) fun _ => blind_writeRaw stale _) fun _ => ?_
  refine blind_bind (blind_timeout (blind_handleStartupHandshake stale C)) fun r => ?_
  rcases r with _ | _ | _
  · exact blind_throw _
  · exact blind_throw _
  · exact blind_pure _

end PgClient

theorem Backend.blind_new (env : LinkEnv) (config : PgConfig) : Blind (PgClient.restale stale) (Backend.new C env config) :=
  blind_bind (PgClient.blind_connect stale C env) fun _ => blind_get (fun _ => rfl) fun _ => blind_pure _

/-! ## The session -/

namespace Session

variable {V : Type}

def restale (s : Session V) : Session V := { s with conn := { s.conn with pool := s.conn.pool.restale stale } }

/-- A change of the pool alone. -/
theorem restale_eq_veil : restale (V := V) stale = veil (fun _ => stale) id := rfl

theorem blind_openLink (config : PgConfig) : Blind (restale stale) (openLink (V := V) C config) := by
  refine blind_get (fun _ => rfl) fun s => blind_bind (blind_modify fun _ => rfl) fun _ => ?_
  refine blind_bind (blind_zoom_of (Backend.blind_new stale C _ _) (by intro _; rfl) fun _ _ => rfl) fun backend => ?_
  exact blind_bind (blind_modify fun _ => rfl) fun _ => blind_pure _

theorem blind_openSession (config : PgConfig) : Blind (restale stale) (openSession (V := V) C config) := by
  rw [restale_eq_veil]
  exact blind_bind (blind_mapErr _ (blind_openLink stale C config)) fun backend => blind_startSession backend

theorem blind_handleStartup [VerifierProvider V] : Blind (restale stale) (handleStartup (V := V) C) := by
  rw [restale_eq_veil]
  exact carried_handleStartup C carried_blind fun config => blind_openSession stale C config

end Session

/-! ## Two pools -/

def Session.withPool {V : Type} (pool : MultiBufferPool) (s : Session V) : Session V := { s with conn := { s.conn with pool } }

def PgClient.withPool (pool : MultiBufferPool) (c : PgClient) : PgClient := { c with pool }

/-- The runs end in the same way, and in states that differ in the pool at most. -/
def SameRun {σ ε α : Type} (withPool : MultiBufferPool → σ → σ) (r r' : Outcome ε α × σ) : Prop :=
  r'.1 = r.1 ∧ ∀ q, withPool q r'.2 = withPool q r.2

variable {C} {pool pool' : MultiBufferPool}

theorem restale_pool (hsame : pool'.maxCapacity = pool.maxCapacity) : pool' = pool.restale pool'.stale := by
  obtain ⟨_, _⟩ := pool'
  cases hsame
  rfl

/-- A computation that is blind to a change of the pool. -/
theorem sameRun_of_blind {σ ε α : Type} {withPool : MultiBufferPool → σ → σ} {φ : σ → σ} {x : Proc σ ε α} (hx : Blind φ x)
    (hpool : ∀ q s, withPool q (φ s) = withPool q s) (s : σ) : SameRun withPool (x s) (x (φ s)) := by
  rw [hx s]
  exact ⟨rfl, fun q => hpool q _⟩

theorem Session.handleStartup_withPool {V : Type} [VerifierProvider V] (hsame : pool'.maxCapacity = pool.maxCapacity)
    (s : Session V) : SameRun Session.withPool (handleStartup C (s.withPool pool)) (handleStartup C (s.withPool pool')) := by
  have hpool : s.withPool pool' = (s.withPool pool).restale pool'.stale := congrArg (s.withPool ·) (restale_pool hsame)
  rw [hpool]
  exact sameRun_of_blind (blind_handleStartup _ C) (fun _ _ => rfl) _

theorem PgClient.handleStartupHandshake_withPool (hsame : pool'.maxCapacity = pool.maxCapacity) (config : PgConfig)
    (c : PgClient) : SameRun PgClient.withPool (handleStartupHandshake C config (c.withPool pool))
      (handleStartupHandshake C config (c.withPool pool')) := by
  have hpool : c.withPool pool' = (c.withPool pool).restale pool'.stale := congrArg (c.withPool ·) (restale_pool hsame)
  rw [hpool]
  exact sameRun_of_blind (blind_handleStartupHandshake _ C) (fun _ _ => rfl) _

open SharedPool

/-- Two pools of the same size with any bytes in their buffers, used by other sessions in
    any two ways: the rentals of a session are those of some pool, and whichever these
    are, neither a startup packet nor a handshake with a backend runs differently. -/
theorem stale_bytes_do_not_leak {V : Type} [VerifierProvider V] {p p' : BufferPool} {moves moves' : List PoolMove}
    {mine mine' : Nat → Option Rental} (hp : p.Whole) (hp' : p'.Whole) (hsame : p'.maxCapacity = p.maxCapacity)
    (hmine : RentedIn p moves mine) (hmine' : RentedIn p' moves' mine') :
    (∃ pool, Serves p mine pool) ∧ (∃ pool, Serves p' mine' pool) ∧
      ∀ pool pool', Serves p mine pool → Serves p' mine' pool' →
        (∀ s : Session V, SameRun Session.withPool (Session.handleStartup C (s.withPool pool))
          (Session.handleStartup C (s.withPool pool'))) ∧
        ∀ (config : PgConfig) (c : PgClient), SameRun PgClient.withPool
          (PgClient.handleStartupHandshake C config (c.withPool pool))
          (PgClient.handleStartupHandshake C config (c.withPool pool')) := by
  refine ⟨rentals_are_gets hp hmine, rentals_are_gets hp' hmine', fun pool pool' hpool hpool' => ?_⟩
  have hcapacity : pool'.maxCapacity = pool.maxCapacity := by rw [hpool'.maxCapacity, hsame, hpool.maxCapacity]
  exact ⟨Session.handleStartup_withPool hcapacity, PgClient.handleStartupHandshake_withPool hcapacity⟩

namespace Sample

/-- A pool whose buffers hold `b`. -/
def smallPool (b : UInt8) : BufferPool := .new 4 16 1 fun _ _ => b

/-- A session gets the buffer into which another one had read four bytes of a password. -/
def afterAnother : List PoolMove := [.rent 4 fun _ => 0, .write 0 [112, 101, 110, 99], .giveBack 0, .rent 4 fun _ => 0]

def alone : List PoolMove := [.rent 4 fun _ => 0]

/-- One rental, which showed these bytes. -/
def rentalOf (shown : Bytes) (t : Nat) : Option Rental := if t = 0 then some ⟨4, shown⟩ else none

theorem rentedIn_rentalOf {b : UInt8} {moves : List PoolMove} {shown : Bytes}
    (h : ⟨4, shown⟩ ∈ (Machine.run SharedPool.step (start (smallPool b)) moves).rentals) :
    RentedIn (smallPool b) moves (rentalOf shown) := by
  intro t r hr
  unfold rentalOf at hr
  split at hr
  · cases hr
    exact h
  · cases hr

end Sample

theorem stale_bytes_do_not_leak_password :
    (∃ pool, Serves (Sample.smallPool 0) (Sample.rentalOf [112, 101, 110, 99]) pool) ∧
    (∃ pool, Serves (Sample.smallPool 7) (Sample.rentalOf [7, 7, 7, 7]) pool) ∧
      ∀ pool pool', Serves (Sample.smallPool 0) (Sample.rentalOf [112, 101, 110, 99]) pool →
        Serves (Sample.smallPool 7) (Sample.rentalOf [7, 7, 7, 7]) pool' →
        (∀ s : Session (CredentialStore Sample.crypto), SameRun Session.withPool
          (Session.handleStartup Sample.crypto (s.withPool pool)) (Session.handleStartup Sample.crypto (s.withPool pool'))) ∧
        ∀ (config : PgConfig) (c : PgClient), SameRun PgClient.withPool
          (PgClient.handleStartupHandshake Sample.crypto config (c.withPool pool))
          (PgClient.handleStartupHandshake Sample.crypto config (c.withPool pool')) :=
  stale_bytes_do_not_leak (BufferPool.new_whole _ _ _ _) (BufferPool.new_whole _ _ _ _) rfl
    (show RentedIn _ Sample.afterAnother _ from Sample.rentedIn_rentalOf (List.mem_cons_of_mem _ List.mem_cons_self))
    (show RentedIn _ Sample.alone _ from Sample.rentedIn_rentalOf List.mem_cons_self)

end Wirechaos
