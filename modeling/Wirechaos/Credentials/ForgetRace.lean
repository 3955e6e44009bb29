/-
  Wirechaos.Credentials.ForgetRace — lookups of an `AuthQuerySource` among each other, with
  `forget` and changes of the database in between (see `Wirechaos.Credentials.Store`).

  A lookup holds the cache's lock twice: to check it, and to insert what the database
  answered. `Lookups` is any number of lookups cut there and at the query; without
  anything in between the pieces are `AuthQuerySource.lookup` (`lookup_alone`). A clock
  that ticks with every action stamps what is read from the database, what is cached and
  when a user was forgotten; nothing in the code reads the stamps.

  An answer that was read before a `forget` and is inserted after it is served to lookups
  that start later (`a_forgotten_user_is_remembered`). `InTime` forbids just that, and
  then every lookup yields an answer read after the last `forget` it started behind
  (`forget_takes_effect`).
-/

import Mathlib.Data.Set.Function
import Wirechaos.Credentials.CacheProofs

namespace Wirechaos

open Text Async Machine

/-! ## The cache -/

namespace LookupCache

variable {c : LookupCache} {u v : Str}

theorem mem_evictIfNeeded {now : Nat} (h : u ∈ (c.evictIfNeeded now).entries) : u ∈ c.entries := by
  obtain ⟨e, he⟩ := Option.isSome_iff_exists.mp (AList.lookup_isSome.mpr h)
  rw [← AList.lookup_isSome, lookup_evictIfNeeded he]
  rfl

theorem mem_insertPositive {verifier : Verifier} {now : Nat} (h : u ∈ (c.insertPositive v verifier now).entries) :
    u = v ∨ u ∈ c.entries :=
  (AList.mem_insert _).mp h |>.imp_right mem_evictIfNeeded

theorem mem_insertNegative {now : Nat} (h : u ∈ (c.insertNegative v now).entries) : u = v ∨ u ∈ c.entries :=
  (AList.mem_insert _).mp h |>.imp_right mem_evictIfNeeded

theorem mem_get {now : Nat} (h : u ∈ (c.get v now).2.entries) : u ∈ c.entries := by
  obtain hget | hget := c.get_cases v now
  · rwa [hget] at h
  · rw [hget] at h
    exact (AList.mem_erase.mp h).2

/-- Only what is in the cache is answered from it. -/
theorem mem_of_get {now : Nat} {answer : Option Verifier} (h : (c.get u now).1 = some answer) : u ∈ c.entries := by
  obtain ⟨e, hentry, -⟩ := (c.get_eq_some u now).mp h
  rw [← AList.lookup_isSome, hentry]
  rfl

end LookupCache

/-! ## A lookup in pieces -/

/-- The second piece: what the answer of the database becomes, and the cache with it. -/
def settle (cache : LookupCache) (username : Str) (now : Nat) :
    Except Str (Option Str) → Except ProviderError (Option Verifier) × LookupCache
  | .error reason => (.error (.unavailable reason), cache)
  | .ok none => (.ok none, cache.insertNegative username now)
  | .ok (some secret) =>
    match Verifier.fromPgSecret secret with
    | .error e => (.error (.unavailable (AuthQuerySource.secretText e)), cache)
    | .ok verifier => (.ok (some verifier), cache.insertPositive username verifier now)

/-- The answers that are inserted. -/
def Cacheable : Except Str (Option Str) → Prop
  | .error _ => False
  | .ok none => True
  | .ok (some secret) => ∃ verifier, Verifier.fromPgSecret secret = .ok verifier

theorem settle_cases (cache : LookupCache) (username : Str) (now : Nat) (row : Except Str (Option Str)) :
    (∃ e, settle cache username now row = (.error e, cache)) ∨
      ∃ answer, (settle cache username now row).1 = .ok answer ∧ Cacheable row ∧
        ∀ u, u ∈ (settle cache username now row).2.entries → u = username ∨ u ∈ cache.entries := by
  rcases row with reason | _ | secret
  · exact .inl ⟨_, rfl⟩
  · exact .inr ⟨none, rfl, trivial, fun _ => LookupCache.mem_insertNegative⟩
  · rcases hsecret : Verifier.fromPgSecret secret with e | verifier
    · left
      exact ⟨_, by rw [settle, hsecret]⟩
    · right
      have hsettle : settle cache username now (.ok (some secret)) =
          (.ok (some verifier), cache.insertPositive username verifier now) := by
        rw [settle, hsecret]
      rw [hsettle]
      exact ⟨some verifier, rfl, ⟨verifier, hsecret⟩, fun _ => LookupCache.mem_insertPositive⟩

theorem lookup_miss {source : AuthQuerySource} {username : Str} {cache : LookupCache}
    (h : source.cache.get username source.now = (none, cache)) :
    source.lookup username =
      ((settle cache username source.now (source.database username)).1,
        { source with cache := (settle cache username source.now (source.database username)).2 }) := by
  unfold AuthQuerySource.lookup
  simp only [h]
  rcases source.database username with reason | _ | secret
  · rfl
  · rfl
  · simp only [settle]
    rcases Verifier.fromPgSecret secret with e | verifier <;> rfl

/-- Where a lookup is. `forgot` is when its user had last been forgotten when it was called,
    `readAt` is when its answer was read from the database. -/
inductive Call where
  | idle
  | called (user : Str) (now forgot : Nat)
  | missed (user : Str) (now forgot : Nat)
  | answered (user : Str) (now forgot : Nat) (row : Except Str (Option Str)) (readAt : Nat)
  | done (user : Str) (forgot : Nat) (answer : Except ProviderError (Option Verifier)) (readAt : Nat)

inductive LookupAct where
  | call (i : Nat) (user : Str)
  | check (i : Nat)
  | query (i : Nat)
  | insert (i : Nat)
  | forget (user : Str)
  /-- The row of a user is changed, or can no longer be read. -/
  | alter (user : Str) (row : Except Str (Option Str))
  | elapse (ticks : Nat)

/-- A source, the lookups by number, and the stamps. -/
structure Lookups where
  source : AuthQuerySource
  calls : Nat → Call
  clock : Nat
  cachedAt : Str → Nat
  forgotAt : Str → Nat

namespace Lookups

def start (source : AuthQuerySource) : Lookups := ⟨source, fun _ => .idle, 1, fun _ => 0, fun _ => 0⟩

def setCall (s : Lookups) (i : Nat) (call : Call) : Lookups := { s with calls := Function.update s.calls i call }

def setCache (s : Lookups) (cache : LookupCache) : Lookups := { s with source := { s.source with cache } }

def act (s : Lookups) : LookupAct → Lookups
  | .call i user =>
    match s.calls i with
    | .idle => s.setCall i (.called user s.source.now (s.forgotAt user))
    | _ => s
  | .check i =>
    match s.calls i with
    | .called user now forgot =>
      match s.source.cache.get user now with
      | (some answer, cache) => (s.setCache cache).setCall i (.done user forgot (.ok answer) (s.cachedAt user))
      | (none, cache) => (s.setCache cache).setCall i (.missed user now forgot)
    | _ => s
  | .query i =>
    match s.calls i with
    | .missed user now forgot => s.setCall i (.answered user now forgot (s.source.database user) s.clock)
    | _ => s
  | .insert i =>
    match s.calls i with
    | .answered user now forgot row readAt =>
      let (answer, cache) := settle s.source.cache user now row
      let s := (s.setCache cache).setCall i (.done user forgot answer readAt)
      match answer with
      | .error _ => s
      | .ok _ => { s with cachedAt := Function.update s.cachedAt user readAt }
    | _ => s
  | .forget user => { s with source := s.source.forget user, forgotAt := Function.update s.forgotAt user s.clock }
  | .alter user row => { s with source := { s.source with database := Function.update s.source.database user row } }
  | .elapse ticks => { s with source := { s.source with now := s.source.now + ticks } }

def step (s : Lookups) (a : LookupAct) : Lookups := { s.act a with clock := s.clock + 1 }

/-- The pieces with nothing in between. -/
theorem lookup_alone (s : Lookups) (i : Nat) (user : Str) (h : s.calls i = .idle) :
    ∃ forgot readAt,
      (run step s [.call i user, .check i, .query i, .insert i]).calls i =
          .done user forgot (s.source.lookup user).1 readAt ∧
        (run step s [.call i user, .check i, .query i, .insert i]).source = (s.source.lookup user).2 := by
  rcases hget : s.source.cache.get user s.source.now with ⟨_ | answer, cache⟩
  · refine ⟨s.forgotAt user, s.clock + 1 + 1, ?_⟩
    rw [lookup_miss hget]
    simp only [run_cons, run_nil, step, act, h, hget, setCall, setCache, Function.update_self]
    generalize settle cache user s.source.now (s.source.database user) = settled
    obtain ⟨_ | answer, cache'⟩ := settled <;> exact ⟨Function.update_self .., rfl⟩
  · refine ⟨s.forgotAt user, s.cachedAt user, ?_⟩
    unfold AuthQuerySource.lookup
    simp only [run_cons, run_nil, step, act, h, hget, setCall, setCache, Function.update_self, and_self]

/-! ## What is served -/

/-- The answer of a lookup is not from before the last `forget` it started behind. -/
def Current : Call → Prop
  | .done _ forgot _ readAt => forgot ≤ readAt
  | _ => True

def AllCurrent (s : Lookups) : Prop := ∀ i, Current (s.calls i)

/-- An answer is inserted only when its user has not been forgotten since it was read. -/
def InTime (s : Lookups) : LookupAct → Prop
  | .insert i =>
    ∀ user now forgot row readAt, s.calls i = .answered user now forgot row readAt → Cacheable row → s.forgotAt user ≤ readAt
  | _ => True

/-- What the stamps of a lookup say. -/
def Stamped (s : Lookups) : Call → Prop
  | .idle => True
  | .called user _ forgot | .missed user _ forgot => forgot ≤ s.forgotAt user
  | .answered _ _ forgot _ readAt | .done _ forgot _ readAt => forgot ≤ readAt

structure Inv (s : Lookups) : Prop where
  forgotten : ∀ u, s.forgotAt u ≤ s.clock
  cached : ∀ u, u ∈ s.source.cache.entries → s.forgotAt u ≤ s.cachedAt u
  calls : ∀ i, Stamped s (s.calls i)

theorem Inv.allCurrent {s : Lookups} (h : Inv s) : AllCurrent s := by
  intro i
  have hstamped := h.calls i
  cases hcall : s.calls i with
  | done user forgot answer readAt =>
    rw [hcall] at hstamped
    exact hstamped
  | _ => trivial

/-- A user is forgotten later than before. -/
theorem Stamped.mono {s s' : Lookups} (h : ∀ u, s.forgotAt u ≤ s'.forgotAt u) {call : Call} (hs : Stamped s call) :
    Stamped s' call := by
  cases call with
  | called user now forgot => exact hs.trans (h user)
  | missed user now forgot => exact hs.trans (h user)
  | _ => exact hs

theorem Inv.setCall {s : Lookups} (h : Inv s) {i : Nat} {call : Call} (hcall : Stamped s call) : Inv (s.setCall i call) := by
  refine ⟨h.forgotten, h.cached, fun j => ?_⟩
  by_cases hj : j = i
  · subst hj
    simp only [Lookups.setCall, Function.update_self]
    exact hcall
  · simp only [Lookups.setCall, Function.update_of_ne hj]
    exact h.calls j

theorem Inv.setCache {s : Lookups} (h : Inv s) {cache : LookupCache}
    (hcache : ∀ u, u ∈ cache.entries → u ∈ s.source.cache.entries) :
    Inv (s.setCache cache) :=
  ⟨h.forgotten, fun u hu => h.cached u (hcache u hu), h.calls⟩

theorem Inv.act {s : Lookups} (h : Inv s) (a : LookupAct) (hok : InTime s a) : Inv (s.act a) := by
  cases a with
  | call i user =>
    simp only [Lookups.act]
    split
    · exact h.setCall le_rfl
    · exact h
  | check i =>
    simp only [Lookups.act]
    split
    · rename_i user now forgot hcall
      have hforgot := h.calls i
      rw [hcall] at hforgot
      have hleft : ∀ u, u ∈ (s.source.cache.get user now).2.entries → u ∈ s.source.cache.entries :=
        fun u => LookupCache.mem_get
      split
      · rename_i answer cache hget
        have hmem : user ∈ s.source.cache.entries := LookupCache.mem_of_get (congrArg Prod.fst hget)
        rw [hget] at hleft
        exact (h.setCache hleft).setCall (le_trans hforgot (h.cached user hmem))
      · rename_i cache hget
        rw [hget] at hleft
        exact (h.setCache hleft).setCall hforgot
    · exact h
  | query i =>
    simp only [Lookups.act]
    split
    · rename_i user now forgot hcall
      have hforgot := h.calls i
      rw [hcall] at hforgot
      exact h.setCall (le_trans hforgot (h.forgotten user))
    · exact h
  | insert i =>
    simp only [Lookups.act]
    split
    · rename_i user now forgot row readAt hcall
      have hforgot := h.calls i
      rw [hcall] at hforgot
      obtain ⟨e, hsettle⟩ | ⟨answer, hanswer, hcacheable, hcache⟩ := settle_cases s.source.cache user now row
      · rw [hsettle]
        exact (h.setCache fun u hu => hu).setCall hforgot
      · have hdone : Stamped s (.done user forgot (.ok answer) readAt) := hforgot
        rw [hanswer]
        refine ⟨h.forgotten, fun u hu => ?_, (h.setCall hdone).calls⟩
        change s.forgotAt u ≤ Function.update s.cachedAt user readAt u
        by_cases huser : u = user
        · subst huser
          rw [Function.update_self]
          exact hok u now forgot row readAt hcall hcacheable
        · rw [Function.update_of_ne huser]
          exact h.cached u ((hcache u hu).resolve_left huser)
    · exact h
  | forget user =>
    have hlater : ∀ u, s.forgotAt u ≤ Function.update s.forgotAt user s.clock u ∧
        Function.update s.forgotAt user s.clock u ≤ s.clock := by
      intro u
      by_cases hu : u = user
      · subst hu
        rw [Function.update_self]
        exact ⟨h.forgotten u, le_rfl⟩
      · rw [Function.update_of_ne hu]
        exact ⟨le_rfl, h.forgotten u⟩
    refine ⟨fun u => (hlater u).2, fun u hu => ?_, fun i => (h.calls i).mono fun u => (hlater u).1⟩
    obtain ⟨hne, hmem⟩ := AList.mem_erase.mp hu
    change Function.update s.forgotAt user s.clock u ≤ s.cachedAt u
    rw [Function.update_of_ne hne]
    exact h.cached u hmem
  | alter user row => exact ⟨h.forgotten, h.cached, h.calls⟩
  | elapse ticks => exact ⟨h.forgotten, h.cached, h.calls⟩

theorem Inv.step {s : Lookups} (h : Inv s) (a : LookupAct) (hok : InTime s a) : Inv (s.step a) := by
  obtain ⟨hforgotten, hcached, hcalls⟩ := h.act a hok
  have hclock : (s.act a).clock = s.clock := by
    cases a <;> simp only [Lookups.act] <;> (repeat' split) <;> rfl
  refine ⟨fun u => ?_, hcached, hcalls⟩
  have hu := hforgotten u
  rw [hclock] at hu
  exact Nat.le_succ_of_le hu

theorem inv_start (source : AuthQuerySource) : Inv (start source) :=
  ⟨fun _ => Nat.zero_le _, fun _ _ => le_rfl, fun _ => trivial⟩

/-- In every run whose inserts are in time, a lookup never yields what was read before the
    last `forget` it started behind. -/
theorem forget_takes_effect (source : AuthQuerySource) (as : List LookupAct)
    (hallowed : Allowed Lookups.step InTime (start source) as) : Always Lookups.step AllCurrent (start source) as := by
  have hinv := always_of_allowed (fun _ a h hok => h.step a hok) (inv_start source) hallowed
  exact fun pre hpre => (hinv pre hpre).allCurrent

end Lookups

namespace Sample

/-- A source whose database does not know anybody yet. -/
def emptySource : AuthQuerySource := ⟨.withCapacity 60 5 4096, 0, fun _ => .ok none⟩

def alterAlice : LookupAct := .alter "alice".toList (.ok (some "SCRAM-SHA-256$4096".toList))

/-- Two lookups in a row, the first over before the user is forgotten. -/
def forgottenBetween : List LookupAct :=
  [.call 0 "alice".toList, .check 0, .query 0, .insert 0, alterAlice, .forget "alice".toList, .call 1 "alice".toList, .check 1,
    .query 1, .insert 1]

/-- The first is still to insert its answer. -/
def forgottenMeanwhile : List LookupAct :=
  [.call 0 "alice".toList, .check 0, .query 0, alterAlice, .forget "alice".toList, .insert 0, .call 1 "alice".toList, .check 1]

end Sample

namespace Lookups

theorem forget_takes_effect_between : Always Lookups.step AllCurrent (start Sample.emptySource) Sample.forgottenBetween := by
  apply forget_takes_effect
  refine .cons trivial (.cons trivial (.cons trivial (.cons ?_ ?_)))
  · intro user now forgot row readAt hcall _
    cases hcall
    decide
  refine .cons trivial (.cons trivial (.cons trivial (.cons trivial (.cons trivial (.cons ?_ (allowed_nil _))))))
  intro user now forgot row readAt hcall _
  cases hcall
  decide

/-- The second lookup starts after the `forget`, and yields what the first had read before it. -/
theorem a_forgotten_user_is_remembered :
    (run Lookups.step (start Sample.emptySource) Sample.forgottenMeanwhile).calls 1 =
        .done "alice".toList 5 (.ok none) 3 ∧
      ¬ Always Lookups.step AllCurrent (start Sample.emptySource) Sample.forgottenMeanwhile := by
  have hserved : (run Lookups.step (start Sample.emptySource) Sample.forgottenMeanwhile).calls 1 =
      .done "alice".toList 5 (.ok none) 3 := rfl
  refine ⟨hserved, fun h => ?_⟩
  have hcurrent := h.last 1
  rw [hserved] at hcurrent
  have hlater : 5 ≤ 3 := hcurrent
  exact absurd hlater (by decide)

end Lookups

end Wirechaos
