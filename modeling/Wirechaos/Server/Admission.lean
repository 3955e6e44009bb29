/-
  Wirechaos.Server.Admission — permits and cancel keys over the life of a server
  (see `Wirechaos.Server.Serve`).

  `Effect` says once what an action can do. From it, over every run from `start`:
  (1) Permits (`permits_counted`): the count is the number of tasks that hold one, it
      never passes the cap, and a connection is refused exactly when the cap is reached.
  (2) Ids (`Numbered`): the id of a task is its number, modulo 2^32.
  (3) Keys (`keys_live_of_inTime`): while no task outlives the next 2^32 accepts, a cancel
      key finds a backend exactly while a task holds its guard, and the registry is empty
      when none does. The tasks mirror `Registry.Held`: entering a guard is a registration
      there, and its end a drop.
-/

import Mathlib.Data.List.Perm.Lattice
import Wirechaos.Conn.HandleProofs
import Wirechaos.Server.Serve

namespace Wirechaos

open Text Machine

namespace Server

/-- Replacing the element at a position. -/
theorem split_set {α : Type} {l : List α} {i : Nat} {x : α} (h : l[i]? = some x) (y : α) :
    ∃ l₁ l₂, l = l₁ ++ x :: l₂ ∧ l.set i y = l₁ ++ y :: l₂ := by
  obtain ⟨hi, rfl⟩ := List.getElem?_eq_some_iff.mp h
  refine ⟨l.take i, l.drop (i + 1), ?_, ?_⟩
  · rw [← List.drop_eq_getElem_cons hi, List.take_append_drop]
  · rw [List.set_eq_take_append_cons_drop, if_pos hi]

variable {V : Type}

/-! ## What an action can do -/

/-- An action that is the task's last on what it shares. -/
def Ends (p : TaskPhase) : Prop := p = .refused ∨ ∃ entry, p = .leaving entry

inductive Effect (h : Server V) : Act V → Server V → Prop
  | idle {a : Act V} : Effect h a h
  | accepted (socket : Socket) :
      Effect h (.accept (some socket))
        ⟨{ h.state with nextId := h.state.nextId + 1 }, h.tasks ++ [⟨h.state.nextId, .waiting⟩]⟩
  | changed {a : Act V} (v : V) : Effect h a (h.setCredentials v)
  | admitted {i : Nat} {connId : Int32} : h.tasks[i]? = some ⟨connId, .waiting⟩ →
      h.state.connections.live < h.state.connections.max →
      Effect h (.enter i)
        ((h.setConnections { h.state.connections with live := h.state.connections.live + 1 }).setPhase i connId (.admitted none))
  | refused {i : Nat} {connId : Int32} : h.tasks[i]? = some ⟨connId, .waiting⟩ →
      h.state.connections.max ≤ h.state.connections.live → Effect h (.enter i) (h.setPhase i connId .refused)
  | registered {i : Nat} {connId : Int32} {backend : Backend} {key : SessionKeySecret} {r : Registry} :
      h.tasks[i]? = some ⟨connId, .admitted none⟩ → h.state.backends.register backend connId key = (.ok ⟨connId, key⟩, r) →
      Effect h (.register i backend key) ((h.setBackends r).setPhase i connId (.admitted (some (⟨connId, key⟩, backend))))
  | left {i : Nat} {connId : Int32} {entry : Option Entry} : h.tasks[i]? = some ⟨connId, .admitted entry⟩ →
      Effect h (.leave i) ((h.setConnections h.state.connections.release).setPhase i connId (.leaving entry))
  | dropped {i : Nat} {connId : Int32} {p : TaskPhase} : h.tasks[i]? = some ⟨connId, p⟩ → Ends p →
      Effect h (.drop i) ((h.setBackends (releaseEntry h.state.backends p.entry)).setPhase i connId .gone)

theorem step_effect [VerifierProvider V] (h : Server V) (a : Act V) : Effect h a (h.step a) := by
  cases a with
  | accept socket =>
    cases socket with
    | none => exact .idle
    | some socket => exact .accepted socket
  | enter i =>
    rcases ht : h.tasks[i]? with _ | ⟨connId, p⟩
    · simp only [step, ht]
      exact .idle
    · cases p with
      | waiting =>
        by_cases hfull : h.state.connections.live ≥ h.state.connections.max
        · simp only [step, ht, ConnRegistry.tryAcquire, if_pos hfull]
          exact .refused ht hfull
        · simp only [step, ht, ConnRegistry.tryAcquire, if_neg hfull]
          exact .admitted ht (Nat.lt_of_not_le hfull)
      | refused | admitted | leaving | gone =>
        simp only [step, ht]
        exact .idle
  | lookup i user =>
    rcases ht : h.tasks[i]? with _ | ⟨connId, _ | _ | ⟨_ | entry⟩ | _ | _⟩
    all_goals simp only [step, ht]
    case some.admitted.none => exact .changed _
    all_goals exact .idle
  | register i backend key =>
    rcases ht : h.tasks[i]? with _ | ⟨connId, _ | _ | ⟨_ | entry⟩ | _ | _⟩
    all_goals simp only [step, ht]
    case some.admitted.none =>
      by_cases htaken : key ∈ h.state.backends.keySecretBackend
      · simp only [Registry.register, if_pos htaken]
        exact .idle
      · have hregister : h.state.backends.register backend connId key = (.ok ⟨connId, key⟩, _) := if_neg htaken
        rw [hregister]
        exact .registered ht hregister
    all_goals exact .idle
  | leave i =>
    rcases ht : h.tasks[i]? with _ | ⟨connId, _ | _ | entry | _ | _⟩
    all_goals simp only [step, ht]
    case some.admitted => exact .left ht
    all_goals exact .idle
  | drop i =>
    rcases ht : h.tasks[i]? with _ | ⟨connId, _ | _ | _ | entry | _⟩
    all_goals simp only [step, ht]
    case some.refused => exact .dropped ht (.inl rfl)
    case some.leaving => exact .dropped ht (.inr ⟨entry, rfl⟩)
    all_goals exact .idle
  | change f => exact .changed _

/-! ## Permits -/

/-- The number of tasks that hold a permit. -/
def admitted (h : Server V) : Nat := h.tasks.countP fun task => task.phase.admits

structure Counted (config : ServerConfig V) (h : Server V) : Prop where
  live : h.state.connections.live = admitted h
  cap : h.state.connections.max = config.maxConnections
  bounded : h.state.connections.live ≤ h.state.connections.max

theorem admitted_setPhase {h : Server V} {i : Nat} {connId : Int32} {p : TaskPhase} (ht : h.tasks[i]? = some ⟨connId, p⟩)
    (q : TaskPhase) :
    admitted (h.setPhase i connId q) + (if p.admits then 1 else 0) = admitted h + (if q.admits then 1 else 0) := by
  obtain ⟨l₁, l₂, hl, hset⟩ := split_set ht ⟨connId, q⟩
  unfold admitted setPhase
  dsimp only
  rw [hset, hl]
  simp only [List.countP_append, List.countP_cons]
  omega

theorem Counted.of_effect {config : ServerConfig V} {h h' : Server V} {a : Act V} (hc : Counted config h)
    (heffect : Effect h a h') : Counted config h' := by
  obtain ⟨hlive, hcap, hbounded⟩ := hc
  cases heffect with
  | idle => exact ⟨hlive, hcap, hbounded⟩
  | accepted socket =>
    refine ⟨hlive.trans ?_, hcap, hbounded⟩
    show admitted h = List.countP _ (h.tasks ++ _)
    rw [List.countP_append]
    rfl
  | changed v => exact ⟨hlive, hcap, hbounded⟩
  | @admitted i connId ht hfree =>
    have hcount := admitted_setPhase (h := h.setConnections _) ht (.admitted none)
    refine ⟨?_, hcap, hfree⟩
    show h.state.connections.live + 1 = _
    rw [hlive]
    exact hcount.symm
  | @refused i connId ht hfull =>
    have hcount := admitted_setPhase ht .refused
    exact ⟨hlive.trans hcount.symm, hcap, hbounded⟩
  | @registered i connId backend key r ht hregister =>
    have hcount := admitted_setPhase (h := h.setBackends r) ht (.admitted (some (⟨connId, key⟩, backend)))
    refine ⟨hlive.trans ?_, hcap, hbounded⟩
    exact (Nat.add_right_cancel hcount).symm
  | @left i connId entry ht =>
    have hcount := admitted_setPhase (h := h.setConnections h.state.connections.release) ht (.leaving entry)
    have hone : admitted ((h.setConnections h.state.connections.release).setPhase i connId (.leaving entry)) + 1 = admitted h :=
      hcount
    refine ⟨?_, hcap, ?_⟩
    · show h.state.connections.live - 1 = _
      omega
    · show h.state.connections.live - 1 ≤ h.state.connections.max
      omega
  | @dropped i connId p ht hends =>
    have hcount := admitted_setPhase (h := h.setBackends (releaseEntry h.state.backends p.entry)) ht .gone
    refine ⟨hlive.trans ?_, hcap, hbounded⟩
    rcases hends with rfl | ⟨entry, rfl⟩
    · exact hcount.symm
    · exact hcount.symm

theorem counted_run [VerifierProvider V] (config : ServerConfig V) (as : List (Act V)) :
    Counted config (run step (start config) as) :=
  run_invariant (fun _ a hc => hc.of_effect (step_effect _ a)) ⟨rfl, rfl, Nat.zero_le _⟩ as

/-- The phase that `try_acquire` leads to. -/
theorem enter_phase [VerifierProvider V] {h : Server V} {i : Nat} {connId : Int32} (ht : h.tasks[i]? = some ⟨connId, .waiting⟩) :
    ((h.step (.enter i)).tasks[i]? = some ⟨connId, .refused⟩ ↔ h.state.connections.max ≤ h.state.connections.live) ∧
    ((h.step (.enter i)).tasks[i]? = some ⟨connId, .admitted none⟩ ↔ h.state.connections.live < h.state.connections.max) := by
  obtain ⟨hi, -⟩ := List.getElem?_eq_some_iff.mp ht
  by_cases hfull : h.state.connections.live ≥ h.state.connections.max
  · simp only [step, ht, ConnRegistry.tryAcquire, if_pos hfull, setPhase, List.getElem?_set_self hi]
    refine ⟨by simp only [true_iff]; exact hfull, ?_⟩
    simp only [Option.some.injEq, Task.mk.injEq, reduceCtorEq, and_false, false_iff]
    omega
  · simp only [step, ht, ConnRegistry.tryAcquire, if_neg hfull, setPhase, setConnections, List.getElem?_set_self hi]
    refine ⟨?_, by simp only [true_iff]; omega⟩
    simp only [Option.some.injEq, Task.mk.injEq, reduceCtorEq, and_false, false_iff]
    exact hfull

/-- In every run the count is the number of permit holders and stays within the cap; a new
    connection is refused exactly when there are as many as the cap allows. -/
theorem permits_counted [VerifierProvider V] (config : ServerConfig V) (as : List (Act V)) :
    (run step (start config) as).state.connections.live = admitted (run step (start config) as) ∧
    admitted (run step (start config) as) ≤ config.maxConnections ∧
    ∀ i connId, (run step (start config) as).tasks[i]? = some ⟨connId, .waiting⟩ →
      ((run step (start config) (as ++ [.enter i])).tasks[i]? = some ⟨connId, .refused⟩ ↔
        admitted (run step (start config) as) = config.maxConnections) ∧
      ((run step (start config) (as ++ [.enter i])).tasks[i]? = some ⟨connId, .admitted none⟩ ↔
        admitted (run step (start config) as) < config.maxConnections) := by
  obtain ⟨hlive, hcap, hbounded⟩ := counted_run config as
  rw [hlive, hcap] at hbounded
  refine ⟨hlive, hbounded, ?_⟩
  intro i connId ht
  obtain ⟨hrefused, hadmitted⟩ := enter_phase ht
  rw [run_concat, hrefused, hadmitted, hlive, hcap]
  exact ⟨⟨fun h => Nat.le_antisymm hbounded h, fun h => Nat.le_of_eq h.symm⟩, Iff.rfl⟩

/-! ## Ids -/

/-- The id of the task that is spawned after this many others. -/
def connIdOf (i : Nat) : Int32 := Int32.ofNat (i + 1)

theorem connIdOf_succ (i : Nat) : connIdOf i + 1 = connIdOf (i + 1) := by
  rw [connIdOf, connIdOf, Int32.ofNat_add (i + 1) 1]
  rfl

/-- Ids come round after 2^32 tasks. -/
theorem connIdOf_eq_iff (i j : Nat) : connIdOf i = connIdOf j ↔ i % 2 ^ 32 = j % 2 ^ 32 := by
  rw [connIdOf, connIdOf, ← Int32.toBitVec_inj]
  simp only [← BitVec.toNat_inj, Int32.toBitVec_ofNat', BitVec.toNat_ofNat]
  omega

/-- A task of one position afterwards: as before, or the one that has acted. -/
theorem getElem?_setPhase {h : Server V} {i j : Nat} {connId : Int32} {p : TaskPhase} {task : Task}
    (hj : (h.setPhase i connId p).tasks[j]? = some task) :
    (j ≠ i ∧ h.tasks[j]? = some task) ∨ (j = i ∧ task = ⟨connId, p⟩) := by
  unfold setPhase at hj
  dsimp only at hj
  rw [List.getElem?_set] at hj
  by_cases hji : i = j
  · subst hji
    rw [if_pos rfl] at hj
    split at hj
    · exact Or.inr ⟨rfl, (Option.some.inj hj).symm⟩
    · cases hj
  · rw [if_neg hji] at hj
    exact Or.inl ⟨fun h => hji h.symm, hj⟩

structure Numbered (h : Server V) : Prop where
  next : h.state.nextId = connIdOf h.tasks.length
  /-- A guard has the id of its task. -/
  tasks : ∀ i task, h.tasks[i]? = some task →
    task.connId = connIdOf i ∧ ∀ entry, task.phase.entry = some entry → entry.1.connId = connIdOf i

/-- A new phase of a task keeps the numbering when its guard, if any, has the id of the task. -/
theorem Numbered.setPhase {h h₀ : Server V} (hn : Numbered h) (hnext : h₀.state.nextId = h.state.nextId)
    (htasks : h₀.tasks = h.tasks) {i : Nat} {connId : Int32} {p : TaskPhase} (ht : h.tasks[i]? = some ⟨connId, p⟩) {q : TaskPhase}
    (hq : ∀ entry, q.entry = some entry → entry.1.connId = connIdOf i) : Numbered (h₀.setPhase i connId q) := by
  refine ⟨?_, ?_⟩
  · show h₀.state.nextId = connIdOf (h₀.tasks.set i _).length
    rw [List.length_set, hnext, htasks]
    exact hn.next
  · intro j task hj
    rcases getElem?_setPhase hj with ⟨-, hj⟩ | ⟨rfl, rfl⟩
    · rw [htasks] at hj
      exact hn.tasks j task hj
    · exact ⟨(hn.tasks j _ ht).1, hq⟩

theorem Numbered.of_effect {h h' : Server V} {a : Act V} (hn : Numbered h) (heffect : Effect h a h') : Numbered h' := by
  cases heffect with
  | idle => exact hn
  | accepted socket =>
    refine ⟨?_, ?_⟩
    · show h.state.nextId + 1 = connIdOf (h.tasks ++ _).length
      rw [hn.next, List.length_append]
      exact connIdOf_succ _
    · intro j task hj
      change (h.tasks ++ [⟨h.state.nextId, .waiting⟩])[j]? = some task at hj
      by_cases hlt : j < h.tasks.length
      · rw [List.getElem?_append_left hlt] at hj
        exact hn.tasks j task hj
      · rw [List.getElem?_append_right (Nat.le_of_not_lt hlt), List.getElem?_singleton] at hj
        split at hj
        · cases hj
          have hlast : j = h.tasks.length := by omega
          rw [hlast]
          exact ⟨hn.next, by simp [TaskPhase.entry]⟩
        · cases hj
  | changed v => exact ⟨hn.next, hn.tasks⟩
  | admitted ht => exact hn.setPhase (by rfl) (by rfl) ht (by simp [TaskPhase.entry])
  | refused ht => exact hn.setPhase (by rfl) (by rfl) ht (by simp [TaskPhase.entry])
  | @registered i connId backend key r ht hregister =>
    refine hn.setPhase (by rfl) (by rfl) ht ?_
    intro entry he
    cases he
    exact (hn.tasks i _ ht).1
  | @left i connId entry ht => exact hn.setPhase (by rfl) (by rfl) ht (hn.tasks i _ ht).2
  | dropped ht => exact hn.setPhase (by rfl) (by rfl) ht (by simp [TaskPhase.entry])

theorem numbered_run [VerifierProvider V] (config : ServerConfig V) (as : List (Act V)) : Numbered (run step (start config) as) :=
  run_invariant (fun _ a hn => hn.of_effect (step_effect _ a)) ⟨rfl, fun i task ht => by cases ht⟩ as

/-! ## Keys -/

/-- Whoever is not gone was accepted less than 2^32 connections ago. -/
def InTime (h : Server V) : Prop := ∀ i task, h.tasks[i]? = some task → task.phase ≠ .gone → h.tasks.length ≤ i + 2 ^ 32

/-- The guards there are, and what they stand for. -/
def entries (h : Server V) : List Entry := h.tasks.filterMap fun task => task.phase.entry

/-- A key finds a backend exactly when a task holds a guard for both; without guards the
    registry is empty. -/
def KeysLive (h : Server V) : Prop :=
  (∀ key backend, h.state.backends.lookupByKey key = some backend ↔
    ∃ guard, (guard, backend) ∈ entries h ∧ guard.key = key) ∧
  (entries h = [] → h.state.backends = ⟨∅, ∅⟩)

/-- The tasks that hold guards are those of a registry in which no two share an id. -/
structure Mirrors (h : Server V) (held : Registry.Held) : Prop where
  registry : held.registry = h.state.backends
  live : held.live.Perm (entries h)
  owned : held.Owned
  separate : held.Separate
  noOrphan : held.NoOrphan

theorem entries_setPhase {h g : Server V} (htasks : g.tasks = h.tasks) {i : Nat} {connId : Int32} {p : TaskPhase}
    (ht : h.tasks[i]? = some ⟨connId, p⟩) (q : TaskPhase) :
    ∃ l₁ l₂, entries h = l₁ ++ p.entry.toList ++ l₂ ∧ entries (g.setPhase i connId q) = l₁ ++ q.entry.toList ++ l₂ := by
  obtain ⟨l₁, l₂, hl, hset⟩ := split_set ht ⟨connId, q⟩
  refine ⟨l₁.filterMap fun task => task.phase.entry, l₂.filterMap fun task => task.phase.entry, ?_, ?_⟩
  · rw [entries, hl, List.filterMap_append, List.filterMap_cons, List.append_assoc]
    cases hp : p.entry <;> simp
  · show (g.tasks.set i _).filterMap _ = _
    rw [htasks, hset, List.filterMap_append, List.filterMap_cons, List.append_assoc]
    cases hq : q.entry <;> simp

/-- A new phase with the same guard. -/
theorem Mirrors.setPhase {h h₀ : Server V} {held : Registry.Held} (hm : Mirrors h held) (htasks : h₀.tasks = h.tasks)
    (hbackends : h₀.state.backends = h.state.backends) {i : Nat} {connId : Int32} {p q : TaskPhase}
    (ht : h.tasks[i]? = some ⟨connId, p⟩) (hq : q.entry = p.entry) : Mirrors (h₀.setPhase i connId q) held := by
  obtain ⟨l₁, l₂, hbefore, hafter⟩ := entries_setPhase htasks ht q
  refine ⟨hm.registry.trans hbackends.symm, ?_, hm.owned, hm.separate, hm.noOrphan⟩
  rw [hafter, hq, ← hbefore]
  exact hm.live

/-- An operation of the registry that keeps ids apart and finds what it frees. -/
theorem Mirrors.operate {h h' : Server V} {held : Registry.Held} (hm : Mirrors h held) (op : Registry.Op)
    (hfresh : held.FreshConn op) (hregistry : (held.step op).registry = h'.state.backends)
    (hlive : (held.step op).live.Perm (entries h')) : Mirrors h' (held.step op) := by
  have heffect := Registry.Held.step_effect held op
  have hfrees : held.FreesKey op := by
    cases op with
    | register => trivial
    | drop i => exact fun guard backend hi => hm.separate.listed _ (List.mem_of_getElem? hi)
  exact ⟨hregistry, hlive, hm.owned.of_effect heffect, hm.separate.of_effect hfresh heffect,
    (Registry.Held.noOrphan_effect_iff hm.owned hm.noOrphan heffect).mpr hfrees⟩

/-- No guard has the id of a task that is about to register. -/
theorem fresh_of_inTime {h : Server V} (hn : Numbered h) (htime : InTime h) {i : Nat} {connId : Int32}
    (ht : h.tasks[i]? = some ⟨connId, .admitted none⟩) : ∀ entry ∈ entries h, entry.1.connId ≠ connId := by
  intro entry hentry he
  obtain ⟨task, htask, hphase⟩ := List.mem_filterMap.mp hentry
  obtain ⟨j, hj⟩ := List.mem_iff_getElem?.mp htask
  have hij : i ≠ j := by
    intro hij
    rw [hij, hj] at ht
    cases ht
    cases hphase
  have hgone : task.phase ≠ .gone := by
    intro hgone
    rw [hgone] at hphase
    cases hphase
  have hi := htime i _ ht (by simp)
  have hj' := htime j task hj hgone
  have hi₂ := (List.getElem?_eq_some_iff.mp ht).1
  have hj₂ := (List.getElem?_eq_some_iff.mp hj).1
  have hids : connIdOf j = connIdOf i := by
    rw [← (hn.tasks j task hj).2 entry hphase, ← (hn.tasks i _ ht).1]
    exact he
  have hmod := (connIdOf_eq_iff j i).mp hids
  omega

theorem Mirrors.of_effect {h h' : Server V} {a : Act V} (hn : Numbered h) (htime : InTime h)
    (hm : ∃ held, Mirrors h held) (heffect : Effect h a h') : ∃ held, Mirrors h' held := by
  obtain ⟨held, hm⟩ := hm
  cases heffect with
  | idle => exact ⟨held, hm⟩
  | accepted socket =>
    refine ⟨held, hm.registry, ?_, hm.owned, hm.separate, hm.noOrphan⟩
    show held.live.Perm ((h.tasks ++ _).filterMap _)
    rw [List.filterMap_append]
    exact hm.live.trans (by rw [List.filterMap_cons_none rfl, List.filterMap_nil, List.append_nil]; rfl)
  | changed v => exact ⟨held, hm.registry, hm.live, hm.owned, hm.separate, hm.noOrphan⟩
  | admitted ht => exact ⟨held, hm.setPhase (by rfl) (by rfl) ht rfl⟩
  | refused ht => exact ⟨held, hm.setPhase (by rfl) (by rfl) ht rfl⟩
  | left ht => exact ⟨held, hm.setPhase (by rfl) (by rfl) ht rfl⟩
  | @registered i connId backend key r ht hregister =>
    obtain ⟨l₁, l₂, hbefore, hafter⟩ :=
      entries_setPhase (h := h) (g := h.setBackends r) rfl ht (.admitted (some (⟨connId, key⟩, backend)))
    have hstep : held.step (.register backend connId key) = ⟨r, held.live ++ [(⟨connId, key⟩, backend)]⟩ := by
      simp only [Registry.Held.step, hm.registry, hregister]
    refine ⟨_, hm.operate (.register backend connId key) ?_ (congrArg Registry.Held.registry hstep) ?_⟩
    · intro p hp
      exact fresh_of_inTime hn htime ht p (hm.live.mem_iff.mp hp)
    · rw [hstep, hafter]
      show (held.live ++ _).Perm (l₁ ++ [_] ++ l₂)
      have hlive : held.live.Perm (l₁ ++ l₂) := by
        have hheld := hm.live
        rw [hbefore] at hheld
        change held.live.Perm (l₁ ++ [] ++ l₂) at hheld
        rwa [List.append_nil] at hheld
      rw [List.append_assoc, List.singleton_append]
      exact ((List.perm_append_singleton _ _).trans (hlive.cons _)).trans List.perm_middle.symm
  | @dropped i connId p ht hends =>
    obtain ⟨l₁, l₂, hbefore, hafter⟩ :=
      entries_setPhase (h := h) (g := h.setBackends (releaseEntry h.state.backends p.entry)) rfl ht .gone
    rcases hp : p.entry with _ | ⟨guard, backend⟩
    · rw [hp] at hbefore hafter
      refine ⟨held, hm.registry, ?_, hm.owned, hm.separate, hm.noOrphan⟩
      rw [hafter]
      exact hbefore ▸ hm.live
    · rw [hp] at hbefore hafter
      have hlive : held.live.Perm ((guard, backend) :: (l₁ ++ l₂)) := by
        refine hm.live.trans ?_
        rw [hbefore]
        show (l₁ ++ [_] ++ l₂).Perm _
        rw [List.append_assoc, List.singleton_append]
        exact List.perm_middle
      obtain ⟨k, hk⟩ := List.mem_iff_getElem?.mp (hlive.mem_iff.mpr (List.mem_cons_self ..))
      obtain ⟨m₁, m₂, hsplit, herase⟩ := Registry.Held.split_at hk
      have hstep : held.step (.drop k) = ⟨h.state.backends.release guard, m₁ ++ m₂⟩ := by
        simp only [Registry.Held.step, hk, herase, hm.registry]
      refine ⟨_, hm.operate (.drop k) trivial ?_ ?_⟩
      · rw [hstep]
        rfl
      · rw [hstep, hafter]
        show (m₁ ++ m₂).Perm (l₁ ++ [] ++ l₂)
        rw [List.append_nil]
        rw [hsplit] at hlive
        exact (List.perm_middle.symm.trans hlive).cons_inv

theorem KeysLive.of_mirrors {h : Server V} {held : Registry.Held} (hm : Mirrors h held) : KeysLive h := by
  obtain ⟨hfound, hempty⟩ := (Registry.Held.keysLive_iff hm.owned).mpr hm.noOrphan
  rw [hm.registry] at hfound hempty
  refine ⟨?_, ?_⟩
  · intro key backend
    rw [hfound]
    constructor
    · intro ⟨guard, hmem, hkey⟩
      exact ⟨guard, hm.live.mem_iff.mp hmem, hkey⟩
    · intro ⟨guard, hmem, hkey⟩
      exact ⟨guard, hm.live.mem_iff.mpr hmem, hkey⟩
  · intro hnil
    apply hempty
    exact List.Perm.eq_nil (hnil ▸ hm.live)

/-- While no task outlives the next 2^32 accepts, the cancel keys in the registry are those
    of the guards that tasks hold, and nothing is left of a session that is gone. -/
theorem keys_live_of_inTime [VerifierProvider V] {config : ServerConfig V} {as : List (Act V)}
    (h : Always step InTime (start config) as) : Always step KeysLive (start config) as := by
  have hmirrors : Always step (fun h => ∃ held, Mirrors h held) (start config) as := by
    intro pre hpre
    induction pre using List.reverseRecOn with
    | nil =>
      refine ⟨.empty, rfl, .refl _, Registry.Held.owned_empty, ⟨List.nodup_nil, ?_⟩, Registry.Held.noOrphan_empty⟩
      intro p hp
      cases hp
    | append_singleton pre a ih =>
      have hbefore := (List.prefix_append pre [a]).trans hpre
      rw [run_concat]
      exact Mirrors.of_effect (numbered_run config pre) (h pre hbefore) (ih hbefore) (step_effect _ a)
  intro pre hpre
  obtain ⟨held, hm⟩ := hmirrors pre hpre
  exact .of_mirrors hm

theorem Effect.length_le {h h' : Server V} {a : Act V} (heffect : Effect h a h') : h'.tasks.length ≤ h.tasks.length + 1 := by
  cases heffect with
  | idle => omega
  | accepted => exact Nat.le_of_eq List.length_append
  | changed => exact Nat.le_succ _
  | admitted | refused | registered | left | dropped =>
    exact Nat.le_trans (Nat.le_of_eq List.length_set) (Nat.le_succ _)

/-- There is time for 2^32 actions. -/
theorem inTime_of_short [VerifierProvider V] {config : ServerConfig V} {as : List (Act V)} (h : as.length ≤ 2 ^ 32) :
    Always step InTime (start config) as := by
  have htasks (pre : List (Act V)) : (run step (start config) pre).tasks.length ≤ pre.length := by
    induction pre using List.reverseRecOn with
    | nil => exact Nat.le_refl 0
    | append_singleton pre a ih =>
      have hstep := (step_effect (run step (start config) pre) a).length_le
      rw [run_concat, List.length_append, List.length_singleton]
      omega
  intro pre hpre i task ht hgone
  have hlength := hpre.length_le
  have := htasks pre
  omega

end Server

namespace Sample

def server : ServerConfig (CredentialStore crypto) :=
  { config, maxConnections := 8, credentials := store, frontendTls := none
    pool := { maxCapacity := 1048576, stale := fun _ _ => 0 } }

/-- A client that sends its StartupMessage and its side of the exchange. -/
def socket : Socket := ⟨[alice ++ saslMessages], fun _ => .ready 8192⟩

/-- Two sessions register, and the first one ends. -/
def arrivals : List (Server.Act (CredentialStore crypto)) :=
  [.accept (some socket), .accept (some socket), .enter 0, .enter 1, .register 1 backend ⟨1, 2⟩, .register 0 backend ⟨3, 4⟩,
    .leave 1, .drop 1]

end Sample

namespace Server

theorem keys_live_of_arrivals : Always step KeysLive (start Sample.server) Sample.arrivals :=
  keys_live_of_inTime (inTime_of_short (by decide))

end Server

end Wirechaos
