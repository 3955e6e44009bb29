/-
  Wirechaos.Backend.RegistryProofs — the registry over the sessions' lifetimes
  (see `Wirechaos.Backend.Link`).

  `Held` is the registry with the guards that are not dropped yet. In every run of
  registrations and drops the live guards have different keys, and each key finds its
  own backend (`Owned`). The converse, that no key outlives its guard, needs more: a
  drop frees its key only if the connection is still in the other map, and there two
  guards of one connection id share an entry. So (`keys_live_iff`) keys live exactly as
  long as their guards when no drop comes second for its entry.
-/

import Wirechaos.Backend.Link
import Wirechaos.Lib.Machine

namespace Wirechaos

open Text Machine

namespace Registry

/-- The registry, and the guards that were handed out with their backends. -/
structure Held where
  registry : Registry
  live : List (SessionGuard × Backend)

inductive Op where
  | register (backend : Backend) (connId : Int32) (keySecret : SessionKeySecret)
  /-- The guard at this position goes out of scope. -/
  | drop (index : Nat)

end Registry

namespace Sample

def backend : Backend :=
  { startupNotifications := [], backendKey := some ⟨4711, -1⟩, readyStatus := byte 'I'
    serverSignatureVerified := true, host := "localhost", port := 5432, connectTimeoutMs := 2000 }

/-- Two sessions with the connection id 5, and both end. -/
def sharedId : List Registry.Op := [.register backend 5 ⟨1, 2⟩, .register backend 5 ⟨3, 4⟩, .drop 0, .drop 0]

end Sample

namespace Registry

namespace Held

def empty : Held := ⟨⟨∅, ∅⟩, []⟩

def step (h : Held) : Op → Held
  | .register backend connId keySecret =>
    match h.registry.register backend connId keySecret with
    | (.ok guard, registry) => ⟨registry, h.live ++ [(guard, backend)]⟩
    | (.error _, registry) => ⟨registry, h.live⟩
  | .drop index =>
    match h.live[index]? with
    | some (guard, _) => ⟨h.registry.release guard, h.live.eraseIdx index⟩
    | none => h

/-! ## What an operation can do -/

theorem split_at {α : Type} {l : List α} {i : Nat} {x : α} (h : l[i]? = some x) :
    ∃ l₁ l₂, l = l₁ ++ x :: l₂ ∧ l.eraseIdx i = l₁ ++ l₂ := by
  obtain ⟨hi, rfl⟩ := List.getElem?_eq_some_iff.mp h
  refine ⟨l.take i, l.drop (i + 1), ?_, List.eraseIdx_eq_take_drop_succ l i⟩
  rw [← List.drop_eq_getElem_cons hi, List.take_append_drop]

/-- A registration with a free key, the drop of a live guard, or nothing. -/
inductive Effect (h : Held) : Op → Held → Prop
  | idle {op : Op} : (∀ i, op = .drop i → h.live[i]? = none) → Effect h op h
  | registered {backend : Backend} {connId : Int32} {key : SessionKeySecret} :
      h.registry.lookupByKey key = none →
      Effect h (.register backend connId key)
        ⟨⟨h.registry.connBackend.insert connId backend, h.registry.keySecretBackend.insert key backend⟩,
          h.live ++ [(⟨connId, key⟩, backend)]⟩
  | dropped {i : Nat} {guard : SessionGuard} {backend : Backend} {l₁ l₂ : List (SessionGuard × Backend)} :
      h.live[i]? = some (guard, backend) → h.live = l₁ ++ (guard, backend) :: l₂ →
      Effect h (.drop i) ⟨h.registry.release guard, l₁ ++ l₂⟩

theorem step_effect (h : Held) (op : Op) : Effect h op (h.step op) := by
  cases op with
  | register backend connId key =>
    by_cases hkey : key ∈ h.registry.keySecretBackend
    · simp only [step, register, if_pos hkey]
      exact .idle (by simp)
    · simp only [step, register, if_neg hkey]
      exact .registered (AList.lookup_eq_none.mpr hkey)
  | drop i =>
    rcases hi : h.live[i]? with _ | ⟨guard, backend⟩
    · simp only [step, hi]
      refine .idle ?_
      intro j hj
      cases hj
      exact hi
    · obtain ⟨l₁, l₂, hl, he⟩ := split_at hi
      simp only [step, hi, he]
      exact .dropped hi hl

/-! ## Every live guard owns its key -/

structure Owned (h : Held) : Prop where
  keys : (h.live.map fun p => p.1.key).Nodup
  found : ∀ guard backend, (guard, backend) ∈ h.live → h.registry.lookupByKey guard.key = some backend
  /-- A connection that is listed has a live guard. -/
  conns : ∀ connId ∈ h.registry.connBackend, ∃ p ∈ h.live, p.1.connId = connId

/-- The keys of the guards around a dropped one are not its key. -/
theorem Owned.others {h : Held} (ho : Owned h) {guard : SessionGuard} {backend : Backend}
    {l₁ l₂ : List (SessionGuard × Backend)} (hl : h.live = l₁ ++ (guard, backend) :: l₂) :
    ∀ p ∈ l₁ ++ l₂, p.1.key ≠ guard.key := by
  have hkeys := ho.keys
  rw [hl, List.map_append, List.map_cons, List.nodup_middle, List.nodup_cons, ← List.map_append] at hkeys
  intro p hp he
  exact hkeys.1 (he ▸ List.mem_map_of_mem (f := fun p => p.1.key) hp)

theorem Owned.of_effect {h h' : Held} {op : Op} (ho : Owned h) (heffect : Effect h op h') : Owned h' := by
  cases heffect with
  | idle => exact ho
  | @registered backend connId key hfree =>
    refine ⟨?_, ?_, ?_⟩
    · rw [List.map_append, List.nodup_append]
      refine ⟨ho.keys, by simp, ?_⟩
      intro k hk k' hk' he
      obtain ⟨⟨guard, b⟩, hmem, hkey⟩ := List.mem_map.mp hk
      have hfound := ho.found guard b hmem
      simp only [List.map_cons, List.map_nil, List.mem_singleton] at hk'
      rw [hkey, he, hk', hfree] at hfound
      cases hfound
    · intro guard b hmem
      rcases List.mem_append.mp hmem with hmem | hmem
      · have hfound := ho.found guard b hmem
        have hne : guard.key ≠ key := by
          intro he
          rw [he, hfree] at hfound
          cases hfound
        exact (AList.lookup_insert_ne hne).trans hfound
      · cases List.mem_singleton.mp hmem
        exact AList.lookup_insert _
    · intro c hc
      rcases (AList.mem_insert _).mp hc with hc | hc
      · exact ⟨_, List.mem_append_right _ (List.mem_singleton_self _), hc.symm⟩
      · obtain ⟨p, hp, he⟩ := ho.conns c hc
        exact ⟨p, List.mem_append_left _ hp, he⟩
  | @dropped i guard backend l₁ l₂ hi hl =>
    have hothers := ho.others hl
    have hsub : ∀ p, p ∈ l₁ ++ l₂ → p ∈ h.live := by
      intro p hp
      rw [hl]
      simp only [List.mem_append, List.mem_cons] at hp ⊢
      rcases hp with hp | hp
      · exact Or.inl hp
      · exact Or.inr (Or.inr hp)
    refine ⟨?_, ?_, ?_⟩
    · have hkeys := ho.keys
      rw [hl, List.map_append, List.map_cons, List.nodup_middle, List.nodup_cons, ← List.map_append] at hkeys
      exact hkeys.2
    · intro g b hmem
      have hfound := ho.found g b (hsub _ hmem)
      unfold release
      split
      · exact (AList.lookup_erase_ne (hothers _ hmem)).trans hfound
      · exact hfound
    · intro c hc
      have hlisted : c ∈ h.registry.connBackend ∧ c ≠ guard.connId := by
        unfold release at hc
        split at hc
        · exact ⟨(AList.mem_erase.mp hc).2, (AList.mem_erase.mp hc).1⟩
        · rename_i hnot
          exact ⟨hc, fun he => hnot (he ▸ hc)⟩
      obtain ⟨p, hp, he⟩ := ho.conns c hlisted.1
      refine ⟨p, ?_, he⟩
      rw [hl] at hp
      simp only [List.mem_append, List.mem_cons] at hp ⊢
      rcases hp with hp | hp | hp
      · exact Or.inl hp
      · rw [hp] at he
        exact absurd he.symm hlisted.2
      · exact Or.inr hp

theorem owned_empty : Owned empty := by
  refine ⟨List.nodup_nil, ?_, ?_⟩
  · intro guard backend h
    cases h
  · intro c h
    exact absurd h (AList.notMem_empty c)

theorem owned_run (ops : List Op) : Owned (run step empty ops) :=
  run_invariant (fun _ op ho => ho.of_effect (step_effect _ op)) owned_empty ops

/-! ## Keys and guards -/

/-- A key finds a backend exactly when a live guard was handed out for both; without
    live guards the registry is empty. -/
def KeysLive (h : Held) : Prop :=
  (∀ key backend, h.registry.lookupByKey key = some backend ↔ ∃ guard, (guard, backend) ∈ h.live ∧ guard.key = key) ∧
    (h.live = [] → h.registry = ⟨∅, ∅⟩)

/-- A drop finds its connection in the registry. -/
def FreesKey (h : Held) : Op → Prop
  | .register _ _ _ => True
  | .drop i => ∀ guard backend, h.live[i]? = some (guard, backend) → guard.connId ∈ h.registry.connBackend

/-- No key outlives its guard. -/
def NoOrphan (h : Held) : Prop :=
  ∀ key backend, h.registry.lookupByKey key = some backend → ∃ guard, (guard, backend) ∈ h.live ∧ guard.key = key

theorem eq_empty_of_lookup {α β : Type} [DecidableEq α] {m : AList fun _ : α => β} (h : ∀ a, m.lookup a = none) : m = ∅ := by
  refine AList.ext (List.eq_nil_iff_forall_not_mem.mpr ?_)
  intro e he
  have := AList.mem_lookup_iff.mpr he
  rw [h e.1] at this
  cases this

theorem keysLive_iff {h : Held} (ho : Owned h) : KeysLive h ↔ NoOrphan h := by
  constructor
  · intro hk key backend hfound
    exact (hk.1 key backend).mp hfound
  · intro hno
    refine ⟨?_, ?_⟩
    · intro key backend
      constructor
      · exact hno key backend
      · intro hlive
        obtain ⟨guard, hmem, hkey⟩ := hlive
        rw [← hkey]
        exact ho.found guard backend hmem
    · intro hnil
      have hkeys : h.registry.keySecretBackend = ∅ := eq_empty_of_lookup fun key => by
        rcases hl : h.registry.keySecretBackend.lookup key with _ | backend
        · rfl
        · obtain ⟨guard, hmem, -⟩ := hno key backend hl
          rw [hnil] at hmem
          cases hmem
      have hconns : h.registry.connBackend = ∅ := eq_empty_of_lookup fun connId => by
        rw [AList.lookup_eq_none]
        intro hc
        obtain ⟨p, hp, -⟩ := ho.conns connId hc
        rw [hnil] at hp
        cases hp
      rcases h with ⟨⟨connBackend, keySecretBackend⟩, live⟩
      exact congrArg₂ Registry.mk hconns hkeys

theorem noOrphan_effect_iff {h h' : Held} {op : Op} (ho : Owned h) (hno : NoOrphan h) (heffect : Effect h op h') :
    NoOrphan h' ↔ FreesKey h op := by
  cases heffect with
  | idle hidle =>
    refine ⟨fun _ => ?_, fun _ => hno⟩
    cases op with
    | register => trivial
    | drop i =>
      intro guard backend hi
      rw [hidle i rfl] at hi
      cases hi
  | @registered backend connId key hfree =>
    refine ⟨fun _ => trivial, fun _ => ?_⟩
    intro k b hfound
    by_cases hk : k = key
    · subst hk
      have hb : some backend = some b := (AList.lookup_insert _).symm.trans hfound
      cases hb
      exact ⟨_, List.mem_append_right _ (List.mem_singleton_self _), rfl⟩
    · obtain ⟨guard, hmem, he⟩ := hno k b ((AList.lookup_insert_ne hk).symm.trans hfound)
      exact ⟨guard, List.mem_append_left _ hmem, he⟩
  | @dropped i guard backend l₁ l₂ hi hl =>
    have hothers := ho.others hl
    constructor
    · intro h' g b hg
      rw [hi] at hg
      cases hg
      by_contra hgone
      -- the key stays, and its guard does not
      have hfound : (h.registry.release guard).lookupByKey guard.key = some backend := by
        unfold release
        rw [if_neg hgone]
        exact ho.found guard backend (by rw [hl]; simp)
      obtain ⟨other, hmem, he⟩ := h' guard.key backend hfound
      exact hothers _ hmem he
    · intro hfrees k b hfound
      unfold release at hfound
      rw [if_pos (hfrees guard backend hi)] at hfound
      by_cases hk : k = guard.key
      · subst hk
        rw [lookupByKey, AList.lookup_erase] at hfound
        cases hfound
      · obtain ⟨other, hmem, he⟩ := hno k b ((AList.lookup_erase_ne hk).symm.trans hfound)
        rw [hl] at hmem
        simp only [List.mem_append, List.mem_cons] at hmem
        rcases hmem with hmem | hmem | hmem
        · exact ⟨other, List.mem_append_left _ hmem, he⟩
        · cases hmem
          exact absurd he.symm hk
        · exact ⟨other, List.mem_append_right _ hmem, he⟩

theorem noOrphan_empty : NoOrphan empty := by
  intro key backend h
  cases h

theorem always_noOrphan_iff (ops : List Op) : Always step NoOrphan empty ops ↔ Allowed step FreesKey empty ops :=
  always_iff_allowed (fun _ op ho => Owned.of_effect ho (step_effect _ op))
    (fun _ op ho hno => noOrphan_effect_iff ho hno (step_effect _ op)) owned_empty noOrphan_empty ops

theorem always_keysLive_iff (ops : List Op) : Always step KeysLive empty ops ↔ Always step NoOrphan empty ops := by
  constructor
  · intro h pre hpre
    exact (keysLive_iff (owned_run pre)).mp (h pre hpre)
  · intro h pre hpre
    exact (keysLive_iff (owned_run pre)).mpr (h pre hpre)

/-- Keys live exactly as long as their guards, in the runs in which each drop finds its
    connection. -/
theorem keys_live_iff (ops : List Op) : Always step KeysLive empty ops ↔ Allowed step FreesKey empty ops :=
  (always_keysLive_iff ops).trans (always_noOrphan_iff ops)

/-- Two sessions of one connection id: the second drop finds no connection, and leaves its
    key behind. -/
theorem shared_id_orphans_a_key :
    (run step empty Sample.sharedId).live = [] ∧
    (run step empty Sample.sharedId).registry.lookupByKey ⟨3, 4⟩ = some Sample.backend ∧
    ¬ Always step KeysLive empty Sample.sharedId := by
  refine ⟨rfl, rfl, ?_⟩
  intro h
  obtain ⟨guard, hmem, -⟩ := (h.last.1 ⟨3, 4⟩ Sample.backend).mp rfl
  cases hmem

/-! ## Connections with ids of their own -/

/-- No live guard has the id of a new connection. -/
def FreshConn (h : Held) : Op → Prop
  | .register _ connId _ => ∀ p ∈ h.live, p.1.connId ≠ connId
  | .drop _ => True

/-- Every live guard has an entry of its own in the other map. -/
structure Separate (h : Held) : Prop where
  conns : (h.live.map fun p => p.1.connId).Nodup
  listed : ∀ p ∈ h.live, p.1.connId ∈ h.registry.connBackend

theorem Separate.of_effect {h h' : Held} {op : Op} (hs : Separate h) (hfresh : FreshConn h op) (heffect : Effect h op h') :
    Separate h' := by
  cases heffect with
  | idle => exact hs
  | @registered backend connId key _ =>
    refine ⟨?_, ?_⟩
    · rw [List.map_append, List.nodup_append]
      refine ⟨hs.conns, by simp, ?_⟩
      intro c hc c' hc' he
      obtain ⟨p, hp, hid⟩ := List.mem_map.mp hc
      rw [List.mem_singleton.mp hc'] at he
      exact hfresh p hp (hid.trans he)
    · intro p hp
      rcases List.mem_append.mp hp with hp | hp
      · exact (AList.mem_insert _).mpr (Or.inr (hs.listed p hp))
      · rw [List.mem_singleton.mp hp]
        exact (AList.mem_insert _).mpr (Or.inl rfl)
  | @dropped i guard backend l₁ l₂ hi hl =>
    have hconns := hs.conns
    rw [hl, List.map_append, List.map_cons, List.nodup_middle, List.nodup_cons, ← List.map_append] at hconns
    refine ⟨hconns.2, ?_⟩
    intro p hp
    have hne : p.1.connId ≠ guard.connId := by
      intro he
      exact hconns.1 (he ▸ List.mem_map_of_mem (f := fun p => p.1.connId) hp)
    have hlisted := hs.listed p (by
      rw [hl]
      simp only [List.mem_append, List.mem_cons] at hp ⊢
      rcases hp with hp | hp
      · exact Or.inl hp
      · exact Or.inr (Or.inr hp))
    unfold release
    split
    · exact AList.mem_erase.mpr ⟨hne, hlisted⟩
    · exact hlisted

/-- So keys do live as long as their guards while no two sessions share a connection id. -/
theorem keys_live_of_fresh {ops : List Op} (h : Allowed step FreshConn empty ops) : Always step KeysLive empty ops := by
  have hempty : Separate empty := by
    refine ⟨List.nodup_nil, ?_⟩
    intro p hp
    cases hp
  have hseparate := always_of_allowed (fun _ op hs hfresh => Separate.of_effect hs hfresh (step_effect _ op)) hempty h
  refine (always_keysLive_iff ops).mpr ((always_noOrphan_iff ops).mpr ?_)
  intro pre op hpre
  cases op with
  | register => trivial
  | drop i =>
    intro guard backend hi
    exact (hseparate pre ((List.prefix_append pre _).trans hpre)).listed _ (List.mem_of_getElem? hi)

end Held

end Registry

end Wirechaos
