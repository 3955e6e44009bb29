/-
  Wirechaos.Credentials.StalenessProofs — how old an answer of an `AuthQuerySource` can be
  (see `Wirechaos.Credentials.ForgetRace`).

  A lookup takes the time when it is called, asks the database later, and records its
  answer under the earlier time. So whatever the lookups, the changes of the database and
  the clock do in between, an answer is what the database said at some moment no further
  before the call than the time to live of its kind; a failure is never remembered, so it
  is from the call itself (`answers_are_recent`). The proof carries, for each cache entry
  and each lookup under way, the beginning of the run at which its row was read.
-/

import Wirechaos.Credentials.ForgetRace

namespace Wirechaos

open Text Async Machine

/-- What a lookup makes of the answer of the database. -/
def rowAnswer : Except Str (Option Str) → Except ProviderError (Option Verifier)
  | .error reason => .error (.unavailable reason)
  | .ok none => .ok none
  | .ok (some secret) =>
    match Verifier.fromPgSecret secret with
    | .error e => .error (.unavailable (AuthQuerySource.secretText e))
    | .ok verifier => .ok (some verifier)

theorem settle_fst (cache : LookupCache) (username : Str) (now : Nat) (row : Except Str (Option Str)) :
    (settle cache username now row).1 = rowAnswer row := by
  rcases row with reason | _ | secret
  · rfl
  · rfl
  · rcases hsecret : Verifier.fromPgSecret secret with e | verifier <;> simp only [settle, rowAnswer, hsecret]

namespace LookupCache

/-- How long an answer of this kind may be remembered. -/
def allowance (c : LookupCache) : Except ProviderError (Option Verifier) → Nat
  | .ok (some _) => c.positiveTtl
  | .ok none => c.negativeTtl
  | .error _ => 0

theorem allowance_answer (c : LookupCache) (e : CacheEntry) : c.allowance (.ok e.answer) = c.ttl e := by
  cases e <;> rfl

structure SameTtl (c c' : LookupCache) : Prop where
  positive : c'.positiveTtl = c.positiveTtl
  negative : c'.negativeTtl = c.negativeTtl

theorem SameTtl.allowance {c c' : LookupCache} (h : SameTtl c c') (answer : Except ProviderError (Option Verifier)) :
    c'.allowance answer = c.allowance answer := by
  rcases answer with e | _ | verifier
  · rfl
  · exact h.negative
  · exact h.positive

theorem sameTtl_evictIfNeeded (c : LookupCache) (now : Nat) : SameTtl c (c.evictIfNeeded now) := by
  obtain ⟨-, hevict⟩ | ⟨-, -, hevict⟩ | ⟨-, -, hevict⟩ := c.evictIfNeeded_cases now <;> rw [hevict] <;> exact ⟨rfl, rfl⟩

theorem sameTtl_get (c : LookupCache) (u : Str) (now : Nat) : SameTtl c (c.get u now).2 := by
  obtain hget | hget := c.get_cases u now <;> rw [hget] <;> exact ⟨rfl, rfl⟩

/-- What is left in the cache by a lookup was there. -/
theorem lookup_of_get {c : LookupCache} {u v : Str} {now : Nat} {e : CacheEntry}
    (h : (c.get u now).2.entries.lookup v = some e) : c.entries.lookup v = some e := by
  obtain hget | hget := c.get_cases u now
  · rwa [hget] at h
  · rw [hget] at h
    by_cases huv : v = u
    · rw [huv] at h
      have hnone : (c.entries.erase u).lookup u = some e := h
      rw [AList.lookup_erase] at hnone
      cases hnone
    · exact (AList.lookup_erase_ne huv).symm.trans h

theorem lookup_of_insert {c : LookupCache} {u v : Str} {now : Nat} {e e' : CacheEntry}
    (h : ((c.evictIfNeeded now).entries.insert u e').lookup v = some e) :
    (v = u ∧ e = e') ∨ c.entries.lookup v = some e := by
  by_cases huv : v = u
  · rw [huv, AList.lookup_insert] at h
    exact .inl ⟨huv, (Option.some.inj h).symm⟩
  · rw [AList.lookup_insert_ne huv] at h
    exact .inr (lookup_evictIfNeeded h)

end LookupCache

theorem sameTtl_settle (cache : LookupCache) (username : Str) (now : Nat) (row : Except Str (Option Str)) :
    LookupCache.SameTtl cache (settle cache username now row).2 := by
  have hevict := cache.sameTtl_evictIfNeeded now
  rcases row with reason | _ | secret
  · exact ⟨rfl, rfl⟩
  · exact ⟨hevict.positive, hevict.negative⟩
  · simp only [settle]
    split
    · exact ⟨rfl, rfl⟩
    · exact ⟨hevict.positive, hevict.negative⟩

/-- An entry is the answer just settled, under the time of its call, or an older one. -/
theorem lookup_of_settle {cache : LookupCache} {username u : Str} {now : Nat} {row : Except Str (Option Str)} {e : CacheEntry}
    (h : (settle cache username now row).2.entries.lookup u = some e) :
    (u = username ∧ e.recorded = now ∧ rowAnswer row = .ok e.answer) ∨ cache.entries.lookup u = some e := by
  rcases row with reason | _ | secret
  · exact .inr h
  · rcases LookupCache.lookup_of_insert h with ⟨hu, rfl⟩ | hold
    · exact .inl ⟨hu, rfl, rfl⟩
    · exact .inr hold
  · simp only [settle] at h
    split at h
    · exact .inr h
    · rename_i verifier hsecret
      rcases LookupCache.lookup_of_insert h with ⟨hu, rfl⟩ | hold
      · exact .inl ⟨hu, rfl, by simp only [rowAnswer, hsecret, CacheEntry.answer]⟩
      · exact .inr hold

namespace Lookups

variable {source : AuthQuerySource} {as pre : List LookupAct} {i : Nat} {user : Str} {now : Nat}

/-- The source after a run. -/
def after (source : AuthQuerySource) (as : List LookupAct) : AuthQuerySource := (run step (start source) as).source

/-- The lookup was called at this time. -/
def CalledAt (source : AuthQuerySource) (as : List LookupAct) (i : Nat) (user : Str) (now : Nat) : Prop :=
  ∃ pre forgot, pre <+: as ∧ (run step (start source) pre).calls i = .called user now forgot ∧ (after source pre).now = now

/-- At some point of the run this was what the database said of the user, and it was not
    before this time. -/
def ReadSince (source : AuthQuerySource) (as : List LookupAct) (user : Str)
    (answer : Except ProviderError (Option Verifier)) (time : Nat) : Prop :=
  ∃ pre, pre <+: as ∧ rowAnswer ((after source pre).database user) = answer ∧ time ≤ (after source pre).now

theorem CalledAt.mono {bs : List LookupAct} (h : CalledAt source as i user now) (hlonger : as <+: bs) :
    CalledAt source bs i user now := by
  obtain ⟨pre, forgot, hpre, hcall, hnow⟩ := h
  exact ⟨pre, forgot, hpre.trans hlonger, hcall, hnow⟩

theorem ReadSince.mono {bs : List LookupAct} {answer : Except ProviderError (Option Verifier)} {time time' : Nat}
    (h : ReadSince source as user answer time) (hlonger : as <+: bs) (htime : time' ≤ time) :
    ReadSince source bs user answer time' := by
  obtain ⟨pre, hpre, hanswer, hnow⟩ := h
  exact ⟨pre, hpre.trans hlonger, hanswer, htime.trans hnow⟩

/-- The clock of the source does not go back. -/
theorem now_step (s : Lookups) (a : LookupAct) : s.source.now ≤ (s.step a).source.now := by
  cases a with
  | elapse ticks => exact Nat.le_add_right _ _
  | forget user => exact Nat.le_refl _
  | alter user row => exact Nat.le_refl _
  | _ =>
    simp only [step, act]
    split
    · first
        | exact Nat.le_refl _
        | (split <;> exact Nat.le_refl _)
    · exact Nat.le_refl _

theorem now_mono (h : pre <+: as) : (after source pre).now ≤ (after source as).now := by
  obtain ⟨bs, rfl⟩ := h
  rw [after, after, run_append]
  exact run_invariant (I := fun s : Lookups => (run step (start source) pre).source.now ≤ s.source.now)
    (fun s a hs => hs.trans (now_step s a)) (Nat.le_refl _) bs

theorem CalledAt.le (h : CalledAt source as i user now) : now ≤ (after source as).now := by
  obtain ⟨pre, forgot, hpre, -, hnow⟩ := h
  rw [← hnow]
  exact now_mono hpre

/-! ## The rows behind the answers -/

/-- What is known of a lookup under way, and of one that is over. -/
def Traced (source : AuthQuerySource) (as : List LookupAct) (i : Nat) : Call → Prop
  | .idle => True
  | .called user now _ => CalledAt source as i user now
  | .missed user now _ => CalledAt source as i user now
  | .answered user now _ row _ => CalledAt source as i user now ∧ ReadSince source as user (rowAnswer row) now
  | .done user _ answer _ =>
    ∃ now, CalledAt source as i user now ∧ ReadSince source as user answer (now - source.cache.allowance answer)

theorem Traced.mono {bs : List LookupAct} {call : Call} (h : Traced source as i call) (hlonger : as <+: bs) :
    Traced source bs i call := by
  cases call with
  | idle => trivial
  | called user now forgot => exact CalledAt.mono h hlonger
  | missed user now forgot => exact CalledAt.mono h hlonger
  | answered user now forgot row readAt => exact ⟨h.1.mono hlonger, h.2.mono hlonger (Nat.le_refl _)⟩
  | done user forgot answer readAt =>
    obtain ⟨now, hcalled, hread⟩ := h
    exact ⟨now, hcalled.mono hlonger, hread.mono hlonger (Nat.le_refl _)⟩

/-- Every entry and every lookup goes back to a row that was read. -/
structure Witnessed (source : AuthQuerySource) (as : List LookupAct) (s : Lookups) : Prop where
  ttl : source.cache.SameTtl s.source.cache
  cached : ∀ u e, s.source.cache.entries.lookup u = some e → ReadSince source as u (.ok e.answer) e.recorded
  calls : ∀ i, Traced source as i (s.calls i)

theorem Witnessed.mono {bs : List LookupAct} {s : Lookups} (h : Witnessed source as s) (hlonger : as <+: bs) :
    Witnessed source bs s :=
  ⟨h.ttl, fun u e he => (h.cached u e he).mono hlonger (Nat.le_refl _), fun i => (h.calls i).mono hlonger⟩

theorem Witnessed.setCall {s : Lookups} (h : Witnessed source as s) (i : Nat) (call : Call) (hcall : Traced source as i call) :
    Witnessed source as (s.setCall i call) := by
  refine ⟨h.ttl, h.cached, fun j => ?_⟩
  by_cases hj : j = i
  · subst hj
    simp only [Lookups.setCall, Function.update_self]
    exact hcall
  · simp only [Lookups.setCall, Function.update_of_ne hj]
    exact h.calls j

theorem Witnessed.setCache {s : Lookups} (h : Witnessed source as s) {cache : LookupCache}
    (httl : s.source.cache.SameTtl cache)
    (hcache : ∀ u e, cache.entries.lookup u = some e → ReadSince source as u (.ok e.answer) e.recorded) :
    Witnessed source as (s.setCache cache) :=
  ⟨⟨httl.positive.trans h.ttl.positive, httl.negative.trans h.ttl.negative⟩, hcache, h.calls⟩

theorem witnessed_step (h : Witnessed source as (run step (start source) as)) (a : LookupAct) :
    Witnessed source (as ++ [a]) (run step (start source) (as ++ [a])) := by
  have hlonger : as <+: as ++ [a] := List.prefix_append as [a]
  have hlast : as ++ [a] <+: as ++ [a] := List.prefix_refl _
  suffices hact : Witnessed source (as ++ [a]) ((run step (start source) as).act a) by
    rw [run_concat]
    exact ⟨hact.ttl, hact.cached, hact.calls⟩
  have hbefore := h.mono hlonger
  cases a with
  | call i user =>
    by_cases hidle : (run step (start source) as).calls i = .idle
    · have hact : (run step (start source) as).act (.call i user) = (run step (start source) as).setCall i
          (.called user (after source as).now ((run step (start source) as).forgotAt user)) := by
        simp only [act, hidle, after]
      have hrun : run step (start source) (as ++ [.call i user]) =
          { (run step (start source) as).act (.call i user) with clock := (run step (start source) as).clock + 1 } := by
        rw [run_concat]
        rfl
      have hcalled : CalledAt source (as ++ [.call i user]) i user (after source as).now := by
        refine ⟨_, (run step (start source) as).forgotAt user, hlast, ?_, ?_⟩
        · rw [hrun, hact]
          exact Function.update_self ..
        · rw [after, hrun, hact]
          rfl
      rw [hact]
      exact hbefore.setCall i _ hcalled
    · have hact : (run step (start source) as).act (.call i user) = run step (start source) as := by
        simp only [act]
      rw [hact]
      exact hbefore
  | check i =>
    simp only [act]
    split
    · rename_i user now forgot hcall
      have hcalled : CalledAt source (as ++ [.check i]) i user now := by
        have := hbefore.calls i
        rwa [hcall] at this
      have hcache := hbefore.setCache ((run step (start source) as).source.cache.sameTtl_get user now)
        fun u e he => hbefore.cached u e (LookupCache.lookup_of_get he)
      split
      · rename_i answer cache hget
        rw [hget] at hcache
        -- the entry was recorded at most its time to live before this call
        obtain ⟨e, hentry, hlive, rfl⟩ := (LookupCache.get_eq_some _ user now).mp (congrArg Prod.fst hget)
        refine hcache.setCall i _ ⟨now, hcalled, (hbefore.cached user e hentry).mono (List.prefix_refl _) ?_⟩
        rw [← hbefore.ttl.allowance, LookupCache.allowance_answer]
        omega
      · rename_i cache hget
        rw [hget] at hcache
        exact hcache.setCall i _ hcalled
    · exact hbefore
  | query i =>
    simp only [act]
    split
    · rename_i user now forgot hcall
      have hcalled : CalledAt source as i user now := by
        have := h.calls i
        rwa [hcall] at this
      exact hbefore.setCall i _ ⟨hcalled.mono hlonger, as, hlonger, rfl, hcalled.le⟩
    · exact hbefore
  | insert i =>
    simp only [act]
    split
    · rename_i user now forgot row readAt hcall
      have htraced := hbefore.calls i
      rw [hcall] at htraced
      obtain ⟨hcalled, hread⟩ := htraced
      have hcache := hbefore.setCache (sameTtl_settle (run step (start source) as).source.cache user now row) (by
        intro u e he
        rcases lookup_of_settle he with ⟨rfl, hrecorded, hrowAnswer⟩ | hold
        · rw [hrecorded, ← hrowAnswer]
          exact hread
        · exact hbefore.cached u e hold)
      have hdone := hcache.setCall i (.done user forgot (rowAnswer row) readAt)
        ⟨now, hcalled, hread.mono (List.prefix_refl _) (Nat.sub_le _ _)⟩
      rw [settle_fst]
      split
      · exact ⟨hdone.ttl, hdone.cached, hdone.calls⟩
      · exact ⟨hdone.ttl, hdone.cached, hdone.calls⟩
    · exact hbefore
  | forget user =>
    refine ⟨⟨hbefore.ttl.positive, hbefore.ttl.negative⟩, fun u e he => ?_, hbefore.calls⟩
    by_cases hu : u = user
    · rw [hu] at he
      have hnone : ((run step (start source) as).source.cache.entries.erase user).lookup user = some e := he
      rw [AList.lookup_erase] at hnone
      cases hnone
    · exact hbefore.cached u e ((AList.lookup_erase_ne hu).symm.trans he)
  | alter user row => exact ⟨⟨hbefore.ttl.positive, hbefore.ttl.negative⟩, hbefore.cached, hbefore.calls⟩
  | elapse ticks => exact ⟨⟨hbefore.ttl.positive, hbefore.ttl.negative⟩, hbefore.cached, hbefore.calls⟩

theorem witnessed_run (hempty : source.cache.entries = ∅) (as : List LookupAct) :
    Witnessed source as (run step (start source) as) := by
  induction as using List.reverseRecOn with
  | nil =>
    refine ⟨⟨rfl, rfl⟩, fun u e he => ?_, fun i => trivial⟩
    have hnone : source.cache.entries.lookup u = some e := he
    rw [hempty, AList.lookup_empty] at hnone
    cases hnone
  | append_singleton as a ih => exact witnessed_step ih a

/-- In every run that begins with an empty cache, what a lookup answers was in the database
    at a moment at most one time to live before the lookup was called. -/
theorem answers_are_recent (hempty : source.cache.entries = ∅) {as : List LookupAct} {forgot readAt : Nat}
    {answer : Except ProviderError (Option Verifier)}
    (h : (run step (start source) as).calls i = .done user forgot answer readAt) :
    ∃ now, CalledAt source as i user now ∧ ReadSince source as user answer (now - source.cache.allowance answer) := by
  have htraced := (witnessed_run hempty as).calls i
  rwa [h] at htraced

end Lookups

namespace Sample

/-- The second lookup is answered from the cache when the row has long changed. -/
def staleAnswer : List LookupAct :=
  [.call 0 "alice".toList, .check 0, .query 0, .insert 0, alterAlice, .elapse 5, .call 1 "alice".toList, .check 1]

end Sample

namespace Lookups

theorem answers_are_recent_stale :
    ∃ now, CalledAt Sample.emptySource Sample.staleAnswer 1 "alice".toList now ∧
      ReadSince Sample.emptySource Sample.staleAnswer "alice".toList (.ok none)
        (now - Sample.emptySource.cache.allowance (.ok none)) :=
  answers_are_recent rfl
    (show (run step (start Sample.emptySource) Sample.staleAnswer).calls 1 = .done "alice".toList 0 (.ok none) 3 from rfl)

end Lookups

end Wirechaos
