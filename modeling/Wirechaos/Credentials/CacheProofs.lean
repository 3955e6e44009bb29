/-
  Wirechaos.Credentials.CacheProofs — the lookup cache over any history (see
  `Wirechaos.Credentials.Store`).

  - `LookupCache.fresh_and_bounded`: the cache never holds more entries than it may, what
    it answers of a user is what was last inserted for them and no older than the time to
    live of its kind, and to ask of one user changes nothing for another.
  - `LookupCache.insert_keeps_others_iff`: exactly when an insertion keeps the answers of
    the other users.
-/

import Wirechaos.Credentials.Store
import Wirechaos.Lib.Machine
import Wirechaos.Lib.Retain

namespace Wirechaos

open Text

namespace CacheEntry

def recorded : CacheEntry → Nat
  | .positive _ recorded => recorded
  | .negative recorded => recorded

/-- What a live entry answers. -/
def answer : CacheEntry → Option Verifier
  | .positive verifier _ => some verifier
  | .negative _ => none

end CacheEntry

namespace LookupCache

def ttl (c : LookupCache) : CacheEntry → Nat
  | .positive _ _ => c.positiveTtl
  | .negative _ => c.negativeTtl

/-! ## What each operation does to the entries -/

variable (c : LookupCache) (u v : Str) (now : Nat)

theorem get_eq : c.get u now =
    match c.entries.lookup u with
    | none => (none, c)
    | some e =>
      if now - e.recorded ≤ c.ttl e then (some e.answer, c) else (none, { c with entries := c.entries.erase u }) := by
  unfold get
  cases c.entries.lookup u with
  | none => rfl
  | some e => cases e <;> rfl

/-- What an entry answers at a time. -/
def answerAt (e : CacheEntry) : Option (Option Verifier) := if now - e.recorded ≤ c.ttl e then some e.answer else none

theorem get_fst : (c.get u now).1 = (c.entries.lookup u).bind (c.answerAt now) := by
  rw [get_eq]
  cases c.entries.lookup u with
  | none => rfl
  | some e =>
    show (if now - e.recorded ≤ c.ttl e then (some e.answer, c) else (none, _)).1 = c.answerAt now e
    unfold answerAt
    by_cases hlive : now - e.recorded ≤ c.ttl e
    · rw [if_pos hlive, if_pos hlive]
    · rw [if_neg hlive, if_neg hlive]

theorem answerAt_eq_some {e : CacheEntry} {answer : Option Verifier} :
    c.answerAt now e = some answer ↔ now - e.recorded ≤ c.ttl e ∧ e.answer = answer := by
  unfold answerAt
  by_cases hlive : now - e.recorded ≤ c.ttl e
  · rw [if_pos hlive, Option.some.injEq, and_iff_right hlive]
  · simp only [if_neg hlive, reduceCtorEq, false_iff]
    exact fun h => hlive h.1

theorem get_eq_some {answer : Option Verifier} : (c.get u now).1 = some answer ↔
    ∃ e, c.entries.lookup u = some e ∧ now - e.recorded ≤ c.ttl e ∧ e.answer = answer := by
  simp only [get_fst, Option.bind_eq_some_iff, answerAt_eq_some]

/-- A lookup leaves the cache or drops its user's entry. -/
theorem get_cases : (c.get u now).2 = c ∨ (c.get u now).2 = { c with entries := c.entries.erase u } := by
  rw [get_eq]
  cases c.entries.lookup u with
  | none => exact .inl rfl
  | some e =>
    by_cases hlive : now - e.recorded ≤ c.ttl e
    · simp [hlive]
    · simp [hlive]

theorem getNegative_snd : (c.getNegative u now).2 = (c.get u now).2 := by
  unfold getNegative
  split
  · rename_i hget
    rw [hget]
    split <;> rfl
  · rename_i hget
    rw [hget]

theorem fresh_iff (e : CacheEntry) : c.fresh now e = true ↔ now - e.recorded < c.ttl e := by
  cases e <;> exact decide_eq_true_iff

/-- What `evict_if_needed` retains. -/
def retained : AList fun _ : Str => CacheEntry := (c.entries.entries.filter fun e => c.fresh now e.2).toAList

theorem evictIfNeeded_cases :
    c.entries.entries.length < c.maxEntries ∧ c.evictIfNeeded now = c ∨
    c.maxEntries ≤ c.entries.entries.length ∧ (c.retained now).entries.length < c.maxEntries ∧
      c.evictIfNeeded now = { c with entries := c.retained now } ∨
    c.maxEntries ≤ c.entries.entries.length ∧ c.maxEntries ≤ (c.retained now).entries.length ∧
      c.evictIfNeeded now = { c with entries := ∅ } := by
  by_cases hroom : c.entries.entries.length < c.maxEntries
  · exact .inl ⟨hroom, if_pos hroom⟩
  · right
    have hevict : c.evictIfNeeded now =
        { c with entries := if (c.retained now).entries.length ≥ c.maxEntries then ∅ else c.retained now } :=
      if_neg hroom
    by_cases hfull : (c.retained now).entries.length ≥ c.maxEntries
    · rw [if_pos hfull] at hevict
      exact .inr ⟨by omega, hfull, hevict⟩
    · rw [if_neg hfull] at hevict
      exact .inl ⟨by omega, by omega, hevict⟩

end LookupCache

/-! ## A history of calls -/

inductive CacheCall where
  | get (username : Str) (now : Nat)
  | getNegative (username : Str) (now : Nat)
  | insertPositive (username : Str) (verifier : Verifier) (now : Nat)
  | insertNegative (username : Str) (now : Nat)
  | forget (username : Str)
  deriving DecidableEq

namespace CacheCall

/-- The calls that say what is known of a user. -/
def tells (u : Str) : CacheCall → Bool
  | .get _ _ => false
  | .getNegative _ _ => false
  | .insertPositive username _ _ => username = u
  | .insertNegative username _ => username = u
  | .forget username => username = u

/-- The call that inserted an entry. -/
def inserting (u : Str) : CacheEntry → CacheCall
  | .positive verifier recorded => .insertPositive u verifier recorded
  | .negative recorded => .insertNegative u recorded

/-- The most recent insertion or forgetting of a user. -/
def lastTold (u : Str) (history : List CacheCall) : Option CacheCall := (history.filter (tells u)).getLast?

theorem lastTold_of_tells {u : Str} {call : CacheCall} (h : call.tells u = true) (history : List CacheCall) :
    lastTold u (history ++ [call]) = some call := by
  simp [lastTold, h]

theorem lastTold_of_not_tells {u : Str} {call : CacheCall} (h : call.tells u = false) (history : List CacheCall) :
    lastTold u (history ++ [call]) = lastTold u history := by
  simp [lastTold, h]

end CacheCall

namespace LookupCache

def step (c : LookupCache) : CacheCall → LookupCache
  | .get username now => (c.get username now).2
  | .getNegative username now => (c.getNegative username now).2
  | .insertPositive username verifier now => c.insertPositive username verifier now
  | .insertNegative username now => c.insertNegative username now
  | .forget username => c.forget username

/-! ### One call -/

/-- Eviction adds nothing. -/
theorem lookup_evictIfNeeded {c : LookupCache} {now : Nat} {u : Str} {e : CacheEntry}
    (h : (c.evictIfNeeded now).entries.lookup u = some e) : c.entries.lookup u = some e := by
  obtain ⟨-, hevict⟩ | ⟨-, -, hevict⟩ | ⟨-, -, hevict⟩ := c.evictIfNeeded_cases now
  · rwa [hevict] at h
  · rw [hevict] at h
    exact ((Retain.lookup_filter_toAList _ _).mp h).1
  · rw [hevict] at h
    simp at h

/-- Eviction makes room. -/
theorem length_evictIfNeeded_lt (c : LookupCache) (now : Nat) (hmax : 0 < c.maxEntries) :
    (c.evictIfNeeded now).entries.entries.length < c.maxEntries := by
  obtain ⟨hroom, hevict⟩ | ⟨-, hroom, hevict⟩ | ⟨-, -, hevict⟩ := c.evictIfNeeded_cases now
  · rw [hevict]
    exact hroom
  · rw [hevict]
    exact hroom
  · rw [hevict]
    exact hmax

/-- The settings of a cache. -/
def SameSettings (c c' : LookupCache) : Prop :=
  c'.positiveTtl = c.positiveTtl ∧ c'.negativeTtl = c.negativeTtl ∧ c'.maxEntries = c.maxEntries

theorem evictIfNeeded_settings (c : LookupCache) (now : Nat) : SameSettings c (c.evictIfNeeded now) := by
  obtain ⟨-, h⟩ | ⟨-, -, h⟩ | ⟨-, -, h⟩ := c.evictIfNeeded_cases now
  all_goals rw [h]; exact ⟨rfl, rfl, rfl⟩

theorem step_settings (c : LookupCache) (call : CacheCall) : SameSettings c (c.step call) := by
  have hget (u : Str) (now : Nat) : SameSettings c (c.get u now).2 := by
    obtain h | h := c.get_cases u now
    all_goals rw [h]; exact ⟨rfl, rfl, rfl⟩
  cases call with
  | get u now => exact hget u now
  | getNegative u now =>
    show SameSettings c (c.getNegative u now).2
    rw [getNegative_snd]
    exact hget u now
  | insertPositive u verifier now => exact evictIfNeeded_settings c now
  | insertNegative u now => exact evictIfNeeded_settings c now
  | forget u => exact ⟨rfl, rfl, rfl⟩

/-- What a call leaves in the cache was there and is not what the call is about, or is
    what it inserted; and the cache stays within its bound. -/
theorem step_spec (c : LookupCache) (call : CacheCall) (hmax : 0 < c.maxEntries)
    (hsize : c.entries.entries.length ≤ c.maxEntries) :
    (∀ u e, (c.step call).entries.lookup u = some e →
      call.tells u = false ∧ c.entries.lookup u = some e ∨ call = CacheCall.inserting u e) ∧
    (c.step call).entries.entries.length ≤ c.maxEntries := by
  have herase (v u : Str) (e : CacheEntry) (h : (c.entries.erase v).lookup u = some e) :
      v ≠ u ∧ c.entries.lookup u = some e := by
    by_cases huv : u = v
    · subst huv
      simp at h
    · rw [AList.lookup_erase_ne huv] at h
      exact ⟨fun hvu => huv hvu.symm, h⟩
  have hshrink (v : Str) : (c.entries.erase v).entries.length ≤ c.maxEntries :=
    Nat.le_trans (Retain.length_entries_erase_le _ _) hsize
  have hget (v : Str) (now : Nat) : (∀ u e, (c.get v now).2.entries.lookup u = some e → c.entries.lookup u = some e) ∧
      (c.get v now).2.entries.entries.length ≤ c.maxEntries := by
    obtain h | h := c.get_cases v now
    · rw [h]
      exact ⟨fun u e he => he, hsize⟩
    · rw [h]
      exact ⟨fun u e he => (herase v u e he).2, hshrink v⟩
  have hinsert (v : Str) (now : Nat) (e' : CacheEntry) :
      (∀ u e, ((c.evictIfNeeded now).entries.insert v e').lookup u = some e →
        v ≠ u ∧ c.entries.lookup u = some e ∨ v = u ∧ e' = e) ∧
      ((c.evictIfNeeded now).entries.insert v e').entries.length ≤ c.maxEntries := by
    constructor
    · intro u e he
      by_cases huv : u = v
      · subst huv
        rw [AList.lookup_insert] at he
        exact .inr ⟨rfl, Option.some.inj he⟩
      · rw [AList.lookup_insert_ne huv] at he
        exact .inl ⟨fun hvu => huv hvu.symm, lookup_evictIfNeeded he⟩
    · have := c.length_evictIfNeeded_lt now hmax
      have := Retain.length_entries_insert_le (c.evictIfNeeded now).entries v e'
      omega
  cases call with
  | get v now => exact ⟨fun u e he => .inl ⟨rfl, (hget v now).1 u e he⟩, (hget v now).2⟩
  | getNegative v now =>
    simp only [step, getNegative_snd]
    exact ⟨fun u e he => .inl ⟨rfl, (hget v now).1 u e he⟩, (hget v now).2⟩
  | insertPositive v verifier now =>
    refine ⟨fun u e he => ?_, (hinsert v now (.positive verifier now)).2⟩
    obtain ⟨hvu, he⟩ | ⟨hvu, he⟩ := (hinsert v now (.positive verifier now)).1 u e he
    · exact .inl ⟨decide_eq_false hvu, he⟩
    · exact .inr (by rw [← he, hvu]; rfl)
  | insertNegative v now =>
    refine ⟨fun u e he => ?_, (hinsert v now (.negative now)).2⟩
    obtain ⟨hvu, he⟩ | ⟨hvu, he⟩ := (hinsert v now (.negative now)).1 u e he
    · exact .inl ⟨decide_eq_false hvu, he⟩
    · exact .inr (by rw [← he, hvu]; rfl)
  | forget v =>
    refine ⟨fun u e he => ?_, hshrink v⟩
    obtain ⟨hvu, he⟩ := herase v u e he
    exact .inl ⟨decide_eq_false hvu, he⟩

/-! ### A whole history -/

/-- Every entry is what was last told of its user, and there is room for all of them. -/
structure Reflects (start : LookupCache) (history : List CacheCall) (c : LookupCache) : Prop where
  settings : SameSettings start c
  size : c.entries.entries.length ≤ start.maxEntries
  told : ∀ u e, c.entries.lookup u = some e → CacheCall.lastTold u history = some (CacheCall.inserting u e)

theorem reflects_run {c : LookupCache} (hmax : 0 < c.maxEntries) (hempty : c.entries = ∅) (history : List CacheCall) :
    Reflects c history (Machine.run step c history) := by
  induction history using List.reverseRecOn with
  | nil =>
    refine ⟨⟨rfl, rfl, rfl⟩, ?_, ?_⟩
    · show c.entries.entries.length ≤ _
      rw [hempty]
      exact Nat.zero_le _
    · intro u e he
      have hlookup : c.entries.lookup u = some e := he
      rw [hempty] at hlookup
      simp at hlookup
  | append_singleton history call ih =>
    rw [Machine.run_concat]
    generalize Machine.run step c history = d at ih
    obtain ⟨⟨hpos, hneg, hcap⟩, hsize, htold⟩ := ih
    obtain ⟨hpos', hneg', hcap'⟩ := d.step_settings call
    obtain ⟨hleft, hsize'⟩ := d.step_spec call (by omega) (by omega)
    refine ⟨⟨hpos'.trans hpos, hneg'.trans hneg, hcap'.trans hcap⟩, by omega, ?_⟩
    intro u e he
    obtain ⟨htells, he⟩ | hcall := hleft u e he
    · rw [CacheCall.lastTold_of_not_tells htells]
      exact htold u e he
    · have htells : call.tells u = true := by
        rw [hcall]
        cases e <;> exact decide_eq_true rfl
      rw [CacheCall.lastTold_of_tells htells, hcall]

/-- What is dropped for one user is not what another is answered from. -/
theorem get_get_of_ne (c : LookupCache) {u w : Str} (h : w ≠ u) (now now' : Nat) :
    ((c.get u now).2.get w now').1 = (c.get w now').1 := by
  obtain hget | hget := c.get_cases u now
  · rw [hget]
  · rw [hget, get_fst, get_fst]
    dsimp only
    rw [AList.lookup_erase_ne h]
    rfl

/-- Whatever the cache was asked and told, and at whatever times: it keeps to its bound; what
    it answers of a user was the last thing told of them, no longer ago than the time to
    live; and a lookup of one user changes no answer of another. -/
theorem fresh_and_bounded (positiveTtl negativeTtl maxEntries : Nat) (history : List CacheCall) :
    let c := Machine.run step (withCapacity positiveTtl negativeTtl maxEntries) history
    c.entries.entries.length ≤ max maxEntries 1 ∧
    (∀ u now verifier, (c.get u now).1 = some (some verifier) →
      ∃ t, CacheCall.lastTold u history = some (.insertPositive u verifier t) ∧ now - t ≤ positiveTtl) ∧
    (∀ u now, (c.get u now).1 = some none →
      ∃ t, CacheCall.lastTold u history = some (.insertNegative u t) ∧ now - t ≤ negativeTtl) ∧
    ∀ u w now now', w ≠ u → ((c.get u now).2.get w now').1 = (c.get w now').1 := by
  intro c
  have hc : Reflects (withCapacity positiveTtl negativeTtl maxEntries) history c :=
    reflects_run (show 0 < max maxEntries 1 by omega) rfl history
  obtain ⟨hpos, hneg, -⟩ := hc.settings
  refine ⟨hc.size, ?_, ?_, fun u w now now' h => c.get_get_of_ne h now now'⟩
  · intro u now verifier hget
    obtain ⟨e, hentry, hlive, hanswer⟩ := (c.get_eq_some u now).mp hget
    cases e with
    | positive verifier' t =>
      cases hanswer
      refine ⟨t, hc.told u _ hentry, ?_⟩
      exact Nat.le_trans hlive (Nat.le_of_eq hpos)
    | negative t => cases hanswer
  · intro u now hget
    obtain ⟨e, hentry, hlive, hanswer⟩ := (c.get_eq_some u now).mp hget
    cases e with
    | positive verifier t => cases hanswer
    | negative t =>
      refine ⟨t, hc.told u _ hentry, ?_⟩
      exact Nat.le_trans hlive (Nat.le_of_eq hneg)

/-! ## What an insertion leaves of the others -/

/-- `insert_positive` or `insert_negative`, by what is known of the user. -/
def insertAnswer (c : LookupCache) (u : Str) (now : Nat) : Option Verifier → LookupCache
  | some verifier => c.insertPositive u verifier now
  | none => c.insertNegative u now

/-- The entries of the other users that a lookup would answer from. -/
def liveOthers (c : LookupCache) (u : Str) (now : Nat) : List (Sigma fun _ : Str => CacheEntry) :=
  c.entries.entries.filter fun e => decide (e.1 ≠ u) && (c.get e.1 now).1.isSome

/-- Every other user who would have been answered is answered the same. -/
def KeepsOthers (c : LookupCache) (u : Str) (now : Nat) (answer : Option Verifier) : Prop :=
  ∀ w, w ≠ u → ∀ a, (c.get w now).1 = some a → ((c.insertAnswer u now answer).get w now).1 = some a

theorem mem_liveOthers {c : LookupCache} {u w : Str} {now : Nat} {e : CacheEntry} :
    ⟨w, e⟩ ∈ c.liveOthers u now ↔ w ≠ u ∧ c.entries.lookup w = some e ∧ now - e.recorded ≤ c.ttl e := by
  unfold liveOthers
  rw [List.mem_filter, Bool.and_eq_true, decide_eq_true_iff, Retain.mem_entries_iff, Option.isSome_iff_exists]
  constructor
  · intro h
    obtain ⟨hentry, hne, a, hget⟩ := h
    obtain ⟨e', hentry', hlive, -⟩ := (c.get_eq_some w now).mp hget
    cases hentry.symm.trans hentry'
    exact ⟨hne, hentry, hlive⟩
  · intro h
    obtain ⟨hne, hentry, hlive⟩ := h
    exact ⟨hentry, hne, e.answer, (c.get_eq_some w now).mpr ⟨e, hentry, hlive, rfl⟩⟩

/-- The others are answered from what eviction leaves of them. -/
theorem get_insertAnswer {c : LookupCache} {u w : Str} (h : w ≠ u) (now : Nat) (answer : Option Verifier) :
    ((c.insertAnswer u now answer).get w now).1 = ((c.evictIfNeeded now).entries.lookup w).bind (c.answerAt now) := by
  obtain ⟨hpos, hneg, -⟩ := c.evictIfNeeded_settings now
  have hanswer (c' : LookupCache) (hp : c'.positiveTtl = c.positiveTtl) (hn : c'.negativeTtl = c.negativeTtl) :
      c'.answerAt now = c.answerAt now := by
    funext e
    have httl : c'.ttl e = c.ttl e := by cases e <;> assumption
    unfold answerAt
    rw [httl]
  rw [get_fst]
  cases answer with
  | some verifier =>
    rw [hanswer (c.insertAnswer u now (some verifier)) hpos hneg]
    simp only [insertAnswer, insertPositive, AList.lookup_insert_ne h]
  | none =>
    rw [hanswer (c.insertAnswer u now none) hpos hneg]
    simp only [insertAnswer, insertNegative, AList.lookup_insert_ne h]

theorem keepsOthers_iff {c : LookupCache} {u : Str} {now : Nat} {answer : Option Verifier} :
    c.KeepsOthers u now answer ↔
      ∀ e ∈ c.liveOthers u now, (c.evictIfNeeded now).entries.lookup e.1 = some e.2 := by
  constructor
  · intro h e he
    obtain ⟨w, e⟩ := e
    obtain ⟨hne, hentry, hlive⟩ := mem_liveOthers.mp he
    have hkept := h w hne e.answer ((c.get_eq_some w now).mpr ⟨e, hentry, hlive, rfl⟩)
    rw [get_insertAnswer hne, Option.bind_eq_some_iff] at hkept
    obtain ⟨e', hentry', -⟩ := hkept
    cases hentry.symm.trans (lookup_evictIfNeeded hentry')
    exact hentry'
  · intro h w hne a hget
    obtain ⟨e, hentry, hlive, hanswer⟩ := (c.get_eq_some w now).mp hget
    rw [get_insertAnswer hne, h ⟨w, e⟩ (mem_liveOthers.mpr ⟨hne, hentry, hlive⟩)]
    exact c.answerAt_eq_some now |>.mpr ⟨hlive, hanswer⟩

/-- The entries that `retain` keeps: strictly younger than their time to live. -/
def younger (c : LookupCache) (now : Nat) : List (Sigma fun _ : Str => CacheEntry) :=
  c.entries.entries.filter fun e => decide (now - e.2.recorded < c.ttl e.2)

theorem entries_retained (c : LookupCache) (now : Nat) : (c.retained now).entries = c.younger now := by
  unfold retained younger
  rw [Retain.entries_filter_toAList]
  refine List.filter_congr fun e _ => ?_
  rw [Bool.eq_iff_iff, fresh_iff, decide_eq_true_iff]

/-- An insertion keeps the answers of the other users, or they alone fill the cache, exactly
    when there is room, they alone fill it, there are none, or none of them is at the end
    of its time to live and the younger entries, that of the user itself included, leave room. -/
theorem insert_keeps_others_iff (c : LookupCache) (u : Str) (now : Nat) (answer : Option Verifier) :
    (c.KeepsOthers u now answer ∨ c.maxEntries ≤ (c.liveOthers u now).length) ↔
      c.entries.entries.length < c.maxEntries ∨ c.maxEntries ≤ (c.liveOthers u now).length ∨
      c.liveOthers u now = [] ∨
      (∀ e ∈ c.liveOthers u now, now - e.2.recorded ≠ c.ttl e.2) ∧ (c.younger now).length < c.maxEntries := by
  rw [keepsOthers_iff]
  by_cases hmany : c.maxEntries ≤ (c.liveOthers u now).length
  · simp only [hmany, or_true, true_or]
  obtain ⟨hroom, hevict⟩ | ⟨hfull, hroom, hevict⟩ | ⟨hfull, hover, hevict⟩ := c.evictIfNeeded_cases now
  · rw [hevict]
    refine iff_of_true (.inl fun e he => ?_) (.inl hroom)
    exact (mem_liveOthers.mp he).2.1
  · rw [entries_retained] at hroom
    have hlookup (e : Sigma fun _ : Str => CacheEntry) (he : e ∈ c.liveOthers u now) :
        (c.evictIfNeeded now).entries.lookup e.1 = some e.2 ↔ now - e.2.recorded ≠ c.ttl e.2 := by
      obtain ⟨-, hentry, hlive⟩ := mem_liveOthers.mp he
      rw [hevict]
      refine (Retain.lookup_filter_toAList _ _).trans ?_
      rw [and_iff_right hentry, fresh_iff]
      show now - e.2.recorded < c.ttl e.2 ↔ _
      omega
    have hnone (h : c.liveOthers u now = []) : ∀ e ∈ c.liveOthers u now, now - e.2.recorded ≠ c.ttl e.2 := by
      simp [h]
    constructor
    · intro h
      obtain h | h := h
      · exact .inr (.inr (.inr ⟨fun e he => (hlookup e he).mp (h e he), hroom⟩))
      · exact absurd h hmany
    · intro h
      left
      obtain h | h | h | ⟨h, -⟩ := h
      · omega
      · exact absurd h hmany
      · exact fun e he => (hlookup e he).mpr (hnone h e he)
      · exact fun e he => (hlookup e he).mpr (h e he)
  · rw [entries_retained] at hover
    have hcleared : (∀ e ∈ c.liveOthers u now, (c.evictIfNeeded now).entries.lookup e.1 = some e.2) ↔
        c.liveOthers u now = [] := by
      rw [hevict, List.eq_nil_iff_forall_not_mem]
      simp
    rw [hcleared]
    have hnot : ¬(c.younger now).length < c.maxEntries := by omega
    have hnroom : ¬c.entries.entries.length < c.maxEntries := by omega
    simp only [hmany, hnot, hnroom, and_false, or_false, false_or]

end LookupCache

/-! ### Answers that are thrown away -/

namespace Sample

/-- Room for two users, and two of them known to be absent. -/
def fullCache : LookupCache :=
  ((LookupCache.withCapacity 60 5 2).insertNegative "dave" 0).insertNegative "bob" 1

/-- To insert a user again sheds the whole map, and what is at the end of its time to
    live is dropped though it is still answered. -/
theorem fullCache_forgets :
    ¬(fullCache.KeepsOthers "dave" 4 none ∨ fullCache.maxEntries ≤ (fullCache.liveOthers "dave" 4).length) ∧
    ¬(fullCache.KeepsOthers "carol" 6 none ∨ fullCache.maxEntries ≤ (fullCache.liveOthers "carol" 6).length) := by
  have hdave : ¬fullCache.maxEntries ≤ (fullCache.liveOthers "dave" 4).length := by decide
  have hcarol : ¬fullCache.maxEntries ≤ (fullCache.liveOthers "carol" 6).length := by decide
  constructor
  · intro h
    have hkept := (h.resolve_right hdave) "bob" (by decide) none (by decide)
    exact absurd hkept (by decide)
  · intro h
    have hkept := (h.resolve_right hcarol) "bob" (by decide) none (by decide)
    exact absurd hkept (by decide)

end Sample

end Wirechaos
