/-
  Wirechaos.Wire.LayoutProofs — what the parameter loop of `handle_startup_packet` accepts
  (see `Wirechaos.Wire.StartupConfig`).

  `ParamsLoop` is the `while` itself, without fuel; it stands still where `remaining` would
  underflow. It has exactly one outcome for every body (`paramsLoop_iff`), and what passes
  the layout checks behind it is a list of pairs, terminated, and nothing else
  (`startup_layout_iff`).
-/

import Wirechaos.Wire.StartupConfigProofs

namespace Wirechaos

open Text

namespace MessageReader

/-- The cursor is in the buffer, so that `remaining` does not underflow. -/
def Inside (m : MessageReader) : Prop := m.pos ≤ m.buf.length

theorem Inside.readString {m : MessageReader} (h : m.Inside) : m.readString.2.Inside := by
  have htake : (m.rest.takeWhile (· ≠ 0)).length ≤ m.rest.length := (List.takeWhile_prefix _).length_le
  have hrest : m.rest.length = m.buf.length - m.pos := List.length_drop
  unfold Inside at h ⊢
  unfold MessageReader.readString
  dsimp only
  split
  · split
    · show m.pos + _ + 1 ≤ m.buf.length
      omega
    · show m.pos + _ ≤ m.buf.length
      omega
  · show m.pos + _ ≤ m.buf.length
    omega

/-- A string that was read consumed its terminator. -/
theorem remaining_readString {m m' : MessageReader} {s : Str} (h : m.readString = (.ok s, m')) :
    m'.remaining < m.remaining := by
  rw [remaining_eq, remaining_eq, (readString_ok h).1, List.length_append, length_putCstr]
  omega

end MessageReader

/-! ## The loop -/

/-- What the loop of `handle_startup_packet` comes to: whether the terminator was seen or
    the error of a read, the reader and the map. -/
abbrev LoopOutcome := Except ProxyError Bool × MessageReader × Params

inductive ParamsLoop : MessageReader → Params → LoopOutcome → Prop
  | exhausted {m : MessageReader} {params : Params} : m.Inside → m.remaining = 0 →
      ParamsLoop m params (.ok false, m, params)
  | badKey {m m' : MessageReader} {params : Params} {e : ProxyError} : m.Inside → m.remaining ≠ 0 →
      m.readString = (.error e, m') → ParamsLoop m params (.error e, m', params)
  | terminator {m m' : MessageReader} {params : Params} : m.Inside → m.remaining ≠ 0 →
      m.readString = (.ok [], m') → ParamsLoop m params (.ok true, m', params)
  | badValue {m m' m'' : MessageReader} {params : Params} {key : Str} {e : ProxyError} : m.Inside → m.remaining ≠ 0 →
      m.readString = (.ok key, m') → key ≠ [] → m'.readString = (.error e, m'') →
      ParamsLoop m params (.error e, m'', params)
  | pair {m m' m'' : MessageReader} {params : Params} {key value : Str} {outcome : LoopOutcome} : m.Inside →
      m.remaining ≠ 0 → m.readString = (.ok key, m') → key ≠ [] → m'.readString = (.ok value, m'') →
      ParamsLoop m'' (params.insert key value) outcome → ParamsLoop m params outcome

/-- Every iteration consumes a byte: with fuel for the bytes left the loop runs to its end. -/
theorem readParamsFrom_loop {fuel : Nat} {m : MessageReader} (hm : m.Inside) (hfuel : m.remaining < fuel)
    (params : Params) : ParamsLoop m params (readParamsFrom fuel m params) := by
  induction fuel generalizing m params with
  | zero => omega
  | succ fuel ih =>
    unfold readParamsFrom
    by_cases hempty : m.remaining = 0
    · rw [if_pos hempty]
      exact .exhausted hm hempty
    rw [if_neg hempty]
    split
    · rename_i e m' hkey
      exact .badKey hm hempty hkey
    rename_i key m' hkey
    have hm' : m'.Inside := by
      have := hm.readString
      rwa [hkey] at this
    by_cases hend : key = []
    · rw [if_pos hend]
      rw [hend] at hkey
      exact .terminator hm hempty hkey
    rw [if_neg hend]
    split
    · rename_i e m'' hvalue
      exact .badValue hm hempty hkey hend hvalue
    · rename_i value m'' hvalue
      have hm'' : m''.Inside := by
        have := hm'.readString
        rwa [hvalue] at this
      have := MessageReader.remaining_readString hkey
      have := MessageReader.remaining_readString hvalue
      exact .pair hm hempty hkey hend hvalue (ih hm'' (by omega) _)

/-- However much more fuel there is, the outcome is the same. -/
theorem ParamsLoop.eq_readParamsFrom {m : MessageReader} {params : Params} {outcome : LoopOutcome}
    (h : ParamsLoop m params outcome) {fuel : Nat} (hfuel : m.remaining < fuel) :
    readParamsFrom fuel m params = outcome := by
  induction h generalizing fuel with
  | exhausted _ hempty =>
    cases fuel with
    | zero => omega
    | succ fuel => rw [readParamsFrom, if_pos hempty]
  | badKey _ hempty hkey =>
    cases fuel with
    | zero => omega
    | succ fuel => rw [readParamsFrom, if_neg hempty, hkey]
  | terminator _ hempty hkey =>
    cases fuel with
    | zero => omega
    | succ fuel =>
      rw [readParamsFrom, if_neg hempty, hkey]
      rfl
  | badValue _ hempty hkey hne hvalue =>
    cases fuel with
    | zero => omega
    | succ fuel =>
      rw [readParamsFrom, if_neg hempty, hkey]
      dsimp only
      rw [if_neg hne, hvalue]
  | pair _ hempty hkey hne hvalue _ ih =>
    cases fuel with
    | zero => omega
    | succ fuel =>
      have := MessageReader.remaining_readString hkey
      have := MessageReader.remaining_readString hvalue
      rw [readParamsFrom, if_neg hempty, hkey]
      dsimp only
      rw [if_neg hne, hvalue]
      exact ih (by omega)

theorem paramsLoop_iff {m : MessageReader} (hm : m.Inside) (params : Params) (outcome : LoopOutcome) :
    ParamsLoop m params outcome ↔ outcome = readParams m params := by
  constructor
  · intro h
    exact (h.eq_readParamsFrom (Nat.lt_succ_self _)).symm
  · intro h
    rw [h]
    exact readParamsFrom_loop hm (Nat.lt_succ_self _) params

/-- The reader that the loop leaves is one that `remaining` can be asked of. -/
theorem ParamsLoop.inside {m : MessageReader} {params : Params} {outcome : LoopOutcome}
    (h : ParamsLoop m params outcome) : outcome.2.1.Inside := by
  have hread {m m' : MessageReader} {r : Except ProxyError Str} (hm : m.Inside) (h : m.readString = (r, m')) :
      m'.Inside := by
    have := hm.readString
    rwa [h] at this
  induction h with
  | exhausted hm _ => exact hm
  | badKey hm _ hkey => exact hread hm hkey
  | terminator hm _ hkey => exact hread hm hkey
  | badValue hm _ hkey _ hvalue => exact hread (hread hm hkey) hvalue
  | pair _ _ _ _ _ _ ih => exact ih

/-! ## The layout -/

/-- Where the terminator was seen, the bytes before it were pairs. -/
theorem ParamsLoop.pairs {m : MessageReader} {params : Params} {outcome : LoopOutcome}
    (h : ParamsLoop m params outcome) (hend : outcome.1 = .ok true) :
    ∃ pairs, CleanPairs pairs ∧ m.rest = writePairs pairs ++ 0 :: outcome.2.1.rest := by
  induction h with
  | exhausted => cases hend
  | badKey => cases hend
  | terminator _ _ hkey =>
    refine ⟨[], by simp [CleanPairs], ?_⟩
    exact (MessageReader.readString_ok hkey).1
  | badValue => cases hend
  | @pair m m' m'' params key value outcome _ _ hkey hne hvalue _ ih =>
    obtain ⟨pairs, hclean, hrest⟩ := ih hend
    obtain ⟨hm, hkz⟩ := MessageReader.readString_ok hkey
    obtain ⟨hm', hvz⟩ := MessageReader.readString_ok hvalue
    refine ⟨(key, value) :: pairs, List.forall_mem_cons.mpr ⟨⟨hne, hkz, hvz⟩, hclean⟩, ?_⟩
    rw [hm, hm', hrest]
    simp [writePairs]

/-- The parameters behind the version word: the loop has one outcome and never looks outside
    the packet; the terminator was seen and nothing is left exactly when the bytes are pairs
    of C strings with non-empty keys and one more NUL; and then every key has its last value. -/
theorem startup_layout_iff (version : UInt32) (body : Bytes) (params : Params) :
    ∃ outcome, (∀ outcome', ParamsLoop ⟨beBytes version ++ body, 4⟩ params outcome' ↔ outcome' = outcome) ∧
      outcome = readParams ⟨beBytes version ++ body, 4⟩ params ∧ outcome.2.1.Inside ∧
      ((outcome.1 = .ok true ∧ outcome.2.1.remaining = 0) ↔
        ∃ pairs, CleanPairs pairs ∧ body = writePairs pairs ++ [0]) ∧
      ∀ pairs, CleanPairs pairs → body = writePairs pairs ++ [0] →
        ∀ key, outcome.2.2.get key = (pairs.reverse.lookup key).or (params.get key) := by
  have hversion : (beBytes version).length = 4 := rfl
  have hinside : MessageReader.Inside ⟨beBytes version ++ body, 4⟩ := by
    show 4 ≤ (beBytes version ++ body).length
    rw [List.length_append, hversion]
    omega
  have hrest : MessageReader.rest ⟨beBytes version ++ body, 4⟩ = body := by
    show (beBytes version ++ body).drop (beBytes version).length = body
    exact List.drop_left
  have hloop := paramsLoop_iff hinside params
  generalize hm : (⟨beBytes version ++ body, 4⟩ : MessageReader) = m at hinside hrest hloop
  have hrun : ParamsLoop m params (readParams m params) := (hloop _).mpr rfl
  refine ⟨readParams m params, hloop, rfl, hrun.inside, ⟨?_, ?_⟩, ?_⟩
  · intro h
    obtain ⟨hend, hleft⟩ := h
    obtain ⟨pairs, hclean, hbody⟩ := hrun.pairs hend
    rw [MessageReader.remaining_eq, List.length_eq_zero_iff] at hleft
    rw [hrest, hleft] at hbody
    exact ⟨pairs, hclean, hbody⟩
  · intro h
    obtain ⟨pairs, hclean, hbody⟩ := h
    obtain ⟨m', hread, hleft⟩ := readParams_pairs hclean (hrest.trans hbody) params
    rw [hread]
    exact ⟨rfl, hleft⟩
  · intro pairs hclean hbody key
    obtain ⟨m', hread, -⟩ := readParams_pairs hclean (hrest.trans hbody) params
    rw [hread]
    exact get_insertPairs_last params pairs key

end Wirechaos
