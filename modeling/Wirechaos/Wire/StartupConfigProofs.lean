/-
  Wirechaos.Wire.StartupConfigProofs — the parsers of a StartupMessage
  (see `Wirechaos.Wire.StartupConfig`).

  Whatever they accept is clean (`CleanParams`) and no larger than what they read
  (`wireSize`), and a clean list of pairs, written as C strings and terminated, reads
  back as itself (`readParams_pairs`).
-/

import Wirechaos.Wire.StartupConfig

namespace Wirechaos

open Text

/-! ## Sizes -/

/-- The bytes the entries of a map take as C strings. -/
def wireSize : List (Σ _ : Str, Str) → Nat
  | [] => 0
  | e :: es => byteLen e.1 + byteLen e.2 + 2 + wireSize es

theorem wireSize_kerase_le (k : Str) (es : List (Σ _ : Str, Str)) : wireSize (es.kerase k) ≤ wireSize es := by
  induction es with
  | nil => simp
  | cons e es ih =>
    by_cases h : k = e.1
    · rw [List.kerase_cons_eq h]
      simp only [wireSize]
      omega
    · rw [List.kerase_cons_ne h]
      simp only [wireSize]
      omega

theorem wireSize_insert_le (m : Params) (k v : Str) :
    wireSize (m.insert k v).entries ≤ byteLen k + byteLen v + 2 + wireSize m.entries := by
  have := wireSize_kerase_le k m.entries
  show byteLen k + byteLen v + 2 + wireSize (m.entries.kerase k) ≤ _
  omega

theorem wireSize_kunion_le (es fs : List (Σ _ : Str, Str)) : wireSize (es.kunion fs) ≤ wireSize es + wireSize fs := by
  induction es generalizing fs with
  | nil => simp [wireSize]
  | cons e es ih =>
    have := wireSize_kerase_le e.1 fs
    have := ih (fs.kerase e.1)
    simp only [List.kunion_cons, wireSize]
    omega

theorem wireSize_extend_le (m other : Params) :
    wireSize (m.extend other).entries ≤ wireSize m.entries + wireSize other.entries := by
  have := wireSize_kunion_le other.entries m.entries
  show wireSize (other.entries.kunion m.entries) ≤ _
  omega

theorem wireSize_erase_le (m : Params) (k : Str) : wireSize (m.erase k).entries ≤ wireSize m.entries :=
  wireSize_kerase_le k m.entries

theorem byteLen_le_wireSize {m : Params} {k v : Str} (h : m.get k = some v) :
    byteLen k + byteLen v + 2 ≤ wireSize m.entries := by
  have hmem : (⟨k, v⟩ : Σ _ : Str, Str) ∈ m.entries := AList.mem_lookup_iff.mp h
  revert hmem
  induction m.entries with
  | nil => simp
  | cons e es ih =>
    intro hmem
    rcases List.mem_cons.mp hmem with rfl | hmem
    · exact Nat.le_add_right _ _
    · exact Nat.le_trans (ih hmem) (Nat.le_add_left _ _)

theorem wireSize_perm {es fs : List (Σ _ : Str, Str)} (h : es.Perm fs) : wireSize es = wireSize fs := by
  induction h with
  | nil => rfl
  | cons e _ ih => simp only [wireSize, ih]
  | swap e f es => simp only [wireSize]; omega
  | trans _ _ ih ih' => exact ih.trans ih'

/-! ## The options string -/

def totalLen (tokens : List Str) : Nat := (tokens.map byteLen).sum

/-- Splitting only drops separators and backslashes. -/
theorem splitOptionTokensFrom_spec (s curr : Str) (escaped : Bool) :
    (∀ c, c ∉ s → c ∉ curr → ∀ token ∈ splitOptionTokensFrom s curr escaped, c ∉ token) ∧
    totalLen (splitOptionTokensFrom s curr escaped) ≤ byteLen curr + byteLen s := by
  induction s generalizing curr escaped with
  | nil =>
    unfold splitOptionTokensFrom
    split <;> simp [totalLen]
  | cons x s ih =>
    have hsize : byteLen (x :: s) = byteLen [x] + byteLen s := by rw [← byteLen_append]; rfl
    have grow (escaped : Bool) : (∀ c, c ∉ x :: s → c ∉ curr →
        ∀ token ∈ splitOptionTokensFrom s (curr ++ [x]) escaped, c ∉ token) ∧
        totalLen (splitOptionTokensFrom s (curr ++ [x]) escaped) ≤ byteLen curr + byteLen (x :: s) := by
      obtain ⟨hmem, hlen⟩ := ih (curr ++ [x]) escaped
      constructor
      · intro c hc hcurr
        simp only [List.mem_cons, not_or] at hc
        exact hmem c hc.2 (by simp [hcurr, hc.1])
      · rw [byteLen_append] at hlen
        omega
    have skip (curr : Str) (escaped : Bool) : (∀ c, c ∉ x :: s → c ∉ curr →
        ∀ token ∈ splitOptionTokensFrom s curr escaped, c ∉ token) ∧
        totalLen (splitOptionTokensFrom s curr escaped) ≤ byteLen curr + byteLen (x :: s) := by
      obtain ⟨hmem, hlen⟩ := ih curr escaped
      refine ⟨fun c hc hcurr => hmem c (fun h => hc (List.mem_cons_of_mem _ h)) hcurr, by omega⟩
    cases escaped with
    | true => exact grow false
    | false =>
      unfold splitOptionTokensFrom
      split
      · exact skip curr true
      split
      · split
        · exact skip curr false
        · obtain ⟨hmem, hlen⟩ := skip [] false
          constructor
          · intro c hc hcurr token ht
            rcases List.mem_cons.mp ht with rfl | ht
            · exact hcurr
            · exact hmem c hc (by simp) token ht
          · simp only [totalLen, List.map_cons, List.sum_cons] at hlen ⊢
            have : byteLen ([] : Str) = 0 := rfl
            omega
      · exact grow false

theorem splitKeyValue_ok {token key value : Str} (h : splitKeyValue token = .ok (key, value)) :
    token = key ++ '=' :: value ∧ key ≠ [] := by
  unfold splitKeyValue at h
  split at h
  · cases h
  · rename_i hs
    split at h
    · cases h
    · rename_i hne
      cases h
      exact ⟨(splitOnce_eq_some.mp hs).1, fun hk => hne (Or.inl hk)⟩

theorem byteLen_normalizeKey_le (key : Str) : byteLen (normalizeKey key) ≤ byteLen key := by
  induction key with
  | nil => exact Nat.le_refl _
  | cons c key ih =>
    have h1 : byteLen (normalizeKey (c :: key)) = byteLen [if c = '-' then '_' else c] + byteLen (normalizeKey key) := by
      rw [← byteLen_append]; rfl
    have h2 : byteLen (c :: key) = byteLen [c] + byteLen key := by rw [← byteLen_append]; rfl
    have h3 : byteLen [if c = '-' then '_' else c] = byteLen [c] := by
      split
      · rename_i hc
        subst hc
        decide
      · rfl
    omega

/-- One setting of the options string: its key and value are in the token, past a name
    of two bytes or more. -/
structure SettingOf (key value token : Str) : Prop where
  key_ne : key ≠ []
  key_clean : '\x00' ∉ token → '\x00' ∉ key
  value_clean : '\x00' ∉ token → '\x00' ∉ value
  size : byteLen key + byteLen value + 1 ≤ byteLen token

theorem settingOf_splitKeyValue {token key value : Str} (h : splitKeyValue token = .ok (key, value)) :
    SettingOf key value token := by
  obtain ⟨rfl, hk⟩ := splitKeyValue_ok h
  refine ⟨hk, fun hz hm => hz (by simp [hm]), fun hz hm => hz (by simp [hm]), ?_⟩
  rw [show key ++ '=' :: value = key ++ (['='] ++ value) from rfl, byteLen_append, byteLen_append]
  have : byteLen ['='] = 1 := rfl
  omega

theorem SettingOf.normalize {key value token : Str} (h : SettingOf key value token) :
    SettingOf (normalizeKey key) value token := by
  refine ⟨?_, ?_, h.value_clean, ?_⟩
  · have := h.key_ne
    cases key <;> simp_all [normalizeKey]
  · intro hz hm
    obtain ⟨c, hc, he⟩ := List.mem_map.mp hm
    split at he
    · cases he
    · exact h.key_clean hz (he ▸ hc)
  · have := byteLen_normalizeKey_le key
    have := h.size
    omega

theorem insert_setting {result : Params} {key value token : Str} (h : SettingOf key value token)
    (hc : CleanParams result) (hz : '\x00' ∉ token) :
    CleanParams (result.insert key value) ∧
      wireSize (result.insert key value).entries ≤ wireSize result.entries + byteLen token + 1 := by
  refine ⟨hc.insert h.key_ne (h.key_clean hz) (h.value_clean hz), ?_⟩
  have := wireSize_insert_le result key value
  have := h.size
  omega

theorem byteLen_drop_two {p : String} {token : Str} (hp : byteLen p.toList = 2 ∧ p.toList.length = 2)
    (h : startsWith p.toList token = true) : byteLen (token.drop 2) + 2 = byteLen token := by
  obtain ⟨t, rfl⟩ := startsWith_iff.mp h
  rw [show (p.toList ++ t).drop 2 = t by rw [← hp.2, List.drop_left], byteLen_append, hp.1]
  omega

theorem parseOptionTokens_spec {tokens : List Str} {result result' : Params}
    (h : parseOptionTokens tokens result = .ok result') (hc : CleanParams result) (hz : ∀ t ∈ tokens, '\x00' ∉ t) :
    CleanParams result' ∧ wireSize result'.entries ≤ wireSize result.entries + totalLen tokens := by
  fun_induction parseOptionTokens tokens result with
  | case1 result =>
    cases h
    exact ⟨hc, by omega⟩
  | case2 => cases h
  | case3 => cases h
  | case4 result valueToken rest key value hs ih =>
    obtain ⟨hc', hsize⟩ := insert_setting (settingOf_splitKeyValue hs) hc (hz valueToken (by simp))
    obtain ⟨hclean, hlen⟩ := ih h hc' (fun t ht => hz t (by simp [ht]))
    refine ⟨hclean, ?_⟩
    have : byteLen "-c".toList = 2 := by decide
    simp only [totalLen, List.map_cons, List.sum_cons] at hlen ⊢
    omega
  | case5 => cases h
  | case6 token rest result hne hp key value hs ih =>
    have hdrop : '\x00' ∉ token.drop 2 := fun hm => hz token (by simp) (List.mem_of_mem_drop hm)
    obtain ⟨hc', hsize⟩ := insert_setting (settingOf_splitKeyValue hs) hc hdrop
    obtain ⟨hclean, hlen⟩ := ih h hc' (fun t ht => hz t (by simp [ht]))
    refine ⟨hclean, ?_⟩
    have := byteLen_drop_two (p := "-c") (by decide) hp
    simp only [totalLen, List.map_cons, List.sum_cons] at hlen ⊢
    omega
  | case7 => cases h
  | case8 token rest result hne hnp hp key value hs ih =>
    have hdrop : '\x00' ∉ token.drop 2 := fun hm => hz token (by simp) (List.mem_of_mem_drop hm)
    obtain ⟨hc', hsize⟩ := insert_setting (settingOf_splitKeyValue hs).normalize hc hdrop
    obtain ⟨hclean, hlen⟩ := ih h hc' (fun t ht => hz t (by simp [ht]))
    refine ⟨hclean, ?_⟩
    have := byteLen_drop_two (p := "--") (by decide) hp
    simp only [totalLen, List.map_cons, List.sum_cons] at hlen ⊢
    omega
  | case9 => cases h

/-- An options string without NUL gives clean settings, no larger than itself. -/
theorem parseOptions_ok {options : Str} {result : Params} (h : parseOptions options = .ok result)
    (hz : '\x00' ∉ options) : CleanParams result ∧ wireSize result.entries ≤ byteLen options := by
  obtain ⟨hmem, hlen⟩ := splitOptionTokensFrom_spec options [] false
  obtain ⟨hclean, hsize⟩ := parseOptionTokens_spec h .empty (hmem '\x00' hz (by simp))
  refine ⟨hclean, ?_⟩
  have h0 : byteLen ([] : Str) = 0 := rfl
  have h1 : wireSize (∅ : Params).entries = 0 := rfl
  have : totalLen (splitOptionTokens options) ≤ byteLen [] + byteLen options := hlen
  omega

/-! ## Reading the parameters -/

theorem length_putCstr (s : Str) : (putCstr s).length = byteLen s + 1 := by
  simp [putCstr, byteLen]

/-- What was read of a body is clean and came from its bytes. -/
theorem readParamsFrom_ok {fuel : Nat} {m m' : MessageReader} {params params' : Params} {b : Bool}
    (h : readParamsFrom fuel m params = (.ok b, m', params')) (hc : CleanParams params) :
    CleanParams params' ∧ wireSize params'.entries + m'.rest.length ≤ wireSize params.entries + m.rest.length := by
  induction fuel generalizing m params with
  | zero =>
    cases h
    exact ⟨hc, Nat.le_refl _⟩
  | succ fuel ih =>
    unfold readParamsFrom at h
    split at h
    · cases h
      exact ⟨hc, Nat.le_refl _⟩
    split at h
    · cases h
    rename_i key m₁ hkey
    obtain ⟨hrest, hkz⟩ := MessageReader.readString_ok hkey
    split at h
    · cases h
      refine ⟨hc, ?_⟩
      rw [hrest, List.length_append]
      omega
    rename_i hne
    split at h
    · cases h
    rename_i value m₂ hvalue
    obtain ⟨hrest₂, hvz⟩ := MessageReader.readString_ok hvalue
    obtain ⟨hclean, hsize⟩ := ih h (hc.insert hne hkz hvz)
    refine ⟨hclean, ?_⟩
    have := wireSize_insert_le params key value
    rw [hrest, hrest₂, List.length_append, List.length_append, length_putCstr, length_putCstr]
    omega

theorem readParams_ok {m m' : MessageReader} {params params' : Params} {b : Bool}
    (h : readParams m params = (.ok b, m', params')) (hc : CleanParams params) :
    CleanParams params' ∧ wireSize params'.entries ≤ wireSize params.entries + m.rest.length := by
  obtain ⟨hclean, hsize⟩ := readParamsFrom_ok h hc
  exact ⟨hclean, by omega⟩

/-! ## Reading what was written -/

/-- Pairs that can be written as C strings: a key ends where it is empty. -/
def CleanPairs (pairs : List (Str × Str)) : Prop := ∀ p ∈ pairs, p.1 ≠ [] ∧ '\x00' ∉ p.1 ∧ '\x00' ∉ p.2

def writePairs (pairs : List (Str × Str)) : Bytes := pairs.flatMap fun p => putCstr p.1 ++ putCstr p.2

/-- The map of a list of pairs: a later pair wins. -/
def insertPairs (params : Params) (pairs : List (Str × Str)) : Params :=
  pairs.foldl (fun params p => params.insert p.1 p.2) params

theorem readParamsFrom_pairs {pairs : List (Str × Str)} (hc : CleanPairs pairs) {m : MessageReader} {rest : Bytes}
    (hm : m.rest = writePairs pairs ++ 0 :: rest) (params : Params) {fuel : Nat} (hf : pairs.length < fuel) :
    ∃ m', readParamsFrom fuel m params = (.ok true, m', insertPairs params pairs) ∧ m'.rest = rest := by
  induction pairs generalizing m params fuel with
  | nil =>
    obtain ⟨fuel, rfl⟩ : ∃ n, fuel = n + 1 := ⟨fuel - 1, by simp at hf; omega⟩
    obtain ⟨m', hread, hrest⟩ := MessageReader.readString_rest (m := m) (s := []) (t := rest) (by rw [hm]; rfl) (by simp)
    refine ⟨m', ?_, hrest⟩
    have hpos : m.remaining ≠ 0 := by
      rw [MessageReader.remaining_eq, hm]
      simp [writePairs]
    rw [readParamsFrom, if_neg hpos, hread]
    rfl
  | cons p pairs ih =>
    obtain ⟨fuel, rfl⟩ : ∃ n, fuel = n + 1 := ⟨fuel - 1, by simp at hf; omega⟩
    obtain ⟨hne, hkz, hvz⟩ := hc p (by simp)
    have hm' : m.rest = putCstr p.1 ++ (putCstr p.2 ++ (writePairs pairs ++ 0 :: rest)) := by
      rw [hm]
      simp [writePairs]
    obtain ⟨m₁, hkey, hrest₁⟩ := MessageReader.readString_rest hm' hkz
    obtain ⟨m₂, hvalue, hrest₂⟩ := MessageReader.readString_rest hrest₁ hvz
    obtain ⟨m', hread, hrest⟩ := ih (fun q hq => hc q (List.mem_cons_of_mem _ hq)) hrest₂ (params.insert p.1 p.2)
      (Nat.lt_of_succ_lt_succ hf)
    refine ⟨m', ?_, hrest⟩
    have hpos : m.remaining ≠ 0 := by
      rw [MessageReader.remaining_eq, hm', List.length_append, length_putCstr]
      omega
    rw [readParamsFrom, if_neg hpos, hkey]
    dsimp only
    rw [if_neg hne, hvalue]
    exact hread

theorem length_le_writePairs (pairs : List (Str × Str)) : pairs.length ≤ (writePairs pairs).length := by
  induction pairs with
  | nil => exact Nat.zero_le _
  | cons p pairs ih =>
    simp only [writePairs, List.flatMap_cons, List.length_append, length_putCstr, List.length_cons] at ih ⊢
    omega

/-- Clean pairs, written and terminated, read back as their map. -/
theorem readParams_pairs {pairs : List (Str × Str)} (hc : CleanPairs pairs) {m : MessageReader}
    (hm : m.rest = writePairs pairs ++ [0]) (params : Params) :
    ∃ m', readParams m params = (.ok true, m', insertPairs params pairs) ∧ m'.remaining = 0 := by
  have hlen : pairs.length < m.remaining + 1 := by
    have := length_le_writePairs pairs
    rw [MessageReader.remaining_eq, hm, List.length_append]
    omega
  obtain ⟨m', hread, hrest⟩ := readParamsFrom_pairs hc hm params hlen
  exact ⟨m', hread, by rw [MessageReader.remaining_eq, hrest]; rfl⟩

theorem length_writePairs (es : List (Σ _ : Str, Str)) :
    (writePairs (es.map fun e => (e.1, e.2))).length = wireSize es := by
  induction es with
  | nil => rfl
  | cons e es ih =>
    simp only [writePairs, List.map_cons, List.flatMap_cons, List.length_append, length_putCstr] at ih ⊢
    rw [ih, wireSize]
    omega

theorem lookup_map_entries (es : List (Σ _ : Str, Str)) (key : Str) :
    (es.map fun e => (e.1, e.2)).lookup key = es.dlookup key := by
  induction es with
  | nil => rfl
  | cons e es ih =>
    obtain ⟨k, v⟩ := e
    rw [List.map_cons, List.lookup_cons, ih]
    by_cases h : key = k
    · subst h
      simp
    · rw [beq_false_of_ne h, List.dlookup_cons_ne _ _ h]

/-- The last setting of a key wins. -/
theorem get_insertPairs_last (params : Params) (pairs : List (Str × Str)) (key : Str) :
    (insertPairs params pairs).get key = (pairs.reverse.lookup key).or (params.get key) := by
  induction pairs generalizing params with
  | nil => rfl
  | cons p pairs ih =>
    obtain ⟨k, v⟩ := p
    show (insertPairs (params.insert k v) pairs).get key = _
    rw [ih, List.reverse_cons, List.lookup_append, Option.or_assoc]
    congr 1
    by_cases h : key = k
    · subst h
      simp [AList.lookup_insert]
    · simp [beq_false_of_ne h, AList.lookup_insert_ne h]

/-- Without repeated keys, the order of the pairs does not matter. -/
theorem get_insertPairs {pairs : List (Str × Str)} (hnodup : (pairs.map Prod.fst).Nodup) (params : Params) (key : Str) :
    (insertPairs params pairs).get key = (pairs.lookup key).or (params.get key) := by
  induction pairs generalizing params with
  | nil => rfl
  | cons p pairs ih =>
    obtain ⟨k, v⟩ := p
    simp only [List.map_cons, List.nodup_cons] at hnodup
    show (insertPairs (params.insert k v) pairs).get key = _
    rw [ih hnodup.2, List.lookup_cons]
    by_cases h : key = k
    · subst h
      have : pairs.lookup key = none := by
        rw [List.lookup_eq_none_iff]
        intro q hq
        rw [bne_iff_ne]
        intro heq
        subst heq
        exact hnodup.1 (List.mem_map_of_mem hq)
      simp [this, AList.lookup_insert]
    · simp [beq_false_of_ne h, AList.lookup_insert_ne h]

end Wirechaos
