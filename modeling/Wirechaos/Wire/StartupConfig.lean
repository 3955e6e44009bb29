/-
  Wirechaos.Wire.StartupConfig — the parameters of a StartupMessage: its key/value
  list (the loop of `handle_startup_packet`), the `options` string
  (startup_config_parse_util.rs) and the replication mode (replication_mode.rs).

  A `HashMap<String, String>` is an `AList`: a finite map without repeated keys. Its
  entries come in some order; where the source iterates over a map, the order is a
  permutation chosen by the environment (`IterOrder`).
-/

import Mathlib.Data.List.AList
import Wirechaos.Wire.Packet

namespace Wirechaos

open Text

abbrev Params := AList (fun _ : Str => Str)

abbrev Params.get (m : Params) (key : Str) : Option Str := m.lookup key

/-- `HashMap::extend`: the second map's settings win. -/
def Params.extend (m other : Params) : Params := other ∪ m

/-- The order in which a map is iterated. -/
structure IterOrder where
  run : List (Σ _ : Str, Str) → List (Σ _ : Str, Str)
  perm : ∀ l, (run l).Perm l

/-! ## The options string -/

/-- The scan of `split_option_tokens`; `curr` is the token so far. -/
def splitOptionTokensFrom : Str → Str → Bool → List Str
  | [], curr, _ => if curr = [] then [] else [curr]
  | c :: cs, curr, true => splitOptionTokensFrom cs (curr ++ [c]) false
  | c :: cs, curr, false =>
    if c = '\\' then splitOptionTokensFrom cs curr true
    else if c = ' ' ∨ c = '\t' then
      if curr = [] then splitOptionTokensFrom cs curr false else curr :: splitOptionTokensFrom cs [] false
    else splitOptionTokensFrom cs (curr ++ [c]) false

def splitOptionTokens (s : Str) : List Str := splitOptionTokensFrom s [] false

def splitKeyValue (token : Str) : Except ProxyError (Str × Str) :=
  match splitOnce '=' token with
  | none => .error (connectionError .invalidData)
  | some (key, value) =>
    if key = [] ∨ value = [] then .error (connectionError .invalidData) else .ok (key, value)

/-- `key.replace("-", "_")`. -/
def normalizeKey (key : Str) : Str := key.map fun c => if c = '-' then '_' else c

/-- The loop of `parse_options` over the tokens left. -/
def parseOptionTokens : List Str → Params → Except ProxyError Params
  | [], result => .ok result
  | token :: rest, result =>
    if token = "-c" then
      match rest with
      | [] => .error (connectionError .invalidData)
      | valueToken :: rest =>
        match splitKeyValue valueToken with
        | .error e => .error e
        | .ok (key, value) => parseOptionTokens rest (result.insert key value)
    else if startsWith "-c" token then
      match splitKeyValue (token.drop 2) with
      | .error e => .error e
      | .ok (key, value) => parseOptionTokens rest (result.insert key value)
    else if startsWith "--" token then
      match splitKeyValue (token.drop 2) with
      | .error e => .error e
      | .ok (key, value) => parseOptionTokens rest (result.insert (normalizeKey key) value)
    else .error (connectionError .invalidData)

def parseOptions (options : Str) : Except ProxyError Params := parseOptionTokens (splitOptionTokens options) ∅

/-! ## The replication mode -/

inductive ReplicationMode where
  | off
  | physical
  | logical
  deriving DecidableEq, Repr

/-- `to_lowercase` on ASCII: no other character lowercases to a letter of the words below. -/
def toLowercase (s : Str) : Str := s.map Char.toLower

def parseReplicationMode (value : Str) : Except ProxyError ReplicationMode :=
  let v := toLowercase value
  if v ∈ (["", "false", "off", "no", "0", "f", "n"].map String.toList) then .ok .off
  else if v ∈ (["true", "on", "yes", "1", "t", "y"].map String.toList) then .ok .physical
  else if v = "database" then .ok .logical
  else .error (connectionError .invalidData)

/-! ## The key/value list -/

/-- The `while` of `handle_startup_packet`, with fuel for its iterations: whether the
    terminator was seen, the reader and the map. -/
def readParamsFrom : Nat → MessageReader → Params → Except ProxyError Bool × MessageReader × Params
  | 0, m, params => (.ok false, m, params)
  | n + 1, m, params =>
    if m.remaining = 0 then (.ok false, m, params)
    else
      match m.readString with
      | (.error e, m) => (.error e, m, params)
      | (.ok key, m) =>
        if key = [] then (.ok true, m, params)
        else
          match m.readString with
          | (.error e, m) => (.error e, m, params)
          | (.ok value, m) => readParamsFrom n m (params.insert key value)

/-- Every iteration consumes a byte, so the bytes left are fuel enough. -/
def readParams (m : MessageReader) (params : Params) : Except ProxyError Bool × MessageReader × Params :=
  readParamsFrom (m.remaining + 1) m params

/-! ## What the parsers guarantee of a map -/

/-- Non-empty NUL-free keys with NUL-free values: what a map must be to be written out again. -/
def CleanParams (params : Params) : Prop :=
  ∀ k v, params.lookup k = some v → k ≠ [] ∧ '\x00' ∉ k ∧ '\x00' ∉ v

theorem CleanParams.empty : CleanParams ∅ := by
  intro k v h
  simp at h

theorem CleanParams.insert {params : Params} (h : CleanParams params) {k v : Str} (hk : k ≠ [])
    (hkz : '\x00' ∉ k) (hvz : '\x00' ∉ v) : CleanParams (params.insert k v) := by
  intro k' v' hl
  by_cases e : k' = k
  · subst e
    rw [AList.lookup_insert] at hl
    cases hl
    exact ⟨hk, hkz, hvz⟩
  · rw [AList.lookup_insert_ne e] at hl
    exact h k' v' hl

theorem CleanParams.extend {params other : Params} (h : CleanParams params) (ho : CleanParams other) :
    CleanParams (params.extend other) := by
  intro k v hl
  rcases AList.lookup_union_eq_some.mp hl with hl | ⟨-, hl⟩
  · exact ho k v hl
  · exact h k v hl

theorem lookup_of_lookup_erase {params : Params} {k k' v : Str} (h : (params.erase k).lookup k' = some v) :
    k' ≠ k ∧ params.lookup k' = some v := by
  by_cases e : k' = k
  · subst e; rw [AList.lookup_erase] at h; cases h
  · rw [AList.lookup_erase_ne e] at h; exact ⟨e, h⟩

theorem CleanParams.erase {params : Params} (h : CleanParams params) (k : Str) : CleanParams (params.erase k) :=
  fun k' v hl => h k' v (lookup_of_lookup_erase hl).2

end Wirechaos
