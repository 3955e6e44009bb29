/-
  Wirechaos.Conn.ParamsProofs — the parameters of a session, from the client's
  StartupMessage to the one the backend reads (see `Wirechaos.Conn.Startup`).

  (1) The options string (`options_identity_iff`): it is merged over the parameters
      around it, without its replication setting. So two messages that differ in it
      alone make the same session exactly when the settings they spell (`Spelled`) name
      the same user and database.
  (2) Forwarding (`forwards_params`): what the client's message says, merged, is what
      the backend's message says, with a default for each key that is absent.
-/

import Mathlib.Data.List.Flatten
import Wirechaos.Backend.PgClientProofs
import Wirechaos.Conn.HandleProofs
import Wirechaos.Wire.OptionsProofs

namespace Wirechaos

open Text Async Proc

/-! ## The backend's startup message -/

section Defaults

variable (l defaults : List (Str × Str))

/-- A list of pairs and the defaults of the keys that it lacks. -/
def withDefaults : List (Str × Str) := l ++ defaults.filter fun d => !l.any fun p => p.1 = d.1

variable {l defaults}

theorem lookup_withDefaults (key : Str) : (withDefaults l defaults).lookup key = (l.lookup key).or (defaults.lookup key) := by
  rw [withDefaults, List.lookup_append]
  rcases hl : l.lookup key with _ | value
  · -- the defaults of this key were kept
    have hany : l.any (fun p => p.1 = key) = false := by
      rw [List.any_eq_false]
      intro p hp
      have hne : key ≠ p.1 := bne_iff_ne.mp (List.lookup_eq_none_iff.mp hl p hp)
      simpa using fun h => hne h.symm
    simp only [Option.none_or]
    induction defaults with
    | nil => rfl
    | cons d defaults ih =>
      obtain ⟨k, v⟩ := d
      by_cases hk : key = k
      · subst hk
        rw [List.filter_cons_of_pos (by simp [hany]), List.lookup_cons, List.lookup_cons]
        simp
      · rw [List.lookup_cons, beq_false_of_ne hk, List.filter_cons]
        split
        · rw [List.lookup_cons, beq_false_of_ne hk]
          exact ih
        · exact ih
  · rfl

theorem nodup_withDefaults (hl : (l.map Prod.fst).Nodup) (hd : (defaults.map Prod.fst).Nodup) :
    ((withDefaults l defaults).map Prod.fst).Nodup := by
  rw [withDefaults, List.map_append, List.nodup_append]
  refine ⟨hl, hd.sublist (List.filter_sublist.map _), ?_⟩
  rintro key hkey _ hdefault rfl
  obtain ⟨p, hp, rfl⟩ := List.mem_map.mp hkey
  obtain ⟨d, hd, he⟩ := List.mem_map.mp hdefault
  have := (List.mem_filter.mp hd).2
  rw [Bool.not_eq_true', List.any_eq_false] at this
  exact this p hp (by simp [he])

theorem withDefaults_three (l : List (Str × Str)) (a b c : Str × Str) :
    l ++ (if l.any (fun p => p.1 = a.1) then [] else [a]) ++ (if l.any (fun p => p.1 = b.1) then [] else [b]) ++
      (if l.any (fun p => p.1 = c.1) then [] else [c]) = withDefaults l [a, b, c] := by
  simp only [withDefaults, List.filter_cons, List.filter_nil, List.append_assoc]
  generalize l.any (fun p => decide (p.1 = a.1)) = hasA
  generalize l.any (fun p => decide (p.1 = b.1)) = hasB
  generalize l.any (fun p => decide (p.1 = c.1)) = hasC
  cases hasA <;> cases hasB <;> cases hasC <;> rfl

end Defaults

namespace PgClient

/-- The defaults of the three keys. -/
def startupDefaults (config : PgConfig) : List (Str × Str) :=
  [("user".toList, config.user), ("database".toList, config.database),
    ("application_name".toList, "wirechaos".toList)]

theorem startupPairs_eq (config : PgConfig) :
    startupPairs config = withDefaults config.startupParams (startupDefaults config) :=
  withDefaults_three config.startupParams ("user".toList, config.user) ("database".toList, config.database)
    ("application_name".toList, "wirechaos".toList)

theorem startupMessage_eq (config : PgConfig) :
    startupMessage config = beBytes (UInt32.ofNat (8 + (writePairs (startupPairs config) ++ [0]).length)) ++
      (beBytes protocolVersionNumber ++ (writePairs (startupPairs config) ++ [0])) := by
  have hlength (xs : Bytes) : 4 + (beBytes protocolVersionNumber ++ xs).length = 8 + xs.length := by
    rw [List.length_append, length_beBytes]
    omega
  simp only [startupMessage, writePairs, List.append_assoc, hlength]

theorem writeStartupMessage_ok {config : PgConfig} {client client' : PgClient} {u : Unit}
    (h : writeStartupMessage config client = (.ok u, client')) :
    client'.wire.sent = client.wire.output ++ startupMessage config := by
  obtain ⟨_, c₁, hemit, hraw⟩ := bind_ok.mp h
  cases hemit
  obtain ⟨_, c₂, hwrite, hflush⟩ := bind_ok.mp hraw
  obtain ⟨w₁, hw, rfl⟩ := stream_ok hwrite
  obtain ⟨w₂, hf, rfl⟩ := stream_ok hflush
  rw [(Wire.flush_ok hf).1]
  exact (Wire.writeAll_ok hw).1

/-- The bytes of a startup message, which read back as these parameters, once each. -/
structure Delivers (packet : Bytes) (params : Params) (defaults : List (Str × Str)) : Prop where
  length : packet.take 4 = beBytes (UInt32.ofNat packet.length) ∧ packet.length < 2 ^ 31
  pairs : ∃ pairs, packet.drop 8 = writePairs pairs ++ [0] ∧ (pairs.map Prod.fst).Nodup
  reads : ∃ m m' got, (MessageReader.new (packet.drop 4)).readU32 = (.ok protocolVersionNumber, m) ∧
    readParams m ∅ = (.ok true, m', got) ∧ m'.remaining = 0 ∧
    ∀ key, got.get key = (params.get key).or (defaults.lookup key)

/-- The pairs of a map, in any order, with the defaults. -/
theorem delivers_of_pairs {config : PgConfig} {params : Params} {order : IterOrder} (hclean : CleanParams params)
    (hparams : config.startupParams = (order.run params.entries).map fun e => (e.1, e.2))
    (huser : '\x00' ∉ config.user) (hdatabase : '\x00' ∉ config.database)
    (hsize : wireSize params.entries + byteLen config.user + byteLen config.database < 2 ^ 30) :
    Delivers (startupMessage config) params (startupDefaults config) := by
  have hperm := order.perm params.entries
  have hkeys : (config.startupParams.map Prod.fst).Nodup := by
    rw [hparams, List.map_map]
    exact (hperm.map _).nodup_iff.mpr params.nodupKeys
  have hcleanPairs : CleanPairs (startupPairs config) := by
    intro p hp
    rw [startupPairs_eq] at hp
    rcases List.mem_append.mp hp with hp | hp
    · rw [hparams] at hp
      obtain ⟨e, he, rfl⟩ := List.mem_map.mp hp
      exact hclean e.1 e.2 (AList.mem_lookup_iff.mpr (hperm.subset he))
    · have hp := List.mem_of_mem_filter hp
      simp only [startupDefaults, List.mem_cons, List.not_mem_nil, or_false] at hp
      rcases hp with rfl | rfl | rfl
      · exact ⟨show "user".toList ≠ [] by decide, show '\x00' ∉ "user".toList by decide, huser⟩
      · exact ⟨show "database".toList ≠ [] by decide, show '\x00' ∉ "database".toList by decide, hdatabase⟩
      · exact ⟨by decide, by decide, by decide⟩
  have hlookup (key : Str) : (startupPairs config).lookup key = (params.get key).or ((startupDefaults config).lookup key) := by
    rw [startupPairs_eq, lookup_withDefaults, hparams, lookup_map_entries,
      List.perm_dlookup key ((List.perm_nodupKeys hperm).mpr params.nodupKeys) hperm]
    rfl
  have hnodup : ((startupPairs config).map Prod.fst).Nodup := by
    rw [startupPairs_eq]
    exact nodup_withDefaults hkeys (show ["user".toList, "database".toList, "application_name".toList].Nodup by decide)
  have hlength : (writePairs (startupPairs config)).length ≤
      wireSize params.entries + byteLen config.user + byteLen config.database + 43 := by
    have hdefaults : (writePairs (startupDefaults config)).length = byteLen config.user + byteLen config.database + 43 := by
      simp only [startupDefaults, writePairs, List.flatMap_cons, List.flatMap_nil, List.append_nil, List.length_append,
        length_putCstr]
      have huser : byteLen "user".toList = 4 := by decide
      have hdatabase : byteLen "database".toList = 8 := by decide
      have hname : byteLen "application_name".toList = 16 := by decide
      have hwirechaos : byteLen "wirechaos".toList = 9 := by decide
      omega
    have hfiltered : (writePairs ((startupDefaults config).filter fun d => !config.startupParams.any fun p => p.1 = d.1)).length ≤
        (writePairs (startupDefaults config)).length := (List.filter_sublist.flatMap _).length_le
    have hgiven : (writePairs config.startupParams).length = wireSize params.entries := by
      rw [hparams, length_writePairs, wireSize_perm hperm]
    rw [startupPairs_eq, withDefaults, writePairs, List.flatMap_append, List.length_append]
    unfold writePairs at hfiltered hgiven hdefaults
    omega
  have hmessage := startupMessage_eq config
  have htotal : (startupMessage config).length = 8 + (writePairs (startupPairs config) ++ [0]).length := by
    rw [hmessage]
    simp only [List.length_append, length_beBytes]
    omega
  refine ⟨⟨?_, ?_⟩, ⟨startupPairs config, ?_, hnodup⟩, ?_⟩
  · rw [htotal, hmessage]
    exact List.take_left' (length_beBytes _)
  · rw [htotal, List.length_append]
    simp only [List.length_singleton]
    omega
  · rw [hmessage, ← List.append_assoc]
    exact List.drop_left' (by simp)
  · obtain ⟨m, hcode, hrest⟩ := MessageReader.readU32_rest (m := .new ((startupMessage config).drop 4))
      (x := protocolVersionNumber) (t := writePairs (startupPairs config) ++ [0])
      (by rw [hmessage, MessageReader.new_rest]; exact List.drop_left' (length_beBytes _))
    obtain ⟨m', hread, hremaining⟩ := readParams_pairs hcleanPairs hrest ∅
    refine ⟨m, m', _, hcode, hread, hremaining, fun key => ?_⟩
    rw [get_insertPairs hnodup, hlookup]
    simp [Params.get]

end PgClient

namespace Sample

/-- Alice's parameters with an options string. -/
def withOptions (value : Str) : MessageReader :=
  .new (writePairs [("user".toList, "alice".toList), ("options".toList, value)] ++ [0])

def withoutOptions : MessageReader := .new (writePairs [("user".toList, "alice".toList)] ++ [0])

/-- Options that name Alice once more. -/
def aliceAgain : MessageReader := withOptions "-c work_mem=64\\ MB  --user=alice"

end Sample

namespace Session

variable {V : Type}

/-! ## Merging the options -/

/-- The parameters as they stand in the message. -/
def topLevel (message : MessageReader) : Params := (readParams message ∅).2.2

/-- The settings of the options string. -/
def optionSettings (params : Params) : Params :=
  match params.get "options" with
  | none => ∅
  | some value => (parseOptions value).toOption.getD ∅

theorem mergeOptions_ok {given merged : Params} (h : mergeOptions given = .ok merged) :
    (given.get "options" = none ∧ merged = given) ∨
      ∃ (value : Str) (parsed : Params), given.get "options" = some value ∧ parseOptions value = .ok parsed ∧
        merged = (given.extend (parsed.erase "replication".toList)).erase "options".toList := by
  unfold mergeOptions at h
  split at h
  · rename_i hnone
    cases h
    exact Or.inl ⟨hnone, rfl⟩
  · rename_i value hvalue
    obtain ⟨parsed, hparsed, h⟩ := except_bind_eq_ok.mp h
    exact Or.inr ⟨value, parsed, hvalue, hparsed, (except_pure_eq_ok.mp h).symm⟩

theorem get_extend (m other : Params) (key : Str) : (m.extend other).get key = (other.get key).or (m.get key) := by
  by_cases h : key ∈ other
  · obtain ⟨value, hvalue⟩ := Option.isSome_iff_exists.mp (AList.lookup_isSome.mpr h)
    show (other ∪ m).lookup key = _
    rw [AList.lookup_union_left h, Params.get, hvalue]
    rfl
  · show (other ∪ m).lookup key = _
    rw [AList.lookup_union_right h, Params.get, AList.lookup_eq_none.mpr h]
    rfl

/-- A setting wins over the parameter, except that it cannot set the replication mode. -/
theorem get_mergeOptions {given merged : Params} (h : mergeOptions given = .ok merged) {key : Str} (hkey : key ≠ "options") :
    merged.get key = (((optionSettings given).erase "replication".toList).lookup key).or (given.get key) := by
  rcases mergeOptions_ok h with ⟨hnone, rfl⟩ | ⟨value, parsed, hvalue, hparsed, rfl⟩
  · have hsettings : optionSettings merged = ∅ := by
      unfold optionSettings
      rw [hnone]
    rw [hsettings]
    rfl
  · have hsettings : optionSettings given = parsed := by
      unfold optionSettings
      rw [hvalue]
      dsimp only
      rw [hparsed]
      rfl
    rw [hsettings]
    exact (AList.lookup_erase_ne hkey).trans (get_extend given (parsed.erase "replication".toList) key)

/-! ## The options string and the identity -/

/-- The settings that a message's options string spells, in order and each in its form; without
    such a string there are none. -/
def Spelled (message : MessageReader) (settings : List (Setting × Spelling)) : Prop :=
  match (topLevel message).get "options" with
  | none => settings = []
  | some value => Splits value (settings.flatMap fun p => p.1.tokens p.2)

/-- The user that a message names: in its last setting of `user`, or at the top level where
    it has none. -/
def namedUser (message : MessageReader) (settings : List (Setting × Spelling)) : Option Str :=
  (lastValue settings "user").or ((topLevel message).get "user")

/-- The database likewise; where it names none, or an empty one, it is the user's own. -/
def namedDatabase (message : MessageReader) (settings : List (Setting × Spelling)) : Option Str :=
  (((lastValue settings "database").or ((topLevel message).get "database")).filter (· ≠ [])).or (namedUser message settings)

theorem exists_spelled {message : MessageReader} {merged : Params} (h : mergeOptions (topLevel message) = .ok merged) :
    ∃ settings, Spelled message settings := by
  unfold Spelled
  rcases mergeOptions_ok h with ⟨hnone, -⟩ | ⟨value, parsed, hvalue, hparsed, -⟩
  · rw [hnone]
    exact ⟨[], rfl⟩
  · rw [hvalue]
    exact exists_settings hparsed

/-- Of a setting that is not the replication mode, the last one is merged. -/
theorem get_mergeOptions_spelled {message : MessageReader} {merged : Params} (h : mergeOptions (topLevel message) = .ok merged)
    {settings : List (Setting × Spelling)} (hspelled : Spelled message settings) {key : Str} (hkey : key ≠ "options")
    (hreplication : key ≠ "replication") (hdash : '-' ∉ key) (hunder : '_' ∉ key) :
    merged.get key = (lastValue settings key).or ((topLevel message).get key) := by
  rw [get_mergeOptions h hkey, AList.lookup_erase_ne hreplication]
  congr 1
  unfold Spelled at hspelled
  unfold optionSettings
  rcases mergeOptions_ok h with ⟨hnone, -⟩ | ⟨value, parsed, hvalue, hparsed, -⟩
  · rw [hnone] at hspelled ⊢
    dsimp only at hspelled
    rw [hspelled]
    rfl
  · rw [hvalue] at hspelled ⊢
    dsimp only at hspelled ⊢
    rw [hparsed]
    exact get_parseOptions hparsed hspelled hdash hunder

/-- The identity of a session is what its message names; the mode is the one of the
    top level. -/
theorem readIdentity_named {message : MessageReader} {mode : ReplicationMode} {identity : Identity}
    (h : readIdentity message ∅ mode = .ok identity) :
    (∃ settings, Spelled message settings) ∧
    (∀ settings, Spelled message settings →
      namedUser message settings = some identity.user ∧ namedDatabase message settings = some identity.database) ∧
    startupReplication (topLevel message) mode = .ok identity.replicationMode := by
  obtain ⟨m, given, hread, -, hmerged, huser, hmode, hdatabase⟩ := readIdentity_ok.mp h
  have htop : topLevel message = given := by rw [topLevel, hread]
  subst htop
  refine ⟨exists_spelled hmerged, fun settings hspelled => ?_, ?_⟩
  · have hname : namedUser message settings = some identity.user := by
      rw [namedUser, ← get_mergeOptions_spelled hmerged hspelled (by decide) (by decide) (by decide) (by decide)]
      exact (Option.filter_eq_some_iff.mp (okOr_eq_ok.mp huser)).1
    refine ⟨hname, ?_⟩
    rw [namedDatabase, hname, hdatabase, startupDatabase,
      ← get_mergeOptions_spelled hmerged hspelled (by decide) (by decide) (by decide) (by decide)]
    cases (identity.params.get "database").filter (· ≠ []) <;> rfl
  · rw [startupReplication, get_mergeOptions hmerged (by decide), AList.lookup_erase] at hmode
    exact hmode

/-- The session that a message makes of `s`. -/
def applied (message : MessageReader) (s : Session V) : Conn V := (applyStartupParams message s).2.conn

def SameIdentity (c c' : Conn V) : Prop :=
  c.user = c'.user ∧ c.database = c'.database ∧ c.replicationMode = c'.replicationMode

/-- Beyond the replication mode, the options string has its say in who the session is: it
    does where it names another user or database, in whatever form, last of all. -/
theorem options_identity_iff {s : Session V} {m m' : MessageReader} (hfresh : s.conn.params = ∅)
    (h : (applyStartupParams m s).1 = .ok ()) (h' : (applyStartupParams m' s).1 = .ok ())
    (htop : ∀ key : Str, key ≠ "options" → (topLevel m).get key = (topLevel m').get key) :
    (∃ settings, Spelled m settings) ∧ (∃ settings', Spelled m' settings') ∧
    ∀ settings settings', Spelled m settings → Spelled m' settings' →
      (SameIdentity (applied m s) (applied m' s) ↔
        namedUser m settings = namedUser m' settings' ∧ namedDatabase m settings = namedDatabase m' settings') := by
  obtain ⟨i, hi, hs⟩ := applyStartupParams_ok (eq_of_fst h)
  obtain ⟨i', hi', hs'⟩ := applyStartupParams_ok (eq_of_fst h')
  rw [hfresh] at hi hi'
  obtain ⟨hexists, hnamed, hmode⟩ := readIdentity_named hi
  obtain ⟨hexists', hnamed', hmode'⟩ := readIdentity_named hi'
  refine ⟨hexists, hexists', fun settings settings' hspelled hspelled' => ?_⟩
  obtain ⟨huser, hdatabase⟩ := hnamed settings hspelled
  obtain ⟨huser', hdatabase'⟩ := hnamed' settings' hspelled'
  have hsame : i.replicationMode = i'.replicationMode := by
    rw [startupReplication, htop "replication" (by decide), ← startupReplication, hmode'] at hmode
    exact (Except.ok.inj hmode).symm
  rw [applied, applied, hs, hs', huser, huser', hdatabase, hdatabase']
  simp only [SameIdentity, identify, hsame, and_true]

theorem get_topLevel_withOptions {value : Str} (hvalue : '\x00' ∉ value) {key : Str} (hkey : key ≠ "options") :
    (topLevel (Sample.withOptions value)).get key = (topLevel Sample.withoutOptions).get key := by
  have hclean : CleanPairs [("user".toList, "alice".toList), ("options".toList, value)] := by simp [CleanPairs, hvalue]
  have hclean' : CleanPairs [("user".toList, "alice".toList)] := by simp [CleanPairs]
  obtain ⟨m, hread, -⟩ := readParams_pairs hclean (m := Sample.withOptions value) rfl ∅
  obtain ⟨m', hread', -⟩ := readParams_pairs hclean' (m := Sample.withoutOptions) rfl ∅
  rw [topLevel, topLevel, hread, hread']
  exact AList.lookup_insert_ne hkey

theorem options_identity_iff_setting :
    (∃ settings, Spelled Sample.aliceAgain settings) ∧ (∃ settings', Spelled Sample.withoutOptions settings') ∧
    ∀ settings settings', Spelled Sample.aliceAgain settings → Spelled Sample.withoutOptions settings' →
      (SameIdentity (applied Sample.aliceAgain Sample.login) (applied Sample.withoutOptions Sample.login) ↔
        namedUser Sample.aliceAgain settings = namedUser Sample.withoutOptions settings' ∧
          namedDatabase Sample.aliceAgain settings = namedDatabase Sample.withoutOptions settings') :=
  options_identity_iff rfl (by decide +kernel) (by decide +kernel) fun _ => get_topLevel_withOptions (by decide)

/-- An options string may make Alice's session another user's. -/
theorem options_change_the_user :
    (applyStartupParams (Sample.withOptions "-c user=postgres") Sample.login).1 = .ok () ∧
    (applyStartupParams Sample.withoutOptions Sample.login).1 = .ok () ∧
    (∀ key : Str, key ≠ "options" →
      (topLevel (Sample.withOptions "-c user=postgres")).get key = (topLevel Sample.withoutOptions).get key) ∧
    ¬ SameIdentity (applied (Sample.withOptions "-c user=postgres") Sample.login)
      (applied Sample.withoutOptions Sample.login) := by
  refine ⟨by decide +kernel, by decide +kernel, fun _ => get_topLevel_withOptions (by decide), fun h => ?_⟩
  have hother : (applied (Sample.withOptions "-c user=postgres") Sample.login).user = some "postgres".toList := by
    decide +kernel
  have hown : (applied Sample.withoutOptions Sample.login).user = some "alice".toList := by decide +kernel
  have := h.1
  rw [hother, hown] at this
  exact absurd this (by decide)

/-! ## Forwarding -/

/-- What is read and merged is clean and comes from the message's bytes. -/
theorem readIdentity_clean {message : MessageReader} {mode : ReplicationMode} {identity : Identity}
    (h : readIdentity message ∅ mode = .ok identity) :
    CleanParams identity.params ∧ wireSize identity.params.entries ≤ 2 * message.rest.length ∧
      identity.params.get "user" = some identity.user := by
  obtain ⟨m, given, hread, -, hmerged, huser, -, -⟩ := readIdentity_ok.mp h
  obtain ⟨hclean, hsize⟩ := readParams_ok hread .empty
  have hempty : wireSize (∅ : Params).entries = 0 := rfl
  refine ⟨?_, ?_, (Option.filter_eq_some_iff.mp (okOr_eq_ok.mp huser)).1⟩
  · rcases mergeOptions_ok hmerged with ⟨-, hsame⟩ | ⟨value, parsed, hvalue, hparsed, hmerge⟩
    · rw [hsame]
      exact hclean
    · rw [hmerge]
      have hparsedClean := (parseOptions_ok hparsed (hclean _ _ hvalue).2.2).1
      exact (hclean.extend (hparsedClean.erase _)).erase _
  · rcases mergeOptions_ok hmerged with ⟨-, hsame⟩ | ⟨value, parsed, hvalue, hparsed, hmerge⟩
    · rw [hsame]
      omega
    · have hparsedSize := (parseOptions_ok hparsed (hclean _ _ hvalue).2.2).2
      have hvalueSize := byteLen_le_wireSize hvalue
      have h₁ := wireSize_erase_le (given.extend (parsed.erase "replication".toList)) "options".toList
      have h₂ := wireSize_extend_le given (parsed.erase "replication".toList)
      have h₃ := wireSize_erase_le parsed "replication".toList
      rw [hmerge]
      omega

/-- The user is the one of the parameters; the database is clean as well. -/
theorem readIdentity_database {message : MessageReader} {mode : ReplicationMode} {identity : Identity}
    (h : readIdentity message ∅ mode = .ok identity) :
    '\x00' ∉ identity.user ∧ '\x00' ∉ identity.database ∧
      byteLen identity.user + byteLen identity.database ≤ 4 * message.rest.length := by
  obtain ⟨hclean, hsize, huser⟩ := readIdentity_clean h
  obtain ⟨_, _, _, _, _, -, -, hdatabase⟩ := readIdentity_ok.mp h
  have hu := byteLen_le_wireSize huser
  have huz := (hclean _ _ huser).2.2
  refine ⟨huz, ?_⟩
  rw [hdatabase, startupDatabase]
  rcases hd : (identity.params.get "database").filter (· ≠ []) with _ | database
  · exact ⟨huz, by simp only [Option.getD_none]; omega⟩
  · have hget := (Option.filter_eq_some_iff.mp hd).1
    have := byteLen_le_wireSize hget
    exact ⟨(hclean _ _ hget).2.2, by simp only [Option.getD_some]; omega⟩

section Provider

variable (C : Crypto) [VerifierProvider V]

omit [VerifierProvider V] in
theorem LinkLog.of_connect {s : Session V} {clientKey : Bytes} {user database : Str}
    {answer : Except ProviderError (Option Verifier)} {es : List Event} {config : PgConfig}
    (h : LinkLog s clientKey user database answer es) (hconnect : .connect config ∈ es) :
    ∃ v host port tail, config = pgConfig s clientKey user database v host port ∧ es = .connect config :: tail := by
  rcases h with ⟨rfl, -⟩ | ⟨v, host, port, tail, -, -, rfl, htail⟩
  · cases hconnect
  · rcases List.mem_cons.mp hconnect with he | he
    · cases he
      exact ⟨v, host, port, tail, rfl, rfl⟩
    · exact absurd he ((not_mem_of_plain htail).1 config)

/-- A link is opened for the user who was authenticated, with the parameters of the one
    StartupMessage. -/
theorem handle_of_connect {s : Session V} (hs : Fresh s) {config : PgConfig} (h : .connect config ∈ (handle C s).2.log) :
    ∃ body message reader writer identity v exchange answer pre post,
      body.length ≤ s.conn.pool.maxCapacity ∧
      (MessageReader.new body).readU32 = (.ok PgClient.protocolVersionNumber, message) ∧
      readIdentity message ∅ .off = .ok identity ∧ AuthLog C v exchange ∧
      (∃ clientKey v' host port, config = pgConfig (s.identify identity) clientKey identity.user identity.database v' host port) ∧
      (handle C s).2.log = pre ++ .packet body :: .startup reader writer :: .lookup identity.user (.ok (some v)) ::
        (exchange ++ .lookup identity.user answer :: .connect config :: post) := by
  obtain ⟨es, hlog, quiet, t, o, last, s', tail, hwaits, ho, hstep, htail, rfl⟩ := handle_log C s
  rw [hs.log, List.nil_append] at hlog
  have hset := hwaits.settled
  -- the event is one of the StartupMessage
  have hlast : .connect config ∈ last := by
    rw [hlog] at h
    rcases List.mem_append.mp h with he | he
    · rcases hwaits.events _ he with ⟨_, h⟩ | ⟨_, _, h, -⟩ <;> cases h
    rcases List.mem_append.mp he with he | he
    · exact he
    · exact absurd he ((not_mem_of_plain htail).1 config)
  have hauth {es : List Event} (hes : ∀ e ∈ es, AuthEvent e) : .connect config ∉ es := by
    intro he
    rcases hes _ he with ⟨_, _, h⟩ | ⟨_, h⟩ | ⟨_, _, h⟩ <;> cases h
  cases hstep with
  | encryption => exact absurd rfl ho
  | unread => cases hlast
  | @ended _ _ replies _ _ _ hreplies =>
    have he : .connect config ∈ replies := by simpa using hlast
    obtain ⟨_, h⟩ := hreplies _ he
    cases h
  | @startup _ body message _ session _ hlen hread _ hsession =>
    have he : .connect config ∈ session := by simpa using hlast
    rw [hset.pool] at hlen
    cases hsession with
    | rejected hes => exact absurd he (hauth fun e h => (hes e h).1)
    | @authenticated _ _ exchange rest _ hexchange hrest =>
      rcases List.mem_cons.mp he with he | he
      · cases he
      rcases List.mem_append.mp he with he | he
      · exact absurd he (hauth (hexchange.events C))
      · exact absurd he ((not_mem_of_plain hrest).1 config)
    | @admitted identity v exchange link clientKey answer hidentity hexchange _ hlink =>
      have he : .connect config ∈ link := by
        rcases List.mem_cons.mp he with he | he
        · cases he
        rcases List.mem_append.mp he with he | he
        · exact absurd he (hauth (hexchange.events C))
        rcases List.mem_cons.mp he with he | he
        · cases he
        · exact he
      obtain ⟨v', host, port, rest, hconfig, rfl⟩ := hlink.of_connect he
      rw [hset.params, hset.replicationMode, hs.params, hs.replicationMode] at hidentity
      have hidentify : Settled (s.identify identity) (t.identify identity) :=
        ⟨hset.world, hset.config, hset.pool, hset.requiredTls, hset.frontendTls, rfl, rfl, rfl, rfl⟩
      rw [pgConfig_of_settled hidentify] at hconfig
      exact ⟨body, message, t.conn.wire.reader.inner.transport, t.conn.wire.writer.inner, identity, v, exchange, answer,
        quiet, rest ++ tail, hlen, hread, hidentity, hexchange, ⟨clientKey, v', host, port, hconfig⟩, by rw [hlog]; simp⟩

omit [VerifierProvider V] in
/-- The message of a link that is set up so, whatever the order of the map. -/
theorem delivers_of_identity {s : Session V} {body : Bytes} {message : MessageReader} {identity : Identity}
    (hread : (MessageReader.new body).readU32 = (.ok PgClient.protocolVersionNumber, message))
    (hlen : body.length ≤ 2 ^ 26) (hidentity : readIdentity message ∅ .off = .ok identity)
    (clientKey : Bytes) (v : Verifier) (host : Str) (port : Nat) :
    PgClient.Delivers (PgClient.startupMessage
        (pgConfig (s.identify identity) clientKey identity.user identity.database v host port)) identity.params
      [("user".toList, identity.user), ("database".toList, identity.database),
        ("application_name".toList, "wirechaos".toList)] := by
  obtain ⟨hclean, hsize, -⟩ := readIdentity_clean hidentity
  obtain ⟨huser, hdatabase, hnames⟩ := readIdentity_database hidentity
  have hrest : message.rest.length ≤ body.length := by
    have h := MessageReader.readU32_ok hread
    rw [MessageReader.new_rest] at h
    rw [h, List.length_append]
    omega
  exact PgClient.delivers_of_pairs hclean rfl huser hdatabase (by
    show wireSize identity.params.entries + byteLen identity.user + byteLen identity.database < 2 ^ 30
    omega)

/-- The parameters that the client sent reach the backend: its message reads back as the
    session's, once each, with a default for each of three keys that is absent. -/
theorem forwards_params {s : Session V} (hs : Fresh s) (hpool : s.conn.pool.maxCapacity ≤ 2 ^ 20) {config : PgConfig}
    (h : .connect config ∈ (handle C s).2.log) :
    ∃ body message reader writer identity v exchange answer pre post,
      (handle C s).2.log = pre ++ .packet body :: .startup reader writer :: .lookup identity.user (.ok (some v)) ::
        (exchange ++ .lookup identity.user answer :: .connect config :: post) ∧
      (MessageReader.new body).readU32 = (.ok PgClient.protocolVersionNumber, message) ∧
      readIdentity message ∅ .off = .ok identity ∧ AuthLog C v exchange ∧
      identity.params.get "user" = some identity.user ∧
      ∃ packet, PgClient.Delivers packet identity.params
          [("user".toList, identity.user), ("database".toList, identity.database),
            ("application_name".toList, "wirechaos".toList)] ∧
        ∀ client client' u, PgClient.writeStartupMessage config client = (.ok u, client') →
          client'.wire.sent = client.wire.output ++ packet := by
  obtain ⟨body, message, reader, writer, identity, v, exchange, answer, pre, post, hlen, hread, hidentity, hexchange,
    ⟨clientKey, v', host, port, rfl⟩, hlog⟩ := handle_of_connect C hs h
  exact ⟨body, message, reader, writer, identity, v, exchange, answer, pre, post, hlog, hread, hidentity, hexchange,
    (readIdentity_clean hidentity).2.2, _, delivers_of_identity hread (by omega) hidentity clientKey v' host port,
    fun _ _ _ => PgClient.writeStartupMessage_ok⟩

end Provider

end Session

namespace Sample

open Session

/-- Alice logs in with a parameter of her own and an options string. -/
def optionsLogin : Session (CredentialStore crypto) :=
  session store (fun _ shared => shared)
    [packet PgClient.protocolVersionNumber (writePairs [("user".toList, "alice".toList), ("application_name".toList, "psql".toList),
      ("options".toList, "-c work_mem=64 --search-path=public".toList)] ++ [0]) ++ saslMessages]

theorem fresh_optionsLogin : Fresh optionsLogin := fresh_session _ _ _

def optionsLink : PgConfig :=
  { linkTo aliceVerifier with
    startupParams := [("search_path".toList, "public".toList), ("work_mem".toList, "64".toList),
      ("application_name".toList, "psql".toList), ("user".toList, "alice".toList)] }

theorem optionsLogin_connects : .connect optionsLink ∈ (handle crypto optionsLogin).2.log := by decide +kernel

end Sample

namespace Session

theorem forwards_params_options :
    ∃ body message reader writer identity v exchange answer pre post,
      (handle Sample.crypto Sample.optionsLogin).2.log = pre ++ .packet body :: .startup reader writer ::
        .lookup identity.user (.ok (some v)) ::
        (exchange ++ .lookup identity.user answer :: .connect Sample.optionsLink :: post) ∧
      (MessageReader.new body).readU32 = (.ok PgClient.protocolVersionNumber, message) ∧
      readIdentity message ∅ .off = .ok identity ∧ AuthLog Sample.crypto v exchange ∧
      identity.params.get "user" = some identity.user ∧
      ∃ packet, PgClient.Delivers packet identity.params
          [("user".toList, identity.user), ("database".toList, identity.database),
            ("application_name".toList, "wirechaos".toList)] ∧
        ∀ client client' u, PgClient.writeStartupMessage Sample.optionsLink client = (.ok u, client') →
          client'.wire.sent = client.wire.output ++ packet :=
  forwards_params Sample.crypto Sample.fresh_optionsLogin (Nat.le_refl _) Sample.optionsLogin_connects

end Session

end Wirechaos
