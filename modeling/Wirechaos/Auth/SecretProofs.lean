/-
  Wirechaos.Auth.SecretProofs — PostgreSQL's spelling of a verifier (see
  `Wirechaos.Auth.Verifier`).

  `Spells s v` says what the text of a secret is: a numeral, a salt and two keys between
  fixed separators, in base64 with or without its padding. None of the separators is in
  a numeral or in base64, so that `from_pg_secret` accepts exactly these texts
  (`fromPgSecret_iff`), `to_pg_secret` writes one of them, and a verifier that was parsed
  has exactly one canonical text (`secret_round_trips`).
-/

import Wirechaos.Auth.Verifier

namespace Wirechaos

open Text Async

namespace Verifier

/-! ## The parts -/

/-- Standard base64 of these bytes, padded or not. -/
def Base64Of (b : Bytes) (s : Str) : Prop := s = Base64.encode Base64.standard b ∨ s = Base64.encodeRaw Base64.standard b

/-- Both decoders are strict, and a text that both of them take has one meaning. -/
theorem decodeB64_eq_some {s : Str} {b : Bytes} : decodeB64 s = some b ↔ Base64Of b s := by
  rw [decodeB64, Option.or_eq_some_iff, Base64.decode_eq_some, Base64.decodeRaw_eq_some, Base64Of]
  constructor
  · intro h
    obtain h | ⟨-, h⟩ := h
    · exact Or.inl h
    · exact Or.inr h
  · intro h
    obtain h | h := h
    · exact Or.inl h
    rcases hpadded : Base64.decode Base64.standard s with _ | b'
    · exact Or.inr ⟨rfl, h⟩
    · left
      have hencode := (Base64.decode_eq_some _).mp hpadded
      obtain rfl := Base64.eq_of_encodeRaw_eq_encode _ (h.symm.trans hencode)
      exact hencode

theorem Base64Of.not_mem {b : Bytes} {s : Str} (h : Base64Of b s) {c : Char} (hc : c ∉ Base64.standard.chars) (hp : c ≠ '=') :
    c ∉ s := by
  intro hmem
  obtain rfl | rfl := h
  · exact Base64.not_mem_encode _ hc hp b hmem
  · exact hc (Base64.mem_encodeRaw _ b c hmem)

theorem decodeKey_eq_ok {s field : Str} {key : Key} : decodeKey s field = .ok key ↔ Base64Of key.bytes s := by
  rw [← decodeB64_eq_some, decodeKey]
  constructor
  · intro h
    split at h
    · cases h
    · rename_i bytes hbytes
      split at h
      · cases h
        exact hbytes
      · cases h
  · intro h
    rw [h]
    exact dif_pos key.length_eq

/-- A numeral has digits, and perhaps a sign. -/
theorem mem_of_parseUint {w n : Nat} {s : Str} (h : parseUint w s = some n) : ∀ c ∈ s, c.isDigit = true ∨ c = '+' := by
  unfold parseUint at h
  dsimp only at h
  split at h
  · rename_i hdigits
    intro c hc
    rcases hsign : stripPrefix ['+'] s with _ | digits <;> rw [hsign] at hdigits
    · exact Or.inl (List.all_eq_true.mp hdigits.2 c hc)
    · rw [stripPrefix_eq_some.mp hsign] at hc
      rcases List.mem_append.mp hc with hc | hc
      · exact Or.inr (List.mem_singleton.mp hc)
      · exact Or.inl (List.all_eq_true.mp hdigits.2 c hc)
  · cases h

/-! ## The text -/

/-- The parts of a secret's text, and the verifier they say. -/
structure Parts (v : Verifier) (iterations salt storedKey serverKey : Str) : Prop where
  iterations : parseUint 32 iterations = some v.iterations.toNat
  enough : minIterations ≤ v.iterations.toNat
  salt : Base64Of v.salt salt
  salted : 8 ≤ v.salt.length
  storedKey : Base64Of v.storedKey.bytes storedKey
  serverKey : Base64Of v.serverKey.bytes serverKey
  no_password : v.password = none
  no_dummy : v.isDummy = false

/-- `SCRAM-SHA-256$iter:salt$stored:server`. -/
def secretText (iterations salt storedKey serverKey : Str) : Str :=
  "SCRAM-SHA-256$".toList ++ iterations ++ ':' :: salt ++ '$' :: storedKey ++ ':' :: serverKey

theorem secretText_eq (iterations salt storedKey serverKey : Str) : secretText iterations salt storedKey serverKey =
    "SCRAM-SHA-256$".toList ++ (iterations ++ ':' :: salt ++ '$' :: (storedKey ++ ':' :: serverKey)) := by
  unfold secretText
  -- the scheme is not to be spelled out
  generalize "SCRAM-SHA-256$".toList = scheme
  simp only [List.append_assoc, List.cons_append]

def Spells (s : Str) (v : Verifier) : Prop :=
  ∃ iterations salt storedKey serverKey, s = secretText iterations salt storedKey serverKey ∧
    Parts v iterations salt storedKey serverKey

/-- No separator is in a part before it. -/
theorem Parts.split {v : Verifier} {iterations salt storedKey serverKey : Str} (h : Parts v iterations salt storedKey serverKey) :
    ':' ∉ iterations ∧ '$' ∉ iterations ++ ':' :: salt ∧ ':' ∉ storedKey := by
  have hnumeral {c : Char} (hdigit : c.isDigit = false) (hsign : c ≠ '+') : c ∉ iterations := by
    intro hc
    rcases mem_of_parseUint h.iterations c hc with hc | hc
    · rw [hc] at hdigit
      cases hdigit
    · exact hsign hc
  refine ⟨hnumeral (by decide) (by decide), ?_, h.storedKey.not_mem (by decide) (by decide)⟩
  intro hc
  rcases List.mem_append.mp hc with hc | hc
  · exact hnumeral (by decide) (by decide) hc
  rcases List.mem_cons.mp hc with hc | hc
  · exact absurd hc (by decide)
  · exact h.salt.not_mem (by decide) (by decide) hc

theorem spells_of_fromPgSecret {s : Str} {v : Verifier} (h : fromPgSecret s = .ok v) : Spells s v := by
  simp only [fromPgSecret, except_bind_eq_ok, okOr_eq_ok, require_eq_ok, except_pure_eq_ok, exists_const, Prod.exists,
    stripPrefix_eq_some, splitOnce_eq_some, decodeB64_eq_some, decodeKey_eq_ok] at h
  obtain ⟨-, rest, hs, a, keys, ⟨hrest, -⟩, i, salt, ⟨ha, -⟩, stored, server, ⟨hkeys, -⟩, n, hn, hmin, h⟩ := h
  obtain ⟨saltBytes, hsalt, storedKey, hstored, serverKey, hserver, hlen, rfl⟩ := h
  subst hs hrest ha hkeys
  have hword : (UInt32.ofNat n).toNat = n := by
    rw [UInt32.toNat_ofNat']
    exact Nat.mod_eq_of_lt (parseUint_lt hn)
  refine ⟨i, salt, stored, server, (secretText_eq _ _ _ _).symm, ⟨?_, ?_, hsalt, hlen, hstored, hserver, rfl, rfl⟩⟩
  · rw [hword]
    exact hn
  · rw [hword]
    exact hmin

theorem fromPgSecret_of_spells {s : Str} {v : Verifier} (h : Spells s v) : fromPgSecret s = .ok v := by
  obtain ⟨i, salt, stored, server, rfl, hparts⟩ := h
  obtain ⟨hi, hsalt, hstored⟩ := hparts.split
  simp only [fromPgSecret, except_bind_eq_ok, okOr_eq_ok, require_eq_ok, except_pure_eq_ok, exists_const, Prod.exists,
    stripPrefix_eq_some, splitOnce_eq_some, decodeB64_eq_some, decodeKey_eq_ok]
  refine ⟨?_, i ++ ':' :: salt ++ '$' :: (stored ++ ':' :: server), secretText_eq _ _ _ _,
    i ++ ':' :: salt, stored ++ ':' :: server, ⟨rfl, hsalt⟩,
    i, salt, ⟨rfl, hi⟩, stored, server, ⟨rfl, hstored⟩, v.iterations.toNat, hparts.iterations, hparts.enough, v.salt, hparts.salt,
    v.storedKey, hparts.storedKey, v.serverKey, hparts.serverKey, hparts.salted, ?_⟩
  · rw [secretText_eq]
    rfl
  · obtain ⟨iterations, vsalt, storedKey, serverKey, password, isDummy⟩ := v
    obtain rfl := hparts.no_password
    obtain rfl := hparts.no_dummy
    rw [UInt32.ofNat_toNat]

theorem fromPgSecret_iff {s : Str} {v : Verifier} : fromPgSecret s = .ok v ↔ Spells s v :=
  ⟨spells_of_fromPgSecret, fromPgSecret_of_spells⟩

/-! ## Round trips -/

/-- The text that is written is one of those that are read. -/
theorem spells_toPgSecret {v : Verifier} (hiterations : minIterations ≤ v.iterations.toNat) (hsalt : 8 ≤ v.salt.length) :
    Spells v.toPgSecret { v with password := none, isDummy := false } :=
  ⟨_, _, _, _, rfl, parseUint_decimal v.iterations.toNat_lt, hiterations, Or.inl rfl, hsalt, Or.inl rfl, Or.inl rfl, rfl, rfl⟩

theorem fromPgSecret_toPgSecret {v : Verifier} (hiterations : minIterations ≤ v.iterations.toNat) (hsalt : 8 ≤ v.salt.length) :
    fromPgSecret v.toPgSecret = .ok { v with password := none, isDummy := false } :=
  fromPgSecret_of_spells (spells_toPgSecret hiterations hsalt)

/-- What was parsed is parsed again from its canonical text. -/
theorem canonical_of_fromPgSecret {s : Str} {v : Verifier} (h : fromPgSecret s = .ok v) : fromPgSecret v.toPgSecret = .ok v := by
  obtain ⟨_, _, _, _, -, hparts⟩ := spells_of_fromPgSecret h
  have hagain := fromPgSecret_toPgSecret hparts.enough hparts.salted
  obtain ⟨iterations, salt, storedKey, serverKey, password, isDummy⟩ := v
  obtain rfl := hparts.no_password
  obtain rfl := hparts.no_dummy
  exact hagain

/-- Writing a secret and reading it again gives the verifier without its password; only
    the spellings of a secret are read, and each verifier read has one canonical text. -/
theorem secret_round_trips :
    (∀ v : Verifier, minIterations ≤ v.iterations.toNat → 8 ≤ v.salt.length →
      fromPgSecret v.toPgSecret = .ok { v with password := none, isDummy := false }) ∧
    ∀ s v, fromPgSecret s = .ok v → Spells s v ∧ fromPgSecret v.toPgSecret = .ok v ∧
      ∀ s' v', fromPgSecret s' = .ok v' → (v.toPgSecret = v'.toPgSecret ↔ v = v') := by
  refine ⟨fun v => fromPgSecret_toPgSecret, fun s v h => ⟨spells_of_fromPgSecret h, canonical_of_fromPgSecret h, ?_⟩⟩
  intro s' v' h'
  constructor
  · intro htext
    have hagain := canonical_of_fromPgSecret h
    rw [htext, canonical_of_fromPgSecret h'] at hagain
    cases hagain
    rfl
  · intro hsame
    rw [hsame]

end Verifier

/-! ## An unpadded spelling -/

namespace Sample

def unpaddedSecret : Str :=
  "SCRAM-SHA-256$+4096:AAECAwQFBgcICQ$AAAAAAAAAAAAAAAAAAAAAAAAAAAAAAAAAAAAAAAAAAA:AAAAAAAAAAAAAAAAAAAAAAAAAAAAAAAAAAAAAAAAAAA="

def parsedSecret : Verifier :=
  { iterations := 4096, salt := [0, 1, 2, 3, 4, 5, 6, 7, 8, 9], storedKey := .zero, serverKey := .zero
    password := none, isDummy := false }

end Sample

namespace Verifier

theorem secret_round_trips_sample :
    fromPgSecret Sample.parsedSecret.toPgSecret = .ok Sample.parsedSecret ∧
      fromPgSecret Sample.unpaddedSecret = .ok Sample.parsedSecret ∧ Spells Sample.unpaddedSecret Sample.parsedSecret := by
  have hparsed : fromPgSecret Sample.unpaddedSecret = .ok Sample.parsedSecret := by decide +kernel
  exact ⟨secret_round_trips.1 Sample.parsedSecret (by decide) (by decide), hparsed, (secret_round_trips.2 _ _ hparsed).1⟩

end Verifier

end Wirechaos
