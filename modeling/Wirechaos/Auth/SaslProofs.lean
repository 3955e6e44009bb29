/-
  Wirechaos.Auth.SaslProofs — what `read_sasl_initial_response` accepts (see
  `Wirechaos.Auth.Sasl`).

  It reads a response as `handle_sasl` writes it, and stops there
  (`parseSaslInitialResponse_ok_iff`); so it is exact on every body but those with bytes
  behind a response (`saslInitialResponse_exact_iff`).
-/

import Wirechaos.Auth.Sasl
import Wirechaos.Auth.ScramProofs
import Wirechaos.Backend.Sasl

namespace Wirechaos

open Text

/-! ## The length -/

theorem toInt_toInt32 {n : UInt32} (h : n.toNat < 2 ^ 31) : n.toInt32.toInt = n.toNat := by
  have hb : n.toInt32.toBitVec = n.toBitVec := rfl
  have hn : 2 * n.toBitVec.toNat < 2 ^ 32 := by
    have : n.toBitVec.toNat = n.toNat := rfl
    omega
  rw [Int32.toInt, hb, BitVec.toInt_eq_toNat_of_lt hn]
  rfl

theorem toInt32_neg_iff {n : UInt32} : n.toInt32 < 0 ↔ 2 ^ 31 ≤ n.toNat := by
  have hb : n.toInt32.toBitVec = n.toBitVec := rfl
  have hn : n.toBitVec.toNat = n.toNat := rfl
  rw [Int32.lt_iff_toInt_lt, Int32.toInt, hb]
  show n.toBitVec.toInt < 0 ↔ _
  rw [BitVec.toInt_neg_iff]
  omega

/-! ## The response -/

section Response

variable {mechanics : List Str} {mechanism clientFirst : Str} {body : Bytes}

/-- What `handle_sasl` writes, `read_sasl_initial_response` reads, whatever is behind it. -/
theorem parseSaslInitialResponse_append (hm : mechanism ∈ mechanics) (hz : '\x00' ∉ mechanism)
    (hl : byteLen clientFirst < 2 ^ 31) (rest : Bytes) :
    parseSaslInitialResponse mechanics (saslInitialResponse mechanism clientFirst ++ rest) =
      .ok (mechanism, clientFirst) := by
  have hlen : (UInt32.ofNat (byteLen clientFirst)).toNat = byteLen clientFirst := by
    rw [UInt32.toNat_ofNat']
    omega
  have hint := toInt_toInt32 (n := UInt32.ofNat (byteLen clientFirst)) (by omega)
  obtain ⟨m₁, h₁, hr₁⟩ := MessageReader.readString_rest
    (m := .new (saslInitialResponse mechanism clientFirst ++ rest)) (by
      rw [MessageReader.new_rest, saslInitialResponse, List.append_assoc, List.append_assoc]) hz
  obtain ⟨m₂, h₂, hr₂⟩ := MessageReader.readU32_rest hr₁
  obtain ⟨m₃, h₃, -⟩ := MessageReader.readStringFixedSize_rest hr₂ (by rw [hint, hlen]; rfl)
  have hpos : ¬ (UInt32.ofNat (byteLen clientFirst)).toInt32 < 0 := by
    rw [toInt32_neg_iff]
    omega
  simp only [parseSaslInitialResponse, h₁, h₂, h₃, hm, not_true_eq_false, if_false, if_neg hpos]

theorem parseSaslInitialResponse_saslInitialResponse (hm : mechanism ∈ mechanics) (hz : '\x00' ∉ mechanism)
    (hl : byteLen clientFirst < 2 ^ 31) :
    parseSaslInitialResponse mechanics (saslInitialResponse mechanism clientFirst) = .ok (mechanism, clientFirst) := by
  have := parseSaslInitialResponse_append hm hz hl []
  rwa [List.append_nil] at this

theorem parseSaslInitialResponse_ok (h : parseSaslInitialResponse mechanics body = .ok (mechanism, clientFirst)) :
    mechanism ∈ mechanics ∧ byteLen clientFirst < 2 ^ 31 ∧
      ∃ rest, body = saslInitialResponse mechanism clientFirst ++ rest := by
  unfold parseSaslInitialResponse at h
  split at h
  · cases h
  rename_i m₁ h₁
  split at h
  · cases h
  rename_i hm
  split at h
  · cases h
  rename_i len m₂ h₂
  dsimp only at h
  split at h
  · cases h
  rename_i hneg
  split at h
  · cases h
  rename_i m₃ h₃
  cases h
  have hlen : len.toNat < 2 ^ 31 := by
    have : ¬2 ^ 31 ≤ len.toNat := fun hle => hneg (toInt32_neg_iff.mpr hle)
    omega
  obtain ⟨hrest₃, hsize⟩ := MessageReader.readStringFixedSize_ok h₃
  have hbytes : byteLen clientFirst = len.toNat := by
    have := toInt_toInt32 hlen
    unfold asUsize at hsize
    omega
  refine ⟨not_not.mp hm, by omega, m₃.rest, ?_⟩
  have hrest₁ : body = putCstr mechanism ++ m₁.rest := (MessageReader.readString_ok h₁).1
  rw [hrest₁, MessageReader.readU32_ok h₂, hrest₃, saslInitialResponse, hbytes, UInt32.ofNat_toNat,
    List.append_assoc, List.append_assoc]

/-- A response is accepted, and what is behind it is not looked at. -/
theorem parseSaslInitialResponse_ok_iff (hz : ∀ m ∈ mechanics, '\x00' ∉ m) :
    parseSaslInitialResponse mechanics body = .ok (mechanism, clientFirst) ↔
      mechanism ∈ mechanics ∧ byteLen clientFirst < 2 ^ 31 ∧
        ∃ rest, body = saslInitialResponse mechanism clientFirst ++ rest := by
  constructor
  · exact parseSaslInitialResponse_ok
  · intro h
    obtain ⟨hm, hl, rest, rfl⟩ := h
    exact parseSaslInitialResponse_append hm (hz mechanism hm) hl rest

end Response

theorem ScramAuthenticator.mechanisms_clean (a : ScramAuthenticator) : ∀ m ∈ a.mechanisms, '\x00' ∉ m := by
  unfold mechanisms
  split <;> decide

/-- A body is accepted as a mechanism and a client-first exactly when it is their response
    and nothing else, unless it is a response with bytes behind it. -/
theorem saslInitialResponse_exact_iff (a : ScramAuthenticator) (body : Bytes) :
    (∀ mechanism clientFirst, parseSaslInitialResponse a.mechanisms body = .ok (mechanism, clientFirst) ↔
      mechanism ∈ a.mechanisms ∧ byteLen clientFirst < 2 ^ 31 ∧ body = saslInitialResponse mechanism clientFirst) ↔
    ¬∃ mechanism clientFirst rest, mechanism ∈ a.mechanisms ∧ byteLen clientFirst < 2 ^ 31 ∧ rest ≠ [] ∧
      body = saslInitialResponse mechanism clientFirst ++ rest := by
  simp only [parseSaslInitialResponse_ok_iff a.mechanisms_clean]
  constructor
  · intro hexact hbehind
    obtain ⟨mechanism, clientFirst, rest, hm, hl, hne, hbody⟩ := hbehind
    obtain ⟨-, -, halone⟩ := (hexact mechanism clientFirst).mp ⟨hm, hl, rest, hbody⟩
    rw [halone] at hbody
    exact hne (List.self_eq_append_right.mp hbody)
  · intro hnot mechanism clientFirst
    constructor
    · intro h
      obtain ⟨hm, hl, rest, hbody⟩ := h
      by_cases hrest : rest = []
      · rw [hrest, List.append_nil] at hbody
        exact ⟨hm, hl, hbody⟩
      · exact absurd ⟨mechanism, clientFirst, rest, hm, hl, hrest, hbody⟩ hnot
    · intro h
      obtain ⟨hm, hl, hbody⟩ := h
      exact ⟨hm, hl, [], by rw [hbody, List.append_nil]⟩

/-- A response with a byte behind it. -/
def Sample.longResponse : Bytes := saslInitialResponse Scram.scramSha256 Sample.clientFirst ++ [0]

/-- It is taken for the response alone. -/
theorem a_longer_response_is_accepted :
    ¬∀ mechanism clientFirst,
      parseSaslInitialResponse (ScramAuthenticator.new Sample.verifier none).mechanisms Sample.longResponse =
          .ok (mechanism, clientFirst) ↔
        mechanism ∈ (ScramAuthenticator.new Sample.verifier none).mechanisms ∧ byteLen clientFirst < 2 ^ 31 ∧
          Sample.longResponse = saslInitialResponse mechanism clientFirst := by
  intro h
  have hm : Scram.scramSha256 ∈ (ScramAuthenticator.new Sample.verifier none).mechanisms := List.mem_singleton.mpr rfl
  have hparse := parseSaslInitialResponse_append hm (by decide) (by decide : byteLen Sample.clientFirst < 2 ^ 31) [0]
  obtain ⟨-, -, halone⟩ := (h Scram.scramSha256 Sample.clientFirst).mp hparse
  exact absurd (List.append_right_eq_self.mp halone) (by decide)

end Wirechaos
