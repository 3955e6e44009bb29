/-
  Wirechaos.Lib.Utf8 — UTF-8 byte by byte (see `Text.asBytes` in `Wirechaos.Lib.Bytes`).

  `utf8EncodeChar_cases` says once what the bytes of a character are; the rest follows: an
  ASCII byte in an encoded string is that character (`byte_mem_asBytes`), the lossy decoder
  gives an encoded string back (`fromUtf8Lossy_asBytes`) and makes no NUL of other bytes,
  and a string can be sliced where its characters begin (`slice_append`).
-/

import Wirechaos.Lib.Bytes

namespace Text

/-! ## The bytes of a character -/

theorem char_valid (c : Char) : c.toNat < 0xD800 ∨ 0xDFFF < c.toNat ∧ c.toNat < 0x110000 := c.valid

theorem utf8EncodeChar_cases (c : Char) :
    (c.toNat < 0x80 ∧ String.utf8EncodeChar c = [UInt8.ofNat c.toNat]) ∨
    (∃ x y : UInt8, String.utf8EncodeChar c = [x, y] ∧ 0x80 ≤ c.toNat ∧ c.toNat < 0x800 ∧
      x.toNat = 0xC0 + c.toNat / 64 ∧ y.toNat = 0x80 + c.toNat % 64) ∨
    (∃ x y z : UInt8, String.utf8EncodeChar c = [x, y, z] ∧ 0x800 ≤ c.toNat ∧ c.toNat < 0x10000 ∧
      x.toNat = 0xE0 + c.toNat / 4096 ∧ y.toNat = 0x80 + c.toNat / 64 % 64 ∧ z.toNat = 0x80 + c.toNat % 64) ∨
    ∃ x y z t : UInt8, String.utf8EncodeChar c = [x, y, z, t] ∧ 0x10000 ≤ c.toNat ∧
      x.toNat = 0xF0 + c.toNat / 262144 ∧ y.toNat = 0x80 + c.toNat / 4096 % 64 ∧ z.toNat = 0x80 + c.toNat / 64 % 64 ∧
      t.toNat = 0x80 + c.toNat % 64 := by
  have hvalid := char_valid c
  unfold String.utf8EncodeChar
  simp only [Char.toNat] at hvalid ⊢
  generalize c.val.toNat = v at hvalid
  by_cases h1 : v ≤ 0x7F
  · rw [if_pos h1]
    exact .inl ⟨by omega, rfl⟩
  rw [if_neg h1]
  right
  by_cases h2 : v ≤ 0x7FF
  · rw [if_pos h2]
    refine .inl ⟨_, _, rfl, by omega, by omega, ?_, ?_⟩ <;> simp only [UInt8.toNat_ofNat'] <;> omega
  rw [if_neg h2]
  right
  by_cases h3 : v ≤ 0xFFFF
  · rw [if_pos h3]
    refine .inl ⟨_, _, _, rfl, by omega, by omega, ?_, ?_, ?_⟩ <;> simp only [UInt8.toNat_ofNat'] <;> omega
  · rw [if_neg h3]
    refine .inr ⟨_, _, _, _, rfl, by omega, ?_, ?_, ?_, ?_⟩ <;> simp only [UInt8.toNat_ofNat'] <;> omega

/-- An ASCII character is its own byte; any other begins with a byte from `0xC2` on, and
    has no ASCII byte. -/
theorem utf8EncodeChar_lead (c : Char) :
    (c.toNat < 0x80 ∧ String.utf8EncodeChar c = [UInt8.ofNat c.toNat]) ∨
    ∃ b bs, String.utf8EncodeChar c = b :: bs ∧ 0xC2 ≤ b.toNat ∧ ∀ x ∈ b :: bs, 0x80 ≤ x.toNat := by
  rcases utf8EncodeChar_cases c with h | ⟨x, y, h, hc⟩ | ⟨x, y, z, h, hc⟩ | ⟨x, y, z, t, h, hc⟩
  · exact .inl h
  all_goals
    refine .inr ⟨_, _, h, by omega, ?_⟩
    simp only [List.mem_cons, List.not_mem_nil, or_false, forall_eq_or_imp, forall_eq]
    omega

theorem ofNat_toNat_inj {a b : Nat} (ha : a < 0x80) (hb : b < 0x80) : UInt8.ofNat a = UInt8.ofNat b ↔ a = b := by
  rw [← UInt8.toNat_inj, UInt8.toNat_ofNat', UInt8.toNat_ofNat']
  omega

/-- An ASCII byte of a string stands for its character. -/
theorem byte_mem_asBytes {c : Char} (hc : c.toNat < 0x80) (s : Str) : UInt8.ofNat c.toNat ∈ asBytes s ↔ c ∈ s := by
  induction s with
  | nil => simp
  | cons d s ih =>
    rw [asBytes_cons, List.mem_append, ih, List.mem_cons]
    have hd : UInt8.ofNat c.toNat ∈ String.utf8EncodeChar d ↔ c = d := by
      rcases utf8EncodeChar_lead d with ⟨hlt, h⟩ | ⟨b, bs, h, -, hwide⟩
      · rw [h, List.mem_singleton, ofNat_toNat_inj hc hlt, Char.toNat_inj]
      · rw [h]
        constructor
        · intro hmem
          have := hwide _ hmem
          rw [UInt8.toNat_ofNat'] at this
          omega
        · intro heq
          rw [← heq] at h
          rcases utf8EncodeChar_cases c with ⟨-, h'⟩ | ⟨_, _, -, h'⟩ | ⟨_, _, _, -, h'⟩ | ⟨_, _, _, _, -, h'⟩
          · rw [← h, h', List.mem_singleton]
          all_goals omega
    rw [hd]

/-- The encoding of a string that begins with an ASCII byte or a lead byte. -/
theorem asBytes_head {s : Str} {b : UInt8} {bs : Bytes} (h : asBytes s = b :: bs) :
    ∃ c t, s = c :: t ∧ ((c.toNat < 0x80 ∧ b = UInt8.ofNat c.toNat) ∨ (0x80 ≤ c.toNat ∧ 0xC2 ≤ b.toNat)) := by
  cases s with
  | nil => cases h
  | cons c t =>
    refine ⟨c, t, rfl, ?_⟩
    rw [asBytes_cons] at h
    rcases utf8EncodeChar_cases c with ⟨hlt, he⟩ | ⟨x, y, he, hc⟩ | ⟨x, y, z, he, hc⟩ | ⟨x, y, z, w, he, hc⟩
    · rw [he] at h
      exact .inl ⟨hlt, (List.cons.inj h).1.symm⟩
    all_goals
      rw [he] at h
      rw [← (List.cons.inj h).1]
      exact .inr (by omega)

/-! ## Lossy decoding -/

theorem continuation_iff {b : Nat} : continuation b = true ↔ 0x80 ≤ b ∧ b ≤ 0xBF := by
  unfold continuation
  exact decide_eq_true_iff

theorem secondByte_iff {lead next : Nat} : secondByte lead next = true ↔ 0x80 ≤ next ∧ next ≤ 0xBF ∧
    (lead = 0xE0 → 0xA0 ≤ next) ∧ (lead = 0xED → next ≤ 0x9F) ∧ (lead = 0xF0 → 0x90 ≤ next) ∧ (lead = 0xF4 → next ≤ 0x8F) := by
  unfold secondByte
  by_cases hE0 : lead = 0xE0
  · rw [if_pos hE0, decide_eq_true_iff]
    omega
  by_cases hED : lead = 0xED
  · rw [if_neg hE0, if_pos hED, decide_eq_true_iff]
    omega
  by_cases hF0 : lead = 0xF0
  · rw [if_neg hE0, if_neg hED, if_pos hF0, decide_eq_true_iff]
    omega
  by_cases hF4 : lead = 0xF4
  · rw [if_neg hE0, if_neg hED, if_neg hF0, if_pos hF4, decide_eq_true_iff]
    omega
  rw [if_neg hE0, if_neg hED, if_neg hF0, if_neg hF4, decide_eq_true_iff]
  omega

theorem decodeChar_utf8EncodeChar (c : Char) (rest : Bytes) :
    ∃ b bs, String.utf8EncodeChar c = b :: bs ∧
      decodeChar b.toNat ((bs ++ rest).map UInt8.toNat) = (some c, (String.utf8EncodeChar c).length) := by
  have hvalid := char_valid c
  rcases utf8EncodeChar_cases c with ⟨hc, h⟩ | ⟨x, y, h, hlo, hhi, hx, hy⟩ | ⟨x, y, z, h, hlo, hhi, hx, hy, hz⟩ |
    ⟨x, y, z, t, h, hlo, hx, hy, hz, ht⟩
  all_goals refine ⟨_, _, h, ?_⟩; rw [h]
  · have hb : (UInt8.ofNat c.toNat).toNat = c.toNat := by
      rw [UInt8.toNat_ofNat']
      omega
    simp [decodeChar, hb, hc, Char.ofNat_toNat]
  · have hlead : ¬x.toNat < 0x80 ∧ 0xC2 ≤ x.toNat ∧ x.toNat ≤ 0xDF := by omega
    have hy' : continuation y.toNat = true := continuation_iff.mpr (by omega)
    have hvalue : (x.toNat - 0xC0) * 64 + (y.toNat - 0x80) = c.toNat := by omega
    simp only [decodeChar, if_neg hlead.1, if_pos hlead.2, List.cons_append, List.map_cons, hy', if_true, hvalue,
      Char.ofNat_toNat, List.length_cons, List.length_nil]
  · have hlead : ¬x.toNat < 0x80 ∧ ¬(0xC2 ≤ x.toNat ∧ x.toNat ≤ 0xDF) ∧ 0xE0 ≤ x.toNat ∧ x.toNat ≤ 0xEF := by omega
    have hy' : secondByte x.toNat y.toNat = true := secondByte_iff.mpr (by omega)
    have hz' : continuation z.toNat = true := continuation_iff.mpr (by omega)
    have hvalue : (x.toNat - 0xE0) * 4096 + (y.toNat - 0x80) * 64 + (z.toNat - 0x80) = c.toNat := by omega
    simp only [decodeChar, if_neg hlead.1, if_neg hlead.2.1, if_pos hlead.2.2, List.cons_append, List.map_cons, hy', hz',
      not_true_eq_false, if_false, hvalue, Char.ofNat_toNat, List.length_cons, List.length_nil]
  · have hlead : ¬x.toNat < 0x80 ∧ ¬(0xC2 ≤ x.toNat ∧ x.toNat ≤ 0xDF) ∧ ¬(0xE0 ≤ x.toNat ∧ x.toNat ≤ 0xEF) ∧
      0xF0 ≤ x.toNat ∧ x.toNat ≤ 0xF4 := by omega
    have hy' : secondByte x.toNat y.toNat = true := secondByte_iff.mpr (by omega)
    have hz' : continuation z.toNat = true := continuation_iff.mpr (by omega)
    have ht' : continuation t.toNat = true := continuation_iff.mpr (by omega)
    have hvalue : (x.toNat - 0xF0) * 262144 + (y.toNat - 0x80) * 4096 + (z.toNat - 0x80) * 64 + (t.toNat - 0x80) = c.toNat := by
      omega
    simp only [decodeChar, if_neg hlead.1, if_neg hlead.2.1, if_neg hlead.2.2.1, if_pos hlead.2.2.2, List.cons_append,
      List.map_cons, hy', hz', ht', not_true_eq_false, if_false, hvalue, Char.ofNat_toNat, List.length_cons, List.length_nil]

theorem fromUtf8LossyFrom_asBytes {fuel : Nat} {s : Str} (h : (asBytes s).length ≤ fuel) :
    fromUtf8LossyFrom fuel (asBytes s) = s := by
  induction s generalizing fuel with
  | nil => cases fuel <;> rfl
  | cons c s ih =>
    obtain ⟨b, bs, hc, hdecode⟩ := decodeChar_utf8EncodeChar c (asBytes s)
    have hbytes : asBytes (c :: s) = b :: (bs ++ asBytes s) := by rw [asBytes_cons, hc, List.cons_append]
    rw [hbytes] at h ⊢
    cases fuel with
    | zero => simp at h
    | succ fuel =>
      have hdrop : (b :: (bs ++ asBytes s)).drop (String.utf8EncodeChar c).length = asBytes s := by
        rw [hc, ← List.cons_append, List.drop_left]
      simp only [fromUtf8LossyFrom, hdecode, Option.getD_some, hdrop]
      rw [ih (by simp at h; omega)]

/-- Nothing is lost of an encoded string. -/
@[simp] theorem fromUtf8Lossy_asBytes (s : Str) : fromUtf8Lossy (asBytes s) = s := fromUtf8LossyFrom_asBytes (Nat.le_refl _)

theorem toNat_ofNat_of_valid {n : Nat} (h : n.isValidChar) : (Char.ofNat n).toNat = n := by
  unfold Char.ofNat
  rw [dif_pos h]
  rfl

theorem ofNat_ne_nul {n : Nat} (hn : 0 < n) (hvalid : n < 0xD800 ∨ 0xDFFF < n ∧ n < 0x110000) : Char.ofNat n ≠ '\x00' := by
  intro h
  have hnat := congrArg Char.toNat h
  rw [toNat_ofNat_of_valid hvalid] at hnat
  exact absurd hnat (Nat.ne_of_gt hn)

/-- A sequence of bytes that begins with another is not taken for a NUL. -/
theorem decodeChar_ne_nul {b : Nat} (hb : b ≠ 0) (rest : List Nat) : (decodeChar b rest).1 ≠ some '\x00' := by
  unfold decodeChar
  by_cases h1 : b < 0x80
  · simp only [if_pos h1]
    simpa using ofNat_ne_nul (n := b) (by omega) (by omega)
  by_cases h2 : 0xC2 ≤ b ∧ b ≤ 0xDF
  · simp only [if_neg h1, if_pos h2]
    rcases rest with _ | ⟨x, rest⟩
    · simp
    · by_cases hx : continuation x = true
      · have hx' := continuation_iff.mp hx
        simpa [hx] using ofNat_ne_nul (n := (b - 0xC0) * 64 + (x - 0x80)) (by omega) (by omega)
      · simp [hx]
  by_cases h3 : 0xE0 ≤ b ∧ b ≤ 0xEF
  · simp only [if_neg h1, if_neg h2, if_pos h3]
    rcases rest with _ | ⟨x, _ | ⟨y, rest⟩⟩
    · simp
    · by_cases hx : secondByte b x = true <;> simp [hx]
    · by_cases hx : secondByte b x = true
      · by_cases hy : continuation y = true
        · have hx' := secondByte_iff.mp hx
          have hy' := continuation_iff.mp hy
          simpa [hx, hy] using
            ofNat_ne_nul (n := (b - 0xE0) * 4096 + (x - 0x80) * 64 + (y - 0x80)) (by omega) (by omega)
        · simp [hx, hy]
      · simp [hx]
  by_cases h4 : 0xF0 ≤ b ∧ b ≤ 0xF4
  · simp only [if_neg h1, if_neg h2, if_neg h3, if_pos h4]
    rcases rest with _ | ⟨x, _ | ⟨y, _ | ⟨z, rest⟩⟩⟩
    · simp
    · by_cases hx : secondByte b x = true <;> simp [hx]
    · by_cases hx : secondByte b x = true <;> by_cases hy : continuation y = true <;> simp [hx, hy]
    · by_cases hx : secondByte b x = true
      · by_cases hy : continuation y = true
        · by_cases hz : continuation z = true
          · have hx' := secondByte_iff.mp hx
            have hy' := continuation_iff.mp hy
            have hz' := continuation_iff.mp hz
            simpa [hx, hy, hz] using ofNat_ne_nul
              (n := (b - 0xF0) * 262144 + (x - 0x80) * 4096 + (y - 0x80) * 64 + (z - 0x80)) (by omega) (by omega)
          · simp [hx, hy, hz]
        · simp [hx, hy]
      · simp [hx]
  simp [h1, h2, h3, h4]

/-- Bytes without a zero make no NUL. -/
theorem nul_not_mem_fromUtf8Lossy {b : Bytes} (h : (0 : UInt8) ∉ b) : '\x00' ∉ fromUtf8Lossy b := by
  have hfrom (fuel : Nat) (b : Bytes) (h : (0 : UInt8) ∉ b) : '\x00' ∉ fromUtf8LossyFrom fuel b := by
    induction fuel generalizing b with
    | zero => simp [fromUtf8LossyFrom]
    | succ fuel ih =>
      cases b with
      | nil => simp [fromUtf8LossyFrom]
      | cons x rest =>
        have hx : x.toNat ≠ 0 := fun hx => h (by simp [UInt8.toNat_inj.mp (hx.trans UInt8.toNat_zero.symm)])
        have hchar := decodeChar_ne_nul hx (rest.map UInt8.toNat)
        simp only [fromUtf8LossyFrom, List.mem_cons, not_or]
        constructor
        · cases hc : (decodeChar x.toNat (rest.map UInt8.toNat)).1 with
          | none => simp
          | some c =>
            rw [hc] at hchar
            exact fun heq => hchar (congrArg some heq.symm)
        · exact ih _ fun hmem => h (List.mem_of_mem_drop hmem)
  exact hfrom _ b h

/-! ## Slices of a string -/

/-- `str::is_char_boundary`. -/
def isCharBoundary (s : Str) (i : Nat) : Bool :=
  if i = 0 then true
  else if h : i < (asBytes s).length then !continuation (asBytes s)[i].toNat
  else i = (asBytes s).length

/-- `&s[start..stop]`; `none` is the panic. -/
def slice (s : Str) (start stop : Nat) : Option Str :=
  if start ≤ stop ∧ isCharBoundary s start = true ∧ isCharBoundary s stop = true then
    fromUtf8 (((asBytes s).drop start).take (stop - start))
  else none

theorem isCharBoundary_append (a b : Str) : isCharBoundary (a ++ b) (byteLen a) = true := by
  unfold isCharBoundary
  by_cases h0 : byteLen a = 0
  · rw [if_pos h0]
  rw [if_neg h0]
  by_cases hlt : byteLen a < (asBytes (a ++ b)).length
  · rw [dif_pos hlt]
    have hpos : 0 < (asBytes b).length := by
      simpa [byteLen] using hlt
    obtain ⟨x, xs, hb⟩ := List.exists_cons_of_length_pos hpos
    have hget : (asBytes (a ++ b))[byteLen a] = x := by
      simp [asBytes_append, hb, byteLen]
    obtain ⟨c, t, -, hx⟩ := asBytes_head hb
    have hnot : continuation x.toNat ≠ true := by
      rw [Ne, continuation_iff]
      rcases hx with ⟨hc, hx⟩ | ⟨-, hx⟩
      · rw [hx, UInt8.toNat_ofNat']
        omega
      · omega
    rw [hget, Bool.eq_false_iff.mpr hnot]
    rfl
  · rw [dif_neg hlt]
    simp [byteLen] at hlt ⊢
    exact hlt

/-- A string can be sliced at the ends of its parts. -/
theorem slice_append (a b c : Str) : slice (a ++ b ++ c) (byteLen a) (byteLen (a ++ b)) = some b := by
  have hstart : isCharBoundary (a ++ b ++ c) (byteLen a) = true := by
    rw [List.append_assoc]
    exact isCharBoundary_append a (b ++ c)
  have hstop := isCharBoundary_append (a ++ b) c
  have hle : byteLen a ≤ byteLen (a ++ b) := by simp
  unfold slice
  rw [if_pos ⟨hle, hstart, hstop⟩, byteLen_append, Nat.add_sub_cancel_left, asBytes_append, asBytes_append]
  simp [byteLen]

end Text
