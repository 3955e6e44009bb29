/-
  Wirechaos.Lib.Base64 — base64 (RFC 4648), strict.

  `encodeRaw` and `decodeRaw` are the unpadded forms over an alphabet; `encode` and
  `decode` add and check the padding. Decoding is strict: a character outside the
  alphabet, a wrong length, misplaced or missing padding, or non-zero bits after the
  last byte is refused. So the two are inverse to each other in both directions
  (`decode_encode`, `encode_of_decode`): a byte string has exactly one spelling.
-/

import Mathlib.Data.List.Nodup
import Mathlib.Data.List.Basic
import Wirechaos.Lib.Bytes

namespace Base64

open Text (Bytes Str)

/-- Sixty-four distinct characters, none of them the padding. -/
structure Alphabet where
  chars : List Char
  nodup : chars.Nodup
  length_eq : chars.length = 64
  no_pad : '=' ∉ chars

def alphaNum : List Char := "ABCDEFGHIJKLMNOPQRSTUVWXYZabcdefghijklmnopqrstuvwxyz0123456789".toList

/-- The alphabet of RFC 4648 §4. -/
def standard : Alphabet := ⟨alphaNum ++ ['+', '/'], by decide, by decide, by decide⟩

/-- The URL-safe alphabet of RFC 4648 §5. -/
def urlSafe : Alphabet := ⟨alphaNum ++ ['-', '_'], by decide, by decide, by decide⟩

variable (A : Alphabet)

def digit (n : Nat) : Char := A.chars.getD n 'A'

def value (c : Char) : Option Nat := if c ∈ A.chars then some (A.chars.idxOf c) else none

def encodeRaw : Bytes → Str
  | [] => []
  | [a] => [digit A (a.toNat / 4), digit A (a.toNat % 4 * 16)]
  | [a, b] => [digit A (a.toNat / 4), digit A (a.toNat % 4 * 16 + b.toNat / 16), digit A (b.toNat % 16 * 4)]
  | a :: b :: c :: rest =>
    digit A (a.toNat / 4) :: digit A (a.toNat % 4 * 16 + b.toNat / 16) ::
      digit A (b.toNat % 16 * 4 + c.toNat / 64) :: digit A (c.toNat % 64) :: encodeRaw rest

def decodeRaw : Str → Option Bytes
  | [] => some []
  | [_] => none
  | [w, x] =>
    match value A w, value A x with
    | some w, some x => if x % 16 = 0 then some [UInt8.ofNat (w * 4 + x / 16)] else none
    | _, _ => none
  | [w, x, y] =>
    match value A w, value A x, value A y with
    | some w, some x, some y =>
      if y % 4 = 0 then some [UInt8.ofNat (w * 4 + x / 16), UInt8.ofNat (x % 16 * 16 + y / 4)] else none
    | _, _, _ => none
  | w :: x :: y :: z :: rest =>
    match value A w, value A x, value A y, value A z, decodeRaw rest with
    | some w, some x, some y, some z, some tail =>
      some (UInt8.ofNat (w * 4 + x / 16) :: UInt8.ofNat (x % 16 * 16 + y / 4) :: UInt8.ofNat (y % 4 * 64 + z) :: tail)
    | _, _, _, _, _ => none

def pad (s : Str) : Str := s ++ List.replicate ((4 - s.length % 4) % 4) '='

/-- Drop up to two trailing padding characters. -/
def dropPad (s : Str) : Str :=
  match s.reverse with
  | '=' :: '=' :: r => r.reverse
  | '=' :: r => r.reverse
  | r => r.reverse

def encode (b : Bytes) : Str := pad (encodeRaw A b)

def decode (s : Str) : Option Bytes := if s.length % 4 = 0 then decodeRaw A (dropPad s) else none

/-! ## Digits -/

theorem value_digit {n : Nat} (h : n < 64) : value A (digit A n) = some n := by
  have hl : n < A.chars.length := by rw [A.length_eq]; exact h
  have hd : digit A n = A.chars[n] := by simp [digit, List.getD_eq_getElem?_getD, hl]
  rw [hd]
  simp [value, A.nodup.idxOf_getElem n hl]

theorem digit_of_value {c : Char} {n : Nat} (h : value A c = some n) : digit A n = c ∧ n < 64 := by
  unfold value at h
  split at h
  · rename_i hc
    cases h
    have hl : A.chars.idxOf c < A.chars.length := List.idxOf_lt_length_iff.mpr hc
    refine ⟨?_, by rw [← A.length_eq]; exact hl⟩
    simp [digit, List.getD_eq_getElem?_getD, hl]
  · cases h

theorem digit_mem {n : Nat} (h : n < 64) : digit A n ∈ A.chars := by
  have hl : n < A.chars.length := by rw [A.length_eq]; exact h
  simp [digit, List.getD_eq_getElem?_getD, hl]

/-! ## The raw form -/

theorem mem_encodeRaw (b : Bytes) : ∀ c ∈ encodeRaw A b, c ∈ A.chars := by
  induction b using encodeRaw.induct with
  | case1 => simp [encodeRaw]
  | case2 a =>
    have ha := a.toNat_lt
    intro c hc
    simp only [encodeRaw, List.mem_cons, List.not_mem_nil, or_false] at hc
    rcases hc with rfl | rfl <;> exact digit_mem A (by omega)
  | case3 a b =>
    have ha := a.toNat_lt
    have hb := b.toNat_lt
    intro c hc
    simp only [encodeRaw, List.mem_cons, List.not_mem_nil, or_false] at hc
    rcases hc with rfl | rfl | rfl <;> exact digit_mem A (by omega)
  | case4 a b c rest ih =>
    have ha := a.toNat_lt
    have hb := b.toNat_lt
    have hc := c.toNat_lt
    intro d hd
    simp only [encodeRaw, List.mem_cons] at hd
    rcases hd with rfl | rfl | rfl | rfl | hd
    · exact digit_mem A (by omega)
    · exact digit_mem A (by omega)
    · exact digit_mem A (by omega)
    · exact digit_mem A (by omega)
    · exact ih d hd

theorem length_encodeRaw_mod (b : Bytes) : (encodeRaw A b).length % 4 ≠ 1 := by
  induction b using encodeRaw.induct with
  | case1 => simp [encodeRaw]
  | case2 a => simp [encodeRaw]
  | case3 a b => simp [encodeRaw]
  | case4 a b c rest ih => simp only [encodeRaw, List.length_cons]; omega

theorem length_encodeRaw (b : Bytes) : (encodeRaw A b).length = (b.length * 4 + 2) / 3 := by
  induction b using encodeRaw.induct with
  | case1 => rfl
  | case2 a => simp [encodeRaw]
  | case3 a b => simp [encodeRaw]
  | case4 a b c rest ih => simp only [encodeRaw, List.length_cons]; omega

/-- How long a text is depends only on how many bytes it is of. -/
theorem length_encode_congr {b b' : Bytes} (h : b.length = b'.length) : (encode A b).length = (encode A b').length := by
  simp only [encode, pad, List.length_append, List.length_replicate, length_encodeRaw, h]

private theorem ofNat_eq {n : Nat} {a : UInt8} (h : n % 256 = a.toNat) : UInt8.ofNat n = a := by
  apply UInt8.toNat_inj.mp
  rw [UInt8.toNat_ofNat']
  exact h

theorem decodeRaw_encodeRaw (b : Bytes) : decodeRaw A (encodeRaw A b) = some b := by
  induction b using encodeRaw.induct with
  | case1 => rfl
  | case2 a =>
    have ha := a.toNat_lt
    have e1 : UInt8.ofNat (a.toNat / 4 * 4 + a.toNat % 4 * 16 / 16) = a := ofNat_eq (by omega)
    simp only [encodeRaw, decodeRaw, value_digit A (show a.toNat / 4 < 64 by omega),
      value_digit A (show a.toNat % 4 * 16 < 64 by omega), e1]
    rw [if_pos (by omega)]
  | case3 a b =>
    have ha := a.toNat_lt
    have hb := b.toNat_lt
    have e1 : UInt8.ofNat (a.toNat / 4 * 4 + (a.toNat % 4 * 16 + b.toNat / 16) / 16) = a := ofNat_eq (by omega)
    have e2 : UInt8.ofNat ((a.toNat % 4 * 16 + b.toNat / 16) % 16 * 16 + b.toNat % 16 * 4 / 4) = b :=
      ofNat_eq (by omega)
    simp only [encodeRaw, decodeRaw, value_digit A (show a.toNat / 4 < 64 by omega),
      value_digit A (show a.toNat % 4 * 16 + b.toNat / 16 < 64 by omega),
      value_digit A (show b.toNat % 16 * 4 < 64 by omega), e1, e2]
    rw [if_pos (by omega)]
  | case4 a b c rest ih =>
    have ha := a.toNat_lt
    have hb := b.toNat_lt
    have hc := c.toNat_lt
    have e1 : UInt8.ofNat (a.toNat / 4 * 4 + (a.toNat % 4 * 16 + b.toNat / 16) / 16) = a := ofNat_eq (by omega)
    have e2 : UInt8.ofNat ((a.toNat % 4 * 16 + b.toNat / 16) % 16 * 16 + (b.toNat % 16 * 4 + c.toNat / 64) / 4) = b :=
      ofNat_eq (by omega)
    have e3 : UInt8.ofNat ((b.toNat % 16 * 4 + c.toNat / 64) % 4 * 64 + c.toNat % 64) = c := ofNat_eq (by omega)
    simp only [encodeRaw, decodeRaw, value_digit A (show a.toNat / 4 < 64 by omega),
      value_digit A (show a.toNat % 4 * 16 + b.toNat / 16 < 64 by omega),
      value_digit A (show b.toNat % 16 * 4 + c.toNat / 64 < 64 by omega),
      value_digit A (show c.toNat % 64 < 64 by omega), ih, e1, e2, e3]

private theorem toNat_ofNat_lt {n : Nat} (h : n < 256) : (UInt8.ofNat n).toNat = n := by
  rw [UInt8.toNat_ofNat']; omega

theorem encodeRaw_of_decodeRaw : ∀ (s : Str) {b : Bytes}, decodeRaw A s = some b → encodeRaw A b = s
  | [], b, h => by simp only [decodeRaw, Option.some.injEq] at h; subst h; rfl
  | [_], b, h => by simp [decodeRaw] at h
  | [w, x], b, h => by
    simp only [decodeRaw] at h
    split at h
    · rename_i _ _ w' x' hw hx
      split at h
      · rename_i hm
        cases h
        obtain ⟨rfl, hw'⟩ := digit_of_value A hw
        obtain ⟨rfl, hx'⟩ := digit_of_value A hx
        have ha := toNat_ofNat_lt (show w' * 4 + x' / 16 < 256 by omega)
        simp only [encodeRaw, ha]
        rw [show (w' * 4 + x' / 16) / 4 = w' by omega, show (w' * 4 + x' / 16) % 4 * 16 = x' by omega]
      · cases h
    · cases h
  | [w, x, y], b, h => by
    simp only [decodeRaw] at h
    split at h
    · rename_i _ _ _ w' x' y' hw hx hy
      split at h
      · rename_i hm
        cases h
        obtain ⟨rfl, hw'⟩ := digit_of_value A hw
        obtain ⟨rfl, hx'⟩ := digit_of_value A hx
        obtain ⟨rfl, hy'⟩ := digit_of_value A hy
        have ha := toNat_ofNat_lt (show w' * 4 + x' / 16 < 256 by omega)
        have hb := toNat_ofNat_lt (show x' % 16 * 16 + y' / 4 < 256 by omega)
        simp only [encodeRaw, ha, hb]
        rw [show (w' * 4 + x' / 16) / 4 = w' by omega,
          show (w' * 4 + x' / 16) % 4 * 16 + (x' % 16 * 16 + y' / 4) / 16 = x' by omega,
          show (x' % 16 * 16 + y' / 4) % 16 * 4 = y' by omega]
      · cases h
    · cases h
  | w :: x :: y :: z :: rest, b, h => by
    simp only [decodeRaw] at h
    split at h
    · rename_i _ _ _ _ _ w' x' y' z' tail hw hx hy hz ht
      cases h
      obtain ⟨rfl, hw'⟩ := digit_of_value A hw
      obtain ⟨rfl, hx'⟩ := digit_of_value A hx
      obtain ⟨rfl, hy'⟩ := digit_of_value A hy
      obtain ⟨rfl, hz'⟩ := digit_of_value A hz
      have ha := toNat_ofNat_lt (show w' * 4 + x' / 16 < 256 by omega)
      have hb := toNat_ofNat_lt (show x' % 16 * 16 + y' / 4 < 256 by omega)
      have hc := toNat_ofNat_lt (show y' % 4 * 64 + z' < 256 by omega)
      simp only [encodeRaw, ha, hb, hc, encodeRaw_of_decodeRaw rest ht]
      rw [show (w' * 4 + x' / 16) / 4 = w' by omega,
        show (w' * 4 + x' / 16) % 4 * 16 + (x' % 16 * 16 + y' / 4) / 16 = x' by omega,
        show (x' % 16 * 16 + y' / 4) % 16 * 4 + (y' % 4 * 64 + z') / 64 = y' by omega,
        show (y' % 4 * 64 + z') % 64 = z' by omega]
    · cases h

theorem decodeRaw_eq_some {s : Str} {b : Bytes} : decodeRaw A s = some b ↔ s = encodeRaw A b :=
  ⟨fun h => (encodeRaw_of_decodeRaw A s h).symm, fun h => by rw [h, decodeRaw_encodeRaw]⟩

/-! ## Padding -/

theorem length_pad_mod {s : Str} : (pad s).length % 4 = 0 := by
  simp only [pad, List.length_append, List.length_replicate]; omega

theorem dropPad_pad {s : Str} (hp : '=' ∉ s) (hl : s.length % 4 ≠ 1) : dropPad (pad s) = s := by
  have hr : ∀ r, s.reverse ≠ '=' :: r := by
    intro r hr
    apply hp
    rw [← List.mem_reverse, hr]
    simp
  have h3 : s.length % 4 = 0 ∨ s.length % 4 = 2 ∨ s.length % 4 = 3 := by omega
  unfold dropPad pad
  rcases h3 with h | h | h <;> rw [h]
  · simp only [Nat.sub_zero, Nat.mod_self, List.replicate_zero, List.append_nil]
    split
    · rename_i h; exact absurd h (hr _)
    · rename_i h; exact absurd h (hr _)
    · simp
  · simp
  · simp

theorem pad_dropPad {s : Str} (h : s.length % 4 = 0) : pad (dropPad s) = s := by
  unfold dropPad
  split
  · rename_i r hr
    have hs : s = r.reverse ++ ['=', '='] := by
      rw [← List.reverse_reverse s, hr]; simp
    rw [hs] at h ⊢
    simp only [List.length_append, List.length_reverse, List.length_cons, List.length_nil] at h
    simp only [pad, List.length_reverse, show (4 - r.length % 4) % 4 = 2 by omega]
    rfl
  · rename_i r _ hr
    have hs : s = r.reverse ++ ['='] := by
      rw [← List.reverse_reverse s, hr]; simp
    rw [hs] at h ⊢
    simp only [List.length_append, List.length_reverse, List.length_cons, List.length_nil] at h
    simp only [pad, List.length_reverse, show (4 - r.length % 4) % 4 = 1 by omega]
    rfl
  · simp [pad, h]

/-! ## Inverse to each other -/

theorem decode_encode (b : Bytes) : decode A (encode A b) = some b := by
  have hp : '=' ∉ encodeRaw A b := fun h => A.no_pad (mem_encodeRaw A b _ h)
  rw [decode, encode, if_pos length_pad_mod, dropPad_pad hp (length_encodeRaw_mod A b), decodeRaw_encodeRaw]

/-- Decoding is strict: what decodes to `b` is the encoding of `b`. -/
theorem encode_of_decode {s : Str} {b : Bytes} (h : decode A s = some b) : encode A b = s := by
  unfold decode at h
  split at h
  · rename_i hl
    rw [encode, encodeRaw_of_decodeRaw A _ h, pad_dropPad hl]
  · cases h

theorem decode_eq_some {s : Str} {b : Bytes} : decode A s = some b ↔ s = encode A b :=
  ⟨fun h => (encode_of_decode A h).symm, fun h => by rw [h, decode_encode]⟩

theorem encode_inj {b b' : Bytes} (h : encode A b = encode A b') : b = b' := by
  have := congrArg (decode A) h
  simpa [decode_encode] using this

/-- A text that is both a padded and an unpadded encoding encodes one byte string. -/
theorem eq_of_encodeRaw_eq_encode {b b' : Bytes} (h : encodeRaw A b = encode A b') : b = b' := by
  have hpad : List.replicate ((4 - (encodeRaw A b').length % 4) % 4) '=' = [] := by
    rw [List.replicate_eq_nil_iff]
    by_contra hne
    have hmem : '=' ∈ encode A b' := List.mem_append_right _ (List.mem_replicate.mpr ⟨hne, rfl⟩)
    rw [← h] at hmem
    exact A.no_pad (mem_encodeRaw A b _ hmem)
  rw [encode, pad, hpad, List.append_nil] at h
  have hdecoded := congrArg (decodeRaw A) h
  simpa [decodeRaw_encodeRaw] using hdecoded

theorem mem_encode {b : Bytes} {c : Char} (h : c ∈ encode A b) : c ∈ A.chars ∨ c = '=' := by
  rcases List.mem_append.mp h with h | h
  · exact Or.inl (mem_encodeRaw A b c h)
  · exact Or.inr (List.eq_of_mem_replicate h)

/-- A character that is neither a digit nor the padding is not in an encoding. -/
theorem not_mem_encode {c : Char} (hc : c ∉ A.chars) (hp : c ≠ '=') (b : Bytes) : c ∉ encode A b :=
  fun h => (mem_encode A h).elim hc hp

end Base64
