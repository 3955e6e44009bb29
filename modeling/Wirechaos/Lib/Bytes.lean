/-
  Wirechaos.Lib.Bytes — bytes, big-endian words and UTF-8 text.

  A string is the list of its Unicode scalar values (`Str`); `asBytes` is its UTF-8
  encoding and `fromUtf8` the strict decoder. They are inverse to each other
  (`fromUtf8_asBytes`, `asBytes_of_fromUtf8`), so the encoding is injective, and the
  zero byte occurs in it only for the character NUL (`zero_mem_asBytes`).
-/

import Mathlib.Algebra.Ring.Int.Defs
import Mathlib.Algebra.Ring.Nat
import Mathlib.Data.List.Basic
import Mathlib.Tactic.Common

namespace Text

abbrev Bytes := List UInt8

/-- A string, as its Unicode scalar values. -/
abbrev Str := List Char

instance : Coe String Str := ⟨String.toList⟩

instance (s : Str) (l : List Str) : Decidable (s ∈ l) := List.instDecidableMemOfLawfulBEq s l

/-! ## Big-endian words -/

def beBytes (x : UInt32) : Bytes :=
  [UInt8.ofNat (x.toNat / 2 ^ 24), UInt8.ofNat (x.toNat / 2 ^ 16), UInt8.ofNat (x.toNat / 2 ^ 8), UInt8.ofNat x.toNat]

def ofBeBytes (a b c d : UInt8) : UInt32 :=
  UInt32.ofNat (a.toNat * 2 ^ 24 + b.toNat * 2 ^ 16 + c.toNat * 2 ^ 8 + d.toNat)

def beBytes16 (x : UInt16) : Bytes := [UInt8.ofNat (x.toNat / 2 ^ 8), UInt8.ofNat x.toNat]

def ofBeBytes16 (a b : UInt8) : UInt16 := UInt16.ofNat (a.toNat * 2 ^ 8 + b.toNat)

@[simp] theorem length_beBytes (x : UInt32) : (beBytes x).length = 4 := rfl

theorem ofBeBytes_toNat (a b c d : UInt8) :
    (ofBeBytes a b c d).toNat = a.toNat * 2 ^ 24 + b.toNat * 2 ^ 16 + c.toNat * 2 ^ 8 + d.toNat := by
  have ha := a.toNat_lt
  have hb := b.toNat_lt
  have hc := c.toNat_lt
  have hd := d.toNat_lt
  rw [ofBeBytes, UInt32.toNat_ofNat']
  omega

theorem beBytes_eq (x : UInt32) :
    ∃ a b c d, beBytes x = [a, b, c, d] ∧ ofBeBytes a b c d = x := by
  refine ⟨_, _, _, _, rfl, ?_⟩
  apply UInt32.toNat_inj.mp
  have hx := x.toNat_lt
  rw [ofBeBytes_toNat]
  simp only [UInt8.toNat_ofNat']
  omega

theorem beBytes_ofBeBytes (a b c d : UInt8) : beBytes (ofBeBytes a b c d) = [a, b, c, d] := by
  have ha := a.toNat_lt
  have hb := b.toNat_lt
  have hc := c.toNat_lt
  have hd := d.toNat_lt
  simp only [beBytes, ofBeBytes_toNat, List.cons.injEq, and_true]
  refine ⟨?_, ?_, ?_, ?_⟩ <;> apply UInt8.toNat_inj.mp <;> simp only [UInt8.toNat_ofNat'] <;> omega

theorem beBytes_inj {x y : UInt32} (h : beBytes x = beBytes y) : x = y := by
  obtain ⟨a, b, c, d, hx, rfl⟩ := beBytes_eq x
  obtain ⟨a', b', c', d', hy, rfl⟩ := beBytes_eq y
  rw [hx, hy] at h
  simp only [List.cons.injEq, and_true] at h
  obtain ⟨rfl, rfl, rfl, rfl⟩ := h
  rfl

theorem ofBeBytes16_toNat (a b : UInt8) : (ofBeBytes16 a b).toNat = a.toNat * 2 ^ 8 + b.toNat := by
  have ha := a.toNat_lt
  have hb := b.toNat_lt
  rw [ofBeBytes16, UInt16.toNat_ofNat']
  omega

theorem beBytes16_eq (x : UInt16) : ∃ a b, beBytes16 x = [a, b] ∧ ofBeBytes16 a b = x := by
  refine ⟨_, _, rfl, ?_⟩
  apply UInt16.toNat_inj.mp
  have hx := x.toNat_lt
  rw [ofBeBytes16_toNat]
  simp only [UInt8.toNat_ofNat']
  omega

theorem beBytes16_ofBeBytes16 (a b : UInt8) : beBytes16 (ofBeBytes16 a b) = [a, b] := by
  have ha := a.toNat_lt
  have hb := b.toNat_lt
  simp only [beBytes16, ofBeBytes16_toNat, List.cons.injEq, and_true]
  constructor <;> apply UInt8.toNat_inj.mp <;> simp only [UInt8.toNat_ofNat'] <;> omega

/-! ## UTF-8 -/

def asBytes (s : Str) : Bytes := s.flatMap String.utf8EncodeChar

/-- `String::from_utf8`. -/
def fromUtf8 (b : Bytes) : Option Str := b.toByteArray.utf8Decode?.map Array.toList

/-- The well-formed second bytes after a lead byte of a sequence of three or four. -/
def secondByte (lead next : Nat) : Bool :=
  if lead = 0xE0 then 0xA0 ≤ next ∧ next ≤ 0xBF
  else if lead = 0xED then 0x80 ≤ next ∧ next ≤ 0x9F
  else if lead = 0xF0 then 0x90 ≤ next ∧ next ≤ 0xBF
  else if lead = 0xF4 then 0x80 ≤ next ∧ next ≤ 0x8F
  else 0x80 ≤ next ∧ next ≤ 0xBF

def continuation (b : Nat) : Bool := 0x80 ≤ b ∧ b ≤ 0xBF

/-- One step of a lossy decoder: the character at the front, `none` for a malformed
    sequence, and how many bytes it takes. -/
def decodeChar (b : Nat) (rest : List Nat) : Option Char × Nat :=
  if b < 0x80 then (some (Char.ofNat b), 1)
  else if 0xC2 ≤ b ∧ b ≤ 0xDF then
    match rest with
    | x :: _ => if continuation x then (some (Char.ofNat ((b - 0xC0) * 64 + (x - 0x80))), 2) else (none, 1)
    | [] => (none, 1)
  else if 0xE0 ≤ b ∧ b ≤ 0xEF then
    match rest with
    | x :: y :: _ =>
      if ¬ secondByte b x then (none, 1)
      else if ¬ continuation y then (none, 2)
      else (some (Char.ofNat ((b - 0xE0) * 4096 + (x - 0x80) * 64 + (y - 0x80))), 3)
    | [x] => if secondByte b x then (none, 2) else (none, 1)
    | [] => (none, 1)
  else if 0xF0 ≤ b ∧ b ≤ 0xF4 then
    match rest with
    | x :: y :: z :: _ =>
      if ¬ secondByte b x then (none, 1)
      else if ¬ continuation y then (none, 2)
      else if ¬ continuation z then (none, 3)
      else (some (Char.ofNat ((b - 0xF0) * 262144 + (x - 0x80) * 4096 + (y - 0x80) * 64 + (z - 0x80))), 4)
    | [x, y] => if ¬ secondByte b x then (none, 1) else if ¬ continuation y then (none, 2) else (none, 3)
    | [x] => if secondByte b x then (none, 2) else (none, 1)
    | [] => (none, 1)
  else (none, 1)

def fromUtf8LossyFrom : Nat → Bytes → Str
  | 0, _ => []
  | _ + 1, [] => []
  | fuel + 1, b :: rest =>
    let (c, taken) := decodeChar b.toNat (rest.map UInt8.toNat)
    c.getD '\uFFFD' :: fromUtf8LossyFrom fuel ((b :: rest).drop taken)

/-- `String::from_utf8_lossy`: a malformed sequence becomes U+FFFD. -/
def fromUtf8Lossy (b : Bytes) : Str := fromUtf8LossyFrom b.length b

@[simp] theorem asBytes_nil : asBytes [] = [] := rfl

@[simp] theorem asBytes_append (s t : Str) : asBytes (s ++ t) = asBytes s ++ asBytes t :=
  List.flatMap_append

theorem asBytes_cons (c : Char) (s : Str) : asBytes (c :: s) = String.utf8EncodeChar c ++ asBytes s :=
  List.flatMap_cons

theorem toByteArray_inj {b b' : Bytes} (h : b.toByteArray = b'.toByteArray) : b = b' := by
  have := congrArg (fun x : ByteArray => x.data.toList) h
  simpa using this

@[simp] theorem fromUtf8_asBytes (s : Str) : fromUtf8 (asBytes s) = some s := by
  have h : (asBytes s).toByteArray = s.utf8Encode := rfl
  simp [fromUtf8, h, List.utf8Decode?_utf8Encode]

theorem asBytes_of_fromUtf8 {b : Bytes} {s : Str} (h : fromUtf8 b = some s) : asBytes s = b := by
  unfold fromUtf8 at h
  obtain ⟨a, ha, rfl⟩ := Option.map_eq_some_iff.mp h
  have hs : b.toByteArray.utf8Decode?.isSome = true := by rw [ha]; rfl
  have hg : b.toByteArray.utf8Decode?.get hs = a := by simp [ha]
  have he : (b.toByteArray.utf8Decode?.get hs).toList.utf8Encode = b.toByteArray :=
    ByteArray.utf8Encode_get_utf8Decode?
  rw [hg] at he
  exact toByteArray_inj he

theorem asBytes_inj {s t : Str} (h : asBytes s = asBytes t) : s = t := by
  have := congrArg fromUtf8 h
  simpa using this

theorem utf8EncodeChar_zero_mem (c : Char) : (0 : UInt8) ∈ String.utf8EncodeChar c ↔ c = '\x00' := by
  have hz : ∀ n : Nat, 0 = UInt8.ofNat n ↔ n % 256 = 0 := fun n => by
    rw [← UInt8.toNat_inj, UInt8.toNat_ofNat']; simp [eq_comm]
  have hc : c = '\x00' ↔ c.val.toNat = 0 := by
    constructor
    · rintro rfl; rfl
    · intro h; exact Char.ext (UInt32.toNat_inj.mp h)
  rw [hc]
  have hv : c.val.toNat < 1114112 := by
    have := c.valid
    simp only [UInt32.isValidChar, Nat.isValidChar] at this
    omega
  unfold String.utf8EncodeChar
  simp only []
  repeat' split
  all_goals simp only [List.mem_cons, List.not_mem_nil, or_false, hz]
  all_goals omega

/-- NUL is the only character whose encoding has a zero byte. -/
theorem zero_mem_asBytes (s : Str) : (0 : UInt8) ∈ asBytes s ↔ '\x00' ∈ s := by
  induction s with
  | nil => simp
  | cons c s ih => rw [asBytes_cons, List.mem_append, utf8EncodeChar_zero_mem, ih, List.mem_cons, eq_comm]

/-- The length of a string's encoding, `str::len`. -/
def byteLen (s : Str) : Nat := (asBytes s).length

theorem length_le_byteLen (s : Str) : s.length ≤ byteLen s := by
  induction s with
  | nil => simp
  | cons c s ih =>
    have h1 : 0 < (String.utf8EncodeChar c).length := by
      rw [String.length_utf8EncodeChar]; exact c.utf8Size_pos
    simp only [byteLen, asBytes_cons, List.length_append, List.length_cons] at ih ⊢
    omega

@[simp] theorem byteLen_append (s t : Str) : byteLen (s ++ t) = byteLen s + byteLen t := by
  simp [byteLen]

/-- A string of ASCII characters has one byte a character. -/
theorem byteLen_ascii {s : Str} (h : ∀ c ∈ s, c.val.toNat < 128) : byteLen s = s.length := by
  induction s with
  | nil => rfl
  | cons c s ih =>
    have h1 : (String.utf8EncodeChar c).length = 1 := by
      have := h c (by simp)
      unfold String.utf8EncodeChar
      simp only []
      rw [if_pos (by omega)]
      rfl
    have h2 := ih (fun d hd => h d (by simp [hd]))
    simp only [byteLen, asBytes_cons, List.length_append, List.length_cons] at h2 ⊢
    omega

end Text
