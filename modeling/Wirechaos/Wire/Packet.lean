/-
  Wirechaos.Wire.Packet — reading fields of a message body (packet.rs, wire_util.rs)
  and writing the C strings they are made of.

  A `MessageReader` is a buffer with a cursor. The readers move the cursor also when
  they fail, so each returns the reader it leaves behind next to its result.
-/

import Wirechaos.Wire.Error

namespace Wirechaos

open Text

/-- `put_cstr`: the bytes of the string, then a NUL. -/
def putCstr (value : Str) : Bytes := asBytes value ++ [0]

def byte (c : Char) : UInt8 := UInt8.ofNat c.toNat

/-- A message: its tag, the length of body and length field, the body. -/
def frame (tag : UInt8) (body : Bytes) : Bytes := tag :: beBytes (UInt32.ofNat (body.length + 4)) ++ body

/-- `size as usize` sign-extends: a negative `i32` becomes a length near `2 ^ 64`. -/
def asUsize (size : Int32) : Nat := (size.toInt % 2 ^ 64).toNat

/-- A pool of buffers (buffer_pool.rs): the largest it can serve, and what the bytes of
    a rented one hold before they are written. -/
structure MultiBufferPool where
  maxCapacity : Nat
  stale : Nat → Nat → UInt8

/-- The buffer of a rental. `get` panics past `maxCapacity`; its callers check that first. -/
def MultiBufferPool.get (pool : MultiBufferPool) (rental requestedSize : Nat) : Bytes :=
  (List.range requestedSize).map (pool.stale rental)

/-- Fill the front of a buffer. -/
def overwrite (buf bytes : Bytes) : Bytes := bytes ++ buf.drop bytes.length

@[simp] theorem length_get (pool : MultiBufferPool) (rental n : Nat) : (pool.get rental n).length = n := by
  simp [MultiBufferPool.get]

/-- A buffer that was read full holds nothing of its last renter. -/
theorem overwrite_full {buf bytes : Bytes} (h : bytes.length = buf.length) : overwrite buf bytes = bytes := by
  simp [overwrite, h]

structure MessageReader where
  buf : Bytes
  pos : Nat
  deriving DecidableEq, Repr

namespace MessageReader

def new (buf : Bytes) : MessageReader := ⟨buf, 0⟩

def remaining (m : MessageReader) : Nat := m.buf.length - m.pos

/-- The bytes from the cursor on. -/
def rest (m : MessageReader) : Bytes := m.buf.drop m.pos

def readByte (m : MessageReader) : Except InternalError UInt8 × MessageReader :=
  match m.rest with
  | a :: _ => (.ok a, { m with pos := m.pos + 1 })
  | _ => (.error (.text "Message body is empty"), m)

def readU16 (m : MessageReader) : Except InternalError UInt16 × MessageReader :=
  match m.rest with
  | a :: b :: _ => (.ok (ofBeBytes16 a b), { m with pos := m.pos + 2 })
  | _ => (.error (.text "Not enough bytes to read"), m)

def readU32 (m : MessageReader) : Except ProxyError UInt32 × MessageReader :=
  match m.rest with
  | a :: b :: c :: d :: _ => (.ok (ofBeBytes a b c d), { m with pos := m.pos + 4 })
  | _ => (.error (connectionError .invalidMessageLength), m)

/-- Up to the next NUL, which is consumed with it. Without a NUL the cursor ends at the
    end of the buffer; with one whose string is not UTF-8 it stays on the NUL. -/
def readString (m : MessageReader) : Except ProxyError Str × MessageReader :=
  let start := m.rest
  let bytes := start.takeWhile (· ≠ 0)
  if bytes.length < start.length then
    match fromUtf8 bytes with
    | some s => (.ok s, { m with pos := m.pos + bytes.length + 1 })
    | none => (.error (.internal .utf8), { m with pos := m.pos + bytes.length })
  else (.error (connectionError .invalidMessageLength), { m with pos := m.pos + bytes.length })

def readStringFixedSize (m : MessageReader) (size : Int32) : Except ProxyError Str × MessageReader :=
  if m.remaining < asUsize size then (.error (connectionError .invalidMessageLength), m)
  else
    let bytes := m.rest.take (asUsize size)
    let m' := { m with pos := m.pos + asUsize size }
    match fromUtf8 bytes with
    | some s => (.ok s, m')
    | none => (.error (.internal .utf8), m')

@[simp] theorem new_rest (buf : Bytes) : (new buf).rest = buf := rfl

theorem remaining_eq (m : MessageReader) : m.remaining = m.rest.length := by
  simp [remaining, rest]

/-! ## What a successful read consumed -/

theorem readU32_rest {m : MessageReader} {x : UInt32} {t : Bytes} (h : m.rest = beBytes x ++ t) :
    ∃ m', m.readU32 = (.ok x, m') ∧ m'.rest = t := by
  obtain ⟨a, b, c, d, hx, hv⟩ := beBytes_eq x
  rw [hx] at h
  refine ⟨{ m with pos := m.pos + 4 }, ?_, ?_⟩
  · simp only [readU32, h, List.cons_append, hv]
  · simp only [rest] at h ⊢
    rw [← List.drop_drop, h]
    rfl

theorem readU32_ok {m m' : MessageReader} {x : UInt32} (h : m.readU32 = (.ok x, m')) :
    m.rest = beBytes x ++ m'.rest := by
  simp only [readU32] at h
  split at h
  · rename_i a b c d t hr
    cases h
    rw [beBytes_ofBeBytes]
    simp only [rest] at hr ⊢
    rw [← List.drop_drop, hr]
    rfl
  · cases h

theorem readString_rest {m : MessageReader} {s : Str} {t : Bytes} (h : m.rest = putCstr s ++ t)
    (hs : '\x00' ∉ s) : ∃ m', m.readString = (.ok s, m') ∧ m'.rest = t := by
  have hz : (0 : UInt8) ∉ asBytes s := fun hz => hs ((zero_mem_asBytes s).mp hz)
  have hr : m.rest = asBytes s ++ 0 :: t := by rw [h, putCstr]; simp
  have htw : m.rest.takeWhile (· ≠ 0) = asBytes s := by
    rw [hr, List.takeWhile_append_of_pos (by intro x hx; simp; rintro rfl; exact hz hx)]
    simp
  refine ⟨{ m with pos := m.pos + (asBytes s).length + 1 }, ?_, ?_⟩
  · simp only [readString, htw, fromUtf8_asBytes]
    rw [if_pos]
    rw [hr]; simp
  · simp only [rest] at hr ⊢
    rw [Nat.add_assoc, ← List.drop_drop, hr]
    simp

theorem readString_ok {m m' : MessageReader} {s : Str} (h : m.readString = (.ok s, m')) :
    m.rest = putCstr s ++ m'.rest ∧ '\x00' ∉ s := by
  simp only [readString] at h
  split at h
  · rename_i hlt
    split at h
    · rename_i s' hs
      cases h
      have hb := asBytes_of_fromUtf8 hs
      have hz : '\x00' ∉ s := by
        rw [← zero_mem_asBytes, hb]
        intro hz
        simpa using List.all_eq_true.mp List.all_takeWhile _ hz
      refine ⟨?_, hz⟩
      obtain ⟨x, t, hd⟩ : ∃ x t, m.rest.dropWhile (· ≠ 0) = x :: t := by
        cases hd : m.rest.dropWhile (· ≠ 0) with
        | nil =>
          have := congrArg List.length (List.takeWhile_append_dropWhile (p := (· ≠ 0)) (l := m.rest))
          rw [hd] at this
          simp only [List.length_append, List.length_nil] at this
          omega
        | cons x t => exact ⟨x, t, rfl⟩
      have hx : x = 0 := by
        have := List.head?_dropWhile_not (· ≠ 0) m.rest
        rw [hd] at this
        simpa using this
      subst hx
      have hr : m.rest = asBytes s ++ 0 :: t := by
        rw [hb, ← hd, List.takeWhile_append_dropWhile]
      rw [← hb]
      simp only [putCstr]
      have : ({ m with pos := m.pos + (asBytes s).length + 1 } : MessageReader).rest = t := by
        simp only [rest] at hr ⊢
        rw [Nat.add_assoc, ← List.drop_drop, hr]
        simp
      rw [this, hr]
      simp
    · cases h
  · cases h

theorem readStringFixedSize_rest {m : MessageReader} {s : Str} {t : Bytes} {size : Int32}
    (h : m.rest = asBytes s ++ t) (hs : size.toInt = ((asBytes s).length : Int)) :
    ∃ m', m.readStringFixedSize size = (.ok s, m') ∧ m'.rest = t := by
  have hn : asUsize size = (asBytes s).length := by
    have := size.toInt_lt
    unfold asUsize
    omega
  refine ⟨{ m with pos := m.pos + (asBytes s).length }, ?_, ?_⟩
  · have hc : ¬ m.remaining < (asBytes s).length := by
      rw [remaining_eq, h, List.length_append]
      omega
    simp only [readStringFixedSize, hn, hc, if_false, h, List.take_left, fromUtf8_asBytes]
  · simp only [rest] at h ⊢
    rw [← List.drop_drop, h]
    simp

theorem readStringFixedSize_ok {m m' : MessageReader} {size : Int32} {s : Str}
    (h : m.readStringFixedSize size = (.ok s, m')) : m.rest = asBytes s ++ m'.rest ∧ asUsize size = byteLen s := by
  unfold readStringFixedSize at h
  rw [remaining_eq] at h
  by_cases hshort : m.rest.length < asUsize size
  · simp [hshort] at h
  · simp only [hshort, if_false] at h
    split at h
    · rename_i s' hs
      cases h
      have hbytes := asBytes_of_fromUtf8 hs
      have hlength := congrArg List.length hbytes
      rw [List.length_take] at hlength
      refine ⟨?_, ?_⟩
      · rw [hbytes]
        simp only [rest]
        rw [← List.drop_drop, List.take_append_drop]
      · unfold byteLen
        omega
    · cases h

end MessageReader

end Wirechaos
