/-
  Wirechaos.Wire.ReaderProofs — the cursor of a `MessageReader` over any calls (see
  `Wirechaos.Wire.Packet`).

  The readers are written once more as the code indexes its buffer, with `none` for a panic
  (`remainingChecked`, `sliceChecked`). A reader whose cursor is inside the buffer never
  panics and does what its definition over the remaining bytes says (`callChecked_eq`); each
  call keeps the cursor inside, moves it forward (`call_forward`) and returns what it passed
  (`call_returns`).
-/

import Wirechaos.Wire.LayoutProofs

namespace Wirechaos

open Text

namespace MessageReader

variable {m : MessageReader}

/-! ## With panics -/

/-- The subtraction may underflow. -/
def remainingChecked (m : MessageReader) : Option Nat :=
  if m.pos ≤ m.buf.length then some (m.buf.length - m.pos) else none

def sliceChecked (m : MessageReader) (start stop : Nat) : Option Bytes :=
  if start ≤ stop ∧ stop ≤ m.buf.length then some ((m.buf.drop start).take (stop - start)) else none

def readByteChecked (m : MessageReader) : Option (Except InternalError UInt8 × MessageReader) := do
  let remaining ← m.remainingChecked
  if remaining = 0 then return (.error (.text "Message body is empty"), m)
  else
    let byte ← m.buf[m.pos]?
    return (.ok byte, { m with pos := m.pos + 1 })

def readU16Checked (m : MessageReader) : Option (Except InternalError UInt16 × MessageReader) := do
  let remaining ← m.remainingChecked
  if remaining < 2 then return (.error (.text "Not enough bytes to read"), m)
  else
    let a ← m.buf[m.pos]?
    let b ← m.buf[m.pos + 1]?
    return (.ok (ofBeBytes16 a b), { m with pos := m.pos + 2 })

def readU32Checked (m : MessageReader) : Option (Except ProxyError UInt32 × MessageReader) := do
  let remaining ← m.remainingChecked
  if remaining < 4 then return (.error (connectionError .invalidMessageLength), m)
  else
    let a ← m.buf[m.pos]?
    let b ← m.buf[m.pos + 1]?
    let c ← m.buf[m.pos + 2]?
    let d ← m.buf[m.pos + 3]?
    return (.ok (ofBeBytes a b c d), { m with pos := m.pos + 4 })

/-- The loop of `read_string`, from where it began. -/
def scanString (m : MessageReader) (start : Nat) : Option (Except ProxyError Str × MessageReader) :=
  if m.pos < m.buf.length then
    match m.buf[m.pos]? with
    | none => none
    | some b =>
      if b = 0 then
        match m.sliceChecked start m.pos with
        | none => none
        | some bytes =>
          match fromUtf8 bytes with
          | none => some (.error (.internal .utf8), m)
          | some message => some (.ok message, { m with pos := m.pos + 1 })
      else scanString { m with pos := m.pos + 1 } start
  else some (.error (connectionError .invalidMessageLength), m)
termination_by m.buf.length - m.pos

def readStringChecked (m : MessageReader) : Option (Except ProxyError Str × MessageReader) := scanString m m.pos

def readStringFixedSizeChecked (m : MessageReader) (size : Int32) : Option (Except ProxyError Str × MessageReader) := do
  let remaining ← m.remainingChecked
  if remaining < asUsize size then return (.error (connectionError .invalidMessageLength), m)
  else
    let start := m.pos
    let stop := m.pos + asUsize size
    let bytes ← m.sliceChecked start stop
    match fromUtf8 bytes with
    | none => return (.error (.internal .utf8), { m with pos := stop })
    | some message => return (.ok message, { m with pos := stop })

/-! ## Without -/

theorem length_rest : m.rest.length = m.buf.length - m.pos := List.length_drop

theorem remainingChecked_eq (h : m.Inside) : m.remainingChecked = some m.rest.length := by
  unfold Inside at h
  simp [remainingChecked, h, length_rest]

/-- An index behind the cursor is one into the remaining bytes. -/
theorem getElem?_rest (i : Nat) : m.buf[m.pos + i]? = m.rest[i]? := by
  rw [rest, List.getElem?_drop]

theorem sliceChecked_eq {n : Nat} (h : m.Inside) (hn : n ≤ m.rest.length) :
    m.sliceChecked m.pos (m.pos + n) = some (m.rest.take n) := by
  unfold Inside at h
  rw [length_rest] at hn
  rw [sliceChecked, if_pos (by omega), Nat.add_sub_cancel_left]
  rfl

theorem readByteChecked_eq (h : m.Inside) : m.readByteChecked = some m.readByte := by
  have hfirst := getElem?_rest (m := m) 0
  unfold readByteChecked readByte
  rw [remainingChecked_eq h]
  rcases hrest : m.rest with _ | ⟨a, t⟩
  · rfl
  · have henough : ¬ (a :: t).length = 0 := by simp
    simp only [hrest, Nat.add_zero, List.getElem?_cons_zero] at hfirst
    simp only [Option.bind_eq_bind, Option.bind_some, if_neg henough, hfirst]
    rfl

theorem readU16Checked_eq (h : m.Inside) : m.readU16Checked = some m.readU16 := by
  have hfirst := getElem?_rest (m := m) 0
  have hsecond := getElem?_rest (m := m) 1
  unfold readU16Checked readU16
  rw [remainingChecked_eq h]
  rcases hrest : m.rest with _ | ⟨a, _ | ⟨b, t⟩⟩
  · rfl
  · rfl
  · have henough : ¬ (a :: b :: t).length < 2 := by simp
    simp only [hrest, Nat.add_zero, List.getElem?_cons_succ, List.getElem?_cons_zero] at hfirst hsecond
    simp only [Option.bind_eq_bind, Option.bind_some, if_neg henough, hfirst, hsecond]
    rfl

theorem readU32Checked_eq (h : m.Inside) : m.readU32Checked = some m.readU32 := by
  have hfirst := getElem?_rest (m := m) 0
  have hsecond := getElem?_rest (m := m) 1
  have hthird := getElem?_rest (m := m) 2
  have hfourth := getElem?_rest (m := m) 3
  unfold readU32Checked readU32
  rw [remainingChecked_eq h]
  rcases hrest : m.rest with _ | ⟨a, _ | ⟨b, _ | ⟨c, _ | ⟨d, t⟩⟩⟩⟩
  · simp
  · simp
  · simp
  · simp
  · have henough : ¬ (a :: b :: c :: d :: t).length < 4 := by simp
    simp only [hrest, Nat.add_zero, List.getElem?_cons_succ, List.getElem?_cons_zero] at hfirst hsecond hthird hfourth
    simp only [Option.bind_eq_bind, Option.bind_some, if_neg henough, hfirst, hsecond, hthird, hfourth]
    rfl

theorem takeWhile_clean {pre : Bytes} (hpre : (0 : UInt8) ∉ pre) (tail : Bytes) :
    (pre ++ tail).takeWhile (fun x => decide (x ≠ 0)) = pre ++ tail.takeWhile (fun x => decide (x ≠ 0)) := by
  apply List.takeWhile_append_of_pos
  intro x hx
  simp only [ne_eq, decide_not, Bool.not_eq_true', decide_eq_false_iff_not]
  rintro rfl
  exact hpre hx

/-- The induction is on what the loop has not looked at; behind it there is no zero. -/
theorem scanString_eq {buf pre tail : Bytes} {start : Nat} (hbuf : buf.drop start = pre ++ tail)
    (hpre : (0 : UInt8) ∉ pre) (hstart : start ≤ buf.length) :
    scanString ⟨buf, start + pre.length⟩ start = some (readString ⟨buf, start⟩) := by
  induction tail generalizing pre with
  | nil =>
    have hall := takeWhile_clean hpre []
    rw [List.takeWhile_nil, List.append_nil] at hall
    have hlen := congrArg List.length hbuf
    rw [List.append_nil, List.length_drop] at hlen
    have hend : ¬ start + pre.length < buf.length := by omega
    rw [List.append_nil] at hbuf
    rw [scanString, if_neg hend]
    simp only [readString, rest, hbuf, hall, Nat.lt_irrefl, if_false]
  | cons b t ih =>
    have hlen := congrArg List.length hbuf
    rw [List.length_drop, List.length_append, List.length_cons] at hlen
    have hmore : start + pre.length < buf.length := by omega
    have hget : buf[start + pre.length]? = some b := by
      rw [← List.getElem?_drop, hbuf, List.getElem?_append_right (Nat.le_refl _), Nat.sub_self]
      rfl
    rw [scanString, if_pos hmore]
    simp only [hget]
    by_cases hzero : b = 0
    · have htake := takeWhile_clean hpre (b :: t)
      rw [List.takeWhile_cons_of_neg (by simp [hzero]), List.append_nil] at htake
      have hslice : sliceChecked ⟨buf, start + pre.length⟩ start (start + pre.length) = some pre := by
        simp only [sliceChecked, hbuf, Nat.add_sub_cancel_left, List.take_left]
        exact if_pos ⟨Nat.le_add_right _ _, Nat.le_of_lt hmore⟩
      have hshorter : pre.length < (pre ++ b :: t).length := by simp
      simp only [if_pos hzero, hslice, readString, rest, hbuf, htake, if_pos hshorter]
      cases fromUtf8 pre <;> rfl
    · have hclean : (0 : UInt8) ∉ pre ++ [b] := by
        simp only [List.mem_append, List.mem_singleton, not_or]
        exact ⟨hpre, fun h => hzero h.symm⟩
      have htail : buf.drop start = (pre ++ [b]) ++ t := by simp [hbuf]
      have hnext := ih htail hclean
      rw [List.length_append, List.length_singleton, ← Nat.add_assoc] at hnext
      rw [if_neg hzero, hnext]

theorem readStringChecked_eq (h : m.Inside) : m.readStringChecked = some m.readString :=
  scanString_eq (List.nil_append (m.buf.drop m.pos)).symm List.not_mem_nil h

theorem readStringFixedSizeChecked_eq (h : m.Inside) (size : Int32) :
    m.readStringFixedSizeChecked size = some (m.readStringFixedSize size) := by
  unfold readStringFixedSizeChecked readStringFixedSize
  rw [remainingChecked_eq h, remaining_eq]
  by_cases hshort : m.rest.length < asUsize size
  · simp only [Option.bind_eq_bind, Option.bind_some, hshort, if_true]
    rfl
  · simp only [Option.bind_eq_bind, Option.bind_some, hshort, if_false, sliceChecked_eq h (Nat.le_of_not_lt hshort)]
    cases fromUtf8 (m.rest.take (asUsize size)) <;> rfl

/-! ## Any calls -/

inductive ReaderCall
  | readByte
  | readU16
  | readU32
  | readString
  | readStringFixedSize (size : Int32)
  deriving DecidableEq, Repr

/-- What a call returns. -/
inductive Field
  | byte (value : UInt8)
  | u16 (value : UInt16)
  | u32 (value : UInt32)
  | string (value : Str)
  | fixed (size : Int32) (value : Str)
  deriving DecidableEq, Repr

namespace Field

/-- The bytes a field is read from. -/
def bytes : Field → Bytes
  | byte value => [value]
  | u16 value => beBytes16 value
  | u32 value => beBytes value
  | string value => putCstr value
  | fixed _ value => asBytes value

/-- The call that reads the field. -/
def call : Field → ReaderCall
  | byte _ => .readByte
  | u16 _ => .readU16
  | u32 _ => .readU32
  | string _ => .readString
  | fixed size _ => .readStringFixedSize size

/-- A C string has no NUL, and a string of a fixed size has that size. -/
def WellFormed : Field → Prop
  | string value => '\x00' ∉ value
  | fixed size value => asUsize size = byteLen value
  | _ => True

end Field

def outcome {ε α : Type} (field : α → Field) (result : Except ε α × MessageReader) : Option Field × MessageReader :=
  (result.1.toOption.map field, result.2)

def call (m : MessageReader) : ReaderCall → Option Field × MessageReader
  | .readByte => outcome .byte m.readByte
  | .readU16 => outcome .u16 m.readU16
  | .readU32 => outcome .u32 m.readU32
  | .readString => outcome .string m.readString
  | .readStringFixedSize size => outcome (.fixed size) (m.readStringFixedSize size)

def callChecked (m : MessageReader) : ReaderCall → Option (Option Field × MessageReader)
  | .readByte => m.readByteChecked.map (outcome .byte)
  | .readU16 => m.readU16Checked.map (outcome .u16)
  | .readU32 => m.readU32Checked.map (outcome .u32)
  | .readString => m.readStringChecked.map (outcome .string)
  | .readStringFixedSize size => (m.readStringFixedSizeChecked size).map (outcome (.fixed size))

/-- One call after the other, whether they fail or not; `none` once one panics. -/
def run (m : MessageReader) : List ReaderCall → Option (List (Option Field) × MessageReader)
  | [] => some ([], m)
  | c :: calls => do
    let (field, m) ← m.callChecked c
    let (fields, m) ← m.run calls
    return (field :: fields, m)

theorem callChecked_eq (h : m.Inside) (c : ReaderCall) : m.callChecked c = some (m.call c) := by
  cases c with
  | readByte => simp [callChecked, call, readByteChecked_eq h]
  | readU16 => simp [callChecked, call, readU16Checked_eq h]
  | readU32 => simp [callChecked, call, readU32Checked_eq h]
  | readString => simp [callChecked, call, readStringChecked_eq h]
  | readStringFixedSize size => simp [callChecked, call, readStringFixedSizeChecked_eq h]

/-! ### One call -/

/-- From `m` to `m'` the cursor moved forward in one buffer. -/
structure Forward (m m' : MessageReader) : Prop where
  buf : m'.buf = m.buf
  pos : m.pos ≤ m'.pos
  inside : m'.Inside

/-- The bytes between the old and the new cursor. -/
def passed (m m' : MessageReader) : Bytes := (m.buf.drop m.pos).take (m'.pos - m.pos)

theorem Forward.passed_eq {m' : MessageReader} {bytes : Bytes} (h : m.Forward m') (hrest : m.rest = bytes ++ m'.rest) :
    m.passed m' = bytes := by
  have hbuf := h.buf
  have hpos := h.pos
  have hinside := h.inside
  have hlength := congrArg List.length hrest
  rw [List.length_append, length_rest, length_rest] at hlength
  unfold Inside at hinside
  rw [hbuf] at hlength hinside
  have hbytes : m'.pos - m.pos = bytes.length := by omega
  unfold passed
  rw [hbytes]
  have := congrArg (List.take bytes.length) hrest
  rwa [List.take_left] at this

theorem readByte_ok {m' : MessageReader} {x : UInt8} (h : m.readByte = (.ok x, m')) : m.rest = [x] ++ m'.rest := by
  unfold readByte at h
  split at h
  · rename_i a t hrest
    cases h
    simp only [rest] at hrest ⊢
    rw [← List.drop_drop, hrest]
    rfl
  · cases h

theorem readU16_ok {m' : MessageReader} {x : UInt16} (h : m.readU16 = (.ok x, m')) : m.rest = beBytes16 x ++ m'.rest := by
  unfold readU16 at h
  split at h
  · rename_i a b t hrest
    cases h
    rw [beBytes16_ofBeBytes16]
    simp only [rest] at hrest ⊢
    rw [← List.drop_drop, hrest]
    rfl
  · cases h

/-- Each call keeps the cursor inside and never moves it back. -/
theorem call_forward (h : m.Inside) (c : ReaderCall) : m.Forward (m.call c).2 := by
  have hlength := length_rest (m := m)
  have hstay : m.Forward m := ⟨rfl, Nat.le_refl _, h⟩
  have hmove (n : Nat) (hn : n ≤ m.rest.length) : m.Forward { m with pos := m.pos + n } := by
    unfold Inside at h
    refine ⟨rfl, Nat.le_add_right _ _, ?_⟩
    simp only [Inside]
    omega
  cases c with
  | readByte =>
    simp only [call, outcome, readByte]
    split
    · rename_i a t hrest
      exact hmove 1 (by simp [hrest])
    · exact hstay
  | readU16 =>
    simp only [call, outcome, readU16]
    split
    · rename_i a b t hrest
      exact hmove 2 (by simp [hrest])
    · exact hstay
  | readU32 =>
    simp only [call, outcome, readU32]
    split
    · rename_i a b c d t hrest
      exact hmove 4 (by simp [hrest])
    · exact hstay
  | readString =>
    have hprefix := (List.takeWhile_prefix (fun x : UInt8 => decide (x ≠ 0)) (l := m.rest)).length_le
    simp only [call, outcome, readString]
    split
    · split
      · exact hmove (_ + 1) (by omega)
      · exact hmove _ hprefix
    · exact hmove _ hprefix
  | readStringFixedSize size =>
    simp only [call, outcome, readStringFixedSize, remaining_eq]
    by_cases hshort : m.rest.length < asUsize size
    · simpa [hshort] using hstay
    · simp only [hshort, if_false]
      split <;> exact hmove _ (by omega)

theorem outcome_some {ε α : Type} {field : α → Field} {result : Except ε α × MessageReader} {f : Field}
    (h : (outcome field result).1 = some f) : ∃ value, result = (.ok value, result.2) ∧ f = field value := by
  rcases result with ⟨e | value, m'⟩
  · simp [outcome, Except.toOption] at h
  · simp only [outcome, Except.toOption, Option.map_some, Option.some.injEq] at h
    exact ⟨value, rfl, h.symm⟩

/-- A call that succeeds returns what it passed. -/
theorem call_returns {c : ReaderCall} {f : Field} (hf : (m.call c).1 = some f) :
    f.call = c ∧ f.WellFormed ∧ m.rest = f.bytes ++ (m.call c).2.rest := by
  cases c with
  | readByte =>
    obtain ⟨value, hread, rfl⟩ := outcome_some hf
    exact ⟨rfl, trivial, readByte_ok hread⟩
  | readU16 =>
    obtain ⟨value, hread, rfl⟩ := outcome_some hf
    exact ⟨rfl, trivial, readU16_ok hread⟩
  | readU32 =>
    obtain ⟨value, hread, rfl⟩ := outcome_some hf
    exact ⟨rfl, trivial, readU32_ok hread⟩
  | readString =>
    obtain ⟨value, hread, rfl⟩ := outcome_some hf
    exact ⟨rfl, (readString_ok hread).2, (readString_ok hread).1⟩
  | readStringFixedSize size =>
    obtain ⟨value, hread, rfl⟩ := outcome_some hf
    exact ⟨rfl, (readStringFixedSize_ok hread).2, (readStringFixedSize_ok hread).1⟩

/-- The call of a field that is next in the buffer returns it. -/
theorem call_field {f : Field} {t : Bytes} (hrest : m.rest = f.bytes ++ t) (hf : f.WellFormed) :
    (m.call f.call).1 = some f ∧ (m.call f.call).2.rest = t := by
  have hskip (n : Nat) (hn : f.bytes.length = n) : rest { m with pos := m.pos + n } = t := by
    have := congrArg (List.drop n) hrest
    rw [← hn, List.drop_left] at this
    rw [← this, rest, rest, hn, List.drop_drop]
  cases f with
  | byte value =>
    simp only [Field.bytes, List.singleton_append] at hrest
    simp only [Field.call, call, outcome, readByte, hrest]
    exact ⟨rfl, hskip 1 rfl⟩
  | u16 value =>
    obtain ⟨a, b, hvalue, hword⟩ := beBytes16_eq value
    simp only [Field.bytes, hvalue, List.cons_append, List.nil_append] at hrest
    simp only [Field.call, call, outcome, readU16, hrest, hword]
    exact ⟨rfl, hskip 2 rfl⟩
  | u32 value =>
    obtain ⟨m', hread, hleft⟩ := readU32_rest hrest
    simp only [Field.call, call, hread]
    exact ⟨rfl, hleft⟩
  | string value =>
    obtain ⟨m', hread, hleft⟩ := readString_rest hrest hf
    simp only [Field.call, call, hread]
    exact ⟨rfl, hleft⟩
  | fixed size value =>
    simp only [Field.WellFormed, byteLen] at hf
    simp only [Field.bytes] at hrest
    have henough : ¬ m.rest.length < (asBytes value).length := by simp [hrest]
    simp only [Field.call, call, outcome, readStringFixedSize, remaining_eq, hf, henough, if_false]
    simp only [hrest, List.take_left, fromUtf8_asBytes]
    exact ⟨rfl, hskip _ rfl⟩

/-! ### Any number of calls -/

theorem run_cons (h : m.Inside) (c : ReaderCall) (calls : List ReaderCall) :
    m.run (c :: calls) = ((m.call c).2.run calls).map fun r => ((m.call c).1 :: r.1, r.2) := by
  simp only [run, callChecked_eq h, Option.bind_eq_bind, Option.bind_some]
  cases (m.call c).2.run calls <;> rfl

theorem run_forward (h : m.Inside) (calls : List ReaderCall) :
    ∃ results m', m.run calls = some (results, m') ∧ m.Forward m' := by
  induction calls generalizing m with
  | nil => exact ⟨[], m, rfl, rfl, Nat.le_refl _, h⟩
  | cons c calls ih =>
    have hstep := call_forward h c
    obtain ⟨results, m', hrun, hrest⟩ := ih hstep.inside
    refine ⟨_, m', by rw [run_cons h, hrun]; rfl, ?_, ?_, hrest.inside⟩
    · rw [hrest.buf, hstep.buf]
    · exact Nat.le_trans hstep.pos hrest.pos

/-- The fields that are next in the buffer are read in their order. -/
theorem run_fields (h : m.Inside) {fields : List Field} {t : Bytes} (hrest : m.rest = fields.flatMap Field.bytes ++ t)
    (hfields : ∀ f ∈ fields, f.WellFormed) :
    ∃ m', m.run (fields.map Field.call) = some (fields.map some, m') ∧ m'.rest = t := by
  induction fields generalizing m with
  | nil => exact ⟨m, rfl, hrest⟩
  | cons f fields ih =>
    rw [List.flatMap_cons, List.append_assoc] at hrest
    have hfirst := call_field hrest (hfields f (by simp))
    have hstep := call_forward h f.call
    obtain ⟨m', hrun, hleft⟩ := ih hstep.inside hfirst.2 fun g hg => hfields g (by simp [hg])
    refine ⟨m', ?_, hleft⟩
    rw [List.map_cons, run_cons h, hrun, hfirst.1]
    rfl

/-- However a reader of any buffer is called, and whichever calls fail: the cursor is in the
    buffer, and the next call does not panic, moves it forward inside the buffer and, where
    it succeeds, returns exactly the bytes it passed. Fields that are next are read back in
    their order. -/
theorem reader_stays_inside (buf : Bytes) (calls : List ReaderCall) :
    ∃ results m, (new buf).run calls = some (results, m) ∧ m.buf = buf ∧ m.pos ≤ buf.length ∧
      m.remainingChecked = some m.remaining ∧
      (∀ c, ∃ result m', m.callChecked c = some (result, m') ∧ m'.buf = buf ∧ m.pos ≤ m'.pos ∧ m'.pos ≤ buf.length ∧
        ∀ f, result = some f → f.call = c ∧ f.WellFormed ∧ (buf.drop m.pos).take (m'.pos - m.pos) = f.bytes) ∧
      ∀ (fields : List Field) (t : Bytes), m.rest = fields.flatMap Field.bytes ++ t → (∀ f ∈ fields, f.WellFormed) →
        ∃ m', m.run (fields.map Field.call) = some (fields.map some, m') ∧ m'.rest = t := by
  have hnew : (new buf).Inside := Nat.zero_le _
  obtain ⟨results, m, hrun, hforward⟩ := run_forward hnew calls
  have hbuf : m.buf = buf := hforward.buf
  have hinside := hforward.inside
  refine ⟨results, m, hrun, hbuf, ?_, ?_, ?_, ?_⟩
  · rw [← hbuf]
    exact hinside
  · rw [remainingChecked_eq hinside, remaining_eq]
  · intro c
    have hnext := call_forward hinside c
    have hkept := hnext.buf.trans hbuf
    refine ⟨(m.call c).1, (m.call c).2, callChecked_eq hinside c, hkept, hnext.pos, ?_, ?_⟩
    · rw [← hkept]
      exact hnext.inside
    · intro f hf
      have hreturned := call_returns hf
      refine ⟨hreturned.1, hreturned.2.1, ?_⟩
      rw [← hnext.passed_eq hreturned.2.2, passed, hbuf]
  · intro fields t hrest hfields
    exact run_fields hinside hrest hfields

end MessageReader

end Wirechaos
