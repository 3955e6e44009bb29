/-
  Wirechaos.Wire.Stream — a session's byte stream (conn_read.rs, conn_write.rs and the
  buffered reader and writer around them).

  A peer's bytes arrive in pieces, one for each socket read (`chunks`). Each wait of
  the code takes one answer from a schedule: the operation proceeds, the transport
  fails, or a deadline drops the waiting future. A read takes the next piece; a write
  may hand over any prefix of what it was given. So every interleaving of arrivals,
  short writes, faults and deadlines is one schedule.
-/

import Wirechaos.Lib.Async
import Wirechaos.Wire.Error

namespace Wirechaos

open Text Async Proc

/-- How a wait ends. -/
inductive Await where
  /-- It proceeds; a write hands over at most `n` bytes. -/
  | ready (n : Nat)
  | fail
  /-- The deadline `scope` timeouts further out fires first. -/
  | expire (scope : Nat)
  deriving DecidableEq, Repr

inductive Transport where
  | empty
  | plain
  | tls
  | clientTls
  deriving DecidableEq, Repr

/-- The read half and what is still to arrive on it; an exhausted one is at its end. -/
structure ConnRead where
  transport : Transport
  chunks : List Bytes
  deriving DecidableEq, Repr

structure BufReader where
  buf : Bytes
  inner : ConnRead
  deriving DecidableEq, Repr

structure BufWriter where
  buf : Bytes
  inner : Transport
  deriving DecidableEq, Repr

/-- The capacity of a buffered writer. -/
def writerCapacity : Nat := 8192

/-- A connection to one peer: `sent` is what the transport has taken. -/
structure Wire where
  reader : BufReader
  writer : BufWriter
  sent : Bytes
  sched : Nat → Await
  tick : Nat

inductive IoError where
  | unexpectedEof
  | writeZero
  | transport
  deriving DecidableEq, Repr

namespace Wire

def await : Proc Wire IoError Nat := fun w =>
  let w' := { w with tick := w.tick + 1 }
  match w.sched w.tick with
  | .ready n => (.ok n, w')
  | .fail => (.err .transport, w')
  | .expire scope => (.dropped scope, w')

/-! ## Reading -/

/-- One socket read into the empty buffer; nothing read is the end of the stream. -/
def fillBuf : Proc Wire IoError Unit := do
  let w ← get
  if w.reader.inner.transport = .empty then pure ()
  else
    let _ ← await
    modify fun w => match w.reader.inner.chunks with
      | [] => w
      | c :: cs => { w with reader := { buf := c, inner := { w.reader.inner with chunks := cs } } }

/-- The loop of `read_exact`: `acc` is what it has, `n` what it still needs. Every
    iteration but the first takes a byte, so `n + 1` of them are enough. -/
def readExactFrom : Nat → Nat → Bytes → Proc Wire IoError Bytes
  | 0, _, _ => throw .unexpectedEof
  | fuel + 1, n, acc => do
    let w ← get
    let buf := w.reader.buf
    modify fun w => { w with reader := { w.reader with buf := w.reader.buf.drop n } }
    if n ≤ buf.length then pure (acc ++ buf.take n)
    else
      fillBuf
      let w ← get
      if w.reader.buf = [] then throw .unexpectedEof
      else readExactFrom fuel (n - buf.length) (acc ++ buf)

def readExact (n : Nat) : Proc Wire IoError Bytes := readExactFrom (n + 1) n []

/-! ## Writing -/

/-- `poll_write` of the inner transport: how many bytes it took. -/
def pollWrite (data : Bytes) : Proc Wire IoError Nat := do
  let w ← get
  if w.writer.inner = .empty then throw .writeZero
  else
    let n ← await
    let n := min n data.length
    if n = 0 then throw .writeZero
    else
      modify fun w => { w with sent := w.sent ++ data.take n }
      pure n

/-- Write the buffer out. Every iteration takes a byte of it. -/
def flushBufFrom : Nat → Proc Wire IoError Unit
  | 0 => pure ()
  | fuel + 1 => do
    let w ← get
    if w.writer.buf = [] then pure ()
    else
      let n ← pollWrite w.writer.buf
      modify fun w => { w with writer := { w.writer with buf := w.writer.buf.drop n } }
      flushBufFrom fuel

def flushBuf : Proc Wire IoError Unit := do
  let w ← get
  flushBufFrom w.writer.buf.length

/-- Data that does not fit next to what is buffered waits for the buffer to go out. -/
def makeRoom (n : Nat) : Proc Wire IoError Unit := do
  let w ← get
  if w.writer.buf.length + n > writerCapacity then flushBuf else pure ()

/-- The loop of `write_all`: data that fits is buffered; data of the buffer's size or
    more goes out directly, past an emptied buffer. -/
def writeAllFrom : Nat → Bytes → Proc Wire IoError Unit
  | 0, _ => pure ()
  | fuel + 1, data => do
    if data = [] then pure ()
    else
      makeRoom data.length
      if data.length ≥ writerCapacity then
        let n ← pollWrite data
        writeAllFrom fuel (data.drop n)
      else modify fun w => { w with writer := { w.writer with buf := w.writer.buf ++ data } }

def writeAll (data : Bytes) : Proc Wire IoError Unit := writeAllFrom data.length data

/-- The buffer, then the transport: a TLS session may have to wait for its records. -/
def flush : Proc Wire IoError Unit := do
  flushBuf
  let w ← get
  if w.writer.inner = .tls ∨ w.writer.inner = .clientTls then
    let _ ← await
    pure ()
  else pure ()

/-! ## Without buffers -/

/-- `write_all` straight to the transport. -/
def writeAllRawFrom : Nat → Bytes → Proc Wire IoError Unit
  | 0, _ => pure ()
  | fuel + 1, data => do
    if data = [] then pure ()
    else
      let n ← pollWrite data
      writeAllRawFrom fuel (data.drop n)

def writeAllRaw (data : Bytes) : Proc Wire IoError Unit := writeAllRawFrom data.length data

/-- One byte straight from the transport; the rest of its piece stays there. -/
def readByteRaw : Proc Wire IoError UInt8 := do
  let _ ← await
  let w ← get
  match w.reader.inner.chunks with
  | (b :: bs) :: cs =>
    modify fun w => { w with reader := { w.reader with inner := { w.reader.inner with
      chunks := if bs = [] then cs else bs :: cs } } }
    pure b
  | _ => throw .unexpectedEof

/-! ## What every operation keeps -/

/-- The bytes still to be read. -/
def input (w : Wire) : Bytes := w.reader.buf ++ w.reader.inner.chunks.flatten

/-- The bytes written so far: those the transport has taken, then those in the buffer. -/
def output (w : Wire) : Bytes := w.sent ++ w.writer.buf

/-- The ends of the connection and the schedule are the same; input is only consumed and
    nothing sent is taken back. -/
structure Stable (w w' : Wire) : Prop where
  reader : w'.reader.inner.transport = w.reader.inner.transport
  writer : w'.writer.inner = w.writer.inner
  sched : w'.sched = w.sched
  input : w'.input <:+ w.input
  sent : w.sent <+: w'.sent

instance : IsPreorder Wire Stable where
  refl _ := ⟨rfl, rfl, rfl, List.suffix_refl _, List.prefix_refl _⟩
  trans _ _ _ h h' := ⟨h'.reader.trans h.reader, h'.writer.trans h.writer, h'.sched.trans h.sched,
    h'.input.trans h.input, h.sent.trans h'.sent⟩

/-- The buffer of the writer may change. -/
theorem stable_writer (w : Wire) (f : Bytes → Bytes) :
    Stable w { w with writer := { w.writer with buf := f w.writer.buf } } :=
  ⟨rfl, rfl, rfl, List.suffix_refl _, List.prefix_refl _⟩

theorem keeps_await : Keeps Stable await := by
  intro w
  unfold await
  dsimp only
  split <;> exact ⟨rfl, rfl, rfl, List.suffix_refl _, List.prefix_refl _⟩

theorem keeps_fillBuf : Keeps Stable fillBuf := by
  refine keeps_bind keeps_get fun w => ?_
  refine keeps_ite (keeps_pure _) (keeps_bind keeps_await fun _ => keeps_modify fun w => ?_)
  split
  · exact refl_of Stable w
  · rename_i c cs hc
    refine ⟨rfl, rfl, rfl, ⟨w.reader.buf, ?_⟩, List.prefix_refl _⟩
    simp [input, hc]

theorem keeps_readExactFrom (fuel n : Nat) (acc : Bytes) : Keeps Stable (readExactFrom fuel n acc) := by
  induction fuel generalizing n acc with
  | zero => exact keeps_throw _
  | succ fuel ih =>
    refine keeps_bind keeps_get fun w => ?_
    refine keeps_bind (keeps_modify fun w => ⟨rfl, rfl, rfl, ?_, List.prefix_refl _⟩) fun _ => ?_
    · exact List.suffix_append_self_iff.mpr (List.drop_suffix n w.reader.buf)
    refine keeps_ite (keeps_pure _) ?_
    refine keeps_bind keeps_fillBuf fun _ => keeps_bind keeps_get fun w => ?_
    exact keeps_ite (keeps_throw _) (ih _ _)

theorem keeps_readExact (n : Nat) : Keeps Stable (readExact n) := keeps_readExactFrom _ _ _

theorem keeps_pollWrite (data : Bytes) : Keeps Stable (pollWrite data) := by
  refine keeps_bind keeps_get fun w => keeps_ite (keeps_throw _) ?_
  refine keeps_bind keeps_await fun n => keeps_ite (keeps_throw _) ?_
  exact keeps_bind (keeps_modify fun w => ⟨rfl, rfl, rfl, List.suffix_refl _, List.prefix_append _ _⟩) fun _ => keeps_pure _

theorem keeps_flushBufFrom (fuel : Nat) : Keeps Stable (flushBufFrom fuel) := by
  induction fuel with
  | zero => exact keeps_pure _
  | succ fuel ih =>
    refine keeps_bind keeps_get fun w => keeps_ite (keeps_pure _) ?_
    refine keeps_bind (keeps_pollWrite _) fun n => ?_
    exact keeps_bind (keeps_modify fun w => stable_writer w _) fun _ => ih

theorem keeps_flushBuf : Keeps Stable flushBuf := keeps_bind keeps_get fun _ => keeps_flushBufFrom _

theorem keeps_makeRoom (n : Nat) : Keeps Stable (makeRoom n) :=
  keeps_bind keeps_get fun _ => keeps_ite keeps_flushBuf (keeps_pure _)

theorem keeps_writeAllFrom (fuel : Nat) (data : Bytes) : Keeps Stable (writeAllFrom fuel data) := by
  induction fuel generalizing data with
  | zero => exact keeps_pure _
  | succ fuel ih =>
    refine keeps_ite (keeps_pure _) ?_
    refine keeps_bind (keeps_makeRoom _) fun _ => ?_
    refine keeps_ite (keeps_bind (keeps_pollWrite _) fun n => ih _) ?_
    exact keeps_modify fun w => stable_writer w (· ++ data)

theorem keeps_writeAll (data : Bytes) : Keeps Stable (writeAll data) := keeps_writeAllFrom _ _

theorem keeps_flush : Keeps Stable flush := by
  refine keeps_bind keeps_flushBuf fun _ => keeps_bind keeps_get fun w => ?_
  exact keeps_ite (keeps_bind keeps_await fun _ => keeps_pure _) (keeps_pure _)

/-! ## What an operation that returned did -/

theorem await_ok {w w' : Wire} {n : Nat} (h : await w = (.ok n, w')) : w' = { w with tick := w.tick + 1 } := by
  unfold await at h
  dsimp only at h
  split at h <;> cases h
  rfl

theorem fillBuf_ok {w w' : Wire} {u : Unit} (h : fillBuf w = (.ok u, w')) (hb : w.reader.buf = []) :
    w'.input = w.input ∧ w'.output = w.output := by
  simp only [fillBuf, bind_ok, get_apply, Prod.mk.injEq, Outcome.ok.injEq] at h
  obtain ⟨_, _, ⟨rfl, rfl⟩, h⟩ := h
  split at h
  · cases h
    exact ⟨rfl, rfl⟩
  · obtain ⟨n, w₁, ha, hm⟩ := bind_ok.mp h
    obtain rfl := await_ok ha
    rw [modify_apply] at hm
    cases hm
    cases hc : w.reader.inner.chunks with
    | nil => simp [input, output, hc]
    | cons c cs => simp [input, output, hc, hb]

theorem readExactFrom_ok {fuel n : Nat} {acc bytes : Bytes} {w w' : Wire}
    (h : readExactFrom fuel n acc w = (.ok bytes, w')) :
    ∃ read, bytes = acc ++ read ∧ read.length = n ∧ w.input = read ++ w'.input ∧ w'.output = w.output := by
  induction fuel generalizing n acc w with
  | zero => cases h
  | succ fuel ih =>
    simp only [readExactFrom, bind_ok, get_apply, modify_apply, Prod.mk.injEq, Outcome.ok.injEq] at h
    obtain ⟨_, _, ⟨rfl, rfl⟩, _, w₁, ⟨-, rfl⟩, h⟩ := h
    split at h
    · rename_i hn
      cases h
      refine ⟨w.reader.buf.take n, rfl, List.length_take_of_le hn, ?_, rfl⟩
      simp only [input]
      rw [← List.append_assoc, List.take_append_drop]
    · rename_i hn
      obtain ⟨_, w₂, hf, h⟩ := bind_ok.mp h
      obtain ⟨hin, hout⟩ := fillBuf_ok hf (List.drop_of_length_le (by omega))
      obtain ⟨_, _, hg, h⟩ := bind_ok.mp h
      cases hg
      split at h
      · cases h
      · obtain ⟨read, rfl, hlen, hinput, houtput⟩ := ih h
        refine ⟨w.reader.buf ++ read, by rw [List.append_assoc], ?_, ?_, ?_⟩
        · rw [List.length_append]; omega
        · rw [List.append_assoc, ← hinput, hin]
          simp [input, List.drop_of_length_le (show w.reader.buf.length ≤ n by omega)]
        · rw [houtput, hout]; rfl

/-- A read that returned took exactly the next `n` bytes. -/
theorem readExact_ok {n : Nat} {bytes : Bytes} {w w' : Wire} (h : readExact n w = (.ok bytes, w')) :
    bytes.length = n ∧ w.input = bytes ++ w'.input ∧ w'.output = w.output := by
  obtain ⟨read, rfl, hlen, hin, hout⟩ := readExactFrom_ok h
  exact ⟨hlen, hin, hout⟩

theorem pollWrite_ok {data : Bytes} {n : Nat} {w w' : Wire} (h : pollWrite data w = (.ok n, w')) :
    0 < n ∧ n ≤ data.length ∧ w'.sent = w.sent ++ data.take n ∧ w'.writer = w.writer ∧ w'.input = w.input := by
  simp only [pollWrite, bind_ok, get_apply, Prod.mk.injEq, Outcome.ok.injEq] at h
  obtain ⟨_, _, ⟨rfl, rfl⟩, h⟩ := h
  split at h
  · cases h
  · obtain ⟨k, w₁, ha, h⟩ := bind_ok.mp h
    obtain rfl := await_ok ha
    split at h
    · cases h
    · obtain ⟨_, _, hm, hp⟩ := bind_ok.mp h
      cases hm
      cases hp
      exact ⟨by omega, by omega, rfl, rfl, rfl⟩

theorem flushBufFrom_ok {fuel : Nat} {w w' : Wire} {u : Unit} (h : flushBufFrom fuel w = (.ok u, w'))
    (hf : w.writer.buf.length ≤ fuel) : w'.writer.buf = [] ∧ w'.sent = w.output ∧ w'.input = w.input := by
  induction fuel generalizing w with
  | zero =>
    cases h
    have hb : w'.writer.buf = [] := List.eq_nil_of_length_eq_zero (by omega)
    exact ⟨hb, by simp [output, hb], rfl⟩
  | succ fuel ih =>
    simp only [flushBufFrom, bind_ok, get_apply, Prod.mk.injEq, Outcome.ok.injEq] at h
    obtain ⟨_, _, ⟨rfl, rfl⟩, h⟩ := h
    split at h
    · rename_i hb
      cases h
      exact ⟨hb, by simp [output, hb], rfl⟩
    · obtain ⟨n, w₁, hp, h⟩ := bind_ok.mp h
      obtain ⟨hn, hle, hsent, hwriter, hin⟩ := pollWrite_ok hp
      obtain ⟨_, _, hm, h⟩ := bind_ok.mp h
      cases hm
      obtain ⟨hb, hs, hi⟩ := ih h (by simp only [List.length_drop, hwriter]; omega)
      refine ⟨hb, ?_, ?_⟩
      · rw [hs]
        simp only [output, hsent, hwriter]
        rw [List.append_assoc, List.take_append_drop]
      · rw [hi]
        exact hin

theorem flushBuf_ok {w w' : Wire} {u : Unit} (h : flushBuf w = (.ok u, w')) :
    w'.writer.buf = [] ∧ w'.sent = w.output ∧ w'.input = w.input := by
  simp only [flushBuf, bind_ok, get_apply, Prod.mk.injEq, Outcome.ok.injEq] at h
  obtain ⟨_, _, ⟨rfl, rfl⟩, h⟩ := h
  exact flushBufFrom_ok h (Nat.le_refl _)

theorem makeRoom_ok {n : Nat} {w w' : Wire} {u : Unit} (h : makeRoom n w = (.ok u, w')) :
    w'.output = w.output ∧ w'.input = w.input ∧ (writerCapacity ≤ n → w'.writer.buf = []) := by
  obtain ⟨_, _, hg, h⟩ := bind_ok.mp h
  cases hg
  split at h
  · obtain ⟨hb, hs, hi⟩ := flushBuf_ok h
    exact ⟨by simp [output, hb, hs], hi, fun _ => hb⟩
  · rename_i hlen
    cases h
    exact ⟨rfl, rfl, fun hc => List.eq_nil_of_length_eq_zero (by omega)⟩

theorem writeAllFrom_ok {fuel : Nat} {data : Bytes} {w w' : Wire} {u : Unit}
    (h : writeAllFrom fuel data w = (.ok u, w')) (hf : data.length ≤ fuel) :
    w'.output = w.output ++ data ∧ w'.input = w.input := by
  induction fuel generalizing data w with
  | zero =>
    cases h
    have hd : data = [] := List.eq_nil_of_length_eq_zero (by omega)
    simp [hd]
  | succ fuel ih =>
    unfold writeAllFrom at h
    split at h
    · rename_i hd
      cases h
      simp [hd]
    · obtain ⟨_, w₁, hroom, h⟩ := bind_ok.mp h
      obtain ⟨hout₁, hin₁, hempty⟩ := makeRoom_ok hroom
      rw [← hout₁, ← hin₁]
      split at h
      · rename_i hc
        obtain ⟨n, w₂, hp, h⟩ := bind_ok.mp h
        obtain ⟨hn, hle, hsent, hwriter, hin⟩ := pollWrite_ok hp
        obtain ⟨ho, hi⟩ := ih h (by simp only [List.length_drop]; omega)
        refine ⟨?_, hi.trans hin⟩
        rw [ho]
        simp only [output, hsent, hwriter, hempty hc, List.append_nil]
        rw [List.append_assoc, List.take_append_drop]
      · rw [modify_apply] at h
        cases h
        exact ⟨by simp [output], rfl⟩

/-- A write that returned has written its data, all of it. -/
theorem writeAll_ok {data : Bytes} {w w' : Wire} {u : Unit} (h : writeAll data w = (.ok u, w')) :
    w'.output = w.output ++ data ∧ w'.input = w.input :=
  writeAllFrom_ok h (Nat.le_refl _)

/-- A flush that returned has left nothing in the buffer. -/
theorem flush_ok {w w' : Wire} {u : Unit} (h : flush w = (.ok u, w')) :
    w'.sent = w.output ∧ w'.writer.buf = [] ∧ w'.input = w.input := by
  obtain ⟨_, w₁, hb, h⟩ := bind_ok.mp h
  obtain ⟨hbuf, hsent, hin⟩ := flushBuf_ok hb
  obtain ⟨_, _, hg, h⟩ := bind_ok.mp h
  cases hg
  split at h
  · obtain ⟨n, w₂, ha, hp⟩ := bind_ok.mp h
    cases hp
    obtain rfl := await_ok ha
    exact ⟨hsent, hbuf, hin⟩
  · cases h
    exact ⟨hsent, hbuf, hin⟩

end Wire

end Wirechaos
