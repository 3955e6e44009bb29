/-
  Wirechaos.Conn.FramingProofs — messages from a writer to the reader of the backend client
  (see `Wirechaos.Backend.PgClient`, `Wirechaos.Conn.Session`).

  Both writers send `transcript msgs` (`sent_writeMessages`, for the session likewise). The
  reader is followed with the pool it rents from (`Renting`), so that a rental is seen; it
  does what `PgClient.readMessage` does (`readMessage_run`) and never panics. From a
  transcript it reads exactly the messages, and a length that is no length of a body costs
  five bytes and no buffer (`framing_round_trips`).
-/

import Wirechaos.Backend.NoticeProofs
import Wirechaos.Conn.Output
import Wirechaos.Wire.PoolMemory

namespace Wirechaos

open Text Async Proc

/-! ## Reads that end early -/

namespace Wire

theorem fillBuf_input {w : Wire} (hbuf : w.reader.buf = []) : (fillBuf w).2.input = w.input := by
  unfold fillBuf
  rw [bind_of_ok (get_apply w)]
  split
  · rfl
  · refine bind_state (Q := fun w' : Wire => w'.input = w.input) (fun _ => ?_) fun n w₁ ha => ?_
    · unfold await
      dsimp only
      split <;> rfl
    · obtain rfl := await_ok ha
      rw [modify_apply]
      cases hchunks : w.reader.inner.chunks with
      | nil => simp [input, hchunks]
      | cons chunk chunks => simp [input, hchunks, hbuf]

/-- However a read ends, it took no more than it was to. -/
theorem readExactFrom_takes (fuel n : Nat) (acc : Bytes) (w : Wire) :
    ∃ taken, taken.length ≤ n ∧ w.input = taken ++ (readExactFrom fuel n acc w).2.input := by
  induction fuel generalizing n acc w with
  | zero => exact ⟨[], Nat.zero_le n, rfl⟩
  | succ fuel ih =>
    unfold readExactFrom
    rw [bind_of_ok (get_apply w), bind_of_ok (modify_apply _ w)]
    by_cases hle : n ≤ w.reader.buf.length
    · rw [if_pos hle]
      refine ⟨w.reader.buf.take n, List.length_take_le _ _, ?_⟩
      simp only [pure_apply, input]
      rw [← List.append_assoc, List.take_append_drop]
    · rw [if_neg hle]
      have hdrop : w.reader.buf.drop n = [] := List.drop_of_length_le (by omega)
      have hempty : ({ w with reader := { w.reader with buf := w.reader.buf.drop n } } : Wire).reader.buf = [] := hdrop
      have hinput : w.input = w.reader.buf ++ input { w with reader := { w.reader with buf := w.reader.buf.drop n } } := by
        simp [input, hdrop]
      generalize ({ w with reader := { w.reader with buf := w.reader.buf.drop n } } : Wire) = w₀ at hempty hinput ⊢
      have hfilled := fillBuf_input hempty
      rw [hinput]
      refine bind_state (Q := fun w' : Wire => ∃ taken, taken.length ≤ n ∧ w.reader.buf ++ w₀.input = taken ++ w'.input)
        (fun _ => ⟨w.reader.buf, by omega, by rw [hfilled]⟩) fun _ w₁ hfill => ?_
      rw [hfill] at hfilled
      rw [bind_of_ok (get_apply w₁), ← hfilled]
      by_cases hend : w₁.reader.buf = []
      · rw [if_pos hend]
        exact ⟨w.reader.buf, by omega, rfl⟩
      · rw [if_neg hend]
        obtain ⟨taken, hlength, htaken⟩ := ih (n - w.reader.buf.length) (acc ++ w.reader.buf) w₁
        refine ⟨w.reader.buf ++ taken, ?_, ?_⟩
        · rw [List.length_append]
          omega
        · rw [List.append_assoc, ← htaken]

theorem readExact_takes (n : Nat) (w : Wire) : ∃ taken, taken.length ≤ n ∧ w.input = taken ++ (readExact n w).2.input :=
  readExactFrom_takes _ _ _ w

end Wire

/-! ## The writers -/

namespace PgClient

def writeMessages (what : Response) : List (UInt8 × Bytes) → Proc PgClient PgError Unit
  | [] => pure ()
  | m :: msgs => do
    writeMessage what m.1 m.2
    writeMessages what msgs

theorem sent_writeMessage {what : Response} {tag : UInt8} {body : Bytes} {c c' : PgClient} {u : Unit}
    (h : writeMessage what tag body c = (.ok u, c')) :
    c'.wire.writer.buf = [] ∧ c'.wire.sent = c.wire.output ++ frame tag body := by
  obtain ⟨_, c₁, he, h⟩ := bind_ok.mp h
  cases he
  obtain ⟨_, c₂, hwrite, hflush⟩ := bind_ok.mp h
  obtain ⟨w₁, hw, rfl⟩ := stream_ok hwrite
  obtain ⟨w₂, hf, rfl⟩ := stream_ok hflush
  obtain ⟨hsent, hbuf, -⟩ := Wire.flush_ok hf
  refine ⟨hbuf, ?_⟩
  rw [hsent, (Wire.writeAll_ok hw).1]

theorem sent_writeMessages {what : Response} {msgs : List (UInt8 × Bytes)} {c c' : PgClient} {u : Unit}
    (hbuf : c.wire.writer.buf = []) (h : writeMessages what msgs c = (.ok u, c')) :
    c'.wire.sent = c.wire.sent ++ transcript msgs := by
  induction msgs generalizing c with
  | nil =>
    cases h
    simp [transcript]
  | cons m msgs ih =>
    obtain ⟨_, c₁, hwrite, h⟩ := bind_ok.mp h
    have hsent := sent_writeMessage hwrite
    rw [ih hsent.1 h, hsent.2]
    simp [Wire.output, hbuf, transcript]

end PgClient

namespace Session

variable {V : Type}

def writeMessages : List (UInt8 × Bytes) → Proc (Session V) InternalError Unit
  | [] => pure ()
  | m :: msgs => do
    writeMessage m.1 m.2
    writeMessages msgs

theorem sent_writeMessages {msgs : List (UInt8 × Bytes)} {s s' : Session V} {u : Unit}
    (hbuf : s.conn.wire.writer.buf = []) (h : writeMessages msgs s = (.ok u, s')) :
    s'.conn.wire.sent = s.conn.wire.sent ++ PgClient.transcript msgs := by
  induction msgs generalizing s with
  | nil =>
    cases h
    simp [PgClient.transcript]
  | cons m msgs ih =>
    obtain ⟨_, s₁, hwrite, h⟩ := bind_ok.mp h
    obtain ⟨_, s₂, hemit, hframe⟩ := bind_ok.mp hwrite
    cases hemit
    obtain ⟨hbuf₁, hout⟩ := writeFrame_ok hframe
    rw [ih hbuf₁ h]
    simp only [Wire.output, hbuf₁, hbuf, List.append_nil] at hout
    rw [hout, List.append_assoc]
    rfl

end Session

/-! ## The reader and its pool -/

/-- A client next to the pool that it rents from. -/
structure Renting where
  client : PgClient
  pool : PoolMemory.MultiBufferPool

/-- How a read with a pool fails: it panics, or as the client does. -/
inductive RentError where
  | fault (fault : PoolMemory.Fault)
  | pg (e : PgError)
  deriving DecidableEq

namespace Renting

open PoolMemory (Allocator Fault BodyBuffer clientBodyBuffer)

def onClient {α : Type} (x : Proc PgClient PgError α) : Proc Renting RentError α :=
  mapErr .pg (zoom Renting.client (fun s client => { s with client }) x)

/-- How many bytes the last rental shows. -/
def shown (p : PoolMemory.MultiBufferPool) : Nat := (p.rented.getLast?.map (·.buf.len)).getD 0

def readMessageBody (a : Allocator) (payloadLen : Nat) : Proc Renting RentError Bytes := do
  let s ← get
  match clientBodyBuffer a s.pool payloadLen with
  | .error fault => throw (.fault fault)
  | .ok (.rented pool) =>
    modify fun s => { s with pool }
    onClient (PgClient.stream (Wire.readExact (shown pool)))
  | .ok _ =>
    throw (.pg (.protocol ("backend message body ".toList ++ decimal payloadLen ++ " exceeds the buffer pool capacity".toList)))

def readMessage (a : Allocator) : Proc Renting RentError (UInt8 × Bytes) := do
  let (tag, payloadLen) ← onClient PgClient.readMessageHeader
  let payload ← readMessageBody a payloadLen
  onClient (PgClient.emit (.received tag payload))
  pure (tag, payload)

def readMessages (a : Allocator) : Nat → Proc Renting RentError (List (UInt8 × Bytes))
  | 0 => pure []
  | n + 1 => do
    let m ← readMessage a
    let msgs ← readMessages a n
    pure (m :: msgs)

/-- The client knows the size of its pool, which is as `new` made it or its threads left it. -/
structure Serving (s : Renting) : Prop where
  sound : ∃ sizes ceiling, sizes ≠ [] ∧ s.pool.Sound sizes ceiling
  maxCapacity : s.client.pool.maxCapacity = s.pool.maxCapacity

variable {a : Allocator} {s : Renting}

theorem onClient_apply {α : Type} (x : Proc PgClient PgError α) (s : Renting) :
    onClient x s = ((mapErr RentError.pg x s.client).1, { s with client := (x s.client).2 }) := by
  unfold onClient
  simp only [mapErr, zoom_apply]
  rcases x s.client with ⟨b | e | n, c⟩ <;> rfl

theorem onClient_of_ok {α : Type} {x : Proc PgClient PgError α} {b : α} {c : PgClient} (h : x s.client = (.ok b, c)) :
    onClient x s = (.ok b, { s with client := c }) := by
  rw [onClient_apply, mapErr, h]

/-- The body is read as the client reads it, into a buffer of the pool that is as long. -/
theorem readMessageBody_run (h : s.Serving) (n : Nat) :
    ∃ pool, readMessageBody a n s = ((onClient (PgClient.readMessageBody n) s).1,
        { client := (PgClient.readMessageBody n s.client).2, pool }) ∧
      Serving { client := (PgClient.readMessageBody n s.client).2, pool } ∧ (s.pool.maxCapacity < n → pool = s.pool) := by
  obtain ⟨sizes, ceiling, hsizes, hsound⟩ := h.sound
  have hkeeps : (PgClient.readMessageBody n s.client).2.pool = s.client.pool := by
    rw [PgClient.readMessageBody_eq]
    split
    · rfl
    · rw [PgClient.stream, PgClient.within_snd]
  unfold readMessageBody
  rw [bind_of_ok (get_apply s)]
  by_cases hlong : n > s.pool.maxCapacity
  · have hrefused : clientBodyBuffer a s.pool n = .ok .refused := by rw [clientBodyBuffer, if_pos hlong]
    have hclient : PgClient.readMessageBody n s.client = (.err (.protocol ("backend message body ".toList ++ decimal n ++
        " exceeds the buffer pool capacity".toList)), s.client) := by
      rw [PgClient.readMessageBody_eq, if_pos (h.maxCapacity ▸ hlong)]
      rfl
    simp only [hrefused]
    refine ⟨s.pool, ?_, ⟨h.sound, ?_⟩, fun _ => rfl⟩
    · simp only [onClient_apply, mapErr, hclient, throw_apply]
    · simp only [hkeeps]
      exact h.maxCapacity
  · obtain ⟨pool, b, hget, hsound', hrented, hsize, hstage⟩ :=
      PoolMemory.MultiBufferPool.sound_get (a := a) hsizes hsound (Nat.le_of_not_gt hlong)
    have hfits := hsound'.fits b (by simp [hrented])
    have hbuffer : clientBodyBuffer a s.pool n = .ok (.rented pool) := by
      rw [clientBodyBuffer, if_neg hlong, hget]
      rfl
    have hshown : shown pool = n := by
      rw [shown, hrented, List.getLast?_concat, Option.map_some, Option.getD_some, hfits.visible hstage, hsize]
    have hclient : PgClient.readMessageBody n s.client = PgClient.stream (Wire.readExact n) s.client := by
      rw [PgClient.readMessageBody_eq, if_neg (h.maxCapacity ▸ hlong)]
    simp only [hbuffer]
    rw [bind_of_ok (modify_apply _ s), hshown]
    refine ⟨pool, ?_, ⟨⟨sizes, ceiling, hsizes, hsound'⟩, ?_⟩, fun hn => absurd hn hlong⟩
    · simp only [onClient_apply, mapErr, hclient]
    · simp only [hkeeps]
      rw [h.maxCapacity, hsound.maxCapacity, hsound'.maxCapacity]

theorem pool_readMessageHeader (c : PgClient) : (PgClient.readMessageHeader c).2.pool = c.pool := by
  refine bind_state (Q := fun c' : PgClient => c'.pool = c.pool) (fun _ => ?_) fun buff c' h => ?_
  · rw [PgClient.stream, PgClient.within_snd]
  · obtain ⟨w, -, rfl⟩ := PgClient.stream_ok h
    cases PgClient.parseHeader buff <;> rfl

/-- Next to its pool the client reads the same message, or stops in the same way. A pool is
    touched only for a body that it has a buffer for. -/
theorem readMessage_run (h : s.Serving) :
    ∃ pool, readMessage a s = ((mapErr RentError.pg PgClient.readMessage s.client).1,
        { client := (PgClient.readMessage s.client).2, pool }) ∧
      Serving { client := (PgClient.readMessage s.client).2, pool } ∧
      ((∀ tag n c, PgClient.readMessageHeader s.client = (.ok (tag, n), c) → s.pool.maxCapacity < n) → pool = s.pool) := by
  have hpool := pool_readMessageHeader s.client
  rcases hheader : PgClient.readMessageHeader s.client with ⟨⟨tag, n⟩ | e | k, c⟩ <;> rw [hheader] at hpool
  · have hserving : Serving { s with client := c } := ⟨h.sound, by rw [hpool]; exact h.maxCapacity⟩
    obtain ⟨pool, hrun, hserving', hsame⟩ := readMessageBody_run (a := a) hserving n
    have hclient : PgClient.readMessage s.client = (do
        let payload ← PgClient.readMessageBody n
        PgClient.emit (.received tag payload)
        pure (tag, payload)) c := bind_of_ok hheader _
    have hrenting : readMessage a s = (do
        let payload ← readMessageBody a n
        onClient (PgClient.emit (.received tag payload))
        pure (tag, payload)) { s with client := c } := bind_of_ok (onClient_of_ok hheader) _
    rw [onClient_apply] at hrun
    refine ⟨pool, ?_⟩
    rw [hclient, hrenting, mapErr, hclient]
    rcases hbody : PgClient.readMessageBody n c with ⟨payload | e | k, c'⟩ <;>
      simp only [mapErr, hbody] at hrun hserving'
    · rw [bind_of_ok hrun, bind_of_ok hbody]
      exact ⟨rfl, ⟨hserving'.sound, hserving'.maxCapacity⟩, fun hlong => hsame (hlong tag n c rfl)⟩
    · rw [bind_of_err hrun, bind_of_err hbody]
      exact ⟨rfl, hserving', fun hlong => hsame (hlong tag n c rfl)⟩
    · rw [bind_of_dropped hrun, bind_of_dropped hbody]
      exact ⟨rfl, hserving', fun hlong => hsame (hlong tag n c rfl)⟩
  · have hclient : PgClient.readMessage s.client = (.err e, c) := bind_of_err hheader _
    have hrenting : readMessage a s = (.err (.pg e), { s with client := c }) := by
      refine bind_of_err ?_ _
      rw [onClient_apply, mapErr, hheader]
    refine ⟨s.pool, by rw [hrenting, mapErr, hclient], ⟨h.sound, ?_⟩, fun _ => rfl⟩
    rw [hclient, hpool]
    exact h.maxCapacity
  · have hclient : PgClient.readMessage s.client = (.dropped k, c) := bind_of_dropped hheader _
    have hrenting : readMessage a s = (.dropped k, { s with client := c }) := by
      refine bind_of_dropped ?_ _
      rw [onClient_apply, mapErr, hheader]
    refine ⟨s.pool, by rw [hrenting, mapErr, hclient], ⟨h.sound, ?_⟩, fun _ => rfl⟩
    rw [hclient, hpool]
    exact h.maxCapacity

/-! ## Transcripts -/

open PgClient (transcript frame_inj)

variable {msgs : List (UInt8 × Bytes)} {rest : Bytes}

/-- A message that was read is the next one of the input. -/
theorem readMessage_ok (h : s.Serving) {m : UInt8 × Bytes} {s' : Renting} (hrun : readMessage a s = (.ok m, s')) :
    s'.Serving ∧ PgClient.Fits m ∧ s.client.wire.input = frame m.1 m.2 ++ s'.client.wire.input := by
  obtain ⟨pool, hread, hserving, -⟩ := readMessage_run (a := a) h
  rw [hrun, Prod.mk.injEq] at hread
  have hclient : mapErr RentError.pg PgClient.readMessage s.client = (.ok m, (PgClient.readMessage s.client).2) := by
    rw [← mapErr_snd RentError.pg PgClient.readMessage]
    exact eq_of_fst hread.1.symm
  have hsegment := PgClient.readMessage_ok (mapErr_ok.mp hclient)
  have hinput := hsegment.input
  rw [hread.2]
  refine ⟨hserving, hsegment.parses m (by simp [PgClient.received]), ?_⟩
  simpa [PgClient.received, transcript] using hinput

theorem readMessages_ok (h : s.Serving) (hmsgs : ∀ m ∈ msgs, PgClient.Fits m)
    (hinput : s.client.wire.input = transcript msgs ++ rest)
    {read : List (UInt8 × Bytes)} {s' : Renting} (hrun : readMessages a msgs.length s = (.ok read, s')) :
    read = msgs ∧ s'.client.wire.input = rest := by
  induction msgs generalizing s read with
  | nil =>
    cases hrun
    exact ⟨rfl, hinput⟩
  | cons m msgs ih =>
    obtain ⟨m₁, s₁, hfirst, hrun⟩ := bind_ok.mp hrun
    obtain ⟨read₁, s₂, hothers, hrun⟩ := bind_ok.mp hrun
    cases hrun
    obtain ⟨hserving, hfits, hnext⟩ := readMessage_ok h hfirst
    rw [hinput, transcript, List.flatMap_cons, List.append_assoc] at hnext
    rw [List.forall_mem_cons] at hmsgs
    obtain ⟨rfl, hleft⟩ := frame_inj hmsgs.1 hfits hnext
    obtain ⟨rfl, hrest⟩ := ih hserving hmsgs.2 hleft.symm hothers
    exact ⟨rfl, hrest⟩

/-- On a connection that nothing stops, the messages are read. -/
theorem readMessages_smooth (h : s.Serving) (hmsgs : ∀ m ∈ msgs, PgClient.Fits m)
    (hroom : ∀ m ∈ msgs, m.2.length ≤ s.pool.maxCapacity)
    (hsmooth : Wire.Smooth s.client.wire) (hinput : s.client.wire.input = transcript msgs ++ rest) :
    ∃ s', readMessages a msgs.length s = (.ok msgs, s') ∧ s'.client.wire.input = rest := by
  induction msgs generalizing s with
  | nil => exact ⟨s, rfl, hinput⟩
  | cons m msgs ih =>
    rw [List.forall_mem_cons] at hmsgs hroom
    rw [transcript, List.flatMap_cons, List.append_assoc] at hinput
    obtain ⟨w, hclient, hsmooth', hleft, -⟩ := PgClient.readMessage_frame hsmooth hmsgs.1 (h.maxCapacity ▸ hroom.1) hinput
    obtain ⟨pool, hread, hserving, -⟩ := readMessage_run (a := a) h
    rw [mapErr, hclient] at hread
    have hsame : pool.maxCapacity = s.pool.maxCapacity := by
      rw [← h.maxCapacity, ← hserving.maxCapacity, hclient]
    rw [hclient] at hserving
    have hroom' : ∀ m ∈ msgs, m.2.length ≤ pool.maxCapacity := by
      rw [hsame]
      exact hroom.2
    obtain ⟨s', hothers, hrest⟩ := ih hserving hmsgs.2 hroom' hsmooth' hleft
    refine ⟨s', ?_, hrest⟩
    rw [List.length_cons, readMessages, bind_of_ok hread, bind_of_ok hothers]
    rfl

theorem readMessages_faultless (h : s.Serving) (n : Nat) (fault : PoolMemory.Fault) :
    (readMessages a n s).1 ≠ .err (.fault fault) := by
  induction n generalizing s with
  | zero => simp [readMessages]
  | succ n ih =>
    rcases hfirst : readMessage a s with ⟨m | e | k, s₁⟩
    · rw [readMessages, bind_of_ok hfirst]
      have hothers := ih (readMessage_ok h hfirst).1
      rcases hrun : readMessages a n s₁ with ⟨msgs | e | k, s₂⟩
      · rw [bind_of_ok hrun]
        simp
      · rw [bind_of_err hrun]
        rwa [hrun] at hothers
      · rw [bind_of_dropped hrun]
        simp
    · rw [readMessages, bind_of_err hfirst]
      obtain ⟨pool, hread, -, -⟩ := readMessage_run (a := a) h
      rw [hfirst, Prod.mk.injEq] at hread
      have hcause := hread.1
      rcases hclient : PgClient.readMessage s.client with ⟨m | e' | k, c⟩ <;> rw [mapErr, hclient] at hcause
      · cases hcause
      · cases hcause
        simp
      · cases hcause
    · rw [readMessages, bind_of_dropped hfirst]
      simp

end Renting

/-! ## Lengths that are none -/

/-- No body has this length field: it does not count itself, is negative as an `i32`, or
    announces more than the pool has a buffer for. -/
def Unreadable (maxCapacity : Nat) (word : UInt32) : Prop :=
  word.toNat < 4 ∨ 2 ^ 31 ≤ word.toNat ∨ maxCapacity < word.toNat - 4

namespace PgClient

variable {tag : UInt8} {word : UInt32} {rest : Bytes} {c : PgClient}

theorem parseHeader_word (tag : UInt8) (word : UInt32) : parseHeader (tag :: beBytes word) =
    if word.toNat < 4 ∨ 2 ^ 31 ≤ word.toNat then
      .error (.protocol ("invalid frame length: ".toList ++ decimalInt word.toInt32.toInt))
    else .ok (tag, word.toNat - 4) := by
  have hint : word.toInt32.toInt = if 2 * word.toNat < 2 ^ 32 then (word.toNat : Int) else word.toNat - (2 ^ 32 : Nat) :=
    BitVec.toInt_eq_toNat_cond _
  obtain ⟨a, b, c, d, hbytes, hword⟩ := beBytes_eq word
  have hlt := word.toNat_lt
  rw [hbytes]
  simp only [parseHeader, hword]
  by_cases hbad : word.toNat < 4 ∨ 2 ^ 31 ≤ word.toNat
  · have hsmall : word.toInt32.toInt < 4 := by
      rw [hint]
      split <;> omega
    rw [if_pos hbad, if_pos hsmall]
  · have hlarge : word.toInt32.toInt = word.toNat := by
      rw [hint, if_pos (by omega)]
    rw [if_neg hbad, if_neg (by omega), hlarge]
    congr 2
    omega

/-- Five bytes of input, when all of them are there. -/
theorem header_of_readExact (hinput : c.wire.input = tag :: beBytes word ++ rest) {header : Bytes} {w : Wire}
    (hread : Wire.readExact 5 c.wire = (.ok header, w)) : header = tag :: beBytes word ∧ w.input = rest := by
  obtain ⟨hlength, hin, -⟩ := Wire.readExact_ok hread
  rw [hinput] at hin
  obtain ⟨hheader, hrest⟩ := List.append_inj hin (by rw [hlength]; rfl)
  exact ⟨hheader.symm, hrest.symm⟩

theorem readMessageHeader_long (hinput : c.wire.input = tag :: beBytes word ++ rest)
    (hbad : Unreadable c.pool.maxCapacity word) {t : UInt8} {n : Nat} {c' : PgClient}
    (h : readMessageHeader c = (.ok (t, n), c')) : c.pool.maxCapacity < n := by
  obtain ⟨header, c₁, hread, hlift⟩ := bind_ok.mp h
  obtain ⟨w, hw, rfl⟩ := stream_ok hread
  obtain ⟨hparse, rfl⟩ := lift_eq_ok.mp hlift
  rw [(header_of_readExact hinput hw).1, parseHeader_word] at hparse
  split at hparse
  · cases hparse
  · rename_i hlow
    cases hparse
    unfold Unreadable at hbad
    omega

/-- Where the header was read, the message is refused behind it. -/
theorem readMessage_refuses (hinput : c.wire.input = tag :: beBytes word ++ rest) (hbad : Unreadable c.pool.maxCapacity word)
    {header : Bytes} {w : Wire} (hread : Wire.readExact 5 c.wire = (.ok header, w)) :
    ∃ text, readMessage c = (.err (.protocol text), { c with wire := w }) ∧ w.input = rest := by
  obtain ⟨rfl, hrest⟩ := header_of_readExact hinput hread
  have hparse := parseHeader_word tag word
  by_cases hlow : word.toNat < 4 ∨ 2 ^ 31 ≤ word.toNat
  · rw [if_pos hlow] at hparse
    refine ⟨"invalid frame length: ".toList ++ decimalInt word.toInt32.toInt, bind_of_err ?_ _, hrest⟩
    rw [readMessageHeader, bind_of_ok (stream_of_ok hread), hparse]
    rfl
  · rw [if_neg hlow] at hparse
    have hlong : word.toNat - 4 > c.pool.maxCapacity := by
      unfold Unreadable at hbad
      omega
    have hheader : readMessageHeader c = (.ok (tag, word.toNat - 4), { c with wire := w }) := by
      rw [readMessageHeader, bind_of_ok (stream_of_ok hread), hparse]
      rfl
    refine ⟨"backend message body ".toList ++ decimal (word.toNat - 4) ++ " exceeds the buffer pool capacity".toList,
      (bind_of_ok hheader _).trans (bind_of_err ?_ _), hrest⟩
    rw [readMessageBody_eq, if_pos hlong]
    rfl

/-- Where it was not, nothing behind it was touched. -/
theorem readMessage_stops (hinput : c.wire.input = tag :: beBytes word ++ rest)
    (hread : ∀ header, (Wire.readExact 5 c.wire).1 ≠ .ok header) :
    (∀ m, (readMessage c).1 ≠ .ok m) ∧ rest <:+ (readMessage c).2.wire.input := by
  have hstops : ∀ header, (stream (Wire.readExact 5) c).1 ≠ .ok header := by
    intro header h
    obtain ⟨w, hw, -⟩ := stream_ok (eq_of_fst h)
    exact hread header (by rw [hw])
  obtain ⟨taken, hlength, htaken⟩ := Wire.readExact_takes 5 c.wire
  have hwire : (stream (Wire.readExact 5) c).2.wire = (Wire.readExact 5 c.wire).2 := by rw [stream, within_snd]
  have hsuffix : rest <:+ (stream (Wire.readExact 5) c).2.wire.input := by
    rw [hwire]
    have hall : rest <:+ c.wire.input := ⟨tag :: beBytes word, hinput.symm⟩
    refine List.suffix_of_suffix_length_le hall ⟨taken, htaken.symm⟩ ?_
    have := congrArg List.length (hinput.symm.trans htaken)
    simp only [List.length_append, List.length_cons, length_beBytes] at this
    omega
  unfold readMessage readMessageHeader
  rcases hheader : stream (Wire.readExact 5) c with ⟨header | e | k, c₁⟩
  · rw [hheader] at hstops
    exact absurd rfl (hstops header)
  · rw [hheader] at hsuffix
    rw [bind_of_err (bind_of_err hheader _)]
    exact ⟨by simp, hsuffix⟩
  · rw [hheader] at hsuffix
    rw [bind_of_dropped (bind_of_dropped hheader _)]
    exact ⟨by simp, hsuffix⟩

end PgClient

namespace Renting

open PgClient (transcript)

variable {a : PoolMemory.Allocator} {s : Renting}

/-- A length that is none is an error; it costs the header and no buffer. -/
theorem readMessage_refused (h : s.Serving) {tag : UInt8} {word : UInt32} {rest : Bytes}
    (hinput : s.client.wire.input = tag :: beBytes word ++ rest) (hbad : Unreadable s.pool.maxCapacity word) :
    (∀ m, (readMessage a s).1 ≠ .ok m) ∧ rest <:+ (readMessage a s).2.client.wire.input ∧
      (readMessage a s).2.pool = s.pool ∧
      (Wire.Smooth s.client.wire → ∃ text, (readMessage a s).1 = .err (.pg (.protocol text)) ∧
        (readMessage a s).2.client.wire.input = rest) := by
  rw [← h.maxCapacity] at hbad
  obtain ⟨pool, hrun, -, hsame⟩ := readMessage_run (a := a) h
  have hpool : pool = s.pool := by
    apply hsame
    intro t n c hheader
    rw [← h.maxCapacity]
    exact PgClient.readMessageHeader_long hinput hbad hheader
  subst hpool
  rw [hrun]
  dsimp only
  by_cases hread : ∃ header, (Wire.readExact 5 s.client.wire).1 = .ok header
  · obtain ⟨header, hheader⟩ := hread
    obtain ⟨text, hclient, hrest⟩ := PgClient.readMessage_refuses hinput hbad (eq_of_fst hheader)
    rw [mapErr, hclient]
    exact ⟨by simp, hrest ▸ List.suffix_refl rest, rfl, fun _ => ⟨text, rfl, hrest⟩⟩
  · have hstops := PgClient.readMessage_stops hinput fun header hheader => hread ⟨header, hheader⟩
    refine ⟨fun m hm => ?_, hstops.2, rfl, fun hsmooth => ?_⟩
    · rw [← Prod.eta (mapErr RentError.pg PgClient.readMessage s.client)] at hm
      have hclient := mapErr_ok.mp (eq_of_fst hm)
      exact hstops.1 m (by rw [hclient])
    · obtain ⟨header, w, hheader, -⟩ := Wire.readExact_smooth hsmooth (n := 5) (by rw [hinput]; simp)
      exact absurd ⟨header, by rw [hheader]⟩ hread

/-- Both writers send the transcript of their messages. A client that reads it next to its
    pool never panics; what it reads are these messages and what is left is what was behind
    them; and on a connection that nothing stops it reads all of them. A length field that
    no body has is an error that costs the header, but nothing behind it and no buffer. -/
theorem framing_round_trips (V : Type) (a : PoolMemory.Allocator) {msgs : List (UInt8 × Bytes)}
    (hlength : ∀ m ∈ msgs, m.2.length ≤ 2 ^ 31 - 5) {s : Renting} (hpool : s.pool.Reached a)
    (hsize : s.client.pool.maxCapacity = s.pool.maxCapacity) (hroom : ∀ m ∈ msgs, m.2.length ≤ s.pool.maxCapacity) :
    (∀ what (c c' : PgClient) u, c.wire.writer.buf = [] → PgClient.writeMessages what msgs c = (.ok u, c') →
      c'.wire.sent = c.wire.sent ++ transcript msgs) ∧
    (∀ (t t' : Session V) u, t.conn.wire.writer.buf = [] → Session.writeMessages msgs t = (.ok u, t') →
      t'.conn.wire.sent = t.conn.wire.sent ++ transcript msgs) ∧
    (∀ rest, s.client.wire.input = transcript msgs ++ rest →
      (∀ fault, (readMessages a msgs.length s).1 ≠ .err (.fault fault)) ∧
      (∀ read s', readMessages a msgs.length s = (.ok read, s') → read = msgs ∧ s'.client.wire.input = rest) ∧
      (Wire.Smooth s.client.wire → ∃ s', readMessages a msgs.length s = (.ok msgs, s') ∧ s'.client.wire.input = rest)) ∧
    ∀ tag word rest, s.client.wire.input = tag :: beBytes word ++ rest → Unreadable s.pool.maxCapacity word →
      (∀ m, (readMessage a s).1 ≠ .ok m) ∧ rest <:+ (readMessage a s).2.client.wire.input ∧
      (readMessage a s).2.pool = s.pool ∧
      (Wire.Smooth s.client.wire → ∃ text, (readMessage a s).1 = .err (.pg (.protocol text)) ∧
        (readMessage a s).2.client.wire.input = rest) := by
  have hserving : s.Serving := ⟨hpool.sound, hsize⟩
  have hfits : ∀ m ∈ msgs, PgClient.Fits m := by
    intro m hm
    have := hlength m hm
    unfold PgClient.Fits
    omega
  refine ⟨fun what c c' u hbuf h => PgClient.sent_writeMessages hbuf h, fun t t' u hbuf h => Session.sent_writeMessages hbuf h,
    fun rest hinput => ⟨readMessages_faultless hserving _, ?_, ?_⟩, fun tag word rest hinput hbad => ?_⟩
  · intro read s' hrun
    exact readMessages_ok hserving hfits hinput hrun
  · intro hsmooth
    exact readMessages_smooth hserving hfits hroom hsmooth hinput
  · exact readMessage_refused hserving hinput hbad

end Renting

namespace Sample

/-- A pool of sizes up to a mebibyte, and nothing in it yet. -/
def emptyPool : PoolMemory.MultiBufferPool :=
  { buckets := (List.range 19).map fun k => ⟨4 * 2 ^ k, ⟨[], 0⟩⟩, rented := [], allocated := 0 }

/-- An empty body between two others. -/
def threeMessages : List (UInt8 × Bytes) := [(byte 'R', [0, 0, 0, 0]), (byte 'N', []), (byte 'Z', [byte 'I'])]

end Sample

namespace Renting

theorem framing_round_trips_three :
    ∃ s', readMessages .exactly 3 ⟨Sample.pgClient (PgClient.transcript Sample.threeMessages ++ [7]), Sample.emptyPool⟩ =
      (.ok Sample.threeMessages, s') ∧ s'.client.wire.input = [7] := by
  have hreached : Sample.emptyPool.Reached .exactly :=
    ⟨4, 1048576, 0, 20, Sample.emptyPool, [], by decide, by decide, by decide, by decide, by simp, rfl⟩
  have hread := (framing_round_trips Unit .exactly (show ∀ m ∈ Sample.threeMessages, m.2.length ≤ 2 ^ 31 - 5 by decide)
    (s := ⟨Sample.pgClient (PgClient.transcript Sample.threeMessages ++ [7]), Sample.emptyPool⟩) hreached (by decide)
    (by decide)).2.2.1
  exact (hread [7] (by simp [Sample.pgClient, Wire.input])).2.2
    ⟨fun _ => ⟨8192, by decide, rfl⟩, by decide, by decide, by decide⟩

end Renting

end Wirechaos
