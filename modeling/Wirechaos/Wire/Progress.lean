/-
  Wirechaos.Wire.Progress — a connection that nothing stops (see `Wirechaos.Wire.Stream`).

  On a smooth connection no wait fails or runs out of time and no piece is empty. There
  every write returns, and a read returns as soon as the input holds enough
  (`readExact_smooth`). How the input is cut into pieces makes no difference then:
  another connection that holds the same bytes next follows, whatever comes behind them
  (`follows_readExact`).
-/

import Wirechaos.Lib.TwoRuns
import Wirechaos.Wire.Stream

namespace Wirechaos

open Text Async Proc

namespace Wire

structure Smooth (w : Wire) : Prop where
  ready : ∀ t, ∃ n, 0 < n ∧ w.sched t = .ready n
  reader : w.reader.inner.transport ≠ .empty
  writer : w.writer.inner ≠ .empty
  chunks : ∀ chunk ∈ w.reader.inner.chunks, chunk ≠ []

theorem await_smooth {w : Wire} (h : Smooth w) : ∃ n, 0 < n ∧ await w = (.ok n, { w with tick := w.tick + 1 }) := by
  obtain ⟨n, hn, hready⟩ := h.ready w.tick
  refine ⟨n, hn, ?_⟩
  unfold await
  rw [hready]

/-! ## Reading -/

/-- A socket read brings something, as long as something is to come. -/
theorem fillBuf_smooth {w : Wire} (h : Smooth w) (hbuf : w.reader.buf = []) (hinput : w.input ≠ []) :
    ∃ w', fillBuf w = (.ok (), w') ∧ Smooth w' ∧ w'.reader.buf ≠ [] := by
  obtain ⟨n, -, hawait⟩ := await_smooth h
  cases hchunks : w.reader.inner.chunks with
  | nil => exact absurd (by simp [input, hbuf, hchunks]) hinput
  | cons chunk chunks =>
    have hall := h.chunks
    rw [hchunks, List.forall_mem_cons] at hall
    refine ⟨{ w with tick := w.tick + 1, reader := { buf := chunk, inner := { w.reader.inner with chunks } } }, ?_, ?_, hall.1⟩
    · unfold fillBuf
      rw [bind_of_ok (get_apply w), if_neg h.reader, bind_of_ok hawait, modify_apply, hchunks]
    · exact ⟨h.ready, h.reader, h.writer, hall.2⟩

/-- The first round may find an empty buffer, the others do not. -/
theorem readExactFrom_smooth {fuel n : Nat} {acc : Bytes} {w : Wire} (h : Smooth w) (hn : n ≤ w.input.length)
    (hfuel : n < fuel ∨ w.reader.buf ≠ [] ∧ 0 < n ∧ n ≤ fuel) :
    ∃ bytes w', readExactFrom fuel n acc w = (.ok bytes, w') ∧ Smooth w' := by
  induction fuel generalizing n acc w with
  | zero => omega
  | succ fuel ih =>
    unfold readExactFrom
    rw [bind_of_ok (get_apply w), bind_of_ok (modify_apply _ w)]
    by_cases hle : n ≤ w.reader.buf.length
    · rw [if_pos hle]
      exact ⟨_, _, rfl, h.ready, h.reader, h.writer, h.chunks⟩
    · rw [if_neg hle]
      have hdrop : w.reader.buf.drop n = [] := List.drop_of_length_le (by omega)
      obtain ⟨w', hfill, hsmooth, hbuf⟩ := fillBuf_smooth
        (w := { w with reader := { w.reader with buf := w.reader.buf.drop n } })
        ⟨h.ready, h.reader, h.writer, h.chunks⟩ hdrop (by
          intro hnil
          simp only [input, hdrop, List.nil_append] at hnil
          simp only [input, hnil, List.append_nil] at hn
          omega)
      obtain ⟨hinput, -⟩ := fillBuf_ok hfill hdrop
      rw [bind_of_ok hfill, bind_of_ok (get_apply w'), if_neg hbuf]
      apply ih hsmooth
      · rw [hinput]
        simp only [input, hdrop, List.nil_append, List.length_append] at hn ⊢
        omega
      · right
        refine ⟨hbuf, by omega, ?_⟩
        rcases hfuel with hfuel | ⟨hne, -, hfuel⟩
        · omega
        · have := List.length_pos_iff.mpr hne
          omega

theorem readExact_smooth {n : Nat} {w : Wire} (h : Smooth w) (hn : n ≤ w.input.length) :
    ∃ bytes w', readExact n w = (.ok bytes, w') ∧ Smooth w' :=
  readExactFrom_smooth h hn (Or.inl (Nat.lt_succ_self n))

/-! ## Writing -/

theorem proceeds_pollWrite {data : Bytes} (hdata : data ≠ []) :
    Proceeds Smooth (pollWrite data) fun n w => 0 < n ∧ Smooth w := by
  refine proceeds_get fun w hw => ?_
  rw [if_neg hw.writer]
  intro w' hw'
  subst hw'
  obtain ⟨n, hn, hrun⟩ := await_smooth hw
  have hpos := List.length_pos_iff.mpr hdata
  rw [bind_of_ok hrun]
  dsimp only
  rw [if_neg (by omega)]
  exact ⟨min n data.length, _, rfl, by omega, hw.ready, hw.reader, hw.writer, hw.chunks⟩

theorem proceeds_flushBufFrom (fuel : Nat) : Proceeds Smooth (flushBufFrom fuel) fun _ => Smooth := by
  induction fuel with
  | zero => exact proceeds_pure fun _ h => h
  | succ fuel ih =>
    refine proceeds_get fun w hw => ?_
    split
    · exact proceeds_pure fun w' hw' => hw' ▸ hw
    · rename_i hbuf
      refine proceeds_bind ((proceeds_pollWrite hbuf).mono (fun w' hw' => hw' ▸ hw) fun _ _ h => h) fun n => ?_
      refine proceeds_bind (proceeds_modify (Q := fun _ => Smooth) fun w h => ?_) fun _ => ih
      exact ⟨h.2.ready, h.2.reader, h.2.writer, h.2.chunks⟩

theorem proceeds_flushBuf : Proceeds Smooth flushBuf fun _ => Smooth :=
  proceeds_get fun _ hw => (proceeds_flushBufFrom _).mono (fun _ h => h ▸ hw) fun _ _ h => h

theorem proceeds_makeRoom (n : Nat) : Proceeds Smooth (makeRoom n) fun _ => Smooth := by
  refine proceeds_get fun w hw => ?_
  split
  · exact proceeds_flushBuf.mono (fun _ h => h ▸ hw) fun _ _ h => h
  · exact proceeds_pure fun _ h => h ▸ hw

theorem proceeds_writeAllFrom (fuel : Nat) (data : Bytes) : Proceeds Smooth (writeAllFrom fuel data) fun _ => Smooth := by
  induction fuel generalizing data with
  | zero => exact proceeds_pure fun _ h => h
  | succ fuel ih =>
    unfold writeAllFrom
    split
    · exact proceeds_pure fun _ h => h
    · rename_i hdata
      refine proceeds_bind (proceeds_makeRoom _) fun _ => ?_
      split
      · exact proceeds_bind (proceeds_pollWrite hdata) fun n => (ih _).mono (fun _ h => h.2) fun _ _ h => h
      · exact proceeds_modify fun w h => ⟨h.ready, h.reader, h.writer, h.chunks⟩

theorem proceeds_writeAll (data : Bytes) : Proceeds Smooth (writeAll data) fun _ => Smooth := proceeds_writeAllFrom _ _

theorem proceeds_flush : Proceeds Smooth flush fun _ => Smooth := by
  refine proceeds_bind proceeds_flushBuf fun _ => proceeds_get fun w hw => ?_
  split
  · intro w' hw'
    subst hw'
    obtain ⟨n, -, hrun⟩ := await_smooth hw
    rw [bind_of_ok hrun]
    exact ⟨(), _, rfl, hw.ready, hw.reader, hw.writer, hw.chunks⟩
  · exact proceeds_pure fun _ h => h ▸ hw

/-! ## Next to another connection -/

/-- At least this much is left to read. -/
def Leaves (rest : Bytes) (w : Wire) : Prop := rest.length ≤ w.input.length

/-- The second connection is smooth; it holds the same bytes before another rest, and has
    taken the same. -/
structure Beside (rest rest' : Bytes) (w w' : Wire) : Prop where
  smooth : Smooth w'
  input : ∃ next, w.input = next ++ rest ∧ w'.input = next ++ rest'
  output : w'.output = w.output

variable {rest rest' : Bytes}

theorem Beside.next {w w' : Wire} {next : Bytes} (h : Beside rest rest' w w') (hinput : w.input = next ++ rest) :
    w'.input = next ++ rest' := by
  obtain ⟨next', hnext, hnext'⟩ := h.input
  rw [hnext', List.append_cancel_right (hnext.symm.trans hinput)]

theorem follows_readExact (n : Nat) : Follows (Beside rest rest') (Leaves rest) (readExact n) (readExact n) := by
  intro w bytes t h ht
  obtain ⟨hlen, hin, hout⟩ := readExact_ok h
  constructor
  · rw [Leaves, hin, List.length_append]
    exact Nat.le_trans ht (Nat.le_add_left _ _)
  · intro w' hbeside
    obtain ⟨next, hnext, hnext'⟩ := hbeside.input
    -- what was read is a part of what both hold
    obtain ⟨next₁, hsplit⟩ : ∃ next₁, next = bytes ++ next₁ := by
      have hprefix : bytes <+: next ++ rest := ⟨t.input, by rw [← hin, hnext]⟩
      have hle : bytes.length ≤ next.length := by
        have := congrArg List.length (hin.symm.trans hnext)
        simp only [List.length_append] at this
        unfold Leaves at ht
        omega
      obtain ⟨next₁, h⟩ := List.prefix_of_prefix_length_le hprefix (List.prefix_append next rest) hle
      exact ⟨next₁, h.symm⟩
    subst hsplit
    obtain ⟨bytes', t', hrun, hsmooth⟩ := readExact_smooth hbeside.smooth (n := n) (by
      rw [hnext', List.length_append, List.length_append]
      omega)
    obtain ⟨hlen', hin', hout'⟩ := readExact_ok hrun
    rw [hnext', List.append_assoc] at hin'
    rw [hnext, List.append_assoc] at hin
    obtain ⟨hbytes, htail'⟩ := List.append_inj hin' (by rw [hlen, hlen'])
    obtain ⟨-, htail⟩ := List.append_inj hin rfl
    subst hbytes
    exact ⟨t', hrun, hsmooth, ⟨next₁, htail.symm, htail'.symm⟩, by rw [hout', hout, hbeside.output]⟩

/-- A write that reads nothing and hands out its data. -/
theorem follows_write {x : Proc Wire IoError Unit} (data : Bytes) (hsmooth : Proceeds Smooth x fun _ => Smooth)
    (hok : ∀ w w' u, x w = (.ok u, w') → w'.output = w.output ++ data ∧ w'.input = w.input) :
    Follows (Beside rest rest') (Leaves rest) x x := by
  intro w u t h ht
  obtain ⟨hout, hin⟩ := hok w t u h
  constructor
  · rw [Leaves, ← hin]
    exact ht
  · intro w' hbeside
    obtain ⟨u', t', hrun, hs⟩ := hsmooth w' hbeside.smooth
    obtain ⟨hout', hin'⟩ := hok w' t' u' hrun
    refine ⟨t', hrun, hs, ?_, by rw [hout', hout, hbeside.output]⟩
    rw [hin, hin']
    exact hbeside.input

theorem follows_writeAll (data : Bytes) : Follows (Beside rest rest') (Leaves rest) (writeAll data) (writeAll data) :=
  follows_write data (proceeds_writeAll data) fun _ _ _ h => writeAll_ok h

theorem follows_flush : Follows (Beside rest rest') (Leaves rest) flush flush := by
  refine follows_write [] proceeds_flush fun w w' u h => ?_
  obtain ⟨hsent, hbuf, hin⟩ := flush_ok h
  exact ⟨by simp only [output, hsent, hbuf, List.append_nil], hin⟩

end Wire

end Wirechaos
