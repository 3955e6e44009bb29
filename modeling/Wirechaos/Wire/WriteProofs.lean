/-
  Wirechaos.Wire.WriteProofs — what an operation leaves on the wire in whatever way it
  ends (see `Wirechaos.Wire.Stream`).

  A read leaves the output alone. A flush only moves bytes from the buffer to the
  transport: the output as a whole is the same, also when a fault or a deadline ends it
  halfway. A write adds a prefix of its data. Data that fits next to what is buffered
  is added whole and without waiting (`writeAll_fits`), so that no deadline can split it.
-/

import Wirechaos.Wire.Stream

namespace Wirechaos

open Text Async Proc

namespace Wire

/-- Nothing is written. -/
structure Mute (w w' : Wire) : Prop where
  sent : w'.sent = w.sent
  writer : w'.writer = w.writer

instance : IsPreorder Wire Mute where
  refl _ := ⟨rfl, rfl⟩
  trans _ _ _ h h' := ⟨h'.sent.trans h.sent, h'.writer.trans h.writer⟩

theorem Mute.output {w w' : Wire} (h : Mute w w') : w'.output = w.output := by
  rw [Wire.output, Wire.output, h.sent, h.writer]

theorem mute_await : Keeps Mute await := by
  intro w
  unfold await
  dsimp only
  split <;> exact ⟨rfl, rfl⟩

theorem mute_fillBuf : Keeps Mute fillBuf := by
  refine keeps_bind keeps_get fun w => keeps_ite (keeps_pure _) (keeps_bind mute_await fun _ => keeps_modify fun w => ?_)
  split <;> exact ⟨rfl, rfl⟩

theorem mute_readExact (n : Nat) : Keeps Mute (readExact n) := by
  have hfrom (fuel n : Nat) (acc : Bytes) : Keeps Mute (readExactFrom fuel n acc) := by
    induction fuel generalizing n acc with
    | zero => exact keeps_throw _
    | succ fuel ih =>
      refine keeps_bind keeps_get fun w => keeps_bind (keeps_modify fun w => ⟨rfl, rfl⟩) fun _ => ?_
      refine keeps_ite (keeps_pure _) (keeps_bind mute_fillBuf fun _ => keeps_bind keeps_get fun w => ?_)
      exact keeps_ite (keeps_throw _) (ih _ _)
  exact hfrom _ _ _

/-- The transport takes bytes only from a write that returns. -/
theorem pollWrite_stops {data : Bytes} {w : Wire} (h : ∀ n, (pollWrite data w).1 ≠ .ok n) : Mute w (pollWrite data w).2 := by
  unfold pollWrite at h ⊢
  rw [bind_of_ok (get_apply w)] at h ⊢
  split
  · exact refl_of Mute w
  · rename_i hne
    rw [if_neg hne] at h
    rcases ha : await w with ⟨n | e | n, w'⟩
    · have hmute := mute_await w
      rw [ha] at hmute
      rw [bind_of_ok ha] at h ⊢
      split
      · exact hmute
      · rename_i hn
        rw [if_neg hn] at h
        exact absurd rfl (h _)
    · rw [bind_of_err ha, ← ha]
      exact mute_await w
    · rw [bind_of_dropped ha, ← ha]
      exact mute_await w

/-! ## Moving the buffer out -/

theorem flushBufFrom_output (fuel : Nat) (w : Wire) : (flushBufFrom fuel w).2.output = w.output := by
  induction fuel generalizing w with
  | zero => rfl
  | succ fuel ih =>
    unfold flushBufFrom
    rw [bind_of_ok (get_apply w)]
    split
    · rfl
    · refine bind_state (Q := fun w' : Wire => w'.output = w.output) (fun hstop => (pollWrite_stops hstop).output)
        fun n w₁ hp => ?_
      obtain ⟨-, -, hsent, hwriter, -⟩ := pollWrite_ok hp
      rw [bind_of_ok (modify_apply _ w₁), ih]
      simp only [output, hsent, hwriter]
      rw [List.append_assoc, List.take_append_drop]

theorem flushBuf_output (w : Wire) : (flushBuf w).2.output = w.output := flushBufFrom_output _ w

theorem makeRoom_output (n : Nat) (w : Wire) : (makeRoom n w).2.output = w.output := by
  unfold makeRoom
  rw [bind_of_ok (get_apply w)]
  split
  · exact flushBuf_output w
  · rfl

theorem flush_output (w : Wire) : (flush w).2.output = w.output := by
  refine bind_state (Q := fun w' : Wire => w'.output = w.output) (fun _ => flushBuf_output w) fun _ w₁ hb => ?_
  have hout : w₁.output = w.output := by
    have := flushBuf_output w
    rwa [hb] at this
  rw [bind_of_ok (get_apply w₁), ← hout]
  split
  · refine bind_state (Q := fun w' : Wire => w'.output = w₁.output) (fun _ => (mute_await w₁).output) fun n w₂ ha => ?_
    obtain rfl := await_ok ha
    rfl
  · rfl

/-! ## Adding data -/

theorem writeAllFrom_output (fuel : Nat) (data : Bytes) (w : Wire) :
    ∃ bs, bs <+: data ∧ (writeAllFrom fuel data w).2.output = w.output ++ bs := by
  induction fuel generalizing data w with
  | zero => exact ⟨[], List.nil_prefix, (List.append_nil _).symm⟩
  | succ fuel ih =>
    unfold writeAllFrom
    split
    · exact ⟨[], List.nil_prefix, (List.append_nil _).symm⟩
    · refine bind_state (Q := fun w' : Wire => ∃ bs, bs <+: data ∧ w'.output = w.output ++ bs)
        (fun _ => ⟨[], List.nil_prefix, by rw [makeRoom_output, List.append_nil]⟩) fun _ w₁ hroom => ?_
      obtain ⟨hout₁, -, hempty⟩ := makeRoom_ok hroom
      rw [← hout₁]
      split
      · rename_i hlong
        refine bind_state (Q := fun w' : Wire => ∃ bs, bs <+: data ∧ w'.output = w₁.output ++ bs)
          (fun hstop => ⟨[], List.nil_prefix, by rw [(pollWrite_stops hstop).output, List.append_nil]⟩) fun n w₂ hp => ?_
        obtain ⟨-, -, hsent, hwriter, -⟩ := pollWrite_ok hp
        obtain ⟨bs, ⟨rest, hrest⟩, hout⟩ := ih (data.drop n) w₂
        refine ⟨data.take n ++ bs, ⟨rest, ?_⟩, ?_⟩
        · rw [List.append_assoc, hrest, List.take_append_drop]
        · rw [hout]
          simp only [output, hsent, hwriter, hempty hlong, List.append_nil, List.append_assoc]
      · exact ⟨data, List.prefix_refl _, by simp [output]⟩

/-- A write adds a prefix of its data. -/
theorem writeAll_output (data : Bytes) (w : Wire) :
    ∃ bs, bs <+: data ∧ (writeAll data w).2.output = w.output ++ bs := writeAllFrom_output _ data w

/-- More data in the buffer. -/
def buffered (w : Wire) (data : Bytes) : Wire := { w with writer := { w.writer with buf := w.writer.buf ++ data } }

@[simp] theorem buf_buffered (w : Wire) (data : Bytes) : (w.buffered data).writer.buf = w.writer.buf ++ data := rfl

@[simp] theorem output_buffered (w : Wire) (data : Bytes) : (w.buffered data).output = w.output ++ data :=
  (List.append_assoc _ _ _).symm

/-- Data that fits into the buffer is added whole, without waiting. -/
theorem writeAll_fits {data : Bytes} {w : Wire} (hfits : w.writer.buf.length + data.length ≤ writerCapacity)
    (hshort : data.length < writerCapacity) : writeAll data w = (.ok (), w.buffered data) := by
  unfold writeAll buffered
  cases data with
  | nil =>
    rw [List.append_nil]
    rfl
  | cons b bs =>
    rw [List.length_cons, writeAllFrom, if_neg (List.cons_ne_nil b bs)]
    have hroom : makeRoom (b :: bs).length w = (.ok (), w) := by
      unfold makeRoom
      rw [bind_of_ok (get_apply w), if_neg (by omega)]
      rfl
    rw [bind_of_ok hroom, if_neg (by omega)]
    rfl

/-! ## Without buffers -/

theorem writeAllRawFrom_sent (fuel : Nat) (data : Bytes) (w : Wire) :
    ∃ bs, bs <+: data ∧ (writeAllRawFrom fuel data w).2.sent = w.sent ++ bs := by
  induction fuel generalizing data w with
  | zero => exact ⟨[], List.nil_prefix, (List.append_nil _).symm⟩
  | succ fuel ih =>
    unfold writeAllRawFrom
    split
    · exact ⟨[], List.nil_prefix, (List.append_nil _).symm⟩
    · refine bind_state (Q := fun w' : Wire => ∃ bs, bs <+: data ∧ w'.sent = w.sent ++ bs)
        (fun hstop => ⟨[], List.nil_prefix, by rw [(pollWrite_stops hstop).sent, List.append_nil]⟩) fun n w₁ hp => ?_
      obtain ⟨-, -, hsent, -, -⟩ := pollWrite_ok hp
      obtain ⟨bs, ⟨rest, hrest⟩, hbs⟩ := ih (data.drop n) w₁
      refine ⟨data.take n ++ bs, ⟨rest, ?_⟩, ?_⟩
      · rw [List.append_assoc, hrest, List.take_append_drop]
      · rw [hbs, hsent, List.append_assoc]

/-- An unbuffered write hands over a prefix of its data. -/
theorem writeAllRaw_sent (data : Bytes) (w : Wire) : ∃ bs, bs <+: data ∧ (writeAllRaw data w).2.sent = w.sent ++ bs :=
  writeAllRawFrom_sent _ data w

theorem writeAllRawFrom_ok {fuel : Nat} {data : Bytes} {w w' : Wire} {u : Unit}
    (h : writeAllRawFrom fuel data w = (.ok u, w')) (hf : data.length ≤ fuel) : w'.sent = w.sent ++ data := by
  induction fuel generalizing data w with
  | zero =>
    cases h
    rw [List.eq_nil_of_length_eq_zero (by omega : data.length = 0), List.append_nil]
  | succ fuel ih =>
    unfold writeAllRawFrom at h
    split at h
    · rename_i hd
      cases h
      rw [hd, List.append_nil]
    · obtain ⟨n, w₁, hp, h⟩ := bind_ok.mp h
      obtain ⟨hn, -, hsent, -, -⟩ := pollWrite_ok hp
      have hrest := ih h (by simp only [List.length_drop]; omega)
      rw [hrest, hsent, List.append_assoc, List.take_append_drop]

/-- One that returned has handed over all of it. -/
theorem writeAllRaw_ok {data : Bytes} {w w' : Wire} {u : Unit} (h : writeAllRaw data w = (.ok u, w')) :
    w'.sent = w.sent ++ data := writeAllRawFrom_ok h (Nat.le_refl _)

end Wire

end Wirechaos
