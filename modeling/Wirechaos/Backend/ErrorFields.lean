/-
  Wirechaos.Backend.ErrorFields — the fields of an ErrorResponse (see `parseErrorResponse`
  in `Wirechaos.Backend.PgClient` and `prepareErrorBuf` in `Wirechaos.Conn.Session`).

  The scan is written once more as the code indexes the body, with `none` for a panic
  (`scanFields`); it ends, in range, for every body, with what its definition over the
  remaining bytes says (`scanFields_eq`). Of fields written one after another it keeps the
  last value of each kind (`parseErrorResponse_writeFields`); of the proxy's own body these
  are the strings it was made from (`parseErrorResponse_prepareErrorBuf`).
-/

import Wirechaos.Conn.Session
import Wirechaos.Lib.Utf8

namespace Wirechaos

open Text

namespace PgClient

/-! ## With panics -/

/-- The inner loop: where the value that begins here ends. -/
def skipValue (body : Bytes) (position : Nat) : Option Nat :=
  if position < body.length then
    match body[position]? with
    | none => none
    | some b => if b ≠ 0 then skipValue body (position + 1) else some position
  else some position
termination_by body.length - position

theorem drop_of_lt {body : Bytes} {position : Nat} (h : position < body.length) :
    ∃ b, body[position]? = some b ∧ body.drop position = b :: body.drop (position + 1) :=
  ⟨_, List.getElem?_eq_getElem h, List.drop_eq_getElem_cons h⟩

/-- It ends, in range, at the next zero byte or behind the last byte. -/
theorem skipValue_eq (body : Bytes) (position : Nat) :
    skipValue body position = some (position + ((body.drop position).takeWhile (· ≠ 0)).length) := by
  induction hrest : body.drop position generalizing position with
  | nil =>
    have hend : ¬ position < body.length := Nat.not_lt.mpr (List.drop_eq_nil_iff.mp hrest)
    rw [skipValue, if_neg hend]
    rfl
  | cons b rest ih =>
    have hlt : position < body.length := by
      by_contra h
      rw [List.drop_eq_nil_iff.mpr (Nat.not_lt.mp h)] at hrest
      cases hrest
    obtain ⟨b', hb, hdrop⟩ := drop_of_lt hlt
    rw [hrest] at hdrop
    obtain ⟨rfl, htail⟩ := List.cons.inj hdrop
    rw [skipValue, if_pos hlt]
    simp only [hb]
    by_cases hzero : b = 0
    · subst hzero
      rw [if_neg (by simp), List.takeWhile_cons_of_neg (by simp)]
      rfl
    · rw [if_pos hzero, ih (position + 1) htail.symm, List.takeWhile_cons_of_pos (by simpa using hzero)]
      rw [List.length_cons]
      congr 1
      omega

theorem le_of_skipValue {body : Bytes} {position stop : Nat} (h : skipValue body position = some stop) : position ≤ stop := by
  rw [skipValue_eq] at h
  cases h
  omega

/-- `&body[start..stop]`. -/
def sliceValue (body : Bytes) (start stop : Nat) : Option Bytes :=
  if start ≤ stop ∧ stop ≤ body.length then some ((body.drop start).take (stop - start)) else none

theorem sliceValue_eq {body : Bytes} {start : Nat} (h : start ≤ body.length) :
    sliceValue body start (start + ((body.drop start).takeWhile (· ≠ 0)).length) =
      some ((body.drop start).takeWhile (· ≠ 0)) := by
  have hprefix := List.takeWhile_prefix (l := body.drop start) (· ≠ 0)
  have hle := hprefix.length_le
  rw [List.length_drop] at hle
  rw [sliceValue, if_pos (by omega), Nat.add_sub_cancel_left, ← List.prefix_iff_eq_take.mp hprefix]

/-- The `match` on the type of a field, over severity, code and message. -/
def setField (field : UInt8) (value : Str) : Str × Str × Str → Str × Str × Str
  | (severity, code, message) =>
    if field = byte 'S' ∨ field = byte 'V' then (value, code, message)
    else if field = byte 'C' then (severity, value, message)
    else if field = byte 'M' then (severity, code, value)
    else (severity, code, message)

/-- The outer loop. The cursor may end one behind the body. -/
def scanFields (body : Bytes) (position : Nat) (acc : Str × Str × Str) : Option (Str × Str × Str) :=
  if position < body.length then
    match body[position]? with
    | none => none
    | some field =>
      if field ≠ 0 then
        match _hstop : skipValue body (position + 1) with
        | none => none
        | some stop =>
          match sliceValue body (position + 1) stop with
          | none => none
          | some value => scanFields body (stop + 1) (setField field (fromUtf8Lossy value) acc)
      else some acc
  else some acc
termination_by body.length - position
decreasing_by
  have := le_of_skipValue _hstop
  omega

theorem scanFields_step {body : Bytes} {position : Nat} {acc : Str × Str × Str} {field : UInt8}
    (hlt : position < body.length) (hfield : body[position]? = some field) (hne : field ≠ 0) :
    scanFields body position acc =
      scanFields body (position + 1 + ((body.drop (position + 1)).takeWhile (· ≠ 0)).length + 1)
        (setField field (fromUtf8Lossy ((body.drop (position + 1)).takeWhile (· ≠ 0))) acc) := by
  rw [scanFields, if_pos hlt]
  simp only [hfield, if_pos hne]
  split
  · rename_i hnone
    rw [skipValue_eq] at hnone
    cases hnone
  · rename_i stop hstop
    rw [skipValue_eq] at hstop
    cases hstop
    simp only [sliceValue_eq hlt]

/-! ## Without -/

theorem parseErrorFields_cons (fuel : Nat) (field : UInt8) (rest : Bytes) (acc : Str × Str × Str) :
    parseErrorFields (fuel + 1) (field :: rest) acc =
      if field = 0 then acc
      else parseErrorFields fuel ((rest.dropWhile (· ≠ 0)).drop 1)
        (setField field (fromUtf8Lossy (rest.takeWhile (· ≠ 0))) acc) := by
  obtain ⟨severity, code, message⟩ := acc
  rw [parseErrorFields]
  by_cases hzero : field = 0
  · rw [if_pos hzero, if_pos hzero]
  rw [if_neg hzero, if_neg hzero]
  unfold setField
  split
  · rfl
  split
  · rfl
  split
  · rfl
  · rfl

/-- What is behind a value. -/
theorem drop_value (rest : Bytes) :
    rest.drop ((rest.takeWhile (· ≠ 0)).length + 1) = (rest.dropWhile (· ≠ 0)).drop 1 := by
  have hsplit : (rest.takeWhile (· ≠ 0) ++ rest.dropWhile (· ≠ 0)).drop (rest.takeWhile (· ≠ 0)).length =
      rest.dropWhile (· ≠ 0) := List.drop_left
  rw [List.takeWhile_append_dropWhile] at hsplit
  rw [← List.drop_drop, hsplit]

theorem scanFields_eq {fuel : Nat} {body : Bytes} {position : Nat} (h : (body.drop position).length ≤ fuel)
    (acc : Str × Str × Str) : scanFields body position acc = some (parseErrorFields fuel (body.drop position) acc) := by
  induction fuel generalizing position acc with
  | zero =>
    have hend : ¬ position < body.length := by
      rw [List.length_drop] at h
      omega
    rw [scanFields, if_neg hend, parseErrorFields]
  | succ fuel ih =>
    by_cases hlt : position < body.length
    · obtain ⟨field, hfield, hdrop⟩ := drop_of_lt hlt
      rw [hdrop, parseErrorFields_cons]
      by_cases hzero : field = 0
      · rw [if_pos hzero, scanFields, if_pos hlt]
        simp [hfield, hzero]
      · rw [if_neg hzero, scanFields_step hlt hfield hzero, ih, ← drop_value, List.drop_drop, Nat.add_assoc]
        rw [List.length_drop] at h ⊢
        omega
    · have hend : body.drop position = [] := List.drop_eq_nil_iff.mpr (Nat.not_lt.mp hlt)
      rw [scanFields, if_neg hlt, hend, parseErrorFields]

/-! ## Fields in a row -/

/-- A field that can be read back: its type does not end the body, nor a NUL its value. -/
structure ErrorField where
  field : UInt8
  value : Str
  field_ne : field ≠ 0
  noNul : '\x00' ∉ value

def writeFields (fields : List ErrorField) : Bytes := fields.flatMap fun f => f.field :: putCstr f.value

/-- The value of the last field of these types. -/
def lastValue (types : List UInt8) (fallback : Str) (fields : List ErrorField) : Str :=
  ((fields.filter fun f => f.field ∈ types).getLast?.map (·.value)).getD fallback

/-- Severity (of either type), code and message. -/
def lastValues (acc : Str × Str × Str) (fields : List ErrorField) : Str × Str × Str :=
  (lastValue [byte 'S', byte 'V'] acc.1 fields, lastValue [byte 'C'] acc.2.1 fields, lastValue [byte 'M'] acc.2.2 fields)

theorem lastValue_cons (types : List UInt8) (fallback : Str) (f : ErrorField) (fields : List ErrorField) :
    lastValue types fallback (f :: fields) = lastValue types (if f.field ∈ types then f.value else fallback) fields := by
  unfold lastValue
  by_cases h : f.field ∈ types
  · rw [if_pos h, List.filter_cons_of_pos (by simpa using h), List.getLast?_cons]
    cases (fields.filter fun f => f.field ∈ types).getLast? <;> rfl
  · rw [if_neg h, List.filter_cons_of_neg (by simpa using h)]

theorem lastValues_cons (acc : Str × Str × Str) (f : ErrorField) (fields : List ErrorField) :
    lastValues acc (f :: fields) = lastValues (setField f.field f.value acc) fields := by
  obtain ⟨severity, code, message⟩ := acc
  simp only [lastValues, lastValue_cons, setField, List.mem_cons, List.not_mem_nil, or_false]
  by_cases hseverity : f.field = byte 'S' ∨ f.field = byte 'V'
  · have hcode : f.field ≠ byte 'C' := by rcases hseverity with h | h <;> rw [h] <;> decide
    have hmessage : f.field ≠ byte 'M' := by rcases hseverity with h | h <;> rw [h] <;> decide
    simp only [if_pos hseverity, if_neg hcode, if_neg hmessage]
  by_cases hcode : f.field = byte 'C'
  · have hmessage : f.field ≠ byte 'M' := by rw [hcode]; decide
    simp only [if_neg hseverity, if_pos hcode, if_neg hmessage]
  by_cases hmessage : f.field = byte 'M'
  · simp only [if_neg hseverity, if_neg hcode, if_pos hmessage]
  · simp only [if_neg hseverity, if_neg hcode, if_neg hmessage]

/-- A value that was written is read up to its end, whatever comes behind. -/
theorem value_putCstr {value : Str} (h : '\x00' ∉ value) (rest : Bytes) :
    (putCstr value ++ rest).takeWhile (· ≠ 0) = asBytes value ∧ (putCstr value ++ rest).dropWhile (· ≠ 0) = 0 :: rest := by
  have hnonzero : ∀ b ∈ asBytes value, decide (b ≠ 0) = true := by
    intro b hb
    have hne : b ≠ 0 := fun hzero => h ((zero_mem_asBytes value).mp (hzero ▸ hb))
    exact decide_eq_true hne
  rw [putCstr, List.append_assoc, List.takeWhile_append_of_pos hnonzero, List.dropWhile_append_of_pos hnonzero]
  simp

theorem parseErrorFields_writeFields {fuel : Nat} {fields : List ErrorField} {rest : Bytes}
    (h : (writeFields fields ++ 0 :: rest).length ≤ fuel) (acc : Str × Str × Str) :
    parseErrorFields fuel (writeFields fields ++ 0 :: rest) acc = lastValues acc fields := by
  induction fields generalizing fuel acc with
  | nil =>
    obtain ⟨fuel, rfl⟩ := Nat.exists_eq_succ_of_ne_zero (n := fuel) (by simp at h; omega)
    exact parseErrorFields_cons fuel 0 rest acc
  | cons f fields ih =>
    have hbody : writeFields (f :: fields) ++ 0 :: rest = f.field :: (putCstr f.value ++ (writeFields fields ++ 0 :: rest)) := by
      simp [writeFields]
    rw [hbody, List.length_cons, List.length_append] at h
    obtain ⟨fuel, rfl⟩ := Nat.exists_eq_succ_of_ne_zero (n := fuel) (by omega)
    obtain ⟨htake, hdrop⟩ := value_putCstr f.noNul (writeFields fields ++ 0 :: rest)
    rw [hbody, parseErrorFields_cons, if_neg f.field_ne, htake, hdrop, List.drop_one, List.tail_cons, fromUtf8Lossy_asBytes,
      ih (by omega), lastValues_cons]

theorem parseErrorResponse_writeFields (fields : List ErrorField) (rest : Bytes) :
    parseErrorResponse (writeFields fields ++ 0 :: rest) =
      .backend (lastValue [byte 'S', byte 'V'] "FATAL" fields) (lastValue [byte 'C'] "XX000" fields)
        (lastValue [byte 'M'] [] fields) := by
  unfold parseErrorResponse
  rw [parseErrorFields_writeFields (Nat.le_refl _)]
  rfl

/-- The body of the proxy's own error message. -/
theorem parseErrorResponse_prepareErrorBuf {severity code message : Str} (hseverity : '\x00' ∉ severity)
    (hcode : '\x00' ∉ code) (hmessage : '\x00' ∉ message) :
    parseErrorResponse (Session.prepareErrorBuf severity code message) = .backend severity code message := by
  have hbody : Session.prepareErrorBuf severity code message = writeFields
      [⟨byte 'S', severity, by decide, hseverity⟩, ⟨byte 'V', severity, by decide, hseverity⟩,
        ⟨byte 'C', code, by decide, hcode⟩, ⟨byte 'M', message, by decide, hmessage⟩] ++ 0 :: [] := by
    simp [Session.prepareErrorBuf, writeFields]
  rw [hbody, parseErrorResponse_writeFields]
  rfl

/-! ## No NUL -/

def NoNul (acc : Str × Str × Str) : Prop := '\x00' ∉ acc.1 ∧ '\x00' ∉ acc.2.1 ∧ '\x00' ∉ acc.2.2

theorem NoNul.setField {acc : Str × Str × Str} {field : UInt8} {value : Str} (h : NoNul acc) (hvalue : '\x00' ∉ value) :
    NoNul (setField field value acc) := by
  obtain ⟨severity, code, message⟩ := acc
  simp only [PgClient.setField]
  split
  · exact ⟨hvalue, h.2⟩
  split
  · exact ⟨h.1, hvalue, h.2.2⟩
  split
  · exact ⟨h.1, h.2.1, hvalue⟩
  · exact h

/-- A value ends before the next zero byte. -/
theorem noNul_parseErrorFields {fuel : Nat} {body : Bytes} {acc : Str × Str × Str} (h : NoNul acc) :
    NoNul (parseErrorFields fuel body acc) := by
  induction fuel generalizing body acc with
  | zero => exact h
  | succ fuel ih =>
    cases body with
    | nil => exact h
    | cons field rest =>
      rw [parseErrorFields_cons]
      by_cases hzero : field = 0
      · rw [if_pos hzero]
        exact h
      · rw [if_neg hzero]
        apply ih
        apply h.setField
        apply nul_not_mem_fromUtf8Lossy
        intro hmem
        exact absurd (List.all_eq_true.mp List.all_takeWhile _ hmem) (by simp)

theorem noNul_parseErrorResponse {body : Bytes} {severity code message : Str}
    (h : parseErrorResponse body = .backend severity code message) : NoNul (severity, code, message) := by
  have hnul : NoNul (parseErrorFields body.length body ("FATAL", "XX000", [])) :=
    noNul_parseErrorFields ⟨by decide, by decide, by decide⟩
  cases h
  exact hnul

end PgClient

end Wirechaos
