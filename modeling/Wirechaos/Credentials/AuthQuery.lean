/-
  Wirechaos.Credentials.AuthQuery — the check of a lookup query (`AuthQueryConfig::validate`
  in auth/credentials/auth_query.rs).

  The scanner goes through the bytes of the text; `scan_eq` says that it finds the
  placeholders of the text (`Place`), in order, slices it only where characters begin, and
  keeps the numbers that fit 32 bits. The others are not counted: `validate_exact_iff`
  says for which texts that makes a difference.
-/

import Mathlib.Data.List.Nodup
import Wirechaos.Lib.Strings
import Wirechaos.Lib.Utf8

namespace Wirechaos

open Text

namespace AuthQueryConfig

/-- `u8::is_ascii_digit`. -/
def isAsciiDigit (b : UInt8) : Bool := 48 ≤ b.toNat ∧ b.toNat ≤ 57

/-- The inner loop: past the digits. -/
def digitsEnd (bytes : Bytes) (stop : Nat) : Nat :=
  if h : stop < bytes.length then
    if isAsciiDigit bytes[stop] then digitsEnd bytes (stop + 1) else stop
  else stop
termination_by bytes.length - stop

/-- The outer loop; `none` is a panic. -/
def scan (query : Str) (i : Nat) (placeholders : List Nat) : Option (List Nat) :=
  if h : i < (asBytes query).length then
    if (asBytes query)[i] ≠ 36 then scan query (i + 1) placeholders
    else
      let start := i + 1
      let stop := digitsEnd (asBytes query) start
      if hstop : stop > start then
        match slice query start stop with
        | none => none
        | some digits =>
          match parseUint 32 digits with
          | some number => scan query stop (placeholders ++ [number])
          | none => scan query stop placeholders
      else scan query (i + 1) placeholders
  else some placeholders
termination_by (asBytes query).length - i
decreasing_by
  all_goals try simp only [start, stop] at hstop
  all_goals omega

def verdict (placeholders : List Nat) : Except Str Unit :=
  match placeholders with
  | [number] => if number ≠ 1 then .error "the placeholder must be $1 (the requested user name)" else .ok ()
  | _ => .error "query must contain exactly one placeholder"

def validate (query : Str) : Option (Except Str Unit) := (scan query 0 []).map verdict

/-! ## Placeholders -/

/-- A cut of a text around the digits behind a dollar sign. -/
structure Place where
  before : Str
  digits : Str
  after : Str
  deriving DecidableEq

namespace Place

def number (p : Place) : Nat := Nat.ofDigitChars 10 p.digits 0

/-- The digits are those behind the dollar sign, all of them. -/
structure In (p : Place) (text : Str) : Prop where
  text_eq : text = p.before ++ '$' :: p.digits ++ p.after
  nonempty : p.digits ≠ []
  digits : ∀ c ∈ p.digits, c.isDigit = true
  maximal : ∀ c ∈ p.after.head?, c.isDigit = false

end Place

/-- Exactly one placeholder, and it is number 1. -/
def OnePlaceholder (text : Str) : Prop := ∃ p : Place, p.In text ∧ p.number = 1 ∧ ∀ q : Place, q.In text → q = p

/-- The placeholders in their order. -/
def places : Str → List Place
  | [] => []
  | c :: text =>
    let later := (places text).map fun p => { p with before := c :: p.before }
    if c = '$' ∧ text.takeWhile Char.isDigit ≠ [] then
      ⟨[], text.takeWhile Char.isDigit, text.dropWhile Char.isDigit⟩ :: later
    else later

theorem places_cons (c : Char) (text : Str) : places (c :: text) =
    if c = '$' ∧ text.takeWhile Char.isDigit ≠ [] then
      ⟨[], text.takeWhile Char.isDigit, text.dropWhile Char.isDigit⟩ ::
        (places text).map fun p => { p with before := c :: p.before }
    else (places text).map fun p => { p with before := c :: p.before } := rfl

theorem takeWhile_append_of_maximal {digits after : Str} (hdigits : ∀ c ∈ digits, c.isDigit = true)
    (hmaximal : ∀ c ∈ after.head?, c.isDigit = false) :
    (digits ++ after).takeWhile Char.isDigit = digits ∧ (digits ++ after).dropWhile Char.isDigit = after := by
  rw [List.takeWhile_append_of_pos hdigits, List.dropWhile_append_of_pos hdigits]
  cases after with
  | nil => simp
  | cons c after => simp [hmaximal c rfl]

theorem head?_dropWhile_isDigit (text : Str) : ∀ c ∈ (text.dropWhile Char.isDigit).head?, c.isDigit = false := by
  intro c hc
  have := List.head?_dropWhile_not Char.isDigit text
  rw [Option.mem_def.mp hc] at this
  simpa using this

theorem mem_places {p : Place} {text : Str} : p ∈ places text ↔ p.In text := by
  induction text generalizing p with
  | nil =>
    simp only [places, List.not_mem_nil, false_iff]
    intro h
    simpa using h.text_eq
  | cons c text ih =>
    have hlater : p ∈ (places text).map (fun p => { p with before := c :: p.before }) ↔ p.In (c :: text) ∧ p.before ≠ [] := by
      rw [List.mem_map]
      constructor
      · intro h
        obtain ⟨q, hq, rfl⟩ := h
        obtain ⟨htext, hne, hdigits, hmaximal⟩ := ih.mp hq
        exact ⟨⟨by simp [htext], hne, hdigits, hmaximal⟩, by simp⟩
      · intro h
        obtain ⟨⟨htext, hne, hdigits, hmaximal⟩, hbefore⟩ := h
        obtain ⟨before, digits, after⟩ := p
        cases before with
        | nil => exact absurd rfl hbefore
        | cons d before =>
          simp only [List.cons_append, List.cons.injEq] at htext
          obtain ⟨rfl, htext⟩ := htext
          exact ⟨⟨before, digits, after⟩, ih.mpr ⟨htext, hne, hdigits, hmaximal⟩, rfl⟩
    have hhere : p.In (c :: text) ∧ p.before = [] ↔
        (c = '$' ∧ text.takeWhile Char.isDigit ≠ []) ∧
          p = ⟨[], text.takeWhile Char.isDigit, text.dropWhile Char.isDigit⟩ := by
      constructor
      · intro h
        obtain ⟨⟨htext, hne, hdigits, hmaximal⟩, hbefore⟩ := h
        obtain ⟨before, digits, after⟩ := p
        subst hbefore
        simp only [List.nil_append, List.cons_append, List.cons.injEq] at htext
        obtain ⟨rfl, rfl⟩ := htext
        obtain ⟨htake, hdrop⟩ := takeWhile_append_of_maximal hdigits hmaximal
        rw [htake, hdrop]
        exact ⟨⟨rfl, hne⟩, rfl⟩
      · intro h
        obtain ⟨⟨rfl, hne⟩, rfl⟩ := h
        refine ⟨⟨by simp [List.takeWhile_append_dropWhile], hne, ?_, head?_dropWhile_isDigit text⟩, rfl⟩
        exact fun c hc => List.all_eq_true.mp List.all_takeWhile c hc
    have hsplit : p.In (c :: text) ↔ (p.In (c :: text) ∧ p.before = []) ∨ p.In (c :: text) ∧ p.before ≠ [] := by
      by_cases hbefore : p.before = [] <;> simp [hbefore]
    rw [hsplit, hhere, ← hlater, places_cons]
    by_cases hfound : c = '$' ∧ text.takeWhile Char.isDigit ≠ []
    · rw [if_pos hfound, List.mem_cons, and_iff_right hfound]
    · rw [if_neg hfound]
      exact ⟨Or.inr, fun h => h.resolve_left fun h => hfound h.1⟩

theorem nodup_places (text : Str) : (places text).Nodup := by
  induction text with
  | nil => simp [places]
  | cons c text ih =>
    have hlater : ((places text).map fun p => ({ p with before := c :: p.before } : Place)).Nodup := by
      refine List.Nodup.map (fun p q h => ?_) ih
      obtain ⟨_, _, _⟩ := p
      obtain ⟨_, _, _⟩ := q
      simpa using h
    rw [places_cons]
    by_cases hfound : c = '$' ∧ text.takeWhile Char.isDigit ≠ []
    · rw [if_pos hfound, List.nodup_cons]
      exact ⟨by simp, hlater⟩
    · rw [if_neg hfound]
      exact hlater

/-- The digits of the placeholders. -/
def runs (text : Str) : List Str := (places text).map (·.digits)

theorem runs_cons (c : Char) (text : Str) : runs (c :: text) =
    if c = '$' ∧ text.takeWhile Char.isDigit ≠ [] then text.takeWhile Char.isDigit :: runs text else runs text := by
  unfold runs
  rw [places_cons]
  by_cases hfound : c = '$' ∧ text.takeWhile Char.isDigit ≠ []
  · simp only [if_pos hfound, List.map_cons, List.map_map]
    rfl
  · simp only [if_neg hfound, List.map_map]
    rfl

/-- Digits hold no placeholder. -/
theorem runs_dropWhile (text : Str) : runs (text.dropWhile Char.isDigit) = runs text := by
  induction text with
  | nil => rfl
  | cons c text ih =>
    by_cases hdigit : c.isDigit = true
    · have hdollar : c ≠ '$' := by
        intro h
        rw [h] at hdigit
        exact absurd hdigit (by decide)
      rw [List.dropWhile_cons_of_pos hdigit, ih, runs_cons, if_neg (by simp [hdollar])]
    · rw [List.dropWhile_cons_of_neg hdigit]

/-! ## The scanner -/

theorem isAsciiDigit_iff {c : Char} (hc : c.toNat < 0x80) : isAsciiDigit (UInt8.ofNat c.toNat) = c.isDigit := by
  have hb : (UInt8.ofNat c.toNat).toNat = c.toNat := by
    rw [UInt8.toNat_ofNat']
    omega
  rw [Bool.eq_iff_iff, Char.isDigit_iff_toNat]
  simp [isAsciiDigit, hb]

theorem toNat_lt_of_isDigit {c : Char} (h : c.isDigit = true) : c.toNat < 0x80 := by
  have := (Char.isDigit_iff_toNat.mp h).2
  have : '9'.toNat = 57 := rfl
  omega

theorem utf8EncodeChar_of_lt {c : Char} (h : c.toNat < 0x80) : String.utf8EncodeChar c = [UInt8.ofNat c.toNat] := by
  rcases utf8EncodeChar_cases c with ⟨-, h'⟩ | ⟨_, _, -, h'⟩ | ⟨_, _, _, -, h'⟩ | ⟨_, _, _, _, -, h'⟩
  · exact h'
  all_goals omega

/-- The inner loop stops where the digits of the text do. -/
theorem digitsEnd_asBytes (pre text : Str) :
    digitsEnd (asBytes (pre ++ text)) (byteLen pre) = byteLen (pre ++ text.takeWhile Char.isDigit) := by
  induction text generalizing pre with
  | nil =>
    unfold digitsEnd
    simp [byteLen]
  | cons c text ih =>
    obtain ⟨b, bs, hbytes⟩ : ∃ b bs, asBytes (c :: text) = b :: bs := by
      rw [asBytes_cons]
      obtain ⟨b, bs, h, -⟩ := decodeChar_utf8EncodeChar c []
      exact ⟨b, bs ++ asBytes text, by rw [h, List.cons_append]⟩
    have hlt : byteLen pre < (asBytes (pre ++ c :: text)).length := by
      simp [byteLen, hbytes]
    have hget : (asBytes (pre ++ c :: text))[byteLen pre] = b := by
      simp [asBytes_append, hbytes, byteLen]
    obtain ⟨c', t', hcons, hhead⟩ := asBytes_head hbytes
    obtain ⟨rfl, rfl⟩ := List.cons.inj hcons
    unfold digitsEnd
    rw [dif_pos hlt, hget]
    by_cases hdigit : c.isDigit = true
    · have hascii := toNat_lt_of_isDigit hdigit
      have hb : b = UInt8.ofNat c.toNat := by
        rcases hhead with ⟨-, hb⟩ | ⟨hge, -⟩
        · exact hb
        · omega
      have hnext : byteLen pre + 1 = byteLen (pre ++ [c]) := by
        simp [byteLen, asBytes_cons, utf8EncodeChar_of_lt hascii]
      have hih := ih (pre ++ [c])
      rw [List.append_assoc, List.append_assoc, List.singleton_append, List.singleton_append] at hih
      rw [if_pos (by rw [hb, isAsciiDigit_iff hascii, hdigit]), hnext, hih, List.takeWhile_cons_of_pos hdigit]
    · have hstop : isAsciiDigit b ≠ true := by
        rcases hhead with ⟨hascii, hb⟩ | ⟨-, hge⟩
        · rw [hb, isAsciiDigit_iff hascii]
          exact hdigit
        · simp [isAsciiDigit]
          omega
      rw [if_neg hstop, List.takeWhile_cons_of_neg hdigit, List.append_nil]

/-! ### One step -/

theorem scan_of_ne {query : Str} {i : Nat} {b : UInt8} (h : (asBytes query)[i]? = some b) (hb : b ≠ 36) (acc : List Nat) :
    scan query i acc = scan query (i + 1) acc := by
  obtain ⟨hlt, hget⟩ := List.getElem?_eq_some_iff.mp h
  rw [scan, dif_pos hlt, if_pos (by rwa [hget])]

theorem scan_of_alone {query : Str} {i : Nat} (h : (asBytes query)[i]? = some 36)
    (hend : digitsEnd (asBytes query) (i + 1) = i + 1) (acc : List Nat) : scan query i acc = scan query (i + 1) acc := by
  obtain ⟨hlt, hget⟩ := List.getElem?_eq_some_iff.mp h
  rw [scan, dif_pos hlt, if_neg (by simp [hget])]
  simp only [hend, gt_iff_lt, Nat.lt_irrefl, dif_neg, not_false_eq_true]

theorem scan_of_digits {query digits : Str} {i stop : Nat} (h : (asBytes query)[i]? = some 36)
    (hend : digitsEnd (asBytes query) (i + 1) = stop) (hstop : i + 1 < stop) (hslice : slice query (i + 1) stop = some digits)
    (acc : List Nat) : scan query i acc = scan query stop (acc ++ (parseUint 32 digits).toList) := by
  obtain ⟨hlt, hget⟩ := List.getElem?_eq_some_iff.mp h
  rw [scan, dif_pos hlt, if_neg (by simp [hget])]
  simp only [hend, gt_iff_lt, dif_pos hstop, hslice]
  cases parseUint 32 digits with
  | none => simp
  | some number => rfl

theorem scan_of_end {query : Str} {i : Nat} (h : (asBytes query).length ≤ i) (acc : List Nat) : scan query i acc = some acc := by
  rw [scan, dif_neg (by omega)]

/-- The bytes of a character that is no dollar sign are passed. -/
theorem scan_skip {query : Str} {i n : Nat} (acc : List Nat) (h : ∀ k < n, ∃ b, (asBytes query)[i + k]? = some b ∧ b ≠ 36) :
    scan query i acc = scan query (i + n) acc := by
  induction n with
  | zero => rfl
  | succ n ih =>
    obtain ⟨b, hget, hb⟩ := h n (Nat.lt_succ_self n)
    rw [ih fun k hk => h k (by omega), scan_of_ne hget hb]
    rfl

/-! ### The whole text -/

theorem scan_eq (pre text : Str) (acc : List Nat) :
    scan (pre ++ text) (byteLen pre) acc = some (acc ++ (runs text).filterMap (parseUint 32)) := by
  induction hn : text.length using Nat.strong_induction_on generalizing pre text acc with
  | _ n ih =>
  cases text with
  | nil =>
    rw [scan_of_end (by simp [byteLen])]
    simp [runs, places]
  | cons c text =>
    have hstep (acc : List Nat) : scan (pre ++ c :: text) (byteLen (pre ++ [c])) acc =
        some (acc ++ (runs text).filterMap (parseUint 32)) := by
      have := ih text.length (by simp at hn; omega) (pre ++ [c]) text acc rfl
      rwa [List.append_assoc, List.singleton_append] at this
    rw [runs_cons]
    by_cases hdollar : c = '$'
    · subst hdollar
      have hget : (asBytes (pre ++ '$' :: text))[byteLen pre]? = some 36 := by
        rw [asBytes_append, byteLen, List.getElem?_append_right (Nat.le_refl _), Nat.sub_self, asBytes_cons]
        rfl
      have hnext : byteLen pre + 1 = byteLen (pre ++ ['$']) := by
        rw [byteLen_append]
        rfl
      have hend := digitsEnd_asBytes (pre ++ ['$']) text
      rw [List.append_assoc, List.singleton_append, ← hnext] at hend
      by_cases hdigits : text.takeWhile Char.isDigit = []
      · rw [hdigits, List.append_nil, ← hnext] at hend
        rw [scan_of_alone hget hend, hnext, hstep, if_neg (by simp [hdigits])]
      · have hlonger : byteLen pre + 1 < byteLen (pre ++ ['$'] ++ text.takeWhile Char.isDigit) := by
          have := length_le_byteLen (text.takeWhile Char.isDigit)
          have := List.length_pos_iff.mpr hdigits
          rw [byteLen_append (pre ++ ['$']), ← hnext]
          omega
        have hslice := slice_append (pre ++ ['$']) (text.takeWhile Char.isDigit) (text.dropWhile Char.isDigit)
        rw [List.append_assoc, List.takeWhile_append_dropWhile, List.append_assoc, List.singleton_append, ← hnext] at hslice
        have hlen : (text.dropWhile Char.isDigit).length < n := by
          have := (List.dropWhile_suffix Char.isDigit (l := text)).length_le
          simp at hn
          omega
        have hrest := ih _ hlen (pre ++ ['$'] ++ text.takeWhile Char.isDigit) (text.dropWhile Char.isDigit)
          (acc ++ (parseUint 32 (text.takeWhile Char.isDigit)).toList) rfl
        rw [runs_dropWhile, List.append_assoc, List.takeWhile_append_dropWhile, List.append_assoc,
          List.singleton_append] at hrest
        rw [scan_of_digits hget hend hlonger hslice, hrest, if_pos ⟨rfl, hdigits⟩]
        cases hparse : parseUint 32 (text.takeWhile Char.isDigit) with
        | none => simp [hparse]
        | some number => simp [hparse]
    · have hskip : scan (pre ++ c :: text) (byteLen pre) acc = scan (pre ++ c :: text) (byteLen pre + byteLen [c]) acc := by
        refine scan_skip acc fun k hk => ?_
        have hsplit : asBytes (pre ++ c :: text) = asBytes pre ++ (asBytes [c] ++ asBytes text) := by
          rw [← asBytes_append, ← asBytes_append, List.singleton_append]
        have hget : (asBytes (pre ++ c :: text))[byteLen pre + k]? = (asBytes [c])[k]? := by
          rw [hsplit, byteLen, List.getElem?_append_right (Nat.le_add_right _ _), Nat.add_sub_cancel_left,
            List.getElem?_append_left hk]
        refine ⟨(asBytes [c])[k], by rw [hget, List.getElem?_eq_getElem hk], fun h36 => ?_⟩
        have hmem : UInt8.ofNat '$'.toNat ∈ asBytes [c] := List.mem_iff_getElem.mpr ⟨k, hk, h36⟩
        rw [byte_mem_asBytes (by decide), List.mem_singleton] at hmem
        exact hdollar hmem.symm
      rw [hskip, ← byteLen_append, hstep, if_neg (by simp [hdollar])]

theorem validate_eq (query : Str) : validate query = some (verdict ((runs query).filterMap (parseUint 32))) := by
  have := scan_eq [] query []
  rw [List.nil_append, List.nil_append] at this
  rw [validate, show (0 : Nat) = byteLen [] from rfl, this]
  rfl

/-! ## Exactly one placeholder -/

theorem verdict_ok {placeholders : List Nat} : verdict placeholders = .ok () ↔ placeholders = [1] := by
  rcases placeholders with _ | ⟨number, _ | ⟨other, placeholders⟩⟩
  · simp [verdict]
  · by_cases h : number = 1 <;> simp [verdict, h]
  · simp [verdict]

/-- The digits of a placeholder are a number; `parse::<u32>` takes it if it fits. -/
theorem parseUint_digits {p : Place} {text : Str} (h : p.In text) :
    parseUint 32 p.digits = if p.number < 2 ^ 32 then some p.number else none := by
  have hplus : stripPrefix ['+'] p.digits = none := by
    rw [stripPrefix_eq_none]
    intro hprefix
    obtain ⟨t, ht⟩ := hprefix
    exact absurd (h.digits '+' (by simp [← ht])) (by decide)
  have hall : p.digits.all Char.isDigit = true := List.all_eq_true.mpr h.digits
  unfold parseUint
  rw [hplus, Option.getD_none]
  exact if_pos ⟨h.nonempty, hall⟩

theorem filter_eq_singleton_iff {α : Type} {l : List α} (hl : l.Nodup) (P : α → Bool) (a : α) :
    l.filter P = [a] ↔ a ∈ l ∧ P a = true ∧ ∀ b ∈ l, P b = true → b = a := by
  constructor
  · intro h
    have hmem (b : α) : b ∈ l ∧ P b = true ↔ b = a := by rw [← List.mem_filter, h, List.mem_singleton]
    exact ⟨((hmem a).mpr rfl).1, ((hmem a).mpr rfl).2, fun b hb hP => (hmem b).mp ⟨hb, hP⟩⟩
  · intro h
    obtain ⟨ha, hP, hunique⟩ := h
    rw [← List.perm_singleton, List.perm_ext_iff_of_nodup (hl.filter P) (List.nodup_singleton a)]
    intro b
    rw [List.mem_filter, List.mem_singleton]
    constructor
    · exact fun hb => hunique b hb.1 hb.2
    · intro hb
      rw [hb]
      exact ⟨ha, hP⟩

/-- What is counted is the placeholders whose number fits. -/
theorem validate_ok_iff (query : Str) : validate query = some (.ok ()) ↔
    ∃ p : Place, p.In query ∧ p.number = 1 ∧ ∀ q : Place, q.In query → q.number < 2 ^ 32 → q = p := by
  have hcounted : (runs query).filterMap (parseUint 32) =
      ((places query).filter fun p => p.number < 2 ^ 32).map Place.number := by
    rw [runs, List.filterMap_map, ← List.filterMap_eq_map, List.filterMap_filter]
    refine List.filterMap_congr fun p hp => ?_
    rw [Function.comp_apply, parseUint_digits (mem_places.mp hp)]
    simp
  rw [validate_eq, Option.some.injEq, verdict_ok, hcounted, List.map_eq_singleton_iff]
  refine exists_congr fun p => ?_
  rw [filter_eq_singleton_iff (nodup_places query)]
  simp only [mem_places, decide_eq_true_iff]
  constructor
  · intro h
    exact ⟨h.1.1, h.2, h.1.2.2⟩
  · intro h
    exact ⟨⟨h.1, by rw [h.2.1]; decide, h.2.2⟩, h.2.1⟩

/-- The check comes to an end without a panic. It accepts exactly the texts with one
    placeholder, number 1, except where one such placeholder stands next to placeholders
    whose numbers do not fit 32 bits. -/
theorem validate_exact_iff (query : Str) :
    ∃ result, validate query = some result ∧
      ((result = .ok () ↔ OnePlaceholder query) ↔
        ¬((∃ p : Place, p.In query ∧ p.number = 1 ∧ ∀ q : Place, q.In query → q.number < 2 ^ 32 → q = p) ∧
          ∃ q : Place, q.In query ∧ 2 ^ 32 ≤ q.number)) := by
  refine ⟨_, validate_eq query, ?_⟩
  have hok := validate_ok_iff query
  rw [validate_eq, Option.some.injEq] at hok
  rw [hok]
  by_cases hcounted : ∃ p : Place, p.In query ∧ p.number = 1 ∧ ∀ q : Place, q.In query → q.number < 2 ^ 32 → q = p
  · simp only [hcounted, true_iff, true_and, not_exists, not_and, Nat.not_le]
    obtain ⟨p, hp, hone, hunique⟩ := hcounted
    constructor
    · intro h q hq
      obtain ⟨p', hp', hone', hunique'⟩ := h
      rw [hunique' q hq, hone']
      decide
    · intro h
      exact ⟨p, hp, hone, fun q hq => hunique q hq (h q hq)⟩
  · simp only [hcounted, false_iff, false_and, not_false_eq_true, iff_true]
    intro h
    obtain ⟨p, hp, hone, hunique⟩ := h
    exact hcounted ⟨p, hp, hone, fun q hq _ => hunique q hq⟩

/-- The second parameter is not seen. -/
theorem a_large_placeholder_is_overlooked :
    ¬(validate "SELECT $1, $4294967296" = some (.ok ()) ↔ OnePlaceholder "SELECT $1, $4294967296") := by
  have haccepted : validate "SELECT $1, $4294967296" = some (.ok ()) := by
    rw [validate_eq]
    decide +kernel
  intro h
  obtain ⟨p, -, -, hunique⟩ := h.mp haccepted
  have hfirst := hunique ⟨"SELECT ".toList, "1".toList, ", $4294967296".toList⟩ (mem_places.mp (by decide +kernel))
  have hsecond := hunique ⟨"SELECT $1, ".toList, "4294967296".toList, []⟩ (mem_places.mp (by decide +kernel))
  rw [← hfirst] at hsecond
  exact absurd (congrArg Place.digits hsecond) (by decide)

end AuthQueryConfig

end Wirechaos
