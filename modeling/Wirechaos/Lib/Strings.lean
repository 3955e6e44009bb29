/-
  Wirechaos.Lib.Strings — searching, cutting and numbering strings.

  `splitOnce` and `rsplitOnce` cut at the first and last occurrence of a character,
  `stripPrefix` removes a prefix, `rfind` is the position of the last occurrence of a
  pattern; `List.splitOn` is the split at every occurrence. Each has one lemma that
  says what a result means (`splitOnce_eq_some`, `stripPrefix_eq_some`,
  `rfind_eq_some`), so proofs never unfold them. `decimal` and `parseUint` write and
  read unsigned numerals (`parseUint_decimal`).
-/

import Wirechaos.Lib.Bytes
import Wirechaos.Lib.Unicode

namespace Text

/-! ## Cutting -/

def splitOnce (c : Char) : Str → Option (Str × Str)
  | [] => none
  | x :: xs => if x = c then some ([], xs) else (splitOnce c xs).map fun p => (x :: p.1, p.2)

def rsplitOnce (c : Char) (s : Str) : Option (Str × Str) :=
  (splitOnce c s.reverse).map fun p => (p.2.reverse, p.1.reverse)

def stripPrefix (p s : Str) : Option Str := p.isPrefixOf? s

def startsWith (p s : Str) : Bool := p.isPrefixOf s

theorem splitOnce_eq_some {c : Char} {s a b : Str} : splitOnce c s = some (a, b) ↔ s = a ++ c :: b ∧ c ∉ a := by
  induction s generalizing a with
  | nil => simp [splitOnce]
  | cons x xs ih =>
    simp only [splitOnce]
    split
    · rename_i hx
      subst hx
      constructor
      · intro h; cases h; simp
      · intro h
        obtain ⟨h, hn⟩ := h
        cases a with
        | nil => simp at h; simp [h]
        | cons y ys => simp only [List.cons_append, List.cons.injEq] at h; simp [h.1] at hn
    · rename_i hx
      rw [Option.map_eq_some_iff]
      constructor
      · intro h
        obtain ⟨⟨u, v⟩, hp, he⟩ := h
        cases he
        obtain ⟨rfl, hn⟩ := ih.mp hp
        simp [Ne.symm hx, hn]
      · intro h
        obtain ⟨h, hn⟩ := h
        cases a with
        | nil => simp only [List.nil_append, List.cons.injEq] at h; exact absurd h.1 hx
        | cons y ys =>
          simp only [List.cons_append, List.cons.injEq] at h
          obtain ⟨rfl, rfl⟩ := h
          simp only [List.mem_cons, not_or] at hn
          exact ⟨(ys, b), ih.mpr ⟨rfl, hn.2⟩, rfl⟩

theorem splitOnce_eq_none {c : Char} {s : Str} : splitOnce c s = none ↔ c ∉ s := by
  induction s with
  | nil => simp [splitOnce]
  | cons x xs ih =>
    simp only [splitOnce]
    split
    · simp [*]
    · rename_i hx
      simp [ih, Ne.symm hx]

theorem stripPrefix_eq_some {p s t : Str} : stripPrefix p s = some t ↔ s = p ++ t := by
  unfold stripPrefix
  induction p generalizing s with
  | nil => simp [List.isPrefixOf?]
  | cons x p ih =>
    cases s with
    | nil => simp [List.isPrefixOf?]
    | cons y s =>
      by_cases h : x = y
      · subst h; simp [List.isPrefixOf?, ih]
      · simp [List.isPrefixOf?, h, Ne.symm h]

@[simp] theorem stripPrefix_append (p t : Str) : stripPrefix p (p ++ t) = some t :=
  stripPrefix_eq_some.mpr rfl

theorem stripPrefix_eq_none {p s : Str} : stripPrefix p s = none ↔ ¬ p <+: s := by
  rw [Option.eq_none_iff_forall_not_mem]
  constructor
  · intro h h
    obtain ⟨t, ht⟩ := h
    exact h t (stripPrefix_eq_some.mpr ht.symm)
  · intro h t ht
    exact h ⟨t, (stripPrefix_eq_some.mp ht).symm⟩

theorem startsWith_iff {p s : Str} : startsWith p s = true ↔ ∃ t, s = p ++ t := by
  unfold startsWith
  rw [List.isPrefixOf_iff_prefix]
  exact ⟨fun ⟨t, h⟩ => ⟨t, h.symm⟩, fun ⟨t, h⟩ => ⟨t, h.symm⟩⟩

/-! ## The last occurrence of a pattern -/

def rfind (pat : Str) : Str → Option Nat
  | [] => if pat = [] then some 0 else none
  | c :: cs =>
    match rfind pat cs with
    | some i => some (i + 1)
    | none => if startsWith pat (c :: cs) then some 0 else none

/-- A result is a place where the pattern stands. -/
theorem rfind_eq_some {pat s : Str} {i : Nat} (h : rfind pat s = some i) :
    ∃ t, s = s.take i ++ pat ++ t := by
  induction s generalizing i with
  | nil =>
    simp only [rfind] at h
    split at h
    · exact ⟨[], by simp [*]⟩
    · cases h
  | cons c cs ih =>
    simp only [rfind] at h
    split at h
    · rename_i j hj
      cases h
      obtain ⟨t, ht⟩ := ih hj
      refine ⟨t, ?_⟩
      simp only [List.take_succ_cons, List.cons_append]
      rw [← ht]
    · split at h
      · rename_i hp
        cases h
        obtain ⟨t, ht⟩ := startsWith_iff.mp hp
        exact ⟨t, by simpa using ht⟩
      · cases h

/-- No occurrence of the pattern is later than the one found. -/
theorem rfind_last (pat a t : Str) : ∃ i, rfind pat (a ++ pat ++ t) = some i ∧ a.length ≤ i := by
  induction a with
  | nil =>
    simp only [List.nil_append, List.length_nil, Nat.zero_le, and_true]
    generalize hs : pat ++ t = s
    cases s with
    | nil =>
      obtain ⟨rfl, -⟩ := List.append_eq_nil_iff.mp hs
      exact ⟨0, by simp [rfind]⟩
    | cons c cs =>
      have hp : startsWith pat (c :: cs) = true := startsWith_iff.mpr ⟨t, hs.symm⟩
      simp only [rfind, hp, if_true]
      cases rfind pat cs with
      | none => exact ⟨0, rfl⟩
      | some i => exact ⟨i + 1, rfl⟩
  | cons c cs ih =>
    obtain ⟨i, hi, hl⟩ := ih
    refine ⟨i + 1, ?_, by simpa using hl⟩
    simp only [List.cons_append, rfind]
    rw [hi]

/-- A pattern that stands at `a` and nowhere in what follows its first character is found there. -/
theorem rfind_append {pat a t : Str} (h : ∀ b u, pat ++ t = b ++ pat ++ u → b = []) :
    rfind pat (a ++ pat ++ t) = some a.length := by
  obtain ⟨i, hi, hl⟩ := rfind_last pat a t
  obtain ⟨u, hu⟩ := rfind_eq_some hi
  rw [hi]
  have hlen : i ≤ (a ++ pat ++ t).length := by
    by_contra hc
    rw [List.take_of_length_le (by omega)] at hu
    have := congrArg List.length hu
    simp only [List.length_append] at this
    have hp : pat = [] := List.eq_nil_of_length_eq_zero (by omega)
    have ht : u = [] := List.eq_nil_of_length_eq_zero (by omega)
    subst hp
    -- an empty pattern is found at the end
    have : ∀ s : Str, rfind [] s = some s.length := by
      intro s
      induction s with
      | nil => simp [rfind]
      | cons c cs ih => simp [rfind, ih]
    rw [this] at hi
    cases hi
    exact hc (Nat.le_refl _)
  obtain ⟨b, hb⟩ : ∃ b, (a ++ pat ++ t).take i = a ++ b := by
    refine ⟨(pat ++ t).take (i - a.length), ?_⟩
    rw [List.append_assoc, List.take_append, List.take_of_length_le hl]
  rw [hb, List.append_assoc, List.append_assoc, List.append_assoc, List.append_cancel_left_eq] at hu
  have hnil := h b u (by rw [hu, List.append_assoc])
  subst hnil
  have := congrArg List.length hb
  simp only [List.length_take, List.length_append, List.length_nil] at this hlen
  congr 1
  omega

/-- Only its first character can start an occurrence, and it does not come again. -/
theorem rfind_append_of_not_mem {c : Char} {pat t : Str} (hp : c ∉ pat) (ht : c ∉ t) (a : Str) :
    rfind (c :: pat) (a ++ c :: pat ++ t) = some a.length := by
  refine rfind_append fun b u h => ?_
  cases b with
  | nil => rfl
  | cons x b =>
    simp only [List.cons_append, List.cons.injEq, List.append_assoc] at h
    have hc : c ∈ pat ++ t := by rw [h.2]; simp
    rcases List.mem_append.mp hc with hc | hc
    · exact absurd hc hp
    · exact absurd hc ht

/-! ## Numerals -/

def decimal (n : Nat) : Str := Nat.toDigits 10 n

def decimalInt (n : Int) : Str := if n < 0 then '-' :: decimal (-n).toNat else decimal n.toNat

/-- Rust's `FromStr` of an unsigned integer of `w` bits: an optional `+`, then digits. -/
def parseUint (w : Nat) (s : Str) : Option Nat :=
  let digits := (stripPrefix ['+'] s).getD s
  if digits ≠ [] ∧ digits.all Char.isDigit then
    let n := Nat.ofDigitChars 10 digits 0
    if n < 2 ^ w then some n else none
  else none

theorem isDigit_of_mem_decimal {n : Nat} {c : Char} (h : c ∈ decimal n) : c.isDigit = true :=
  Nat.isDigit_of_mem_toDigits (by decide) (by decide) h

theorem not_mem_decimal {c : Char} (h : c.isDigit = false) (n : Nat) : c ∉ decimal n := by
  intro hc
  rw [isDigit_of_mem_decimal hc] at h
  cases h

theorem decimal_ne_nil (n : Nat) : decimal n ≠ [] := Nat.toDigits_ne_nil

theorem parseUint_decimal {w n : Nat} (h : n < 2 ^ w) : parseUint w (decimal n) = some n := by
  have hp : stripPrefix ['+'] (decimal n) = none := by
    rw [stripPrefix_eq_none]
    intro h
    obtain ⟨t, ht⟩ := h
    exact not_mem_decimal (c := '+') (by decide) n (by rw [← ht]; simp)
  have hd : (decimal n).all Char.isDigit = true := List.all_eq_true.mpr fun c hc => isDigit_of_mem_decimal hc
  have hv : Nat.ofDigitChars 10 (decimal n) 0 = n := Nat.ofDigitChars_ten_toDigits
  simp [parseUint, hp, hd, hv, h, decimal_ne_nil]

theorem parseUint_lt {w n : Nat} {s : Str} (h : parseUint w s = some n) : n < 2 ^ w := by
  simp only [parseUint] at h
  split at h
  · split at h
    · cases h; assumption
    · cases h
  · cases h

/-! ## Debug formatting -/

/-- What `{:?}` writes for a character between the quotes `quote` (`char::escape_debug`). -/
def escapeDebug (quote c : Char) : Str :=
  if c = '\x00' then "\\0"
  else if c = '\t' then "\\t"
  else if c = '\r' then "\\r"
  else if c = '\n' then "\\n"
  else if c = quote ∨ c = '\\' then ['\\', c]
  else if isPrintable c ∧ ¬isGraphemeExtended c then [c]
  else "\\u\x7b".toList ++ Nat.toDigits 16 c.toNat ++ "\x7d".toList

def debugChar (c : Char) : Str := '\'' :: escapeDebug '\'' c ++ ['\'']

def debugStr (s : Str) : Str := '"' :: s.flatMap (escapeDebug '"') ++ ['"']

def debugStrs (l : List Str) : Str := '[' :: [',', ' '].intercalate (l.map debugStr) ++ [']']

/-- A combining accent is written as its code, an accented letter as it is. -/
example : debugStr ['e', '\u0301', '\u00e9'] = "\"e\\u\x7b301\x7d\u00e9\"".toList := by decide +kernel

end Text
