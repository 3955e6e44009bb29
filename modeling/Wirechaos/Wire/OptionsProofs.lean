/-
  Wirechaos.Wire.OptionsProofs — what `parse_options` reads of an options string
  (see `Wirechaos.Wire.StartupConfig`).

  `Splits s tokens` is the grammar behind `split_option_tokens`, given without the scan; every
  text has the tokens of the scan and no others (`splits_splitOptionTokens`,
  `splitOptionTokens_eq`). `OptionArg` is what the loop of `parse_options` takes in one step,
  one token or two.

  - `exists_settings`, `get_parseOptions`: a string that is parsed is a list of settings in
    three forms, and the last one of a key is what it sets.
  - `options_round_trip`: settings that were written in any of the forms read back.
  - `spellings_agree_iff`: exactly when the three forms of one setting mean the same.
-/

import Wirechaos.Wire.StartupConfigProofs

namespace Wirechaos

open Text

/-! ## Tokens -/

def IsBlank (c : Char) : Prop := c = ' ' ∨ c = '\t'

theorem IsBlank.ne_backslash {c : Char} (h : IsBlank c) : c ≠ '\\' := by
  obtain rfl | rfl := h <;> decide

/-- A piece of text and the token that it spells: a backslash takes the character behind it
    as it is. -/
inductive Spells : Str → Str → Prop
  | nil : Spells [] []
  | plain (c : Char) {text token : Str} : ¬IsBlank c → c ≠ '\\' → Spells text token → Spells (c :: text) (c :: token)
  | escaped (c : Char) {text token : Str} : Spells text token → Spells ('\\' :: c :: text) (c :: token)

/-- A backslash with nothing behind it says nothing. -/
def Dangling (rest : Str) : Prop := rest = [] ∨ rest = ['\\']

/-- A text and its tokens: each spelled somehow, a blank behind each but the last, and any
    further blanks before it. -/
inductive Splits : Str → List Str → Prop
  | blanks (run : Str) {rest : Str} : (∀ c ∈ run, IsBlank c) → Dangling rest → Splits (run ++ rest) []
  | last (run : Str) {text token rest : Str} : (∀ c ∈ run, IsBlank c) → Spells text token → token ≠ [] →
      Dangling rest → Splits (run ++ text ++ rest) [token]
  | cons (run : Str) (c : Char) {text token s : Str} {tokens : List Str} : (∀ c ∈ run, IsBlank c) →
      Spells text token → token ≠ [] → IsBlank c → Splits s tokens → Splits (run ++ text ++ c :: s) (token :: tokens)

theorem Spells.append {text token text' token' : Str} (h : Spells text token) (h' : Spells text' token') :
    Spells (text ++ text') (token ++ token') := by
  induction h with
  | nil => exact h'
  | plain c hblank hslash _ ih => exact .plain c hblank hslash ih
  | escaped c _ ih => exact .escaped c ih

theorem Spells.eq_nil {text : Str} (h : Spells text []) : text = [] := by
  cases h
  rfl

theorem Splits.blank {c : Char} (hc : IsBlank c) {s : Str} {tokens : List Str} (h : Splits s tokens) :
    Splits (c :: s) tokens := by
  cases h with
  | blanks run hrun hrest => exact .blanks (c :: run) (List.forall_mem_cons.mpr ⟨hc, hrun⟩) hrest
  | last run hrun hspells hne hrest => exact .last (c :: run) (List.forall_mem_cons.mpr ⟨hc, hrun⟩) hspells hne hrest
  | cons run d hrun hspells hne hd hrest =>
    exact .cons (c :: run) d (List.forall_mem_cons.mpr ⟨hc, hrun⟩) hspells hne hd hrest

/-! ### What the scan finds -/

theorem splitOptionTokensFrom_blank {c : Char} (hc : IsBlank c) (s curr : Str) :
    splitOptionTokensFrom (c :: s) curr false =
      if curr = [] then splitOptionTokensFrom s curr false else curr :: splitOptionTokensFrom s [] false := by
  rw [splitOptionTokensFrom, if_neg hc.ne_backslash]
  exact if_pos hc

theorem splitOptionTokensFrom_plain {c : Char} (hblank : ¬IsBlank c) (hslash : c ≠ '\\') (s curr : Str) :
    splitOptionTokensFrom (c :: s) curr false = splitOptionTokensFrom s (curr ++ [c]) false := by
  rw [splitOptionTokensFrom, if_neg hslash]
  exact if_neg hblank

theorem splitOptionTokensFrom_run {run : Str} (h : ∀ c ∈ run, IsBlank c) (s : Str) :
    splitOptionTokensFrom (run ++ s) [] false = splitOptionTokensFrom s [] false := by
  induction run with
  | nil => rfl
  | cons c run ih =>
    rw [List.cons_append, splitOptionTokensFrom_blank (h c (by simp)), if_pos rfl]
    exact ih fun d hd => h d (List.mem_cons_of_mem _ hd)

theorem splitOptionTokensFrom_spells {text token : Str} (h : Spells text token) (s curr : Str) :
    splitOptionTokensFrom (text ++ s) curr false = splitOptionTokensFrom s (curr ++ token) false := by
  induction h generalizing curr with
  | nil => simp
  | plain c hblank hslash _ ih =>
    rw [List.cons_append, splitOptionTokensFrom_plain hblank hslash, ih]
    simp
  | @escaped c text token _ ih =>
    show splitOptionTokensFrom (text ++ s) (curr ++ [c]) false = _
    rw [ih]
    simp

theorem splitOptionTokensFrom_dangling {rest : Str} (h : Dangling rest) (curr : Str) :
    splitOptionTokensFrom rest curr false = if curr = [] then [] else [curr] := by
  obtain rfl | rfl := h <;> rfl

/-- A text has no other tokens than those of the scan. -/
theorem splitOptionTokens_eq {s : Str} {tokens : List Str} (h : Splits s tokens) : splitOptionTokens s = tokens := by
  unfold splitOptionTokens
  induction h with
  | blanks run hrun hrest =>
    rw [splitOptionTokensFrom_run hrun, splitOptionTokensFrom_dangling hrest]
    exact if_pos rfl
  | last run hrun hspells hne hrest =>
    rw [List.append_assoc, splitOptionTokensFrom_run hrun, splitOptionTokensFrom_spells hspells,
      splitOptionTokensFrom_dangling hrest]
    exact if_neg hne
  | cons run c hrun hspells hne hc _ ih =>
    rw [List.append_assoc, splitOptionTokensFrom_run hrun, splitOptionTokensFrom_spells hspells, List.nil_append,
      splitOptionTokensFrom_blank hc, if_neg hne, ih]

/-- `text` is what was read of the token so far, with a backslash behind it when the next
    character is escaped. -/
theorem splits_splitOptionTokensFrom (s : Str) {text curr : Str} (h : Spells text curr) :
    Splits (text ++ s) (splitOptionTokensFrom s curr false) ∧
      Splits (text ++ '\\' :: s) (splitOptionTokensFrom s curr true) := by
  induction s generalizing text curr with
  | nil =>
    by_cases hcurr : curr = []
    · subst hcurr
      obtain rfl := h.eq_nil
      exact ⟨.blanks [] (by simp) (.inl rfl), .blanks [] (by simp) (.inr rfl)⟩
    · have hlast {rest : Str} (hrest : Dangling rest) : Splits (text ++ rest) [curr] := .last [] (by simp) h hcurr hrest
      have hend (escaped : Bool) : splitOptionTokensFrom [] curr escaped = [curr] := if_neg hcurr
      rw [hend, hend]
      exact ⟨hlast (.inl rfl), hlast (.inr rfl)⟩
  | cons c s ih =>
    constructor
    · by_cases hslash : c = '\\'
      · subst hslash
        exact (ih h).2
      by_cases hblank : IsBlank c
      · have hrest : Splits s (splitOptionTokensFrom s [] false) := (ih .nil).1
        rw [splitOptionTokensFrom_blank hblank]
        by_cases hcurr : curr = []
        · subst hcurr
          obtain rfl := h.eq_nil
          exact hrest.blank hblank
        · rw [if_neg hcurr]
          exact .cons [] c (by simp) h hcurr hblank hrest
      · have hmore := (ih (h.append (.plain c hblank hslash .nil))).1
        rw [List.append_assoc] at hmore
        rw [splitOptionTokensFrom_plain hblank hslash]
        exact hmore
    · have hmore := (ih (h.append (.escaped c .nil))).1
      rwa [List.append_assoc] at hmore

/-- Every text splits: blanks, escapes and the end cannot go wrong. -/
theorem splits_splitOptionTokens (s : Str) : Splits s (splitOptionTokens s) :=
  (splits_splitOptionTokensFrom s .nil).1

/-! ### Writing tokens -/

/-- A blank or a backslash stands behind a backslash. -/
def escapeChar (c : Char) : Str := if c = ' ' ∨ c = '\t' ∨ c = '\\' then ['\\', c] else [c]

def escape (token : Str) : Str := token.flatMap escapeChar

/-- Escaped tokens, each but the last followed by a run of blanks; there may be a run at
    either end. -/
inductive Written : List Str → Str → Prop
  | blanks (run : Str) : (∀ c ∈ run, IsBlank c) → Written [] run
  | last (run token : Str) : (∀ c ∈ run, IsBlank c) → token ≠ [] → Written [token] (run ++ escape token)
  | cons (run token : Str) (c : Char) {tokens : List Str} {s : Str} : (∀ c ∈ run, IsBlank c) → token ≠ [] →
      IsBlank c → Written tokens s → Written (token :: tokens) (run ++ escape token ++ c :: s)

theorem spells_escape (token : Str) : Spells (escape token) token := by
  induction token with
  | nil => exact .nil
  | cons c token ih =>
    show Spells (escapeChar c ++ escape token) (c :: token)
    rw [escapeChar]
    by_cases hc : c = ' ' ∨ c = '\t' ∨ c = '\\'
    · rw [if_pos hc]
      exact .escaped c ih
    · rw [if_neg hc]
      simp only [not_or] at hc
      exact .plain c (fun h => h.elim hc.1 hc.2.1) hc.2.2 ih

theorem Written.splits {tokens : List Str} {s : Str} (h : Written tokens s) : Splits s tokens := by
  induction h with
  | blanks run hrun =>
    have := Splits.blanks run hrun (.inl rfl)
    rwa [List.append_nil] at this
  | last run token hrun hne =>
    have := Splits.last run hrun (spells_escape token) hne (.inl rfl)
    rwa [List.append_nil] at this
  | cons run token c hrun hne hc _ ih => exact .cons run c hrun (spells_escape token) hne hc ih

/-! ## One option -/

/-- What one step of `parse_options` takes: `-c` and the token behind it, or one token. -/
inductive OptionArg where
  | dashC (valueToken : Str)
  | word (token : Str) (h : token ≠ "-c")

namespace OptionArg

def tokens : OptionArg → List Str
  | dashC valueToken => ["-c", valueToken]
  | word token _ => [token]

/-- The setting of an option, if it is one. -/
def setting : OptionArg → Option (Str × Str)
  | dashC valueToken => (splitKeyValue valueToken).toOption
  | word token _ =>
    if startsWith "-c" token then (splitKeyValue (token.drop 2)).toOption
    else if startsWith "--" token then (splitKeyValue (token.drop 2)).toOption.map fun p => (normalizeKey p.1, p.2)
    else none

end OptionArg

theorem splitKeyValue_error {token : Str} {e : ProxyError} (h : splitKeyValue token = .error e) :
    e = connectionError .invalidData := by
  unfold splitKeyValue at h
  split at h
  · cases h
    rfl
  · split at h
    · cases h
      rfl
    · cases h

theorem parseOptionTokens_arg (arg : OptionArg) (rest : List Str) (result : Params) :
    parseOptionTokens (arg.tokens ++ rest) result =
      match arg.setting with
      | none => .error (connectionError .invalidData)
      | some (key, value) => parseOptionTokens rest (result.insert key value) := by
  cases arg with
  | dashC valueToken =>
    show parseOptionTokens ("-c" :: valueToken :: rest) result = _
    rw [parseOptionTokens, if_pos rfl]
    unfold OptionArg.setting
    dsimp only
    cases hsplit : splitKeyValue valueToken with
    | error e => simp [Except.toOption, splitKeyValue_error hsplit]
    | ok p => simp [Except.toOption]
  | word token hne =>
    show parseOptionTokens (token :: rest) result = _
    rw [parseOptionTokens.eq_def]
    unfold OptionArg.setting
    dsimp only
    rw [if_neg hne]
    by_cases hjoined : startsWith "-c" token
    · rw [if_pos hjoined, if_pos hjoined]
      cases hsplit : splitKeyValue (token.drop 2) with
      | error e => simp [Except.toOption, splitKeyValue_error hsplit]
      | ok p => simp [Except.toOption]
    · rw [if_neg hjoined, if_neg hjoined]
      by_cases hdashed : startsWith "--" token
      · rw [if_pos hdashed, if_pos hdashed]
        cases hsplit : splitKeyValue (token.drop 2) with
        | error e => simp [Except.toOption, splitKeyValue_error hsplit]
        | ok p => simp [Except.toOption]
      · rw [if_neg hdashed, if_neg hdashed]

/-- The whole loop: every option is a setting, and a later one wins; or one is malformed. -/
theorem parseOptionTokens_args (args : List OptionArg) (result : Params) :
    ((∃ arg ∈ args, arg.setting = none) ∧
      parseOptionTokens (args.flatMap OptionArg.tokens) result = .error (connectionError .invalidData)) ∨
    ((∀ arg ∈ args, arg.setting ≠ none) ∧
      parseOptionTokens (args.flatMap OptionArg.tokens) result =
        .ok (insertPairs result (args.filterMap OptionArg.setting))) := by
  induction args generalizing result with
  | nil => exact .inr ⟨by simp, rfl⟩
  | cons arg args ih =>
    rw [List.flatMap_cons, parseOptionTokens_arg]
    cases hsetting : arg.setting with
    | none => exact .inl ⟨⟨arg, by simp, hsetting⟩, rfl⟩
    | some p =>
      obtain ⟨key, value⟩ := p
      obtain ⟨⟨bad, hmem, hbad⟩, hrest⟩ | ⟨hgood, hrest⟩ := ih (result.insert key value)
      · exact .inl ⟨⟨bad, List.mem_cons_of_mem _ hmem, hbad⟩, hrest⟩
      · refine .inr ⟨List.forall_mem_cons.mpr ⟨by simp [hsetting], hgood⟩, ?_⟩
        rw [List.filterMap_cons_some hsetting]
        exact hrest

/-! ## Settings and their forms -/

inductive Spelling where
  /-- `-c k=v`. -/
  | spaced
  /-- `-ck=v`. -/
  | joined
  /-- `--k=v`. -/
  | dashed
  deriving DecidableEq, Repr

/-- A setting that can be written. -/
structure Setting where
  key : Str
  value : Str
  key_ne : key ≠ []
  key_eq : '=' ∉ key
  value_ne : value ≠ []

theorem normalizeKey_eq_self {key : Str} : normalizeKey key = key ↔ '-' ∉ key := by
  induction key with
  | nil => simp [normalizeKey]
  | cons c key ih =>
    have hcons : normalizeKey (c :: key) = (if c = '-' then '_' else c) :: normalizeKey key := rfl
    rw [hcons, List.cons.injEq, ih, List.mem_cons, not_or]
    by_cases hc : c = '-'
    · subst hc
      simp
    · simp [hc, Ne.symm hc]

namespace Setting

def text (s : Setting) : Str := s.key ++ '=' :: s.value

def tokens (s : Setting) : Spelling → List Str
  | .spaced => ["-c", s.text]
  | .joined => ['-' :: 'c' :: s.text]
  | .dashed => ['-' :: '-' :: s.text]

/-- The key that a form sets. -/
def keyAs (s : Setting) : Spelling → Str
  | .spaced => s.key
  | .joined => s.key
  | .dashed => normalizeKey s.key

theorem text_ne (s : Setting) : s.text ≠ [] := by simp [text]

theorem splitKeyValue_text (s : Setting) : splitKeyValue s.text = .ok (s.key, s.value) := by
  have hsplit : splitOnce '=' s.text = some (s.key, s.value) := splitOnce_eq_some.mpr ⟨rfl, s.key_eq⟩
  have hne : ¬(s.key = [] ∨ s.value = []) := fun h => h.elim s.key_ne s.value_ne
  rw [splitKeyValue, hsplit]
  exact if_neg hne

theorem of_splitKeyValue {token key value : Str} (h : splitKeyValue token = .ok (key, value)) :
    ∃ s : Setting, s.text = token := by
  unfold splitKeyValue at h
  split at h
  · cases h
  · rename_i hsplit
    obtain ⟨rfl, heq⟩ := splitOnce_eq_some.mp hsplit
    split at h
    · cases h
    · rename_i hne
      exact ⟨⟨_, _, fun hkey => hne (.inl hkey), heq, fun hvalue => hne (.inr hvalue)⟩, rfl⟩

/-- A setting in one of its forms, as the loop takes it. -/
def arg (s : Setting) : Spelling → OptionArg
  | .spaced => .dashC s.text
  | .joined => .word ('-' :: 'c' :: s.text) fun h => s.text_ne (List.cons.inj (List.cons.inj h).2).2
  | .dashed => .word ('-' :: '-' :: s.text) fun h => absurd (List.cons.inj (List.cons.inj h).2).1 (by decide)

theorem tokens_arg (s : Setting) (f : Spelling) : (s.arg f).tokens = s.tokens f := by
  cases f <;> rfl

theorem setting_arg (s : Setting) (f : Spelling) : (s.arg f).setting = some (s.keyAs f, s.value) := by
  cases f with
  | spaced =>
    show (splitKeyValue s.text).toOption = _
    rw [splitKeyValue_text]
    rfl
  | joined =>
    have hstart : startsWith "-c" ('-' :: 'c' :: s.text) = true := startsWith_iff.mpr ⟨s.text, rfl⟩
    rw [arg, OptionArg.setting, if_pos hstart]
    show (splitKeyValue s.text).toOption = _
    rw [splitKeyValue_text]
    rfl
  | dashed =>
    have hnot : ¬startsWith "-c" ('-' :: '-' :: s.text) = true := by
      intro h
      obtain ⟨t, ht⟩ := startsWith_iff.mp h
      exact absurd (List.cons.inj (List.cons.inj ht).2).1 (by decide)
    have hstart : startsWith "--" ('-' :: '-' :: s.text) = true := startsWith_iff.mpr ⟨s.text, rfl⟩
    rw [arg, OptionArg.setting, if_neg hnot, if_pos hstart]
    show (splitKeyValue s.text).toOption.map _ = _
    rw [splitKeyValue_text]
    rfl

end Setting

/-! ## What a string sets -/

/-- The tokens of settings in their forms are parsed, and a later setting wins. -/
theorem parseOptions_settings {settings : List (Setting × Spelling)} {s : Str}
    (h : splitOptionTokens s = settings.flatMap fun p => p.1.tokens p.2) :
    ∃ result, parseOptions s = .ok result ∧
      ∀ key, result.get key = (settings.map fun p => (p.1.keyAs p.2, p.1.value)).reverse.lookup key := by
  have hargs : settings.flatMap (fun p => p.1.tokens p.2) =
      (settings.map fun p => p.1.arg p.2).flatMap OptionArg.tokens := by
    simp only [List.flatMap_map, Setting.tokens_arg]
  have hsettings : (settings.map fun p => p.1.arg p.2).filterMap OptionArg.setting =
      settings.map fun p => (p.1.keyAs p.2, p.1.value) := by
    rw [List.filterMap_map, ← List.filterMap_eq_map]
    refine List.filterMap_congr fun p _ => ?_
    exact p.1.setting_arg p.2
  obtain ⟨⟨bad, hmem, hbad⟩, -⟩ | ⟨-, hparse⟩ := parseOptionTokens_args (settings.map fun p => p.1.arg p.2) ∅
  · obtain ⟨p, -, rfl⟩ := List.mem_map.mp hmem
    rw [Setting.setting_arg] at hbad
    cases hbad
  · rw [hsettings] at hparse
    refine ⟨insertPairs ∅ (settings.map fun p => (p.1.keyAs p.2, p.1.value)), ?_, fun key => ?_⟩
    · rw [parseOptions, h, hargs]
      exact hparse
    · have hempty : (∅ : Params).get key = none := AList.lookup_empty key
      rw [get_insertPairs_last, hempty, Option.or_none]

/-- And no other tokens are. -/
theorem exists_settings_tokens {tokens : List Str} {result parsed : Params}
    (h : parseOptionTokens tokens result = .ok parsed) :
    ∃ settings : List (Setting × Spelling), tokens = settings.flatMap fun p => p.1.tokens p.2 := by
  fun_induction parseOptionTokens tokens result with
  | case1 => exact ⟨[], rfl⟩
  | case2 => cases h
  | case3 => cases h
  | case4 result valueToken rest key value hsplit ih =>
    obtain ⟨setting, rfl⟩ := Setting.of_splitKeyValue hsplit
    obtain ⟨settings, rfl⟩ := ih h
    exact ⟨(setting, .spaced) :: settings, rfl⟩
  | case5 => cases h
  | case6 token rest result hne hjoined key value hsplit ih =>
    obtain ⟨_, rfl⟩ := startsWith_iff.mp hjoined
    obtain ⟨setting, htext⟩ := Setting.of_splitKeyValue hsplit
    obtain ⟨settings, rfl⟩ := ih h
    exact ⟨(setting, .joined) :: settings, by rw [List.flatMap_cons, Setting.tokens, htext]; rfl⟩
  | case7 => cases h
  | case8 token rest result hne hnot hdashed key value hsplit ih =>
    obtain ⟨_, rfl⟩ := startsWith_iff.mp hdashed
    obtain ⟨setting, htext⟩ := Setting.of_splitKeyValue hsplit
    obtain ⟨settings, rfl⟩ := ih h
    exact ⟨(setting, .dashed) :: settings, by rw [List.flatMap_cons, Setting.tokens, htext]; rfl⟩
  | case9 => cases h

/-- What a string that is parsed says, whatever the blanks and escapes it is written with. -/
theorem exists_settings {s : Str} {parsed : Params} (h : parseOptions s = .ok parsed) :
    ∃ settings : List (Setting × Spelling), Splits s (settings.flatMap fun p => p.1.tokens p.2) := by
  obtain ⟨settings, htokens⟩ := exists_settings_tokens h
  exact ⟨settings, htokens ▸ splits_splitOptionTokens s⟩

/-- The value of the last setting that names a key. -/
def lastValue (settings : List (Setting × Spelling)) (key : Str) : Option Str :=
  (settings.reverse.find? fun p => p.1.key = key).map fun p => p.1.value

/-- A key of neither dashes nor underscores is named alike in every form. -/
theorem Setting.keyAs_eq_iff {key : Str} (hdash : '-' ∉ key) (hunder : '_' ∉ key) (s : Setting) (f : Spelling) :
    s.keyAs f = key ↔ s.key = key := by
  cases f with
  | spaced => exact Iff.rfl
  | joined => exact Iff.rfl
  | dashed =>
    constructor
    · intro h
      have hkey : '-' ∉ s.key := by
        intro hmem
        have : '_' ∈ normalizeKey s.key := List.mem_map.mpr ⟨'-', hmem, rfl⟩
        exact hunder (h ▸ this)
      exact (normalizeKey_eq_self.mpr hkey).symm.trans h
    · intro h
      exact h ▸ normalizeKey_eq_self.mpr (h ▸ hdash)

theorem get_parseOptions {settings : List (Setting × Spelling)} {s : Str} {parsed : Params} (h : parseOptions s = .ok parsed)
    (hsettings : Splits s (settings.flatMap fun p => p.1.tokens p.2)) {key : Str} (hdash : '-' ∉ key) (hunder : '_' ∉ key) :
    parsed.get key = lastValue settings key := by
  obtain ⟨result, hparse, hget⟩ := parseOptions_settings (splitOptionTokens_eq hsettings)
  obtain rfl : result = parsed := Except.ok.inj (hparse.symm.trans h)
  rw [hget, lastValue, ← List.map_reverse]
  induction settings.reverse with
  | nil => rfl
  | cons p l ih =>
    rw [List.map_cons, List.lookup_cons, List.find?_cons]
    by_cases hkey : p.1.key = key
    · simp [hkey, (p.1.keyAs_eq_iff hdash hunder p.2).mpr hkey]
    · have hne : key ≠ p.1.keyAs p.2 := fun h => hkey ((p.1.keyAs_eq_iff hdash hunder p.2).mp h.symm)
      simp [hkey, beq_false_of_ne hne, ih]

/-! ## Round trip -/

/-- Settings in any forms, however far apart they are written: the string splits into their
    tokens, and the map has the last setting of every key. -/
theorem options_round_trip (settings : List (Setting × Spelling)) (s : Str)
    (h : Written (settings.flatMap fun p => p.1.tokens p.2) s) :
    splitOptionTokens s = settings.flatMap (fun p => p.1.tokens p.2) ∧
    ∃ result, parseOptions s = .ok result ∧
      ∀ key, result.get key = (settings.map fun p => (p.1.keyAs p.2, p.1.value)).reverse.lookup key := by
  have htokens := splitOptionTokens_eq h.splits
  exact ⟨htokens, parseOptions_settings htokens⟩

namespace Sample

def workMem : Setting := ⟨"work_mem", "4 MB", by decide, by decide, by decide⟩

def searchPath : Setting := ⟨"search-path", "a\\b", by decide, by decide, by decide⟩

end Sample

theorem options_round_trip_sample :
    splitOptionTokens "-c work_mem=4\\ MB\t --search-path=a\\\\b" = ["-c", "work_mem=4 MB", "--search-path=a\\b"] ∧
    ∃ result, parseOptions "-c work_mem=4\\ MB\t --search-path=a\\\\b" = .ok result ∧
      ∀ key, result.get key = List.lookup key [("search_path".toList, "a\\b".toList), ("work_mem".toList, "4 MB".toList)] := by
  have hwritten : Written ["-c", "work_mem=4 MB", "--search-path=a\\b"] "-c work_mem=4\\ MB\t --search-path=a\\\\b" := by
    have hlast : Written ["--search-path=a\\b"] " --search-path=a\\\\b" :=
      .last [' '] _ (by simp [IsBlank]) (by decide)
    have hvalue := Written.cons [] "work_mem=4 MB" '\t' (by simp) (by decide) (.inr rfl) hlast
    exact .cons [] "-c" ' ' (by simp) (by decide) (.inl rfl) hvalue
  exact options_round_trip [(Sample.workMem, .spaced), (Sample.searchPath, .dashed)]
    "-c work_mem=4\\ MB\t --search-path=a\\\\b" hwritten

/-! ## The forms of one setting -/

/-- The same error, or maps with the same settings. -/
def SameResult (r r' : Except ProxyError Params) : Prop := r.map Params.get = r'.map Params.get

section Spellings

variable (setting : Setting) (before after : List OptionArg)

/-- What options set a key to. -/
def lastSet (args : List OptionArg) (key : Str) : Option Str := (args.filterMap OptionArg.setting).reverse.lookup key

/-- The options around a setting, and the setting in one of its forms. -/
def around (f : Spelling) : List OptionArg := before ++ setting.arg f :: after

theorem tokens_around (f : Spelling) : (around setting before after f).flatMap OptionArg.tokens =
    before.flatMap OptionArg.tokens ++ setting.tokens f ++ after.flatMap OptionArg.tokens := by
  simp [around, Setting.tokens_arg]

/-- The value of a key among well-formed options. -/
theorem get_around (f : Spelling) (key : Str) :
    (insertPairs ∅ ((around setting before after f).filterMap OptionArg.setting)).get key =
      (lastSet after key).or (if key = setting.keyAs f then some setting.value else lastSet before key) := by
  have hsettings : (around setting before after f).filterMap OptionArg.setting =
      before.filterMap OptionArg.setting ++ (setting.keyAs f, setting.value) :: after.filterMap OptionArg.setting := by
    rw [around, List.filterMap_append, List.filterMap_cons_some (setting.setting_arg f)]
  have hempty : (∅ : Params).get key = none := AList.lookup_empty key
  rw [get_insertPairs_last, hempty, Option.or_none, hsettings, List.reverse_append, List.reverse_cons,
    List.lookup_append, List.lookup_append, Option.or_assoc]
  show (lastSet after key).or _ = _
  congr 1
  by_cases hkey : key = setting.keyAs f
  · rw [if_pos hkey, hkey]
    simp
  · rw [if_neg hkey, List.lookup_cons, beq_false_of_ne hkey]
    rfl

/-- Either an option around it is malformed, and so is the string in every form of the
    setting; or the maps are those of `get_around`. -/
theorem parse_around (options : Spelling → Str)
    (h : ∀ f, splitOptionTokens (options f) =
      before.flatMap OptionArg.tokens ++ setting.tokens f ++ after.flatMap OptionArg.tokens) :
    ((∃ arg ∈ before ++ after, arg.setting = none) ∧
      ∀ f, parseOptions (options f) = .error (connectionError .invalidData)) ∨
    ((¬∃ arg ∈ before ++ after, arg.setting = none) ∧
      ∀ f, parseOptions (options f) = .ok (insertPairs ∅ ((around setting before after f).filterMap OptionArg.setting))) := by
  have hparse (f : Spelling) : parseOptions (options f) =
      parseOptionTokens ((around setting before after f).flatMap OptionArg.tokens) ∅ := by
    rw [parseOptions, h f, tokens_around]
  have hmem (f : Spelling) (arg : OptionArg) : arg ∈ around setting before after f ↔
      arg = setting.arg f ∨ arg ∈ before ++ after := by
    simp only [around, List.mem_append, List.mem_cons]
    tauto
  by_cases hbad : ∃ arg ∈ before ++ after, arg.setting = none
  · refine .inl ⟨hbad, fun f => ?_⟩
    obtain ⟨bad, hin, hnone⟩ := hbad
    rw [hparse]
    obtain ⟨-, herror⟩ | ⟨hgood, -⟩ := parseOptionTokens_args (around setting before after f) ∅
    · exact herror
    · exact absurd hnone (hgood bad ((hmem f bad).mpr (.inr hin)))
  · refine .inr ⟨hbad, fun f => ?_⟩
    rw [hparse]
    obtain ⟨⟨bad, hin, hnone⟩, -⟩ | ⟨-, hok⟩ := parseOptionTokens_args (around setting before after f) ∅
    · obtain hself | hin := (hmem f bad).mp hin
      · rw [hself, Setting.setting_arg] at hnone
        cases hnone
      · exact absurd ⟨bad, hin, hnone⟩ hbad
    · exact hok

/-- The maps of two forms differ at most at the two names of the key. -/
theorem lookups_agree_iff (later earlier : Str → Option Str) :
    (∀ f g key, (later key).or (if key = setting.keyAs f then some setting.value else earlier key) =
      (later key).or (if key = setting.keyAs g then some setting.value else earlier key)) ↔
    '-' ∉ setting.key ∨ ∀ key, key = setting.key ∨ key = normalizeKey setting.key →
      later key ≠ none ∨ earlier key = some setting.value := by
  by_cases hdash : '-' ∈ setting.key
  · rw [or_iff_right (not_not.mpr hdash)]
    have hne : normalizeKey setting.key ≠ setting.key := fun heq => normalizeKey_eq_self.mp heq hdash
    constructor
    · intro hall key hkey
      have hkeys := hall .joined .dashed key
      cases hlast : later key with
      | some value => simp
      | none =>
        right
        rw [hlast, Option.none_or, Option.none_or] at hkeys
        obtain rfl | rfl := hkey
        · rw [if_pos (show setting.key = setting.keyAs .joined from rfl),
            if_neg (show setting.key ≠ setting.keyAs .dashed from Ne.symm hne)] at hkeys
          exact hkeys.symm
        · rw [if_neg (show normalizeKey setting.key ≠ setting.keyAs .joined from hne),
            if_pos (show normalizeKey setting.key = setting.keyAs .dashed from rfl)] at hkeys
          exact hkeys
    · intro hset f g key
      have heither (f : Spelling) : (later key).or (if key = setting.keyAs f then some setting.value else earlier key) =
          (later key).or (earlier key) := by
        by_cases hkey : key = setting.keyAs f
        · have hname : key = setting.key ∨ key = normalizeKey setting.key := by
            cases f with
            | spaced => exact .inl hkey
            | joined => exact .inl hkey
            | dashed => exact .inr hkey
          rw [if_pos hkey]
          obtain hlast | hlast := hset key hname
          · obtain ⟨value, hvalue⟩ := Option.ne_none_iff_exists'.mp hlast
            rw [hvalue]
            rfl
          · rw [hlast]
        · rw [if_neg hkey]
      rw [heither f, heither g]
  · refine iff_of_true (fun f g key => ?_) (.inl hdash)
    have hkeyAs (f : Spelling) : setting.keyAs f = setting.key := by
      cases f with
      | spaced => rfl
      | joined => rfl
      | dashed => exact normalizeKey_eq_self.mpr hdash
    rw [hkeyAs f, hkeyAs g]

/-- Whatever stands around it, a setting means the same in its three forms exactly when its
    key has no dash, or an option around it is malformed, or both the key as it is and the
    key with underscores are set again behind it or had its value before it. -/
theorem spellings_agree_iff (options : Spelling → Str)
    (h : ∀ f, splitOptionTokens (options f) =
      before.flatMap OptionArg.tokens ++ setting.tokens f ++ after.flatMap OptionArg.tokens) :
    (∀ f g, SameResult (parseOptions (options f)) (parseOptions (options g))) ↔
      (∃ arg ∈ before ++ after, arg.setting = none) ∨ '-' ∉ setting.key ∨
      ∀ key, key = setting.key ∨ key = normalizeKey setting.key →
        lastSet after key ≠ none ∨ lastSet before key = some setting.value := by
  obtain ⟨hbad, herror⟩ | ⟨hgood, hok⟩ := parse_around setting before after options h
  · refine iff_of_true (fun f g => ?_) (.inl hbad)
    show (parseOptions (options f)).map _ = (parseOptions (options g)).map _
    rw [herror f, herror g]
  · have hsame (f g : Spelling) : SameResult (parseOptions (options f)) (parseOptions (options g)) ↔
        ∀ key, (insertPairs ∅ ((around setting before after f).filterMap OptionArg.setting)).get key =
          (insertPairs ∅ ((around setting before after g).filterMap OptionArg.setting)).get key := by
      rw [SameResult, hok f, hok g, Except.map, Except.map, Except.ok.injEq, funext_iff]
    rw [or_iff_right hgood, ← lookups_agree_iff]
    simp only [hsame, get_around]

end Spellings

namespace Sample

def optionsBefore : List OptionArg := [.dashC "work_mem=4"]

/-- The path again, under both its names. -/
def optionsAfter : List OptionArg := [.dashC "search-path=b", .word "--search-path=b" (by decide)]

/-- One setting in its three forms, with options before and behind it. -/
def searchPathAs : Spelling → Str
  | .spaced => "-c work_mem=4 -c search-path=a -c search-path=b --search-path=b"
  | .joined => "-c work_mem=4 -csearch-path=a -c search-path=b --search-path=b"
  | .dashed => "-c work_mem=4 --search-path=a -c search-path=b --search-path=b"

end Sample

theorem spellings_agree_iff_between :
    (∀ f g, SameResult (parseOptions (Sample.searchPathAs f)) (parseOptions (Sample.searchPathAs g))) ↔
      (∃ arg ∈ Sample.optionsBefore ++ Sample.optionsAfter, arg.setting = none) ∨ '-' ∉ "search-path".toList ∨
      ∀ key, key = "search-path".toList ∨ key = "search_path".toList →
        lastSet Sample.optionsAfter key ≠ none ∨ lastSet Sample.optionsBefore key = some "a".toList :=
  spellings_agree_iff ⟨"search-path", "a", by decide, by decide, by decide⟩ Sample.optionsBefore Sample.optionsAfter
    Sample.searchPathAs
    fun f => by cases f <;> decide +kernel

/-- Joined to `-c` the key keeps its dash. -/
theorem spellings_differ :
    ¬SameResult (parseOptions "-csearch-path=a") (parseOptions "--search-path=a") := by
  intro h
  have hlookup (r : Except ProxyError Params) :
      (r.map Params.get).map (fun lookup => lookup "search-path") = r.map fun m => m.get "search-path" := by
    cases r <;> rfl
  have hget := congrArg (fun r => r.map fun lookup => lookup "search-path".toList) h
  rw [hlookup, hlookup] at hget
  have hjoined : (parseOptions "-csearch-path=a").map (fun m => m.get "search-path") = .ok (some "a".toList) := by
    decide +kernel
  have hdashed : (parseOptions "--search-path=a").map (fun m => m.get "search-path") = .ok none := by
    decide +kernel
  rw [hjoined, hdashed] at hget
  cases hget

end Wirechaos
