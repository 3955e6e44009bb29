/-
  Wirechaos.Auth.AttributeProofs — which item of a SCRAM message a value comes from (see
  `Wirechaos.Auth.Scram` and `Wirechaos.Backend.ScramClient`).

  A message is read in three ways: the client-first by a loop in which the last item wins,
  the client-final by one that refuses a repeated item, the server's messages through a map
  keyed by the first character before an `=`. `Sole` says that a value comes from the only
  item of its name; `attributes_unambiguous_iff` says of each reading when that holds.
-/

import Mathlib.Data.List.Induction
import Wirechaos.Auth.ScramProofs
import Wirechaos.Backend.ScramClient

namespace Wirechaos

open Text Async Scram

namespace Scram

/-! ## Items -/

/-- The name of the item is the letter. -/
def Named (letter : Char) (item : Str) : Prop := ∃ value, item = letter :: '=' :: value

/-- The name of the item begins with the letter and goes on. -/
def LongNamed (letter : Char) (item : Str) : Prop :=
  ∃ c name value, item = letter :: c :: name ++ '=' :: value ∧ '=' ∉ letter :: c :: name

/-- How the authenticator reads an item. -/
def readAttr (letter : Char) (item : Str) : Option Str := stripPrefix [letter, '='] item

/-- How the client reads an item. -/
def readKv (letter : Char) (item : Str) : Option Str :=
  (parsePair item).bind fun p => if p.1 = letter then some p.2 else none

/-- The value comes from an item named by the letter, the last item that is read for it,
    and there is no other item of that name. -/
def Sole (read : Str → Option Str) (letter : Char) (value message : Str) : Prop :=
  ∃ pre post, attributes message = pre ++ (letter :: '=' :: value) :: post ∧ (∀ item ∈ post, read item = none) ∧
    ∀ item ∈ pre ++ post, ¬Named letter item

/-- The message has at most one item of the name. -/
def Once (letter : Char) (message : Str) : Prop := ((attributes message).filterMap (readAttr letter)).length ≤ 1

/-- Behind every item with a longer name there is one that the letter names. -/
def Unshadowed (letter : Char) (message : Str) : Prop :=
  ∀ pre item post, attributes message = pre ++ item :: post → LongNamed letter item → ∃ item' ∈ post, Named letter item'

variable {letter : Char} {item value message : Str}

theorem readAttr_eq_some : readAttr letter item = some value ↔ item = letter :: '=' :: value := stripPrefix_eq_some

theorem readAttr_eq_none : readAttr letter item = none ↔ ¬Named letter item := by
  rw [Option.eq_none_iff_forall_ne_some]
  simp only [ne_eq, readAttr_eq_some, Named, not_exists]

theorem readKv_eq_some : readKv letter item = some value ↔
    ∃ name, item = letter :: name ++ '=' :: value ∧ '=' ∉ letter :: name := by
  unfold readKv parsePair
  cases hsplit : splitOnce '=' item with
  | none =>
    have hnot := splitOnce_eq_none.mp hsplit
    constructor
    · intro h
      cases h
    · intro h
      obtain ⟨name, rfl, -⟩ := h
      simp at hnot
  | some p =>
    obtain ⟨key, value'⟩ := p
    obtain ⟨hitem, hkey⟩ := splitOnce_eq_some.mp hsplit
    have hunique (name : Str) (h : item = letter :: name ++ '=' :: value ∧ '=' ∉ letter :: name) :
        key = letter :: name ∧ value' = value := by
      have hsplit' := splitOnce_eq_some.mpr h
      rw [hsplit] at hsplit'
      cases hsplit'
      exact ⟨rfl, rfl⟩
    cases key with
    | nil =>
      constructor
      · intro h
        cases h
      · intro h
        obtain ⟨name, h⟩ := h
        cases (hunique name h).1
    | cons c name =>
      simp only [Option.bind_some]
      by_cases hc : c = letter
      · rw [if_pos hc, Option.some.injEq]
        subst hc
        constructor
        · intro h
          subst h
          exact ⟨name, hitem, hkey⟩
        · intro h
          obtain ⟨name', h⟩ := h
          exact (hunique name' h).2
      · rw [if_neg hc]
        constructor
        · intro h
          cases h
        · intro h
          obtain ⟨name', h⟩ := h
          exact absurd (List.cons.inj (hunique name' h).1).1 hc

theorem not_named_of_long (h : LongNamed letter item) : ¬Named letter item := by
  intro hnamed
  obtain ⟨c, name, value, rfl, hc⟩ := h
  obtain ⟨value', hvalue⟩ := hnamed
  simp only [List.cons_append, List.cons.injEq, true_and] at hvalue
  simp [hvalue.1] at hc

theorem named_or_long (h : readKv letter item = some value) : item = letter :: '=' :: value ∨ LongNamed letter item := by
  obtain ⟨name, hitem, hname⟩ := readKv_eq_some.mp h
  cases name with
  | nil => exact .inl hitem
  | cons c name => exact .inr ⟨c, name, value, hitem, hname⟩

theorem readKv_of_named (hl : letter ≠ '=') (h : Named letter item) : readKv letter item ≠ none := by
  obtain ⟨value, rfl⟩ := h
  have hread : readKv letter (letter :: '=' :: value) = some value :=
    readKv_eq_some.mpr ⟨[], rfl, by simpa using hl.symm⟩
  simp [hread]

theorem readKv_of_long (h : LongNamed letter item) : readKv letter item ≠ none := by
  obtain ⟨c, name, value, hitem, hname⟩ := h
  simp [readKv_eq_some.mpr ⟨c :: name, hitem, hname⟩]

/-! ## The last item that is read -/

/-- The map keeps the last item of each key. -/
theorem lookup_last {items : List Str} (h : (items.filterMap parsePair).reverse.lookup letter = some value) :
    ∃ pre item post, items = pre ++ item :: post ∧ readKv letter item = some value ∧
      ∀ item' ∈ post, readKv letter item' = none := by
  induction items using List.reverseRecOn with
  | nil => cases h
  | append_singleton items last ih =>
    have hbefore (hlookup : (items.filterMap parsePair).reverse.lookup letter = some value)
        (hread : readKv letter last = none) : ∃ pre item post, items ++ [last] = pre ++ item :: post ∧
          readKv letter item = some value ∧ ∀ item' ∈ post, readKv letter item' = none := by
      obtain ⟨pre, item, post, hitems, hitem, hpost⟩ := ih hlookup
      refine ⟨pre, item, post ++ [last], by simp [hitems], hitem, ?_⟩
      exact List.forall_mem_append.mpr ⟨hpost, by simpa using hread⟩
    rw [List.filterMap_append, List.reverse_append] at h
    cases hpair : parsePair last with
    | none =>
      have hread : readKv letter last = none := by rw [readKv, hpair]; rfl
      rw [List.filterMap_cons_none hpair] at h
      exact hbefore h hread
    | some p =>
      obtain ⟨key, value'⟩ := p
      rw [List.filterMap_cons_some hpair] at h
      by_cases hkey : letter = key
      · have hread : readKv letter last = some value' := by
          rw [readKv, hpair, Option.bind_some, if_pos hkey.symm]
        subst hkey
        simp only [List.filterMap_nil, List.reverse_singleton, List.singleton_append, List.lookup_cons_self] at h
        cases h
        exact ⟨items, last, [], rfl, hread, by simp⟩
      · have hread : readKv letter last = none := by
          rw [readKv, hpair, Option.bind_some, if_neg (Ne.symm hkey)]
        simp only [List.filterMap_nil, List.reverse_singleton, List.singleton_append, List.lookup_cons,
          beq_false_of_ne hkey] at h
        exact hbefore h hread

/-! ## When a value comes from the only item of its name -/

theorem Sole.once {read : Str → Option Str} (h : Sole read letter value message) : Once letter message := by
  obtain ⟨pre, post, hitems, -, hother⟩ := h
  have hnone (items : List Str) (h : ∀ item ∈ items, ¬Named letter item) : items.filterMap (readAttr letter) = [] :=
    List.filterMap_eq_nil_iff.mpr fun item hitem => readAttr_eq_none.mpr (h item hitem)
  rw [List.forall_mem_append] at hother
  rw [Once, hitems, List.filterMap_append, List.filterMap_cons_some (readAttr_eq_some.mpr rfl), hnone pre hother.1,
    hnone post hother.2]
  exact Nat.le_refl 1

/-- One item of the name, and all others are not of it. -/
theorem others_of_once {pre post : List Str} (h : Once letter message)
    (hitems : attributes message = pre ++ (letter :: '=' :: value) :: post) : ∀ item ∈ pre ++ post, ¬Named letter item := by
  rw [Once, hitems, List.filterMap_append, List.filterMap_cons_some (readAttr_eq_some.mpr rfl), List.length_append,
    List.length_cons] at h
  have hpre : pre.filterMap (readAttr letter) = [] := List.eq_nil_of_length_eq_zero (by omega)
  have hpost : post.filterMap (readAttr letter) = [] := List.eq_nil_of_length_eq_zero (by omega)
  rw [List.filterMap_eq_nil_iff] at hpre hpost
  intro item hitem
  rw [← readAttr_eq_none]
  exact (List.mem_append.mp hitem).elim (hpre item) (hpost item)

theorem sole_readAttr_iff (h : letter :: '=' :: value ∈ attributes message) :
    Sole (readAttr letter) letter value message ↔ Once letter message := by
  constructor
  · exact Sole.once
  · intro honce
    obtain ⟨pre, post, hitems⟩ := List.append_of_mem h
    have hother := others_of_once honce hitems
    refine ⟨pre, post, hitems, fun item hitem => ?_, hother⟩
    exact readAttr_eq_none.mpr (hother item (List.mem_append_right _ hitem))

theorem sole_readKv_iff (hl : letter ≠ '=') (h : scramKv message letter = some value) :
    Sole (readKv letter) letter value message ↔ Once letter message ∧ Unshadowed letter message := by
  constructor
  · intro hsole
    refine ⟨hsole.once, ?_⟩
    obtain ⟨pre, post, hitems, hpost, -⟩ := hsole
    intro pre' item post' hitems' hlong
    have hne : letter :: '=' :: value ≠ item := fun heq => not_named_of_long hlong ⟨value, heq.symm⟩
    rw [hitems, List.append_eq_append_iff] at hitems'
    obtain ⟨mid, -, hmid⟩ | ⟨mid, -, hmid⟩ := hitems'
    · cases mid with
      | nil => exact absurd (List.cons.inj hmid).1 hne
      | cons x mid =>
        obtain ⟨-, hbehind⟩ := List.cons.inj hmid
        exact absurd (hpost item (by simp [hbehind])) (readKv_of_long hlong)
    · cases mid with
      | nil => exact absurd (List.cons.inj hmid).1.symm hne
      | cons x mid =>
        obtain ⟨-, hbehind⟩ := List.cons.inj hmid
        exact ⟨letter :: '=' :: value, by simp [hbehind], value, rfl⟩
  · intro hclear
    obtain ⟨honce, hunshadowed⟩ := hclear
    obtain ⟨pre, item, post, hitems, hread, hpost⟩ := lookup_last h
    have hitems' : attributes message = pre ++ item :: post := hitems
    obtain rfl | hlong := named_or_long hread
    · exact ⟨pre, post, hitems', hpost, others_of_once honce hitems'⟩
    · obtain ⟨item', hmem, hnamed⟩ := hunshadowed pre item post hitems' hlong
      exact absurd (hpost item' hmem) (readKv_of_named hl hnamed)

end Scram

/-! ## The four messages -/

variable (C : Crypto)

theorem clientNonce_mem {a a' : ScramAuthenticator} {nonce : Key} {mechanism clientFirst user serverFirst : Str}
    (h : a.handleClientFirst nonce mechanism clientFirst user = (.ok serverFirst, a')) :
    'r' :: '=' :: a'.clientNonce ∈ attributes clientFirst := by
  obtain ⟨flag, authzidPart, bare, -, hsplit, hflag, hauthzid, hne, -, rfl⟩ := ScramAuthenticator.handleClientFirst_ok h
  rw [hsplit, attributes_cons hflag, attributes_cons hauthzid]
  exact List.mem_cons_of_mem _ (List.mem_cons_of_mem _ ((clientNonceOf_spec bare).resolve_left hne))

theorem sole_of_slot {letter : Char} {value message : Str}
    (h : (attributes message).filterMap (readAttr letter) = [value]) : Sole (readAttr letter) letter value message := by
  have hmem : letter :: '=' :: value ∈ attributes message := by
    obtain ⟨item, hitem, hread⟩ :=
      List.mem_filterMap.mp (show value ∈ (attributes message).filterMap (readAttr letter) by simp [h])
    rwa [← readAttr_eq_some.mp hread]
  exact (sole_readAttr_iff hmem).mpr (by rw [Once, h]; exact Nat.le_refl 1)

/-- The items that `client_final_message` cannot do without. -/
theorem scramKv_of_clientFinalMessage {c c' : ScramClient} {serverFirst clientFinal : Str} {salt : Bytes} {iterations : UInt32}
    (h : c.clientFinalMessage C serverFirst salt iterations = (.ok clientFinal, c')) :
    ∀ letter ∈ ['r', 's', 'i'], ∃ value, scramKv serverFirst letter = some value := by
  unfold ScramClient.clientFinalMessage at h
  split at h
  · cases h
  · rename_i sf hread
    simp only [ScramClient.readServerFirst, except_bind_eq_ok, okOr_eq_ok] at hread
    obtain ⟨r, hr, s, hs, i, hi, -⟩ := hread
    intro letter hletter
    simp only [List.mem_cons, List.not_mem_nil, or_false] at hletter
    obtain rfl | rfl | rfl := hletter
    · exact ⟨r, hr⟩
    · exact ⟨s, hs⟩
    · exact ⟨i, hi⟩

theorem scramKv_of_verifyServerFinal {c : ScramClient} {serverFinal : Str}
    (h : c.verifyServerFinal C serverFinal = .ok true) : ∃ value, scramKv serverFinal 'v' = some value := by
  unfold ScramClient.verifyServerFinal at h
  split at h
  · cases h
  split at h
  · cases h
  · simp only [except_bind_eq_ok, okOr_eq_ok] at h
    obtain ⟨value, hvalue, -⟩ := h
    exact ⟨value, hvalue⟩

/-- In an accepted client-final each value comes from the only item of its name. In an
    accepted client-first it does exactly when there is no second `r=`; in an accepted
    message of the server exactly when there is no second item of the name and no item
    with a longer name behind it. -/
theorem attributes_unambiguous_iff :
    (∀ (a a' : ScramAuthenticator) nonce mechanism clientFirst user serverFirst,
      a.handleClientFirst nonce mechanism clientFirst user = (.ok serverFirst, a') →
        (Sole (readAttr 'r') 'r' a'.clientNonce clientFirst ↔ Once 'r' clientFirst)) ∧
    (∀ (a a' : ScramAuthenticator) clientFinal user serverFinal,
      a.handleClientFinal C clientFinal user = (.ok serverFinal, a') →
        ∃ cbind nonce proofB64, collectAttrs (attributes clientFinal) = .ok ⟨some cbind, some nonce, some proofB64⟩ ∧
          Sole (readAttr 'c') 'c' cbind clientFinal ∧ Sole (readAttr 'r') 'r' nonce clientFinal ∧
          Sole (readAttr 'p') 'p' proofB64 clientFinal) ∧
    (∀ (c c' : ScramClient) serverFirst salt iterations clientFinal,
      c.clientFinalMessage C serverFirst salt iterations = (.ok clientFinal, c') →
        ∀ letter ∈ ['r', 's', 'i'], ∃ value, scramKv serverFirst letter = some value ∧
          (Sole (readKv letter) letter value serverFirst ↔ Once letter serverFirst ∧ Unshadowed letter serverFirst)) ∧
    ∀ (c : ScramClient) serverFinal, c.verifyServerFinal C serverFinal = .ok true →
      ∃ value, scramKv serverFinal 'v' = some value ∧
        (Sole (readKv 'v') 'v' value serverFinal ↔ Once 'v' serverFinal ∧ Unshadowed 'v' serverFinal) := by
  refine ⟨?_, ?_, ?_, ?_⟩
  · intro a a' nonce mechanism clientFirst user serverFirst h
    exact sole_readAttr_iff (clientNonce_mem h)
  · intro a a' clientFinal user serverFinal h
    obtain ⟨-, _, _, haccepts, -⟩ := ScramAuthenticator.handleClientFinal_ok C h
    obtain ⟨cbind, proofB64, -, hattrs, -⟩ := haccepts.attrs
    obtain ⟨hc, hr, hp⟩ := collectAttrs_ok hattrs
    exact ⟨cbind, a.combinedNonce, proofB64, hattrs, sole_of_slot hc, sole_of_slot hr, sole_of_slot hp⟩
  · intro c c' serverFirst salt iterations clientFinal h letter hletter
    obtain ⟨value, hvalue⟩ := scramKv_of_clientFinalMessage C h letter hletter
    have hne : letter ≠ '=' := by
      intro heq
      subst heq
      revert hletter
      decide
    exact ⟨value, hvalue, sole_readKv_iff hne hvalue⟩
  · intro c serverFinal h
    obtain ⟨value, hvalue⟩ := scramKv_of_verifyServerFinal C h
    exact ⟨value, hvalue, sole_readKv_iff (by decide) hvalue⟩

/-- The second nonce is taken. -/
theorem a_repeated_nonce_is_accepted :
    ∃ serverFirst a', (ScramAuthenticator.new Sample.verifier none).handleClientFirst Sample.serverNonceBytes scramSha256
      "n,,n=,r=one,r=two" "alice" = (.ok serverFirst, a') ∧
      ¬Sole (readAttr 'r') 'r' a'.clientNonce "n,,n=,r=one,r=two" := by
  have haccepted : ((ScramAuthenticator.new Sample.verifier none).handleClientFirst Sample.serverNonceBytes scramSha256
      "n,,n=,r=one,r=two" "alice").1 =
      .ok "r=two-ICEiIyQlJicoKSorLC0uLzAxMjM0NTY3ODk6Ozw9Pj8=,s=AAECAwQFBgcICQoLDA0ODw==,i=4096".toList := by
    decide +kernel
  refine ⟨_, _, Prod.ext_iff.mpr ⟨haccepted, rfl⟩, fun hsole => ?_⟩
  exact absurd hsole.once (by unfold Once; decide)

end Wirechaos
