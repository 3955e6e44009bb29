/-
  Wirechaos.Auth.ScramProofs — what an accepted SCRAM message says (see `Wirechaos.Auth.Scram`).

  The two inversion lemmas `handleClientFirst_ok` and `handleClientFinal_ok` say all
  there is to know about an accepted client-first and client-final; everything later
  is derived from them. The client-final is read twice: split at its commas for the
  attributes, and cut at the last `,p=` for the signed part. The two readings agree
  exactly when the proof is the last attribute (`proof_covers_message_iff`).
-/

import Wirechaos.Auth.Scram

namespace Wirechaos

open Text Async Scram

variable (C : Crypto)

/-! ## Attributes -/

namespace Scram

theorem attributes_append (a b : Str) : attributes (a ++ ',' :: b) = attributes a ++ attributes b :=
  List.splitOn_append_cons_self a b

theorem attributes_of_not_mem {a : Str} (h : ',' ∉ a) : attributes a = [a] := List.splitOn_eq_singleton h

theorem attributes_cons {a : Str} (h : ',' ∉ a) (b : Str) : attributes (a ++ ',' :: b) = a :: attributes b :=
  List.splitOn_append_cons_self_of_not_mem h b

/-- A message starts with its first attribute. -/
theorem attributes_head (s : Str) :
    ∃ a rest, attributes s = a :: rest ∧ ',' ∉ a ∧ ((s = a ∧ rest = []) ∨ ∃ b, s = a ++ ',' :: b ∧ rest = attributes b) := by
  rcases h : splitOnce ',' s with _ | ⟨a, b⟩
  · have hs := splitOnce_eq_none.mp h
    exact ⟨s, [], attributes_of_not_mem hs, hs, Or.inl ⟨rfl, rfl⟩⟩
  · obtain ⟨rfl, ha⟩ := splitOnce_eq_some.mp h
    exact ⟨a, attributes b, attributes_cons ha b, ha, Or.inr ⟨b, rfl, rfl⟩⟩

/-- A slot holds the values of the attributes of its name: none, or the only one. -/
def Slot (name : Str) (attrs : List Str) (slot : Option Str) : Prop :=
  attrs.filterMap (stripPrefix name) = slot.toList

theorem setOnce_slot {name attr : Str} {pre : List Str} {slot slot' : Option Str} (h : Slot name pre slot)
    (hs : setOnce name attr slot = .ok slot') : Slot name (pre ++ [attr]) slot' := by
  unfold setOnce at hs
  unfold Slot at h ⊢
  rw [List.filterMap_append, h]
  split at hs
  · rename_i hn
    cases hs
    simp [hn]
  · rename_i v hv
    cases slot with
    | none => cases hs; simp [hv]
    | some w => cases hs

theorem collect_slot {attrs : List Str} : ∀ {pre : List Str} {s s' : FinalAttrs},
    Slot "c=" pre s.cbind → Slot "r=" pre s.nonce → Slot "p=" pre s.proofB64 →
    attrs.foldlM FinalAttrs.collect s = .ok s' →
    Slot "c=" (pre ++ attrs) s'.cbind ∧ Slot "r=" (pre ++ attrs) s'.nonce ∧ Slot "p=" (pre ++ attrs) s'.proofB64 := by
  induction attrs with
  | nil =>
    intro pre s s' hc hr hp h
    simp only [List.foldlM_nil, except_pure_eq_ok] at h
    subst h
    rw [List.append_nil]
    exact ⟨hc, hr, hp⟩
  | cons attr attrs ih =>
    intro pre s s' hc hr hp h
    rw [List.foldlM_cons, except_bind_eq_ok] at h
    obtain ⟨t, ht, h⟩ := h
    simp only [FinalAttrs.collect, except_bind_eq_ok, except_pure_eq_ok] at ht
    obtain ⟨c, hc', r, hr', p, hp', rfl⟩ := ht
    have := ih (setOnce_slot hc hc') (setOnce_slot hr hr') (setOnce_slot hp hp') h
    simpa using this

/-- Each attribute the loop collects stands exactly once in the message. -/
theorem collectAttrs_ok {attrs : List Str} {s : FinalAttrs} (h : collectAttrs attrs = .ok s) :
    Slot "c=" attrs s.cbind ∧ Slot "r=" attrs s.nonce ∧ Slot "p=" attrs s.proofB64 := by
  have hempty (key : Str) : Slot key [] none := rfl
  exact collect_slot (hempty _) (hempty _) (hempty _) h

theorem comma_not_mem_encode (b : Bytes) : ',' ∉ Base64.encode Base64.standard b :=
  Base64.not_mem_encode _ (by decide) (by decide) b

/-- The loop reads the three attributes of a message that consists of them. -/
theorem collectAttrs_triple (c r p : Str) :
    collectAttrs ["c=".toList ++ c, "r=".toList ++ r, "p=".toList ++ p] = .ok ⟨some c, some r, some p⟩ := rfl

/-! ## The bare message -/

theorem extractDataFromClientFirst_ok {clientFirst flag authzidPart bare : Str} :
    extractDataFromClientFirst clientFirst = .ok (flag, authzidPart, bare) ↔
      clientFirst = flag ++ ',' :: (authzidPart ++ ',' :: bare) ∧ ',' ∉ flag ∧ ',' ∉ authzidPart := by
  simp only [extractDataFromClientFirst, except_bind_eq_ok, okOr_eq_ok, except_pure_eq_ok, Prod.exists,
    splitOnce_eq_some, Prod.mk.injEq]
  constructor
  · intro h
    obtain ⟨f, rest, ⟨rfl, hf⟩, z, b, ⟨rfl, hz⟩, rfl, rfl, rfl⟩ := h
    exact ⟨rfl, hf, hz⟩
  · intro h
    obtain ⟨rfl, hf, hz⟩ := h
    exact ⟨flag, _, ⟨rfl, hf⟩, authzidPart, bare, ⟨rfl, hz⟩, rfl, rfl, rfl⟩

/-- `bare` is the client-first-bare of a client-first. -/
def BareOf (clientFirst bare : Str) : Prop :=
  ∃ flag authzidPart, clientFirst = flag ++ ',' :: (authzidPart ++ ',' :: bare) ∧ ',' ∉ flag ∧ ',' ∉ authzidPart

theorem BareOf.unique {clientFirst b b' : Str} (h : BareOf clientFirst b) (h' : BareOf clientFirst b') : b = b' := by
  obtain ⟨f, z, he, hf, hz⟩ := h
  obtain ⟨f', z', he', hf', hz'⟩ := h'
  have h1 := extractDataFromClientFirst_ok.mpr ⟨he, hf, hz⟩
  have h2 := extractDataFromClientFirst_ok.mpr ⟨he', hf', hz'⟩
  rw [h1] at h2
  cases h2
  rfl

/-- The nonce the server reads out of the bare message is one of its attributes. -/
theorem clientNonceOf_spec (bare : Str) :
    clientNonceOf bare = [] ∨ "r=".toList ++ clientNonceOf bare ∈ attributes bare := by
  have fold : ∀ (l : List Str) (n : Str),
      l.foldl (fun nonce attr => (stripPrefix "r=" attr).getD nonce) n = n ∨
      "r=".toList ++ l.foldl (fun nonce attr => (stripPrefix "r=" attr).getD nonce) n ∈ l := by
    intro l
    induction l with
    | nil => intro n; exact Or.inl rfl
    | cons x xs ih =>
      intro n
      rw [List.foldl_cons]
      rcases ih ((stripPrefix "r=" x).getD n) with h | h
      · rw [h]
        cases hx : stripPrefix "r=" x with
        | none => exact Or.inl rfl
        | some v => exact Or.inr (by rw [Option.getD_some, ← stripPrefix_eq_some.mp hx]; simp)
      · exact Or.inr (List.mem_cons_of_mem _ h)
  exact fold (attributes bare) []

end Scram

namespace ScramAuthenticator

/-! ## Client-first -/

/-- Everything an accepted client-first says. -/
theorem handleClientFirst_ok {a a' : ScramAuthenticator} {serverNonceBytes : Key}
    {mechanism clientFirst startupUser serverFirst : Str}
    (h : a.handleClientFirst serverNonceBytes mechanism clientFirst startupUser = (.ok serverFirst, a')) :
    ∃ flag authzidPart bare,
      a.checkClientFirst mechanism clientFirst startupUser = .ok (flag, authzidPart, bare) ∧
      clientFirst = flag ++ ',' :: (authzidPart ++ ',' :: bare) ∧ ',' ∉ flag ∧ ',' ∉ authzidPart ∧
      clientNonceOf bare ≠ [] ∧
      serverFirst = serverFirstMessage a.verifier a'.combinedNonce ∧
      a' = { a with
        gs2Header := flag ++ ',' :: authzidPart ++ [',']
        clientNonce := clientNonceOf bare
        combinedNonce := clientNonceOf bare ++ '-' :: Base64.encode Base64.standard serverNonceBytes.bytes
        clientFirstBare := bare, serverFirst
        state := .clientFirstReceived, choosedMechanism := mechanism } := by
  unfold handleClientFirst at h
  split at h
  · cases h
  · rename_i flag authzidPart bare hc
    dsimp only at h
    split at h
    · cases h
    · rename_i hn
      have hx := hc
      simp only [checkClientFirst, except_bind_eq_ok, except_pure_eq_ok, Prod.exists] at hx
      obtain ⟨-, -, f, z, b, he, -, -, -, -, hfzb⟩ := hx
      cases hfzb
      obtain ⟨hcf, hf, hz⟩ := extractDataFromClientFirst_ok.mp he
      cases h
      exact ⟨flag, authzidPart, bare, hc, hcf, hf, hz, hn, rfl, rfl⟩

/-! ## Client-final -/

/-- Everything that holds of a client-final that passes the checks. -/
structure Accepts (a : ScramAuthenticator) (clientFinal : Str) (clientKey : Bytes) (authMessage : Str) : Prop where
  attrs : ∃ cbind proofB64 proof, collectAttrs (attributes clientFinal) = .ok ⟨some cbind, some a.combinedNonce, some proofB64⟩ ∧
    cbind = a.expectedCbind ∧ Base64.decode Base64.standard proofB64 = some proof ∧ proof.length = 32 ∧
    clientKey = xorBytes proof (C.hmacSha256 a.verifier.storedKey.bytes (asBytes authMessage)).bytes
  extends_nonce : startsWith a.clientNonce a.combinedNonce = true
  signed : a.authMessage clientFinal = some authMessage
  authentic : C.sha256 clientKey = a.verifier.storedKey
  known : a.verifier.isDummy = false

theorem Accepts.length {a : ScramAuthenticator} {clientFinal authMessage : Str} {clientKey : Bytes}
    (h : Accepts C a clientFinal clientKey authMessage) : clientKey.length = 32 := by
  obtain ⟨_, _, proof, -, -, -, hlen, rfl⟩ := h.attrs
  rw [length_xorBytes (by rw [hlen, Key.length_eq]), hlen]

theorem checkClientFinal_ok {a : ScramAuthenticator} {clientFinal user authMessage : Str} {clientKey : Bytes} :
    checkClientFinal C a clientFinal user = .ok (clientKey, authMessage) ↔ Accepts C a clientFinal clientKey authMessage := by
  simp only [checkClientFinal, except_bind_eq_ok, okOr_eq_ok, require_eq_ok, except_pure_eq_ok, exists_const,
    Prod.mk.injEq]
  constructor
  · intro h
    obtain ⟨⟨cb, no, pr⟩, hattrs, c, hc, r, hr, p, hp, hcb, hno, hsw, m, hm, proof, hproof, hlen, hsha, hdummy, rfl, rfl⟩ := h
    cases hc; cases hr; cases hp; cases hno
    exact ⟨⟨c, p, proof, hattrs, asBytes_inj hcb, hproof, hlen, rfl⟩, hsw, hm, hsha, hdummy⟩
  · intro h
    obtain ⟨⟨c, p, proof, hattrs, rfl, hproof, hlen, rfl⟩, hsw, hm, hsha, hdummy⟩ := h
    exact ⟨_, hattrs, _, rfl, _, rfl, _, rfl, rfl, rfl, hsw, _, hm, _, hproof, hlen, hsha, hdummy, rfl, rfl⟩

/-- Everything an accepted client-final says. -/
theorem handleClientFinal_ok {a a' : ScramAuthenticator} {clientFinal user serverFinal : Str}
    (h : handleClientFinal C a clientFinal user = (.ok serverFinal, a')) :
    a.state = .clientFirstReceived ∧ ∃ clientKey authMessage, Accepts C a clientFinal clientKey authMessage ∧
      serverFinal = serverFinalMessage C a.verifier authMessage ∧
      a' = { a with state := .done, extractedClientKey := some clientKey } := by
  unfold handleClientFinal at h
  split at h
  · cases h
  · rename_i hs
    refine ⟨by simpa using hs, ?_⟩
    dsimp only at h
    split at h
    · cases h
    · rename_i clientKey authMessage hc
      cases h
      obtain ⟨hattrs, hn, hm, hsha, hd⟩ := (checkClientFinal_ok C).mp hc
      exact ⟨clientKey, authMessage, ⟨hattrs, hn, hm, hsha, hd⟩, rfl, rfl⟩

theorem handleClientFinal_of_accepts {a : ScramAuthenticator} {clientFinal authMessage : Str} {clientKey : Bytes}
    (hs : a.state = .clientFirstReceived) (h : Accepts C { a with state := .done } clientFinal clientKey authMessage)
    (user : Str) : handleClientFinal C a clientFinal user =
      (.ok (serverFinalMessage C a.verifier authMessage),
        { a with state := .done, extractedClientKey := some clientKey }) := by
  have hc : checkClientFinal C { a with state := .done } clientFinal user = .ok (clientKey, authMessage) :=
    (checkClientFinal_ok C).mpr h
  simp only [handleClientFinal, hs, ne_eq, not_true_eq_false, if_false, hc]

/-! ## The two readings of a client-final -/

/-- The message before the last `,p=` and the attributes the cut splits it into. -/
theorem authMessage_cut {a : ScramAuthenticator} {clientFinal signed : Str} (h : a.authMessage clientFinal = some signed) :
    ∃ w t, clientFinal = w ++ ",p=".toList ++ t ∧ attributes clientFinal = attributes w ++ attributes ("p=".toList ++ t) ∧
      signed = a.clientFirstBare ++ ',' :: a.serverFirst ++ ',' :: w := by
  obtain ⟨i, hi, rfl⟩ := Option.map_eq_some_iff.mp h
  obtain ⟨t, ht⟩ := rfind_eq_some hi
  refine ⟨clientFinal.take i, t, ht, ?_, rfl⟩
  have he : clientFinal = clientFinal.take i ++ ',' :: ("p=".toList ++ t) := by
    rw [List.append_assoc] at ht
    exact ht
  conv_lhs => rw [he]
  exact attributes_append _ _

/-- A proof without commas at the end is where the message is cut. -/
theorem authMessage_append {a : ScramAuthenticator} {p : Str} (hp : ',' ∉ p) (w : Str) :
    a.authMessage (w ++ ",p=".toList ++ p) = some (a.clientFirstBare ++ ',' :: a.serverFirst ++ ',' :: w) := by
  have hi : rfind ",p=" (w ++ ",p=".toList ++ p) = some w.length :=
    rfind_append_of_not_mem (show ',' ∉ "p=".toList by decide) hp w
  rw [authMessage, hi, Option.map_some, List.append_assoc w, List.take_left]

/-! ## The answer of a client that knows the key -/

def answerWithoutProof (a : ScramAuthenticator) : Str := "c=".toList ++ a.expectedCbind ++ ",r=".toList ++ a.combinedNonce

def answerMessage (a : ScramAuthenticator) : Str :=
  a.clientFirstBare ++ ',' :: a.serverFirst ++ ',' :: a.answerWithoutProof

/-- The client-final this exchange asks for. -/
def answer (a : ScramAuthenticator) (clientKey : Bytes) : Str :=
  a.answerWithoutProof ++ ",p=".toList ++ Base64.encode Base64.standard
    (xorBytes clientKey (C.hmacSha256 a.verifier.storedKey.bytes (asBytes a.answerMessage)).bytes)

theorem comma_not_mem_expectedCbind (a : ScramAuthenticator) : ',' ∉ a.expectedCbind := by
  unfold expectedCbind
  split
  · split
    · exact comma_not_mem_encode _
    · exact comma_not_mem_encode _
  · exact comma_not_mem_encode _

theorem attributes_answer {a : ScramAuthenticator} (hnonce : ',' ∉ a.combinedNonce) (clientKey : Bytes) :
    attributes (answer C a clientKey) = ["c=".toList ++ a.expectedCbind, "r=".toList ++ a.combinedNonce,
      "p=".toList ++ Base64.encode Base64.standard
        (xorBytes clientKey (C.hmacSha256 a.verifier.storedKey.bytes (asBytes a.answerMessage)).bytes)] := by
  have hc : ',' ∉ "c=".toList ++ a.expectedCbind := by simpa using comma_not_mem_expectedCbind a
  have hr : ',' ∉ "r=".toList ++ a.combinedNonce := by simpa using hnonce
  have hp (b : Bytes) : ',' ∉ "p=".toList ++ Base64.encode Base64.standard b := by simpa using comma_not_mem_encode b
  have he (w p : Str) : "c=".toList ++ w ++ ",r=".toList ++ a.combinedNonce ++ ",p=".toList ++ p =
      ("c=".toList ++ w) ++ ',' :: (("r=".toList ++ a.combinedNonce) ++ ',' :: ("p=".toList ++ p)) := by
    simp
  rw [answer, answerWithoutProof, he, attributes_cons hc, attributes_cons hr, attributes_of_not_mem (hp _)]

theorem accepts_answer {a : ScramAuthenticator} {clientKey : Bytes} (hnonce : ',' ∉ a.combinedNonce)
    (hextends : startsWith a.clientNonce a.combinedNonce = true) (hlength : clientKey.length = 32)
    (hkey : C.sha256 clientKey = a.verifier.storedKey) (hknown : a.verifier.isDummy = false) :
    Accepts C a (answer C a clientKey) clientKey a.answerMessage := by
  have hlen (k m : Bytes) : clientKey.length = (C.hmacSha256 k m).bytes.length := by
    rw [hlength, (C.hmacSha256 k m).length_eq]
  have hproof := Base64.decode_encode Base64.standard
    (xorBytes clientKey (C.hmacSha256 a.verifier.storedKey.bytes (asBytes a.answerMessage)).bytes)
  refine ⟨⟨a.expectedCbind, _, _, ?_, rfl, hproof, ?_, ?_⟩, hextends, ?_, hkey, hknown⟩
  · rw [attributes_answer C hnonce]
    exact collectAttrs_triple _ _ _
  · rw [length_xorBytes (hlen _ _), hlength]
  · exact (xorBytes_cancel (hlen _ _)).symm
  · exact authMessage_append (comma_not_mem_encode _) _

/-! ## Where the proof stands -/

/-- The message's last attribute is a proof. -/
def LastIsProof (clientFinal : Str) : Prop :=
  ∃ p, (attributes clientFinal).getLast? = some ("p=".toList ++ p)

/-- `clientFinal` is `w`, then the proof attribute, and both signatures are over
    `bare,serverFirst,w`. -/
def ProofCovers (a : ScramAuthenticator) (bare serverFirst clientFinal serverFinal : Str) (clientKey : Option Bytes) : Prop :=
  ∃ w p, clientFinal = w ++ ",p=".toList ++ p ∧ ',' ∉ p ∧
    let signed := bare ++ ',' :: serverFirst ++ ',' :: w
    a.authMessage clientFinal = some signed ∧
    (∃ proof, Base64.decode Base64.standard p = some proof ∧
      clientKey = some (xorBytes proof (C.hmacSha256 a.verifier.storedKey.bytes (asBytes signed)).bytes)) ∧
    serverFinal = serverFinalMessage C a.verifier signed

/-- An accepted message has its proof where it was cut only if the proof is last. -/
theorem Accepts.proof_at_cut {a : ScramAuthenticator} {w t clientFinal authMessage : Str} {clientKey : Bytes}
    (h : Accepts C a clientFinal clientKey authMessage)
    (hcut : attributes clientFinal = attributes w ++ attributes ("p=".toList ++ t)) (hlast : LastIsProof clientFinal) :
    ',' ∉ t ∧ ∃ proof, Base64.decode Base64.standard t = some proof ∧
      clientKey = xorBytes proof (C.hmacSha256 a.verifier.storedKey.bytes (asBytes authMessage)).bytes := by
  obtain ⟨c, p, proof, hattrs, -, hproof, -, hk⟩ := h.attrs
  obtain ⟨-, -, hslot⟩ := collectAttrs_ok hattrs
  obtain ⟨x, rest, hx, hxc, hsplit⟩ := attributes_head ("p=".toList ++ t)
  obtain ⟨y, hy⟩ : ∃ y, x = "p=".toList ++ y := by
    rcases hsplit with ⟨rfl, -⟩ | ⟨b, hb, -⟩
    · exact ⟨t, rfl⟩
    · match x, hxc, hb with
      | [], _, hb => simp at hb
      | [_], _, hb => simp at hb
      | c₁ :: c₂ :: y, _, hb =>
        simp only [List.cons_append, List.cons.injEq, String.reduceToList, List.nil_append] at hb
        exact ⟨y, by rw [← hb.1, ← hb.2.1]; rfl⟩
  subst hy
  rw [hcut, hx] at hslot
  simp only [Slot, List.filterMap_append, List.filterMap_cons, stripPrefix_append, Option.toList_some] at hslot
  -- the cut starts the only proof, so no later attribute is one
  have hlen := congrArg List.length hslot
  simp only [List.length_append, List.length_cons, List.length_nil] at hlen
  have hw : (attributes w).filterMap (stripPrefix "p=") = [] := List.eq_nil_of_length_eq_zero (by omega)
  have hrest : rest.filterMap (stripPrefix "p=") = [] := List.eq_nil_of_length_eq_zero (by omega)
  rw [hw, hrest] at hslot
  simp only [List.nil_append, List.cons.injEq, and_true] at hslot
  subst hslot
  have hnil : rest = [] := by
    obtain ⟨q, hq⟩ := hlast
    rw [hcut, hx] at hq
    cases hr : rest.getLast? with
    | none => exact List.getLast?_eq_none_iff.mp hr
    | some z =>
      rw [List.getLast?_append, List.getLast?_cons, hr] at hq
      simp only [Option.getD_some, Option.some_or, Option.some.injEq] at hq
      subst hq
      have hz := List.filterMap_eq_nil_iff.mp hrest _ (List.mem_of_getLast? hr)
      rw [stripPrefix_append] at hz
      cases hz
  rcases hsplit with ⟨he, -⟩ | ⟨b, -, hb⟩
  · rw [List.append_cancel_left_eq] at he
    subst he
    refine ⟨fun hc => hxc (List.mem_append_right _ hc), proof, hproof, hk⟩
  · rw [hnil] at hb
    exact absurd hb.symm (List.splitOn_ne_nil _ _)

/-- An accepted client-final is covered by both signatures up to its proof, exactly
    when the proof is its last attribute. -/
theorem proof_covers_message_iff {a₀ a₁ a₂ : ScramAuthenticator} {serverNonceBytes : Key}
    {mechanism clientFirst startupUser serverFirst clientFinal user serverFinal : Str}
    (hfirst : a₀.handleClientFirst serverNonceBytes mechanism clientFirst startupUser = (.ok serverFirst, a₁))
    (hfinal : handleClientFinal C a₁ clientFinal user = (.ok serverFinal, a₂)) :
    (∃ bare, BareOf clientFirst bare ∧
      ProofCovers C a₁ bare serverFirst clientFinal serverFinal a₂.extractedClientKey) ↔ LastIsProof clientFinal := by
  obtain ⟨flag, authzidPart, bare, -, hcf, hf, hz, -, -, ha₁⟩ := handleClientFirst_ok hfirst
  obtain ⟨-, clientKey, authMessage, hacc, hsf, ha₂⟩ := handleClientFinal_ok C hfinal
  constructor
  · intro h
    obtain ⟨b, -, w, p, rfl, hp, -⟩ := h
    refine ⟨p, ?_⟩
    have hp' : ',' ∉ "p=".toList ++ p := by simpa using hp
    rw [List.append_assoc, show ",p=".toList ++ p = ',' :: ("p=".toList ++ p) from rfl, attributes_append,
      attributes_of_not_mem hp']
    simp
  · intro hlast
    obtain ⟨w, t, hm, hcut, hsigned⟩ := authMessage_cut hacc.signed
    obtain ⟨ht, proof, hproof, hk⟩ := hacc.proof_at_cut C hcut hlast
    have hbare : a₁.clientFirstBare = bare := by rw [ha₁]
    have hserver : a₁.serverFirst = serverFirst := by rw [ha₁]
    rw [hbare, hserver] at hsigned
    subst hsigned
    refine ⟨bare, ⟨flag, authzidPart, hcf, hf, hz⟩, w, t, hm, ht, hacc.signed, ⟨proof, hproof, ?_⟩, hsf⟩
    rw [ha₂, hk]

end ScramAuthenticator

/-! ## A run: the user's password is "pencil" -/

namespace Sample

def salted : Key :=
  ⟨[250, 74, 101, 150, 80, 190, 140, 219, 131, 38, 116, 4, 69, 149, 233, 20, 215, 216, 92, 86, 79, 110, 226, 245,
    34, 220, 105, 105, 166, 75, 228, 233], by decide⟩
def clientKey : Key :=
  ⟨[5, 109, 119, 18, 106, 4, 230, 93, 126, 250, 85, 18, 123, 25, 169, 38, 49, 166, 148, 125, 255, 247, 181, 151,
    233, 162, 242, 229, 241, 209, 156, 185], by decide⟩
def storedKey : Key :=
  ⟨[204, 112, 157, 162, 93, 180, 227, 143, 217, 201, 108, 207, 46, 46, 232, 196, 10, 66, 145, 169, 138, 195, 214, 126,
    19, 133, 63, 64, 10, 93, 255, 150], by decide⟩
def serverKey : Key :=
  ⟨[117, 222, 105, 120, 19, 162, 181, 89, 203, 52, 91, 187, 86, 108, 15, 248, 120, 131, 105, 172, 56, 57, 64, 175,
    223, 222, 158, 84, 37, 161, 98, 33], by decide⟩
def clientSig : Key :=
  ⟨[248, 149, 108, 132, 196, 201, 115, 119, 200, 235, 192, 108, 127, 86, 97, 209, 13, 79, 5, 196, 126, 228, 218, 90,
    33, 64, 121, 23, 0, 9, 192, 216], by decide⟩
def serverSig : Key :=
  ⟨[80, 136, 196, 190, 106, 16, 176, 98, 48, 114, 155, 114, 144, 71, 156, 189, 48, 60, 51, 241, 157, 164, 109, 166,
    34, 162, 161, 22, 186, 120, 253, 217], by decide⟩

def salt : Bytes := [0, 1, 2, 3, 4, 5, 6, 7, 8, 9, 10, 11, 12, 13, 14, 15]

/-- The random bytes of the two nonces. -/
def clientNonceBytes : { b : Bytes // b.length = 18 } :=
  ⟨[0, 1, 2, 3, 4, 5, 6, 7, 8, 9, 10, 11, 12, 13, 14, 15, 16, 17], rfl⟩
def serverNonceBytes : Key := ⟨(List.range 32).map fun i => UInt8.ofNat (32 + i), by decide⟩

def clientFirst : Str := "n,,n=,r=AAECAwQFBgcICQoLDA0ODxAR"
def serverFirst : Str :=
  "r=AAECAwQFBgcICQoLDA0ODxAR-ICEiIyQlJicoKSorLC0uLzAxMjM0NTY3ODk6Ozw9Pj8=,s=AAECAwQFBgcICQoLDA0ODw==,i=4096"
def withoutProof : Str := "c=biws,r=AAECAwQFBgcICQoLDA0ODxAR-ICEiIyQlJicoKSorLC0uLzAxMjM0NTY3ODk6Ozw9Pj8="
def authMessage : Str := "n=,r=AAECAwQFBgcICQoLDA0ODxAR,".toList ++ serverFirst ++ ',' :: withoutProof
def clientFinal : Str := withoutProof ++ ",p=/fgblq7NlSq2EZV+BE/I9zzpkbmBE2/NyOKL8vHYXGE=".toList
def serverFinal : Str := "v=UIjEvmoQsGIwcptykEecvTA8M/GdpG2mIqKhFrp4/dk="

/-- SHA-256, HMAC and PBKDF2 at the arguments of this run. -/
def crypto : Crypto where
  sha256 input := if input = clientKey.bytes then storedKey else .zero
  hmacSha256 key message :=
    if key = salted.bytes ∧ message = asBytes "Client Key" then clientKey
    else if key = salted.bytes ∧ message = asBytes "Server Key" then serverKey
    else if key = storedKey.bytes ∧ message = asBytes authMessage then clientSig
    else if key = serverKey.bytes ∧ message = asBytes authMessage then serverSig
    else .zero
  pbkdf2Sha256 password salt' iterations :=
    if password = asBytes "pencil" ∧ salt' = salt ∧ iterations = 4096 then salted else .zero
  md5 _ := List.replicate 16 0

/-- What the credential store holds for the user: a `scram_secret:` entry. -/
def verifier : Verifier :=
  { iterations := 4096, salt, storedKey, serverKey, password := none, isDummy := false }

/-- The authenticator once it has answered the client-first. -/
def answered : ScramAuthenticator :=
  ((ScramAuthenticator.new verifier none).handleClientFirst serverNonceBytes scramSha256 clientFirst "alice").2

theorem answered_eq : (ScramAuthenticator.new verifier none).handleClientFirst serverNonceBytes scramSha256 clientFirst
    "alice" = (.ok serverFirst, answered) := by
  decide +kernel

theorem accepted_eq : ScramAuthenticator.handleClientFinal crypto answered clientFinal "alice" =
    (.ok serverFinal, { answered with state := .done, extractedClientKey := some clientKey.bytes }) := by
  decide +kernel

end Sample

namespace ScramAuthenticator

theorem proof_covers_message_iff_run :
    (∃ bare, BareOf Sample.clientFirst bare ∧ ProofCovers Sample.crypto Sample.answered bare Sample.serverFirst
      Sample.clientFinal Sample.serverFinal (some Sample.clientKey.bytes)) ↔ LastIsProof Sample.clientFinal :=
  proof_covers_message_iff Sample.crypto Sample.answered_eq Sample.accepted_eq

/-- An attribute after the proof is accepted, and nothing signs it. -/
theorem a_trailing_attribute_is_not_covered :
    (handleClientFinal Sample.crypto Sample.answered (Sample.clientFinal ++ ",x=evil".toList) "alice").1 =
      .ok Sample.serverFinal ∧
    ¬ ∃ bare, BareOf Sample.clientFirst bare ∧ ProofCovers Sample.crypto Sample.answered bare Sample.serverFirst
      (Sample.clientFinal ++ ",x=evil".toList) Sample.serverFinal (some Sample.clientKey.bytes) := by
  refine ⟨by decide +kernel, ?_⟩
  intro h
  obtain ⟨bare, -, w, p, hm, hp, -⟩ := h
  have hlast : (attributes (Sample.clientFinal ++ ",x=evil".toList)).getLast? = some "x=evil".toList := by
    decide +kernel
  have hp' : ',' ∉ "p=".toList ++ p := by simpa using hp
  rw [hm, List.append_assoc, show ",p=".toList ++ p = ',' :: ("p=".toList ++ p) from rfl, attributes_append,
    attributes_of_not_mem hp'] at hlast
  simp at hlast

end ScramAuthenticator

end Wirechaos
