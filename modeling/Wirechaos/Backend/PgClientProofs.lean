/-
  Wirechaos.Backend.PgClientProofs — what a backend handshake that returned has done
  (see `Wirechaos.Backend.PgClient`).

  One lemma for each function says all that a successful call changes (`writeMessage_ok`,
  `readMessage_ok`, `handleSasl_ok`, `handleMessage_ok`); the run lemma `handshake_ok`
  is their induction. `Answered` is what it keeps: every challenge received has exactly
  its answer in the log. Whether `Require` was enforced is read off from there
  (`require_enforced_iff`): the policy is consulted only when a SASL challenge comes.
-/

import Wirechaos.Auth.ScramProofs
import Wirechaos.Backend.PgClient
import Wirechaos.Lib.Fatal

namespace Wirechaos

open Text Async Proc

variable (C : Crypto)

namespace ScramClient

/-- What a server-first that passed the checks says. -/
theorem readServerFirst_ok {c : ScramClient} {serverFirst : Str} {sf : ServerFirst}
    (h : c.readServerFirst serverFirst = .ok sf) :
    scramKv serverFirst 'r' = some sf.combinedNonce ∧
    (∃ rest, rest ≠ [] ∧ sf.combinedNonce = c.clientNonce ++ rest) ∧
    (∃ salt, scramKv serverFirst 's' = some salt ∧ Base64.decode Base64.standard salt = some sf.salt) ∧
    ∃ i n, scramKv serverFirst 'i' = some i ∧ parseUint 32 i = some n ∧ sf.iterations = UInt32.ofNat n := by
  simp only [readServerFirst, except_bind_eq_ok, okOr_eq_ok, require_eq_ok, except_pure_eq_ok, exists_const] at h
  obtain ⟨nonce, hr, salt, hs, i, hi, n, hn, ⟨hstarts, hlonger⟩, decoded, hdecoded, rfl⟩ := h
  obtain ⟨rest, hrest⟩ := startsWith_iff.mp hstarts
  refine ⟨hr, ⟨rest, ?_, hrest⟩, ⟨salt, hs, hdecoded⟩, i, n, hi, hn, rfl⟩
  intro hnil
  rw [hrest, hnil, List.append_nil] at hlonger
  exact absurd hlonger (Nat.lt_irrefl _)

/-- The key of the server's signature: derived with a password, captured without one. -/
def signatureKey (password serverKey : Option Bytes) (sf : ServerFirst) : Option Bytes :=
  match password with
  | some password => some (C.serverKey (C.pbkdf2Sha256 password sf.salt sf.iterations)).bytes
  | none => serverKey

theorem signatureKey_isSome (password serverKey : Option Bytes) (sf : ServerFirst) :
    (signatureKey C password serverKey sf).isSome = (password.isSome || serverKey.isSome) := by
  cases password <;> simp [signatureKey]

theorem keys_serverKey {c : ScramClient} {sf : ServerFirst} {salt : Bytes} {iterations : UInt32} {keys : Keys}
    (h : c.keys C sf salt iterations = .ok keys) : keys.serverKey = signatureKey C c.password c.serverKey sf := by
  unfold ScramClient.keys at h
  split at h
  · rename_i password hp
    cases h
    simp [signatureKey, hp]
  · rename_i hp
    simp only [except_bind_eq_ok, require_eq_ok, okOr_eq_ok, except_pure_eq_ok, exists_const] at h
    obtain ⟨-, -, k, -, sk, -, rfl⟩ := h
    simp [signatureKey, hp]

/-- A client-final answers a server-first that passed the checks; what it signs is
    remembered with the key of the server's answer. -/
theorem clientFinalMessage_ok {c c' : ScramClient} {serverFirst clientFinal : Str} {salt : Bytes} {iterations : UInt32}
    (h : c.clientFinalMessage C serverFirst salt iterations = (.ok clientFinal, c')) :
    ∃ sf proof, c.readServerFirst serverFirst = .ok sf ∧
      clientFinal = c.clientFinalWithoutProof sf.combinedNonce ++ ",p=".toList ++ proof ∧
      c'.authMessage = c.clientFirstBare ++ ',' :: serverFirst ++ ',' :: c.clientFinalWithoutProof sf.combinedNonce ∧
      c'.serverKey = signatureKey C c.password c.serverKey sf := by
  unfold ScramClient.clientFinalMessage at h
  split at h
  · cases h
  · rename_i sf hsf
    split at h
    · cases h
    · rename_i keys hkeys
      dsimp only at h
      split at h
      · cases h
      · cases h
        exact ⟨sf, _, hsf, rfl, rfl, keys_serverKey C hkeys⟩

/-- The signature is checked exactly when there is a key for it. -/
theorem verifyServerFinal_ok {c : ScramClient} {serverFinal : Str} {verified : Bool}
    (h : c.verifyServerFinal C serverFinal = .ok verified) :
    verified = c.serverKey.isSome ∧ ∀ key, c.serverKey = some key → ∃ signature, scramKv serverFinal 'v' = some signature ∧
      Base64.decode Base64.standard signature = some (C.hmacSha256 key (asBytes c.authMessage)).bytes := by
  unfold ScramClient.verifyServerFinal at h
  split at h
  · cases h
  · split at h
    · rename_i hs
      cases h
      simp [hs]
    · rename_i key hs
      simp only [except_bind_eq_ok, require_eq_ok, okOr_eq_ok, except_pure_eq_ok, exists_const] at h
      obtain ⟨signature, hv, decoded, hdecoded, hsigned, rfl⟩ := h
      refine ⟨by simp [hs], ?_⟩
      intro key' hkey'
      rw [hs] at hkey'
      cases hkey'
      exact ⟨signature, hv, by rw [hsigned, hdecoded]⟩

end ScramClient

namespace PgClient

/-! ## Messages -/

/-- However it ends, an operation on the connection changes the wire only. -/
theorem within_snd {α : Type} (elapsed : PgError) (x : Proc Wire IoError α) (c : PgClient) :
    (within elapsed x c).2 = { c with wire := (x c.wire).2 } := by
  unfold within
  rcases hx : x c.wire with ⟨a | e | n, w⟩
  · simp only [bind_apply, timeout, zoom, hx]
    rfl
  · simp only [bind_apply, timeout, zoom, hx]
    rfl
  · cases n with
    | zero =>
      simp only [bind_apply, timeout, zoom, hx]
      rfl
    | succ n => simp only [bind_apply, timeout, zoom, hx]

theorem stream_ok {α : Type} {x : Proc Wire IoError α} {c c' : PgClient} {a : α} (h : stream x c = (.ok a, c')) :
    ∃ w, x c.wire = (.ok a, w) ∧ c' = { c with wire := w } := by
  obtain ⟨r, c₁, ht, h⟩ := bind_ok.mp h
  unfold timeout zoom at ht
  rcases hx : x c.wire with ⟨b | e | _ | n, w⟩ <;> rw [hx] at ht <;> cases ht
  · cases h
    exact ⟨w, rfl, rfl⟩
  · cases h
  · cases h

theorem stream_of_ok {α : Type} {x : Proc Wire IoError α} {c : PgClient} {a : α} {w : Wire} (h : x c.wire = (.ok a, w)) :
    stream x c = (.ok a, { c with wire := w }) := by
  simp only [stream, within, bind_apply, timeout, zoom, h]
  rfl

/-- Only the size of the largest buffer is seen, not what a buffer held before. -/
theorem readMessageBody_eq (n : Nat) (c : PgClient) :
    readMessageBody n c = (if n > c.pool.maxCapacity then
        throw (.protocol ("backend message body ".toList ++ decimal n ++ " exceeds the buffer pool capacity".toList))
      else stream (Wire.readExact n) : Proc PgClient PgError Bytes) c := by
  unfold readMessageBody
  rw [bind_of_ok (get_apply c)]
  split
  · rfl
  dsimp only
  rw [length_get]
  rcases hread : stream (Wire.readExact n) c with ⟨bytes | e | scope, c'⟩
  · obtain ⟨w, hw, -⟩ := stream_ok hread
    have hlength : bytes.length = (c.pool.get c.wire.tick n).length := by
      rw [length_get]
      exact (Wire.readExact_ok hw).1
    rw [bind_of_ok hread, overwrite_full hlength]
    rfl
  · rw [bind_of_err hread]
  · rw [bind_of_dropped hread]

/-- The length field is an `i32`: it counts itself and is not negative. -/
theorem word_of_length {w : UInt32} {n : Nat} (hlen : ¬ w.toInt32.toInt < 4) (hn : n = (w.toInt32.toInt - 4).toNat) :
    w = UInt32.ofNat (n + 4) ∧ n + 4 < 2 ^ 31 := by
  have hint : w.toInt32.toInt = w.toBitVec.toInt := rfl
  have hnat : w.toBitVec.toNat = w.toNat := rfl
  have hlt := w.toNat_lt
  rw [hint, BitVec.toInt_eq_toNat_cond, hnat] at hlen hn
  have hword : n + 4 = w.toNat ∧ n + 4 < 2 ^ 31 := by split at hlen <;> omega
  exact ⟨by rw [hword.1, UInt32.ofNat_toNat], hword.2⟩

theorem parseHeader_ok {header : Bytes} {tag : UInt8} {n : Nat} (h : parseHeader header = .ok (tag, n))
    {payload : Bytes} (hn : payload.length = n) : header ++ payload = frame tag payload ∧ n + 4 < 2 ^ 31 := by
  unfold parseHeader at h
  split at h
  · rename_i tag' a b c d
    dsimp only at h
    split at h
    · cases h
    · rename_i hlen
      cases h
      obtain ⟨hword, hlt⟩ := word_of_length hlen hn
      exact ⟨by rw [frame, ← hword, beBytes_ofBeBytes], by rw [← hn]; exact hlt⟩
  · cases h

/-! ## The messages in a byte stream -/

/-- The messages of the backend's bytes up to the first ReadyForQuery. -/
def messagesFrom : Nat → Bytes → List (UInt8 × Bytes)
  | 0, _ => []
  | fuel + 1, bytes =>
    match parseHeader (bytes.take 5) with
    | .error _ => []
    | .ok (tag, n) =>
      let rest := bytes.drop 5
      if rest.length < n then []
      else (tag, rest.take n) :: if tag = byte 'Z' then [] else messagesFrom fuel (rest.drop n)

/-- A message has five bytes at least. -/
def messages (bytes : Bytes) : List (UInt8 × Bytes) := messagesFrom bytes.length bytes

def transcript (ms : List (UInt8 × Bytes)) : Bytes := ms.flatMap fun m => frame m.1 m.2

theorem parseHeader_frame {tag : UInt8} {payload : Bytes} (rest : Bytes) (h : payload.length + 4 < 2 ^ 31) :
    parseHeader ((frame tag payload ++ rest).take 5) = .ok (tag, payload.length) := by
  have hw : (UInt32.ofNat (payload.length + 4)).toInt32.toInt = payload.length + 4 := by
    have hint (w : UInt32) : w.toInt32.toInt = w.toBitVec.toInt := rfl
    have hnat : (UInt32.ofNat (payload.length + 4)).toBitVec.toNat = payload.length + 4 := by
      show (payload.length + 4) % 2 ^ 32 = _
      omega
    rw [hint, BitVec.toInt_eq_toNat_of_lt (by omega), hnat]
    rfl
  have htake : (frame tag payload ++ rest).take 5 = tag :: beBytes (UInt32.ofNat (payload.length + 4)) := rfl
  rw [htake]
  obtain ⟨a, b, c, d, habcd⟩ : ∃ a b c d, beBytes (UInt32.ofNat (payload.length + 4)) = [a, b, c, d] := ⟨_, _, _, _, rfl⟩
  have hword : ofBeBytes a b c d = UInt32.ofNat (payload.length + 4) := by
    apply beBytes_inj
    rw [beBytes_ofBeBytes, habcd]
  rw [habcd]
  simp only [parseHeader, hword, hw]
  rw [if_neg (by omega)]
  simp

theorem messagesFrom_transcript {ms : List (UInt8 × Bytes)} {ready rest : Bytes}
    (hlen : ∀ m ∈ ms ++ [(byte 'Z', ready)], m.2.length + 4 < 2 ^ 31) (htag : ∀ m ∈ ms, m.1 ≠ byte 'Z') {fuel : Nat}
    (hfuel : ms.length < fuel) :
    messagesFrom fuel (transcript (ms ++ [(byte 'Z', ready)]) ++ rest) = ms ++ [(byte 'Z', ready)] := by
  have step (fuel : Nat) (tag : UInt8) (payload rest : Bytes) (h : payload.length + 4 < 2 ^ 31) :
      messagesFrom (fuel + 1) (frame tag payload ++ rest) =
        (tag, payload) :: if tag = byte 'Z' then [] else messagesFrom fuel rest := by
    have hdrop : (frame tag payload ++ rest).drop 5 = payload ++ rest := rfl
    rw [messagesFrom, parseHeader_frame _ h]
    dsimp only
    rw [hdrop, if_neg (by simp)]
    simp
  induction ms generalizing fuel with
  | nil =>
    obtain ⟨fuel, rfl⟩ : ∃ n, fuel = n + 1 := ⟨fuel - 1, by simp at hfuel; omega⟩
    simp only [List.nil_append, transcript, List.flatMap_cons, List.flatMap_nil, List.append_nil]
    rw [step fuel _ _ _ (hlen (byte 'Z', ready) (by simp)), if_pos rfl]
  | cons m ms ih =>
    obtain ⟨fuel, rfl⟩ : ∃ n, fuel = n + 1 := ⟨fuel - 1, by simp at hfuel; omega⟩
    have hih := ih (fun m' hm' => hlen m' (List.mem_cons_of_mem _ hm')) (fun m' hm' => htag m' (List.mem_cons_of_mem _ hm'))
      (Nat.lt_of_succ_lt_succ hfuel)
    simp only [List.cons_append, transcript, List.flatMap_cons, List.append_assoc] at hih ⊢
    rw [step fuel _ _ _ (hlen m (by simp)), if_neg (htag m (by simp)), hih]

theorem length_le_transcript (ms : List (UInt8 × Bytes)) : ms.length ≤ (transcript ms).length := by
  induction ms with
  | nil => exact Nat.zero_le _
  | cons m ms ih =>
    simp only [transcript, List.flatMap_cons, List.length_append, List.length_cons] at ih ⊢
    have : 0 < (frame m.1 m.2).length := by simp [frame]
    omega

/-- Bytes that begin with messages up to a ReadyForQuery hold exactly these. -/
theorem messages_transcript {ms : List (UInt8 × Bytes)} {ready rest : Bytes}
    (hlen : ∀ m ∈ ms ++ [(byte 'Z', ready)], m.2.length + 4 < 2 ^ 31) (htag : ∀ m ∈ ms, m.1 ≠ byte 'Z') :
    messages (transcript (ms ++ [(byte 'Z', ready)]) ++ rest) = ms ++ [(byte 'Z', ready)] := by
  refine messagesFrom_transcript hlen htag ?_
  have := length_le_transcript (ms ++ [(byte 'Z', ready)])
  simp only [List.length_append, List.length_singleton] at this ⊢
  omega

/-! ## Segments of a run -/

/-- The messages received. -/
def received (es : List PgEvent) : List (UInt8 × Bytes) :=
  es.filterMap fun e => match e with
    | .received tag payload => some (tag, payload)
    | _ => none

theorem received_append (es₁ es₂ : List PgEvent) : received (es₁ ++ es₂) = received es₁ ++ received es₂ :=
  List.filterMap_append

theorem transcript_append (ms₁ ms₂ : List (UInt8 × Bytes)) : transcript (ms₁ ++ ms₂) = transcript ms₁ ++ transcript ms₂ :=
  List.flatMap_append

/-- A part of a run: the events it logged, and the input that the messages among them are. -/
structure Segment (c c' : PgClient) (es : List PgEvent) : Prop where
  log : c'.log = c.log ++ es
  peer : c'.peerCertHash = c.peerCertHash
  input : c.wire.input = transcript (received es) ++ c'.wire.input
  parses : ∀ m ∈ received es, m.2.length + 4 < 2 ^ 31

theorem Segment.trans {c c' c'' : PgClient} {es₁ es₂ : List PgEvent} (h₁ : Segment c c' es₁) (h₂ : Segment c' c'' es₂) :
    Segment c c'' (es₁ ++ es₂) where
  log := by rw [h₂.log, h₁.log, List.append_assoc]
  peer := h₂.peer.trans h₁.peer
  input := by rw [h₁.input, h₂.input, received_append, transcript_append, List.append_assoc]
  parses := by
    intro m hm
    rw [received_append] at hm
    rcases List.mem_append.mp hm with hm | hm
    · exact h₁.parses m hm
    · exact h₂.parses m hm

theorem writeMessage_ok {what : Response} {tag : UInt8} {body : Bytes} {c c' : PgClient} {u : Unit}
    (h : writeMessage what tag body c = (.ok u, c')) : Segment c c' [.wrote what body] := by
  obtain ⟨_, c₁, he, h⟩ := bind_ok.mp h
  cases he
  obtain ⟨_, c₂, hwrite, hflush⟩ := bind_ok.mp h
  obtain ⟨w₁, hw, rfl⟩ := stream_ok hwrite
  obtain ⟨w₂, hf, rfl⟩ := stream_ok hflush
  obtain ⟨-, hin⟩ := Wire.writeAll_ok hw
  obtain ⟨-, -, hin'⟩ := Wire.flush_ok hf
  exact ⟨rfl, rfl, (hin'.trans hin).symm, fun m hm => by cases hm⟩

theorem readMessage_ok {c c' : PgClient} {tag : UInt8} {payload : Bytes}
    (h : readMessage c = (.ok (tag, payload), c')) : Segment c c' [.received tag payload] := by
  obtain ⟨⟨tag', n⟩, c₁, hhead, h⟩ := bind_ok.mp h
  obtain ⟨header, c₀, hread, hlift⟩ := bind_ok.mp hhead
  obtain ⟨hparse, rfl⟩ := lift_eq_ok.mp hlift
  obtain ⟨w₁, hr₁, rfl⟩ := stream_ok hread
  obtain ⟨-, hin₁, -⟩ := Wire.readExact_ok hr₁
  obtain ⟨payload', c₂, hbody, h⟩ := bind_ok.mp h
  obtain ⟨_, _, hget, hbody⟩ := bind_ok.mp hbody
  cases hget
  obtain ⟨_, c₃, hemit, h⟩ := bind_ok.mp h
  cases hemit
  cases h
  split at hbody
  · cases hbody
  · obtain ⟨bytes, c₄, hread', hbody⟩ := bind_ok.mp hbody
    obtain ⟨w₂, hr₂, rfl⟩ := stream_ok hread'
    obtain ⟨hlen, hin₂, -⟩ := Wire.readExact_ok hr₂
    cases hbody
    rw [length_get] at hlen
    rw [overwrite_full (by rw [hlen, length_get])]
    obtain ⟨hframe, hlt⟩ := parseHeader_ok hparse hlen
    refine ⟨rfl, rfl, ?_, ?_⟩
    · rw [hin₁, hin₂]
      simp [received, transcript, ← hframe]
    · intro m hm
      obtain rfl : m = (tag, bytes) := by simpa [received] using hm
      rw [hlen]
      exact hlt

/-! ## What the log gains -/

section Gains

variable {p : PgEvent → Prop}

theorem appends_within {α : Type} (elapsed : PgError) (x : Proc Wire IoError α) : Keeps (Appends log p) (within elapsed x) := by
  intro c
  apply appends_of_eq
  rw [within_snd]

theorem appends_emit {e : PgEvent} (he : p e) : Keeps (Appends log p) (emit e) :=
  fun _ => ⟨[e], rfl, fun _ he' => List.mem_singleton.mp he' ▸ he⟩

theorem appends_writeRaw (bytes : Bytes) : Keeps (Appends log p) (writeRaw bytes) :=
  keeps_bind (appends_within _ _) fun _ => appends_within _ _

theorem appends_readMessageHeader : Keeps (Appends log p) readMessageHeader :=
  keeps_bind (appends_within _ _) fun _ => keeps_lift _

theorem appends_readMessageBody (n : Nat) : Keeps (Appends log p) (readMessageBody n) := by
  intro c
  rw [readMessageBody_eq]
  split
  · exact refl_of (Appends log p) c
  · exact appends_within _ _ c

/-- A message is logged once all of it is read. -/
theorem emits_readMessage : Emits log readMessage fun _ o es _ =>
    (∃ m, o = .ok m ∧ es = [.received m.1 m.2]) ∨ ((∀ m, o ≠ .ok m) ∧ es = []) := by
  have hnone {es : List PgEvent} (h : ∀ e ∈ es, False) : es = [] := List.eq_nil_iff_forall_not_mem.mpr h
  have hemit (tag : UInt8) (payload : Bytes) : Emits log (emit (.received tag payload)) fun _ o es _ =>
      o = .ok () ∧ es = [.received tag payload] := fun _ => ⟨_, rfl, rfl, rfl⟩
  refine (emits_bind (emits_of_appends (p := fun _ => False) appends_readMessageHeader) fun header => emits_bind
    (emits_of_appends (p := fun _ => False) (appends_readMessageBody header.2)) fun payload => emits_bind
      (hemit header.1 payload) fun _ => emits_pure _).mono fun c o es c' h => ?_
  rcases h with ⟨header, _, _, _, h₁, h, rfl⟩ | ⟨e, h₁, rfl⟩ | ⟨n, h₁, rfl⟩
  · rw [hnone h₁, List.nil_append]
    rcases h with ⟨payload, _, _, _, h₂, h, rfl⟩ | ⟨e, h₂, rfl⟩ | ⟨n, h₂, rfl⟩
    · rw [hnone h₂, List.nil_append]
      rcases h with ⟨_, _, _, _, ⟨-, rfl⟩, ⟨rfl, rfl, -⟩, rfl⟩ | ⟨e, ⟨h, -⟩, -⟩ | ⟨n, ⟨h, -⟩, -⟩
      · exact Or.inl ⟨_, rfl, rfl⟩
      · cases h
      · cases h
    · exact Or.inr ⟨by simp, hnone h₂⟩
    · exact Or.inr ⟨by simp, hnone h₂⟩
  · exact Or.inr ⟨by simp, hnone h₁⟩
  · exact Or.inr ⟨by simp, hnone h₁⟩

end Gains

/-! ## Challenges and answers -/

/-- The event is an authentication message of this sub-code. -/
def IsAuth (code : UInt32) (e : PgEvent) : Prop := ∃ data, e = .received (byte 'R') (beBytes code ++ data)

theorem isAuth_received {code code' : UInt32} {data : Bytes} :
    IsAuth code (.received (byte 'R') (beBytes code' ++ data)) ↔ code' = code := by
  constructor
  · intro h
    obtain ⟨data', h⟩ := h
    simp only [PgEvent.received.injEq, true_and] at h
    exact beBytes_inj (List.append_inj h rfl).1
  · intro heq
    subst heq
    exact ⟨data, rfl⟩

/-- What an exchange that ended well was: the mechanism the policy chose, the channel it
    was bound to, and a signature exactly when there was a key to check it with. -/
structure Exchanged (config : PgConfig) (peer : Option CertHash) (mechanism : SaslMechanism) (clientFinal : Str)
    (signature : Bool) : Prop where
  chosen : ∃ offered, selectMechanism config.tls.channelBinding peer.isSome offered = .ok mechanism
  bound : mechanism = .scramSha256Plus → ∃ h rest, peer = some h ∧
    clientFinal = "c=".toList ++ Base64.encode Base64.standard h.cbindInput ++ ",r=".toList ++ rest
  signature_eq : signature = (config.password.isSome || config.serverKey.isSome)

/-- A SASL exchange: the client's side of it, the server's two messages, the proof and
    whether the signature was checked. -/
structure Exchange where
  offered : Bytes
  mechanism : SaslMechanism
  client : ScramClient
  serverFirst : Str
  read : ScramClient.ServerFirst
  proof : Str
  serverFinal : Str
  verified : Bool

namespace Exchange

def withoutProof (x : Exchange) : Str := x.client.clientFinalWithoutProof x.read.combinedNonce

def clientFinal (x : Exchange) : Str := x.withoutProof ++ ",p=".toList ++ x.proof

def authMessage (x : Exchange) : Str := x.client.clientFirstBare ++ ',' :: x.serverFirst ++ ',' :: x.withoutProof

/-- What follows the challenge. -/
def answers (x : Exchange) : List PgEvent :=
  [.wrote .saslInitial (saslInitialResponse x.mechanism.name x.client.clientFirstMessage),
    .received (byte 'R') (beBytes 11 ++ asBytes x.serverFirst), .wrote .saslFinal (asBytes x.clientFinal),
    .received (byte 'R') (beBytes 12 ++ asBytes x.serverFinal), .exchanged x.mechanism x.clientFinal x.verified]

def events (x : Exchange) : List PgEvent := .received (byte 'R') (beBytes 10 ++ x.offered) :: x.answers

end Exchange

/-- An exchange in which both sides did what they had to. -/
structure Completed (config : PgConfig) (peer : Option CertHash) (x : Exchange) : Prop where
  chosen : selectMechanism config.tls.channelBinding peer.isSome (parseSaslMechanisms x.offered) = .ok x.mechanism
  bound : x.mechanism = .scramSha256Plus → ∃ hash, peer = some hash ∧ x.client.cbindInput = hash.cbindInput
  read : x.client.readServerFirst x.serverFirst = .ok x.read
  verified : x.verified = (config.password.isSome || config.serverKey.isSome)
  signed : ∀ key, ScramClient.signatureKey C config.password config.serverKey x.read = some key →
    ∃ signature, scramKv x.serverFinal 'v' = some signature ∧
      Base64.decode Base64.standard signature = some (C.hmacSha256 key (asBytes x.authMessage)).bytes

/-- Every challenge has its answer, and there are no other answers. -/
structure Answered (config : PgConfig) (peer : Option CertHash) (es : List PgEvent) : Prop where
  cleartext : (∃ body, .wrote .cleartext body ∈ es) ↔ ∃ e ∈ es, IsAuth 3 e
  md5 : (∃ body, .wrote .md5 body ∈ es) ↔ ∃ e ∈ es, IsAuth 5 e
  sasl : (∃ m f s, .exchanged m f s ∈ es) ↔ ∃ e ∈ es, IsAuth 10 e
  exchanged : ∀ m f s, .exchanged m f s ∈ es → Exchanged config peer m f s

theorem exists_mem_append {α β : Type} {f : β → α} {l₁ l₂ : List α} {q : α → Prop}
    (h₁ : (∃ b, f b ∈ l₁) ↔ ∃ e ∈ l₁, q e) (h₂ : (∃ b, f b ∈ l₂) ↔ ∃ e ∈ l₂, q e) :
    (∃ b, f b ∈ l₁ ++ l₂) ↔ ∃ e ∈ l₁ ++ l₂, q e := by
  simp only [List.mem_append, exists_or, or_and_right, h₁, h₂]

variable {config : PgConfig} {peer : Option CertHash}

theorem Answered.append {es₁ es₂ : List PgEvent} (h₁ : Answered config peer es₁) (h₂ : Answered config peer es₂) :
    Answered config peer (es₁ ++ es₂) := by
  refine ⟨exists_mem_append h₁.cleartext h₂.cleartext, exists_mem_append h₁.md5 h₂.md5, ?_, ?_⟩
  · have h₁' := h₁.sasl
    have h₂' := h₂.sasl
    simp only [List.mem_append, exists_or, or_and_right, h₁', h₂']
  · intro m f s hm
    rcases List.mem_append.mp hm with hm | hm
    · exact h₁.exchanged m f s hm
    · exact h₂.exchanged m f s hm

/-- A message that is no challenge needs no answer. -/
theorem Answered.received {tag : UInt8} {payload : Bytes}
    (h : ∀ code, code = 3 ∨ code = 5 ∨ code = 10 → ¬ IsAuth code (.received tag payload)) :
    Answered config peer [.received tag payload] := by
  have none (code : UInt32) (hc : code = 3 ∨ code = 5 ∨ code = 10) :
      ¬ ∃ e ∈ [PgEvent.received tag payload], IsAuth code e := by
    simpa using h code hc
  refine ⟨?_, ?_, ?_, ?_⟩
  · exact ⟨fun h => by simp at h, fun h => absurd h (none 3 (by decide))⟩
  · exact ⟨fun h => by simp at h, fun h => absurd h (none 5 (by decide))⟩
  · exact ⟨fun h => by simp at h, fun h => absurd h (none 10 (by decide))⟩
  · intro m f s hm; simp at hm

/-! ## One exchange -/

theorem authenticationData_ok {expected : UInt32} {tag : UInt8} {payload data : Bytes}
    (h : authenticationData expected tag payload = .ok data) : tag = byte 'R' ∧ payload = beBytes expected ++ data := by
  simp only [authenticationData, except_bind_eq_ok, require_eq_ok, except_pure_eq_ok, exists_const, Prod.exists] at h
  obtain ⟨-, htag, authType, rest, hsub, rfl, rfl⟩ := h
  unfold subCode at hsub
  split at hsub
  · cases hsub
    exact ⟨htag, by rw [beBytes_ofBeBytes]; rfl⟩
  · cases hsub

theorem readAuthenticationData_ok {expected : UInt32} {data : Bytes} {c c' : PgClient}
    (h : readAuthenticationData expected c = (.ok data, c')) :
    Segment c c' [.received (byte 'R') (beBytes expected ++ data)] := by
  obtain ⟨⟨tag, payload⟩, c₁, hread, hlift⟩ := bind_ok.mp h
  obtain ⟨hdata, rfl⟩ := lift_eq_ok.mp hlift
  obtain ⟨rfl, rfl⟩ := authenticationData_ok hdata
  exact readMessage_ok hread

theorem startSasl_ok {nonce : NonceBytes} {body : Bytes} {chosen : SaslMechanism} {scram : ScramClient}
    (h : startSasl config peer nonce body = .ok (chosen, scram)) :
    selectMechanism config.tls.channelBinding peer.isSome (parseSaslMechanisms body) = .ok chosen ∧
    scram.password = config.password ∧ scram.serverKey = config.serverKey ∧
    (chosen = .scramSha256Plus → ∃ hash, peer = some hash ∧ scram.cbindInput = hash.cbindInput) := by
  simp only [startSasl, except_bind_eq_ok, require_eq_ok, except_pure_eq_ok, exists_const, Prod.mk.injEq] at h
  obtain ⟨-, chosen', hselect, scram', hclient, rfl, rfl⟩ := h
  refine ⟨hselect, ?_⟩
  unfold saslClient at hclient
  dsimp only at hclient
  split at hclient
  · simp only [except_bind_eq_ok, okOr_eq_ok, except_pure_eq_ok] at hclient
    obtain ⟨hash, hpeer, rfl⟩ := hclient
    exact ⟨rfl, rfl, fun _ => ⟨hash, hpeer, rfl⟩⟩
  · rename_i hne
    cases hclient
    exact ⟨rfl, rfl, fun h => absurd h hne⟩

theorem Completed.exchanged {x : Exchange} (h : Completed C config peer x) :
    Exchanged config peer x.mechanism x.clientFinal x.verified := by
  refine ⟨⟨_, h.chosen⟩, ?_, h.verified⟩
  intro hplus
  obtain ⟨hash, hpeer, hcbind⟩ := h.bound hplus
  refine ⟨hash, x.read.combinedNonce ++ ",p=".toList ++ x.proof, hpeer, ?_⟩
  simp only [Exchange.clientFinal, Exchange.withoutProof, ScramClient.clientFinalWithoutProof, hcbind, List.append_assoc]

/-- The events of an exchange, in order, and the verdict it leaves. -/
theorem handleSasl_ok {body : Bytes} {c c' : PgClient} {u : Unit} (h : handleSasl C config body c = (.ok u, c')) :
    ∃ x : Exchange, x.offered = body ∧ Completed C config c.peerCertHash x ∧ Segment c c' x.answers ∧
      c'.serverSignatureVerified = x.verified := by
  obtain ⟨_, _, hget, h₁⟩ := bind_ok.mp h
  cases hget
  obtain ⟨⟨chosen, scram⟩, _, hl₁, h₂⟩ := bind_ok.mp h₁
  obtain ⟨hstart, rfl⟩ := lift_eq_ok.mp hl₁
  obtain ⟨hselect, hpassword, hserverKey, hbound⟩ := startSasl_ok hstart
  obtain ⟨_, _, hdraw, h₃⟩ := bind_ok.mp h₂
  cases hdraw
  obtain ⟨_, _, hinitial, h₄⟩ := bind_ok.mp h₃
  obtain ⟨d₁, _, hfirst, h₅⟩ := bind_ok.mp h₄
  obtain ⟨serverFirst, _, hl₂, h₆⟩ := bind_ok.mp h₅
  obtain ⟨hutf₁, rfl⟩ := lift_eq_ok.mp hl₂
  obtain ⟨⟨clientFinal, scram'⟩, _, hl₃, h₇⟩ := bind_ok.mp h₆
  obtain ⟨hfinal, rfl⟩ := lift_eq_ok.mp hl₃
  obtain ⟨_, _, hwrite, h₈⟩ := bind_ok.mp h₇
  obtain ⟨d₂, _, hserver, h₉⟩ := bind_ok.mp h₈
  obtain ⟨serverFinal, _, hl₄, h₁₀⟩ := bind_ok.mp h₉
  obtain ⟨hutf₂, rfl⟩ := lift_eq_ok.mp hl₄
  obtain ⟨verified, _, hl₅, h₁₁⟩ := bind_ok.mp h₁₀
  obtain ⟨hverify, rfl⟩ := lift_eq_ok.mp hl₅
  obtain ⟨_, _, hemit, h₁₂⟩ := bind_ok.mp h₁₁
  cases hemit
  cases h₁₂
  have hcf : scram.clientFinalMessage C serverFirst config.salt config.iterations = (.ok clientFinal, scram') := by
    revert hfinal
    split
    · rename_i m s heq
      intro hfinal
      cases hfinal
      exact heq
    · intro hfinal
      cases hfinal
  obtain ⟨sf, proof, hread, rfl, hmessage, hkey⟩ := ScramClient.clientFinalMessage_ok C hcf
  obtain ⟨hverified, hsigned⟩ := ScramClient.verifyServerFinal_ok C hverify
  rw [hpassword, hserverKey] at hkey
  rw [hkey] at hverified hsigned
  rw [hmessage] at hsigned
  obtain rfl := asBytes_of_fromUtf8 (okOr_eq_ok.mp hutf₁)
  obtain rfl := asBytes_of_fromUtf8 (okOr_eq_ok.mp hutf₂)
  -- drawing a nonce and noting the verdict are no messages
  have hsegment := (((writeMessage_ok hinitial).trans (readAuthenticationData_ok hfirst)).trans
    (writeMessage_ok hwrite)).trans (readAuthenticationData_ok hserver)
  refine ⟨⟨body, chosen, scram, serverFirst, sf, proof, serverFinal, verified⟩, rfl, ?_, ?_, rfl⟩
  · exact ⟨hselect, hbound, hread, hverified.trans (ScramClient.signatureKey_isSome C _ _ _), hsigned⟩
  · refine ⟨?_, hsegment.peer, hsegment.input, hsegment.parses⟩
    dsimp only
    rw [hsegment.log, List.append_assoc]
    rfl

/-! ## One message -/

theorem not_isAuth_wrote {code : UInt32} {what : Response} {body : Bytes} : ¬ IsAuth code (.wrote what body) := by
  intro h
  obtain ⟨data, h⟩ := h
  cases h

theorem not_isAuth_exchanged {code : UInt32} {m : SaslMechanism} {f : Str} {s : Bool} :
    ¬ IsAuth code (.exchanged m f s) := by
  intro h
  obtain ⟨data, h⟩ := h
  cases h

/-- An authentication request and what it made the client do. -/
theorem handleAuth_ok {authType : UInt32} {data : Bytes} {c c' : PgClient} {u : Unit}
    (h : handleAuth C config authType data c = (.ok u, c')) :
    ∃ es, Segment c c' es ∧ (∀ m ∈ received es, m.1 = byte 'R') ∧
      Answered config c.peerCertHash (.received (byte 'R') (beBytes authType ++ data) :: es) := by
  unfold handleAuth at h
  split at h
  · rename_i h0
    subst h0
    cases h
    refine ⟨[], ⟨by simp, rfl, rfl, by simp [received]⟩, by simp [received], Answered.received fun code hcode hauth => ?_⟩
    obtain rfl := isAuth_received.mp hauth
    revert hcode
    decide
  split at h
  · rename_i h3
    subst h3
    cases hp : config.password with
    | none =>
      simp only [handleCleartext, hp] at h
      cases h
    | some password =>
      simp only [handleCleartext, hp] at h
      refine ⟨_, writeMessage_ok h, by simp [received], ?_⟩
      constructor <;> simp [isAuth_received, not_isAuth_wrote]
  split at h
  · rename_i h5
    subst h5
    unfold handleMd5 at h
    split at h
    · cases h
    cases hp : config.password with
    | none =>
      simp only [hp] at h
      cases h
    | some password =>
      simp only [hp] at h
      refine ⟨_, writeMessage_ok h, by simp [received], ?_⟩
      constructor <;> simp [isAuth_received, not_isAuth_wrote]
  split at h
  · rename_i h10
    subst h10
    obtain ⟨x, rfl, hcompleted, hsegment, -⟩ := handleSasl_ok C h
    refine ⟨_, hsegment, by simp [received, Exchange.answers], ?_⟩
    constructor
    · simp [Exchange.answers, isAuth_received, not_isAuth_wrote, not_isAuth_exchanged]
    · simp [Exchange.answers, isAuth_received, not_isAuth_wrote, not_isAuth_exchanged]
    · simp [Exchange.answers, isAuth_received, not_isAuth_wrote, not_isAuth_exchanged]
    · intro m f s hm
      obtain ⟨rfl, rfl, rfl⟩ : m = x.mechanism ∧ f = x.clientFinal ∧ s = x.verified := by
        simpa [Exchange.answers] using hm
      exact hcompleted.exchanged C
  split at h <;> cases h

theorem subCode_ok {payload data : Bytes} {authType : UInt32} (h : subCode payload = .ok (authType, data)) :
    payload = beBytes authType ++ data := by
  unfold subCode at h
  split at h
  · cases h
    rw [beBytes_ofBeBytes]
    rfl
  · cases h

/-- A message other than an authentication request asks nothing of the client. -/
theorem answered_other {tag : UInt8} {payload : Bytes} (htag : tag ≠ byte 'R') :
    Answered config peer [.received tag payload] := by
  refine Answered.received fun code _ hauth => ?_
  obtain ⟨data, hd⟩ := hauth
  cases hd
  exact htag rfl

theorem handleMessage_ok {tag : UInt8} {payload : Bytes} {c c₁ c' : PgClient} {done : Bool}
    (hread : readMessage c = (.ok (tag, payload), c₁)) (h : handleMessage C config tag payload c₁ = (.ok done, c')) :
    ∃ es, Segment c c' es ∧ Answered config c.peerCertHash es ∧ (tag, payload) ∈ received es ∧
      (done = true → ∃ ready, received es = [(byte 'Z', ready)]) ∧
      (done = false → ∀ m ∈ received es, m.1 ≠ byte 'Z') := by
  have hsegment := readMessage_ok hread
  -- the other messages change no more than what the client remembers of them
  have quiet {c' : PgClient} (hlog : c'.log = c₁.log) (hpeer : c'.peerCertHash = c₁.peerCertHash)
      (hwire : c'.wire = c₁.wire) : Segment c c' [.received tag payload] :=
    ⟨hlog.trans hsegment.log, hpeer.trans hsegment.peer, by rw [hwire]; exact hsegment.input, hsegment.parses⟩
  have notReady (htag : tag ≠ byte 'Z') : ∀ m ∈ received [.received tag payload], m.1 ≠ byte 'Z' := by
    intro m hm
    obtain rfl : m = (tag, payload) := by simpa [received] using hm
    exact htag
  unfold handleMessage at h
  split at h
  · rename_i htag
    subst htag
    obtain ⟨⟨authType, data⟩, _, hl, h₁⟩ := bind_ok.mp h
    obtain ⟨hsub, rfl⟩ := lift_eq_ok.mp hl
    obtain rfl := subCode_ok hsub
    obtain ⟨_, _, hauth, h₂⟩ := bind_ok.mp h₁
    cases h₂
    obtain ⟨es, hseg, htags, hanswered⟩ := handleAuth_ok C hauth
    rw [hsegment.peer] at hanswered
    refine ⟨_, hsegment.trans hseg, hanswered, List.mem_cons_self, by simp, fun _ m hm => ?_⟩
    rw [received_append] at hm
    rcases List.mem_append.mp hm with hm | hm
    · exact notReady (by decide) m hm
    · rw [htags m hm]
      decide
  split at h
  · rename_i hR hS
    obtain ⟨⟨name, value⟩, _, hl, h₁⟩ := bind_ok.mp h
    obtain ⟨-, rfl⟩ := lift_eq_ok.mp hl
    obtain ⟨_, _, hm, h₂⟩ := bind_ok.mp h₁
    cases hm
    cases h₂
    exact ⟨_, quiet rfl rfl rfl, answered_other hR, List.mem_cons_self, by simp, fun _ => notReady (by rw [hS]; decide)⟩
  split at h
  · rename_i hR _ hN
    obtain ⟨_, _, hm, h₂⟩ := bind_ok.mp h
    cases hm
    cases h₂
    exact ⟨_, quiet rfl rfl rfl, answered_other hR, List.mem_cons_self, by simp, fun _ => notReady (by rw [hN]; decide)⟩
  split at h
  · rename_i hR _ _ hK
    obtain ⟨key, _, hl, h₁⟩ := bind_ok.mp h
    obtain ⟨-, rfl⟩ := lift_eq_ok.mp hl
    obtain ⟨_, _, hm, h₂⟩ := bind_ok.mp h₁
    cases hm
    cases h₂
    exact ⟨_, quiet rfl rfl rfl, answered_other hR, List.mem_cons_self, by simp, fun _ => notReady (by rw [hK]; decide)⟩
  split at h
  · rename_i hR _ _ _ hZ
    obtain ⟨status, _, hl, h₁⟩ := bind_ok.mp h
    obtain ⟨-, rfl⟩ := lift_eq_ok.mp hl
    obtain ⟨_, _, hm, h₂⟩ := bind_ok.mp h₁
    cases hm
    cases h₂
    exact ⟨_, quiet rfl rfl rfl, answered_other hR, List.mem_cons_self, fun _ => ⟨payload, by rw [← hZ]; rfl⟩, by simp⟩
  split at h <;> cases h

/-! ## The handshake -/

/-- A handshake that returned ends with the first ReadyForQuery, every challenge before it answered. -/
theorem handshakeFrom_ok {fuel : Nat} {c c' : PgClient} {u : Unit} (h : handshakeFrom C config fuel c = (.ok u, c')) :
    ∃ es, Segment c c' es ∧ Answered config c.peerCertHash es ∧
      ∃ ms ready, received es = ms ++ [(byte 'Z', ready)] ∧ ∀ m ∈ ms, m.1 ≠ byte 'Z' := by
  induction fuel generalizing c with
  | zero => cases h
  | succ fuel ih =>
    obtain ⟨⟨tag, payload⟩, c₁, hread, h₁⟩ := bind_ok.mp h
    obtain ⟨done, c₂, hmessage, h₂⟩ := bind_ok.mp h₁
    obtain ⟨es₁, hseg₁, hanswered₁, -, hdone, hmore⟩ := handleMessage_ok C hread hmessage
    cases done with
    | true =>
      cases h₂
      obtain ⟨ready, hready⟩ := hdone rfl
      exact ⟨es₁, hseg₁, hanswered₁, [], ready, hready, by simp⟩
    | false =>
      obtain ⟨es₂, hseg₂, hanswered₂, ms, ready, hready, hms⟩ := ih h₂
      rw [hseg₁.peer] at hanswered₂
      refine ⟨es₁ ++ es₂, hseg₁.trans hseg₂, hanswered₁.append hanswered₂, received es₁ ++ ms, ready, ?_, ?_⟩
      · rw [received_append, hready, List.append_assoc]
      · intro m hm
        rcases List.mem_append.mp hm with hm | hm
        · exact hmore rfl m hm
        · exact hms m hm

/-- Every message takes bytes of the input, so that more fuel than bytes makes no difference. -/
theorem handshakeFrom_fuel {fuel fuel' : Nat} {c : PgClient} (h : c.wire.input.length < fuel)
    (h' : c.wire.input.length < fuel') : handshakeFrom C config fuel c = handshakeFrom C config fuel' c := by
  induction fuel generalizing fuel' c with
  | zero => cases h
  | succ fuel ih =>
    obtain ⟨fuel', rfl⟩ : ∃ n, fuel' = n + 1 := ⟨fuel' - 1, by omega⟩
    unfold handshakeFrom
    rcases hread : readMessage c with ⟨⟨tag, payload⟩ | e | n, c₁⟩
    · rw [bind_of_ok hread, bind_of_ok hread]
      dsimp only
      rcases hmessage : handleMessage C config tag payload c₁ with ⟨done | e | n, c₂⟩
      · rw [bind_of_ok hmessage, bind_of_ok hmessage]
        obtain ⟨es, hseg, -, hmem, -, -⟩ := handleMessage_ok C hread hmessage
        have hshorter : c₂.wire.input.length < c.wire.input.length := by
          have := length_le_transcript (received es)
          have := List.length_pos_of_mem hmem
          rw [hseg.input, List.length_append]
          omega
        cases done with
        | true => rfl
        | false => exact ih (by omega) (by omega)
      · rw [bind_of_err hmessage, bind_of_err hmessage]
      · rw [bind_of_dropped hmessage, bind_of_dropped hmessage]
    · rw [bind_of_err hread, bind_of_err hread]
    · rw [bind_of_dropped hread, bind_of_dropped hread]

theorem handshake_ok {c c' : PgClient} {u : Unit} (h : handleStartupHandshake C config c = (.ok u, c')) :
    ∃ es, Segment c c' es ∧ Answered config c.peerCertHash es ∧ received es = messages c.wire.input := by
  obtain ⟨_, _, hget, h₁⟩ := bind_ok.mp h
  cases hget
  obtain ⟨es, hseg, hanswered, ms, ready, hready, hms⟩ := handshakeFrom_ok C h₁
  refine ⟨es, hseg, hanswered, ?_⟩
  have hparses := hseg.parses
  rw [hready] at hparses
  rw [hseg.input, hready, messages_transcript hparses hms]

/-! ## Requiring channel binding -/

/-- The messages hold an authentication request of this kind. -/
def Requests (code : UInt32) (ms : List (UInt8 × Bytes)) : Prop := ∃ data, (byte 'R', beBytes code ++ data) ∈ ms

theorem requests_received {code : UInt32} {es : List PgEvent} :
    Requests code (received es) ↔ ∃ e ∈ es, IsAuth code e := by
  constructor
  · intro h
    obtain ⟨data, hm⟩ := h
    obtain ⟨e, he, hr⟩ := List.mem_filterMap.mp hm
    cases e with
    | received tag payload =>
      cases hr
      exact ⟨_, he, data, rfl⟩
    | wrote => cases hr
    | exchanged => cases hr
  · intro h
    obtain ⟨e, he, data, rfl⟩ := h
    exact ⟨data, List.mem_filterMap.mpr ⟨_, he, rfl⟩⟩

/-- What `Require` is for: the exchange was bound to the peer's certificate and its
    signature checked, and no password went out in another way. -/
structure Enforced (peer : Option CertHash) (es : List PgEvent) : Prop where
  bound : ∃ h rest, peer = some h ∧
    .exchanged .scramSha256Plus ("c=".toList ++ Base64.encode Base64.standard
      (asBytes "p=tls-server-end-point,," ++ h.digest) ++ ",r=".toList ++ rest) true ∈ es
  no_cleartext : ∀ body, .wrote .cleartext body ∉ es
  no_md5 : ∀ body, .wrote .md5 body ∉ es

/-- The policy speaks when the backend asks for SASL; it is enforced exactly when the
    backend does ask, asks for nothing else, and there is a key to check `v=` with. -/
theorem require_enforced_iff {c c' : PgClient} {u : Unit} (hrequire : config.tls.channelBinding = .require)
    (h : handleStartupHandshake C config c = (.ok u, c')) :
    ∃ es, c'.log = c.log ++ es ∧
      (Enforced c.peerCertHash es ↔
        Requests 10 (messages c.wire.input) ∧ ¬ Requests 3 (messages c.wire.input) ∧
          ¬ Requests 5 (messages c.wire.input) ∧ (config.password.isSome ∨ config.serverKey.isSome)) := by
  obtain ⟨es, hseg, hanswered, hms⟩ := handshake_ok C h
  refine ⟨es, hseg.log, ?_⟩
  rw [← hms, requests_received, requests_received, requests_received, ← hanswered.sasl, ← hanswered.cleartext,
    ← hanswered.md5]
  have hsignature (m : SaslMechanism) (f : Str) (s : Bool) (he : .exchanged m f s ∈ es) :
      s = true ↔ config.password.isSome ∨ config.serverKey.isSome := by
    rw [(hanswered.exchanged m f s he).signature_eq, Bool.or_eq_true]
  constructor
  · intro h
    obtain ⟨⟨hash, rest, -, he⟩, hcleartext, hmd5⟩ := h
    exact ⟨⟨_, _, _, he⟩, by simpa using hcleartext, by simpa using hmd5, (hsignature _ _ _ he).mp rfl⟩
  · intro h
    obtain ⟨⟨m, f, s, he⟩, hcleartext, hmd5, hkey⟩ := h
    obtain ⟨⟨offered, hselect⟩, hbound, -⟩ := hanswered.exchanged m f s he
    rw [hrequire] at hselect
    obtain ⟨rfl, -⟩ := selectMechanism_require hselect
    obtain ⟨hash, rest, hpeer, hf⟩ := hbound rfl
    obtain rfl := (hsignature _ _ _ he).mpr hkey
    refine ⟨⟨hash, rest, hpeer, ?_⟩, by simpa using hcleartext, by simpa using hmd5⟩
    rw [hf] at he
    exact he

end PgClient

/-! ## Two backends -/

namespace Sample

def certHash : CertHash := ⟨.sha256, (List.range 32).map fun i => UInt8.ofNat (64 + i), by decide⟩

def boundWithoutProof : Str :=
  "c=cD10bHMtc2VydmVyLWVuZC1wb2ludCwsQEFCQ0RFRkdISUpLTE1OT1BRUlNUVVZXWFlaW1xdXl8=,r=AAECAwQFBgcICQoLDA0ODxAR-ICEiIyQlJicoKSorLC0uLzAxMjM0NTY3ODk6Ozw9Pj8="
def boundAuthMessage : Str := "n=,r=AAECAwQFBgcICQoLDA0ODxAR,".toList ++ serverFirst ++ ',' :: boundWithoutProof
def boundClientSig : Key :=
  ⟨[195, 208, 37, 244, 189, 81, 218, 169, 124, 208, 197, 172, 153, 224, 93, 104, 140, 85, 56, 101, 198, 145, 29, 51,
    230, 41, 37, 15, 154, 1, 254, 191], by decide⟩
def boundServerSig : Key :=
  ⟨[202, 75, 140, 91, 37, 121, 28, 27, 143, 212, 45, 1, 34, 196, 127, 69, 41, 200, 26, 67, 131, 109, 148, 97, 161, 7,
    193, 211, 27, 4, 82, 146], by decide⟩

/-- HMAC at the arguments of the exchange that is bound to `certHash`. -/
def boundCrypto : Crypto :=
  { crypto with
    hmacSha256 := fun key message =>
      if key = storedKey.bytes ∧ message = asBytes boundAuthMessage then boundClientSig
      else if key = serverKey.bytes ∧ message = asBytes boundAuthMessage then boundServerSig
      else .zero }

def pgConfig : PgConfig :=
  { clientKey := some clientKey.bytes, serverKey := some serverKey.bytes, storedKey := some storedKey.bytes
    password := none, user := "alice", database := "alice", connectTimeoutMs := 2000, startupTimeoutMs := 5000
    host := "localhost", port := 5432
    tls := { mode := .require, rootCertFile := none, channelBinding := .require, domain := none }
    salt, iterations := 4096, startupParams := [("user".toList, "alice".toList)] }

/-- The client of a TLS link on which these bytes arrive, with nothing in the way. -/
def pgClient (input : Bytes) : PgClient :=
  { pool := { maxCapacity := 1048576, stale := fun _ _ => 0 }
    wire :=
      { reader := { buf := [], inner := { transport := .clientTls, chunks := [input] } }
        writer := { buf := [], inner := .clientTls }, sent := [], sched := fun _ => .ready 8192, tick := 0 }
    startupNotifications := [], backendKey := none, readyStatus := none, serverSignatureVerified := false
    peerCertHash := some certHash, nonces := fun _ => clientNonceBytes, drawn := 0, log := [] }

def auth (code : UInt32) (data : Bytes) : Bytes := frame (byte 'R') (beBytes code ++ data)

def ready : Bytes := frame (byte 'Z') [byte 'I']

/-- A backend that binds the channel and signs. -/
def bindingBackend : Bytes :=
  auth 10 (putCstr "SCRAM-SHA-256-PLUS" ++ putCstr "SCRAM-SHA-256" ++ [0]) ++ auth 11 (asBytes serverFirst) ++
    auth 12 (asBytes "v=ykuMWyV5HBuP1C0BIsR/RSnIGkODbZRhoQfB0xsEUpI=") ++ auth 0 [] ++ ready

/-- A backend that trusts everybody. -/
def silentBackend : Bytes := auth 0 [] ++ ready

/-- The handshake with the binding backend returns. -/
theorem bindingBackend_ok :
    (PgClient.handleStartupHandshake boundCrypto pgConfig (pgClient bindingBackend)).1 = .ok () := by
  decide +kernel

end Sample

namespace PgClient

theorem require_enforced_iff_bound :
    ∃ es, (handleStartupHandshake Sample.boundCrypto Sample.pgConfig (Sample.pgClient Sample.bindingBackend)).2.log =
        (Sample.pgClient Sample.bindingBackend).log ++ es ∧
      (Enforced (Sample.pgClient Sample.bindingBackend).peerCertHash es ↔
        Requests 10 (messages (Sample.pgClient Sample.bindingBackend).wire.input) ∧
          ¬ Requests 3 (messages (Sample.pgClient Sample.bindingBackend).wire.input) ∧
          ¬ Requests 5 (messages (Sample.pgClient Sample.bindingBackend).wire.input) ∧
          (Sample.pgConfig.password.isSome ∨ Sample.pgConfig.serverKey.isSome)) :=
  require_enforced_iff Sample.boundCrypto rfl (eq_of_fst Sample.bindingBackend_ok)

/-- The handshake returns though nothing was asked, bound or signed. -/
theorem require_accepts_a_silent_backend :
    Sample.pgConfig.tls.channelBinding = .require ∧
    (handleStartupHandshake Sample.crypto Sample.pgConfig (Sample.pgClient Sample.silentBackend)).1 = .ok () ∧
    ¬ Enforced (some Sample.certHash)
      (handleStartupHandshake Sample.crypto Sample.pgConfig (Sample.pgClient Sample.silentBackend)).2.log := by
  refine ⟨rfl, by decide +kernel, ?_⟩
  intro h
  obtain ⟨⟨h, rest, -, he⟩, -, -⟩ := h
  have hlog : (handleStartupHandshake Sample.crypto Sample.pgConfig (Sample.pgClient Sample.silentBackend)).2.log =
      [.received (byte 'R') [0, 0, 0, 0], .received (byte 'Z') [byte 'I']] := by
    decide +kernel
  rw [hlog] at he
  simp at he

end PgClient

end Wirechaos
