/-
  Wirechaos.Auth.ScramLink — the proxy's two SCRAM roles against each other.

  `exchange` runs the client role (`Backend.ScramClient`) against the server role
  (`Auth.Scram`) through the messages both sides encode and decode. Whenever the keys
  the client works with are those of the server's verifier, it completes
  (`exchange_completes`): with captured keys (`passthrough_completes`) and from a
  password (`password_completes`). With `-PLUS` it never does, because the server
  advertises a name the client does not know (`plus_never_negotiates`).
-/

import Wirechaos.Auth.SaslProofs
import Wirechaos.Backend.ScramClient

namespace Wirechaos

open Text Async Scram

variable (C : Crypto)

inductive LinkError where
  | server (e : AuthFailure)
  | client (e : PgError)
  deriving DecidableEq, Repr

/-- A completed exchange: its messages, the key the server recovered, and whether the
    client verified the server's signature. -/
structure Completed where
  serverFirst : Str
  clientFinal : Str
  serverFinal : Str
  extractedClientKey : Option Bytes
  verified : Bool
  deriving DecidableEq, Repr

/-- The server's half: the client-first it reads and its answer. -/
def serverAnswers (a : ScramAuthenticator) (serverNonceBytes : Key) (response : Bytes) (user : Str) :
    Except LinkError Str × ScramAuthenticator :=
  match parseSaslInitialResponse a.mechanisms response with
  | .error e => (.error (.server e), a)
  | .ok (mechanism, clientFirst) =>
    match a.handleClientFirst serverNonceBytes mechanism clientFirst user with
    | (.error e, a) => (.error (.server (rejected e)), a)
    | (.ok serverFirst, a) => (.ok serverFirst, a)

/-- The client's half: `handle_sasl` between the two messages of the server. -/
def clientAnswers (c : ScramClient) (serverFirst : Bytes) (salt : Bytes) (iterations : UInt32) :
    Except LinkError Str × ScramClient :=
  match fromUtf8 serverFirst with
  | none => (.error (.client (.protocol "server-first is not UTF-8")), c)
  | some serverFirst =>
    match c.clientFinalMessage C serverFirst salt iterations with
    | (.error e, c) => (.error (.client e), c)
    | (.ok clientFinal, c) => (.ok clientFinal, c)

/-- `salt` and `iterations` are those the client's captured keys are bound to. -/
def exchange (c : ScramClient) (chosen : SaslMechanism) (salt : Bytes) (iterations : UInt32) (a : ScramAuthenticator)
    (serverNonceBytes : Key) (user : Str) : Except LinkError Completed :=
  match serverAnswers a serverNonceBytes (saslInitialResponse chosen.name c.clientFirstMessage) user with
  | (.error e, _) => .error e
  | (.ok serverFirst, a) =>
    match clientAnswers C c (asBytes serverFirst) salt iterations with
    | (.error e, _) => .error e
    | (.ok clientFinal, c) =>
      match parseSaslFinalResponse (asBytes clientFinal) with
      | .error e => .error (.server e)
      | .ok clientFinal =>
        match a.handleClientFinal C clientFinal user with
        | (.error e, _) => .error (.server (rejected e))
        | (.ok serverFinal, a) =>
          match c.verifyServerFinal C serverFinal with
          | .error e => .error (.client e)
          | .ok verified =>
            .ok { serverFirst, clientFinal, serverFinal, extractedClientKey := a.extractedClientKey, verified }

/-! ## The messages of an honest client -/

section Honest

variable {c : ScramClient} {v : Verifier}

def agreedNonce (c : ScramClient) (serverNonceBytes : Key) : Str :=
  c.clientNonce ++ '-' :: Base64.encode Base64.standard serverNonceBytes.bytes

/-- A client without channel binding, as `ScramClient::new` makes it. -/
structure Plain (c : ScramClient) : Prop where
  mechanism : c.mechanism = .sha256
  channelBinding : c.channelBinding = none
  nonce_ne : c.clientNonce ≠ []
  nonce_comma : ',' ∉ c.clientNonce
  short : byteLen c.clientFirstMessage < 2 ^ 31

theorem plain_new (nonce : NonceBytes) (clientKey serverKey storedKey password : Option Bytes) :
    Plain (ScramClient.new nonce clientKey serverKey storedKey password) := by
  have hlen : (Base64.encodeRaw Base64.urlSafe nonce.val).length = 24 := by
    rw [Base64.length_encodeRaw, nonce.property]
  have hascii : Base64.urlSafe.chars.all fun ch => ch.val.toNat < 128 := by decide
  refine ⟨rfl, rfl, ?_, ?_, ?_⟩
  · intro h
    have := congrArg List.length h
    simp only [ScramClient.new, hlen] at this
    cases this
  · exact fun h => absurd (Base64.mem_encodeRaw Base64.urlSafe _ _ h) (by decide)
  · have hb := byteLen_ascii fun ch hch => of_decide_eq_true (List.all_eq_true.mp hascii ch
      (Base64.mem_encodeRaw Base64.urlSafe nonce.val ch hch))
    show byteLen ("n,,".toList ++ ("n=,r=".toList ++ Base64.encodeRaw Base64.urlSafe nonce.val)) < 2 ^ 31
    rw [byteLen_append, byteLen_append, hb, hlen]
    decide

theorem comma_not_mem_agreedNonce (hc : Plain c) (serverNonceBytes : Key) : ',' ∉ agreedNonce c serverNonceBytes := by
  simp only [agreedNonce, List.mem_append, List.mem_cons, not_or]
  exact ⟨hc.nonce_comma, by decide, comma_not_mem_encode _⟩

/-- The server after its answer to an honest client. -/
def answeredTo (c : ScramClient) (v : Verifier) (serverNonceBytes : Key) : ScramAuthenticator :=
  { ScramAuthenticator.new v none with
    gs2Header := "n,,", clientNonce := c.clientNonce, combinedNonce := agreedNonce c serverNonceBytes
    clientFirstBare := c.clientFirstBare
    serverFirst := ScramAuthenticator.serverFirstMessage v (agreedNonce c serverNonceBytes)
    state := .clientFirstReceived, choosedMechanism := scramSha256 }

theorem clientNonceOf_clientFirstBare (hc : Plain c) : clientNonceOf c.clientFirstBare = c.clientNonce := by
  have hr : ',' ∉ "r=".toList ++ c.clientNonce := by simpa using hc.nonce_comma
  have ha : attributes c.clientFirstBare = ["n=".toList, "r=".toList ++ c.clientNonce] := by
    rw [show c.clientFirstBare = "n=".toList ++ ',' :: ("r=".toList ++ c.clientNonce) from rfl,
      attributes_cons (by decide), attributes_of_not_mem hr]
  rw [clientNonceOf, ha, List.foldl_cons, List.foldl_cons, List.foldl_nil, stripPrefix_append]
  rfl

theorem checkClientFirst_plain (hc : Plain c) {user : Str} (hu : user ≠ []) (certHash : Option CertHash) :
    (ScramAuthenticator.new v certHash).checkClientFirst scramSha256 c.clientFirstMessage user =
      .ok ("n".toList, [], c.clientFirstBare) := by
  have hfirst : c.clientFirstMessage = "n".toList ++ ',' :: ([] ++ ',' :: c.clientFirstBare) := by
    rw [ScramClient.clientFirstMessage, hc.mechanism]
    rfl
  have hextract := extractDataFromClientFirst_ok.mpr ⟨hfirst, by decide, List.not_mem_nil⟩
  have hparams : (ScramAuthenticator.new v certHash).validateParams scramSha256 user = .ok () := by
    cases certHash <;> simp [ScramAuthenticator.validateParams, except_bind_eq_ok, require_eq_ok, ScramAuthenticator.new,
      ScramAuthenticator.mechanisms, hu]
  simp only [ScramAuthenticator.checkClientFirst, hparams, hextract, except_bind_ok]
  rfl

/-- A client that does not bind is answered, whether or not the server offers to. -/
theorem handleClientFirst_plain (hc : Plain c) {user : Str} (hu : user ≠ []) (serverNonceBytes : Key)
    (certHash : Option CertHash) :
    (ScramAuthenticator.new v certHash).handleClientFirst serverNonceBytes scramSha256 c.clientFirstMessage user =
      (.ok (ScramAuthenticator.serverFirstMessage v (agreedNonce c serverNonceBytes)),
        { answeredTo c v serverNonceBytes with certHash }) := by
  have hne : clientNonceOf c.clientFirstBare ≠ [] := by rw [clientNonceOf_clientFirstBare hc]; exact hc.nonce_ne
  rw [ScramAuthenticator.handleClientFirst, checkClientFirst_plain hc hu]
  dsimp only
  rw [if_neg hne, clientNonceOf_clientFirstBare hc]
  rfl

theorem parseSaslInitialResponse_plain (hc : Plain c) :
    parseSaslInitialResponse (ScramAuthenticator.new v none).mechanisms
      (saslInitialResponse SaslMechanism.scramSha256.name c.clientFirstMessage) =
        .ok (scramSha256, c.clientFirstMessage) := by
  rw [show (ScramAuthenticator.new v none).mechanisms = [scramSha256] from rfl,
    show SaslMechanism.scramSha256.name = scramSha256 from rfl]
  exact parseSaslInitialResponse_saslInitialResponse (List.mem_singleton.mpr rfl) (by decide) hc.short

theorem serverAnswers_plain (hc : Plain c) {user : Str} (hu : user ≠ []) (serverNonceBytes : Key) :
    serverAnswers (.new v none) serverNonceBytes (saslInitialResponse SaslMechanism.scramSha256.name c.clientFirstMessage)
      user = (.ok (ScramAuthenticator.serverFirstMessage v (agreedNonce c serverNonceBytes)),
        answeredTo c v serverNonceBytes) := by
  rw [serverAnswers, parseSaslInitialResponse_plain hc]
  dsimp only
  rw [handleClientFirst_plain hc hu]
  rfl

/-! ## Reading the server-first -/

theorem scramKv_of_attributes {msg : Str} {l : List Str} (h : attributes msg = l) (key : Char) :
    scramKv msg key = (l.filterMap parsePair).reverse.lookup key := by
  rw [scramKv, parseScramKv, ← h]
  rfl

theorem attributes_serverFirstMessage {combinedNonce : Str} (h : ',' ∉ combinedNonce) :
    attributes (ScramAuthenticator.serverFirstMessage v combinedNonce) =
      ["r=".toList ++ combinedNonce, "s=".toList ++ Base64.encode Base64.standard v.salt,
        "i=".toList ++ decimal v.iterations.toNat] := by
  have hr : ',' ∉ "r=".toList ++ combinedNonce := by simpa using h
  have hs : ',' ∉ "s=".toList ++ Base64.encode Base64.standard v.salt := by simpa using comma_not_mem_encode v.salt
  have hi : ',' ∉ "i=".toList ++ decimal v.iterations.toNat := by
    simpa using not_mem_decimal (c := ',') (by decide) v.iterations.toNat
  have he : ScramAuthenticator.serverFirstMessage v combinedNonce =
      ("r=".toList ++ combinedNonce) ++ ',' :: (("s=".toList ++ Base64.encode Base64.standard v.salt) ++
        ',' :: ("i=".toList ++ decimal v.iterations.toNat)) := by
    simp [ScramAuthenticator.serverFirstMessage]
  rw [he, attributes_cons hr, attributes_cons hs, attributes_of_not_mem hi]

theorem readServerFirst_plain (hc : Plain c) (serverNonceBytes : Key) :
    c.readServerFirst (ScramAuthenticator.serverFirstMessage v (agreedNonce c serverNonceBytes)) =
      .ok ⟨agreedNonce c serverNonceBytes, v.salt, v.iterations⟩ := by
  have hattrs := attributes_serverFirstMessage (v := v) (comma_not_mem_agreedNonce hc serverNonceBytes)
  have hr : scramKv (ScramAuthenticator.serverFirstMessage v (agreedNonce c serverNonceBytes)) 'r' =
      some (agreedNonce c serverNonceBytes) := by rw [scramKv_of_attributes hattrs]; rfl
  have hs : scramKv (ScramAuthenticator.serverFirstMessage v (agreedNonce c serverNonceBytes)) 's' =
      some (Base64.encode Base64.standard v.salt) := by rw [scramKv_of_attributes hattrs]; rfl
  have hi : scramKv (ScramAuthenticator.serverFirstMessage v (agreedNonce c serverNonceBytes)) 'i' =
      some (decimal v.iterations.toNat) := by rw [scramKv_of_attributes hattrs]; rfl
  have hstarts : startsWith c.clientNonce (agreedNonce c serverNonceBytes) = true := startsWith_iff.mpr ⟨_, rfl⟩
  have hlonger : byteLen c.clientNonce < byteLen (agreedNonce c serverNonceBytes) := by
    have := length_le_byteLen ('-' :: Base64.encode Base64.standard serverNonceBytes.bytes)
    rw [List.length_cons] at this
    rw [agreedNonce, byteLen_append]
    omega
  have hdec := Base64.decode_encode Base64.standard v.salt
  have hnum := parseUint_decimal (w := 32) v.iterations.toNat_lt
  simp only [ScramClient.readServerFirst, hr, hs, hi, okOr, hnum, hdec, require, hstarts, hlonger, and_self, if_true,
    except_bind_ok, UInt32.ofNat_toNat]
  rfl

/-! ## The finals -/

def honestWithoutProof (c : ScramClient) (serverNonceBytes : Key) : Str :=
  c.clientFinalWithoutProof (agreedNonce c serverNonceBytes)

def honestAuthMessage (c : ScramClient) (v : Verifier) (serverNonceBytes : Key) : Str :=
  c.clientFirstBare ++ ',' :: ScramAuthenticator.serverFirstMessage v (agreedNonce c serverNonceBytes) ++
    ',' :: honestWithoutProof c serverNonceBytes

def honestClientFinal (c : ScramClient) (v : Verifier) (serverNonceBytes : Key) (clientKey : Bytes) : Str :=
  honestWithoutProof c serverNonceBytes ++ ",p=".toList ++ Base64.encode Base64.standard
    (xorBytes clientKey (C.hmacSha256 v.storedKey.bytes (asBytes (honestAuthMessage c v serverNonceBytes))).bytes)

/-- The keys the client works with are those of the server's verifier. -/
structure KeysOf (c : ScramClient) (v : Verifier) (serverNonceBytes : Key) (salt : Bytes) (iterations : UInt32)
    (clientKey : Bytes) : Prop where
  keys : c.keys C ⟨agreedNonce c serverNonceBytes, v.salt, v.iterations⟩ salt iterations =
    .ok ⟨clientKey, v.storedKey.bytes, some v.serverKey.bytes⟩
  length_eq : clientKey.length = 32
  authentic : C.sha256 clientKey = v.storedKey

theorem clientAnswers_plain (hc : Plain c) {serverNonceBytes : Key} {salt clientKey : Bytes} {iterations : UInt32}
    (hk : KeysOf C c v serverNonceBytes salt iterations clientKey) :
    clientAnswers C c (asBytes (ScramAuthenticator.serverFirstMessage v (agreedNonce c serverNonceBytes))) salt iterations =
      (.ok (honestClientFinal C c v serverNonceBytes clientKey),
        { c with authMessage := honestAuthMessage c v serverNonceBytes, serverKey := some v.serverKey.bytes }) := by
  have hlen (k m : Bytes) : ¬ clientKey.length ≠ (C.hmacSha256 k m).bytes.length := by
    rw [hk.length_eq, (C.hmacSha256 k m).length_eq]
    simp
  simp only [clientAnswers, fromUtf8_asBytes, ScramClient.clientFinalMessage, readServerFirst_plain hc, hk.keys,
    if_neg (hlen _ _)]
  rfl

/-- It is what the server asks for. -/
theorem honestClientFinal_eq (hc : Plain c) (serverNonceBytes : Key) (clientKey : Bytes) :
    honestClientFinal C c v serverNonceBytes clientKey =
        ScramAuthenticator.answer C { answeredTo c v serverNonceBytes with state := .done } clientKey ∧
      honestAuthMessage c v serverNonceBytes =
        ScramAuthenticator.answerMessage { answeredTo c v serverNonceBytes with state := .done } := by
  have hcbind : Base64.encode Base64.standard c.cbindInput =
      ScramAuthenticator.expectedCbind { answeredTo c v serverNonceBytes with state := .done } := by
    rw [ScramClient.cbindInput, hc.channelBinding, hc.mechanism]
    rfl
  have hwithout : honestWithoutProof c serverNonceBytes =
      ScramAuthenticator.answerWithoutProof { answeredTo c v serverNonceBytes with state := .done } := by
    rw [honestWithoutProof, ScramClient.clientFinalWithoutProof, hcbind]
    rfl
  have hmessage : honestAuthMessage c v serverNonceBytes =
      ScramAuthenticator.answerMessage { answeredTo c v serverNonceBytes with state := .done } := by
    rw [honestAuthMessage, hwithout]
    rfl
  refine ⟨?_, hmessage⟩
  rw [honestClientFinal, hwithout, hmessage]
  rfl

theorem accepts_honestClientFinal (hc : Plain c) {serverNonceBytes : Key} {salt clientKey : Bytes} {iterations : UInt32}
    (hk : KeysOf C c v serverNonceBytes salt iterations clientKey) (hd : v.isDummy = false) :
    ScramAuthenticator.Accepts C { answeredTo c v serverNonceBytes with state := .done }
      (honestClientFinal C c v serverNonceBytes clientKey) clientKey (honestAuthMessage c v serverNonceBytes) := by
  obtain ⟨hfinal, hmessage⟩ := honestClientFinal_eq C (v := v) hc serverNonceBytes clientKey
  rw [hfinal, hmessage]
  apply ScramAuthenticator.accepts_answer C
  · exact comma_not_mem_agreedNonce hc serverNonceBytes
  · exact startsWith_iff.mpr ⟨_, rfl⟩
  · exact hk.length_eq
  · exact hk.authentic
  · exact hd

/-- A client that knows the server's signature over its own message verifies it. -/
theorem verifyServerFinal_serverFinalMessage (hs : c.serverKey = some v.serverKey.bytes) :
    c.verifyServerFinal C (ScramAuthenticator.serverFinalMessage C v c.authMessage) = .ok true := by
  have hv : ',' ∉ ScramAuthenticator.serverFinalMessage C v c.authMessage := by
    simpa [ScramAuthenticator.serverFinalMessage] using comma_not_mem_encode _
  have hattrs := attributes_of_not_mem hv
  have he : scramKv (ScramAuthenticator.serverFinalMessage C v c.authMessage) 'e' = none := by
    rw [scramKv_of_attributes hattrs]; rfl
  have hsig : scramKv (ScramAuthenticator.serverFinalMessage C v c.authMessage) 'v' =
      some (Base64.encode Base64.standard (C.hmacSha256 v.serverKey.bytes (asBytes c.authMessage)).bytes) := by
    rw [scramKv_of_attributes hattrs]; rfl
  simp only [ScramClient.verifyServerFinal, he, hs, hsig, okOr, Base64.decode_encode, require, if_true, except_bind_ok]
  rfl

def honestExchange (c : ScramClient) (v : Verifier) (serverNonceBytes : Key) (clientKey : Bytes) : Completed :=
  { serverFirst := ScramAuthenticator.serverFirstMessage v (agreedNonce c serverNonceBytes)
    clientFinal := honestClientFinal C c v serverNonceBytes clientKey
    serverFinal := ScramAuthenticator.serverFinalMessage C v (honestAuthMessage c v serverNonceBytes)
    extractedClientKey := some clientKey, verified := true }

/-- With the verifier's keys on the client's side, the exchange completes. -/
theorem exchange_completes (hc : Plain c) {user : Str} (hu : user ≠ []) {serverNonceBytes : Key} {salt clientKey : Bytes}
    {iterations : UInt32} (hk : KeysOf C c v serverNonceBytes salt iterations clientKey) (hd : v.isDummy = false) :
    exchange C c .scramSha256 salt iterations (.new v none) serverNonceBytes user =
      .ok (honestExchange C c v serverNonceBytes clientKey) := by
  have hfinal := ScramAuthenticator.handleClientFinal_of_accepts C (a := answeredTo c v serverNonceBytes) rfl
    (accepts_honestClientFinal C hc hk hd) user
  have hverify := verifyServerFinal_serverFinalMessage C (v := v)
    (c := { c with authMessage := honestAuthMessage c v serverNonceBytes, serverKey := some v.serverKey.bytes }) rfl
  have hparse : parseSaslFinalResponse (asBytes (honestClientFinal C c v serverNonceBytes clientKey)) =
      .ok (honestClientFinal C c v serverNonceBytes clientKey) := by
    rw [parseSaslFinalResponse, fromUtf8_asBytes]
    rfl
  rw [exchange, serverAnswers_plain hc hu]
  dsimp only
  rw [clientAnswers_plain C hc hk]
  dsimp only
  rw [hparse]
  dsimp only
  rw [hfinal]
  dsimp only
  rw [show (answeredTo c v serverNonceBytes).verifier = v from rfl, hverify]
  rfl

end Honest

/-! ## Captured keys -/

/-- The key recovered from an accepted exchange hashes to the verifier's StoredKey. -/
theorem handleClientFinal_key {a a' : ScramAuthenticator} {clientFinal user serverFinal : Str} {k : Bytes}
    (h : a.handleClientFinal C clientFinal user = (.ok serverFinal, a')) (hk : a'.extractedClientKey = some k) :
    k.length = 32 ∧ C.sha256 k = a.verifier.storedKey := by
  obtain ⟨-, clientKey, authMessage, hacc, -, rfl⟩ := ScramAuthenticator.handleClientFinal_ok C h
  cases hk
  exact ⟨hacc.length, hacc.authentic⟩

/-- The client `ScramClient::new(k, v.server_key, v.stored_key, None)`. -/
def captured (v : Verifier) (k : Bytes) (nonce : NonceBytes) : ScramClient :=
  ScramClient.new nonce (some k) (some v.serverKey.bytes) (some v.storedKey.bytes) none

theorem keys_captured {v : Verifier} {k : Bytes} {nonce : NonceBytes} {sf : ScramClient.ServerFirst}
    (hs : sf.salt = v.salt) (hi : sf.iterations = v.iterations) :
    (captured v k nonce).keys C sf v.salt v.iterations = .ok ⟨k, v.storedKey.bytes, some v.serverKey.bytes⟩ := by
  simp only [ScramClient.keys, captured, ScramClient.new, hs, hi, require, okOr, if_true, except_bind_ok]
  rfl

theorem keys_refused {v : Verifier} (k : Bytes) (nonce : NonceBytes) (sf : ScramClient.ServerFirst)
    (h : sf.salt ≠ v.salt ∨ sf.iterations ≠ v.iterations) :
    ∃ e, (captured v k nonce).keys C sf v.salt v.iterations = .error e := by
  by_cases hs : sf.salt = v.salt
  · have hi : v.iterations ≠ sf.iterations := Ne.symm (h.resolve_left (not_not_intro hs))
    refine ⟨.auth "Invalid iteration count", ?_⟩
    simp only [ScramClient.keys, captured, ScramClient.new, require, hs, hi, if_true, if_false, except_bind_ok,
      except_bind_error]
  · refine ⟨.saltMismatch, ?_⟩
    simp only [ScramClient.keys, captured, ScramClient.new, require, hs, if_false, except_bind_error]

/-- The keys of one frontend exchange authenticate the proxy to the server of `w`, and
    that server recovers the same client key. -/
def PassesThrough (v w : Verifier) (k : Bytes) (nonce : NonceBytes) (serverNonceBytes : Key) (user : Str) : Prop :=
  ∃ r, exchange C (captured v k nonce) .scramSha256 v.salt v.iterations (.new w none) serverNonceBytes user = .ok r ∧
    r.extractedClientKey = some k ∧ r.verified = true

/-- The server of `w` answers the client-first, and no client-final is made. -/
def MakesNoFinal (v w : Verifier) (k : Bytes) (nonce : NonceBytes) (serverNonceBytes : Key) (user : Str) : Prop :=
  ∃ serverFirst a, serverAnswers (.new w none) serverNonceBytes
      (saslInitialResponse SaslMechanism.scramSha256.name (captured v k nonce).clientFirstMessage) user =
        (.ok serverFirst, a) ∧
    ∃ e c, (captured v k nonce).clientFinalMessage C serverFirst v.salt v.iterations = (.error e, c)

/-- What a frontend exchange captured logs in to every server that holds the same
    secret, and is never used with another salt or iteration count. -/
theorem passthrough_completes {v w : Verifier} {a a' : ScramAuthenticator} {clientFinal user₀ serverFinal : Str} {k : Bytes}
    (hv : a.verifier = v) (hfinal : a.handleClientFinal C clientFinal user₀ = (.ok serverFinal, a'))
    (hk : a'.extractedClientKey = some k) (nonce : NonceBytes) (serverNonceBytes : Key) {user : Str} (hu : user ≠ []) :
    (w.isDummy = false → w.salt = v.salt → w.iterations = v.iterations → w.storedKey = v.storedKey →
      w.serverKey = v.serverKey → PassesThrough C v w k nonce serverNonceBytes user) ∧
    (w.salt ≠ v.salt ∨ w.iterations ≠ v.iterations → MakesNoFinal C v w k nonce serverNonceBytes user) := by
  have hc : Plain (captured v k nonce) := plain_new nonce _ _ _ _
  obtain ⟨hlen, hsha⟩ := handleClientFinal_key C hfinal hk
  rw [hv] at hsha
  constructor
  · intro hd hsalt hiter hstored hserver
    refine ⟨_, exchange_completes C hc hu ⟨?_, hlen, hsha.trans hstored.symm⟩ hd, rfl, rfl⟩
    rw [hstored, hserver]
    exact keys_captured C hsalt hiter
  · intro hother
    obtain ⟨e, he⟩ := keys_refused C k nonce
      ⟨agreedNonce (captured v k nonce) serverNonceBytes, w.salt, w.iterations⟩ hother
    refine ⟨_, _, serverAnswers_plain hc hu serverNonceBytes, e, captured v k nonce, ?_⟩
    rw [ScramClient.clientFinalMessage, readServerFirst_plain hc]
    dsimp only
    rw [he]

theorem passthrough_completes_run :
    PassesThrough Sample.crypto Sample.verifier Sample.verifier Sample.clientKey.bytes Sample.clientNonceBytes
      Sample.serverNonceBytes "alice" ∧
    MakesNoFinal Sample.crypto Sample.verifier { Sample.verifier with iterations := 8192 } Sample.clientKey.bytes
      Sample.clientNonceBytes Sample.serverNonceBytes "alice" :=
  have hfinal : Sample.answered.handleClientFinal Sample.crypto Sample.clientFinal "alice" =
      (.ok Sample.serverFinal,
        { Sample.answered with state := .done, extractedClientKey := some Sample.clientKey.bytes }) := by decide +kernel
  ⟨(passthrough_completes Sample.crypto (by decide +kernel) hfinal rfl _ _ (by decide)).1 rfl rfl rfl rfl rfl,
    (passthrough_completes Sample.crypto (by decide +kernel) hfinal rfl _ _ (by decide)).2 (Or.inr (by decide))⟩

/-- A verifier that stands in for an unknown user refuses, whatever its keys. -/
theorem a_dummy_server_refuses :
    let C : Crypto := { Sample.crypto with sha256 := fun _ => .zero, hmacSha256 := fun _ _ => .zero }
    let w := Verifier.dummy C "mallory" .zero
    let v : Verifier := { w with isDummy := false }
    let a := ((ScramAuthenticator.new v none).handleClientFirst Sample.serverNonceBytes scramSha256 Sample.clientFirst
      "alice").2
    let result := a.handleClientFinal C Sample.clientFinal "alice"
    result.1.isOk = true ∧
    ∃ k, result.2.extractedClientKey = some k ∧
      ¬ PassesThrough C v w k Sample.clientNonceBytes Sample.serverNonceBytes "alice" := by
  intro C w v a result
  have hk : ∃ k, result.2.extractedClientKey = some k ∧
      exchange C (captured v k Sample.clientNonceBytes) .scramSha256 v.salt v.iterations (.new w none)
        Sample.serverNonceBytes "alice" = .error (.server (rejected (authenticationFailed "alice"))) :=
    ⟨(result.2.extractedClientKey).getD [], by decide +kernel, by decide +kernel⟩
  obtain ⟨k, hex, herr⟩ := hk
  refine ⟨by decide +kernel, k, hex, ?_⟩
  intro h
  obtain ⟨r, hr, -⟩ := h
  rw [herr] at hr
  cases hr

/-! ## A password -/

/-- A client that has only the password. -/
def withPassword (password : Bytes) (nonce : NonceBytes) : ScramClient := ScramClient.new nonce none none none (some password)

/-- From the same password, both roles derive the same keys and agree on every byte of
    the exchange. `storedSalt` and `storedIterations` are the settings of captured keys,
    which a password does not look at. -/
theorem password_completes (password salt : Bytes) (iterations : UInt32) (nonce : NonceBytes) (serverNonceBytes : Key)
    (storedSalt : Bytes) (storedIterations : UInt32) {user : Str} (hu : user ≠ []) :
    ∃ r, exchange C (withPassword password nonce) .scramSha256 storedSalt storedIterations
        (.new (.fromPassword C password salt iterations) none) serverNonceBytes user = .ok r ∧
      (∃ keys, (withPassword password nonce).keys C ⟨agreedNonce (withPassword password nonce) serverNonceBytes, salt,
        iterations⟩ storedSalt storedIterations = .ok keys ∧ r.extractedClientKey = some keys.clientKey) ∧
      r.verified = true := by
  have hc : Plain (withPassword password nonce) := plain_new nonce _ _ _ _
  refine ⟨_, exchange_completes C (v := .fromPassword C password salt iterations) hc hu ⟨rfl, ?_, rfl⟩ rfl, ⟨_, rfl, rfl⟩, rfl⟩
  exact Key.length_eq _

theorem password_completes_run :
    ∃ r, exchange Sample.crypto (withPassword (asBytes "pencil") Sample.clientNonceBytes) .scramSha256 [] 0
        (.new (.fromPassword Sample.crypto (asBytes "pencil") Sample.salt 4096) none) Sample.serverNonceBytes "alice" =
          .ok r ∧
      (∃ keys, (withPassword (asBytes "pencil") Sample.clientNonceBytes).keys Sample.crypto
        ⟨agreedNonce (withPassword (asBytes "pencil") Sample.clientNonceBytes) Sample.serverNonceBytes, Sample.salt, 4096⟩
        [] 0 = .ok keys ∧ r.extractedClientKey = some keys.clientKey) ∧
      r.verified = true :=
  password_completes Sample.crypto _ _ _ _ _ _ _ (by decide)

/-! ## Channel binding -/

/-- A client that requires channel binding and a server that can be bound agree on
    `-PLUS` and complete. -/
def PlusNegotiates (certHash : CertHash) (password salt : Bytes) (iterations : UInt32) (nonce : NonceBytes)
    (serverNonceBytes : Key) (user : Str) : Prop :=
  let a := ScramAuthenticator.new (.fromPassword C password salt iterations) (some certHash)
  let c := (withPassword password nonce).useChannelBinding certHash.cbindInput
  let offered := parseSaslMechanisms (saslMechanismList a.mechanisms)
  .scramSha256Plus ∈ offered ∧
  selectMechanism .require true offered = .ok .scramSha256Plus ∧
  (∃ serverFirst a', serverAnswers a serverNonceBytes
    (saslInitialResponse SaslMechanism.scramSha256Plus.name c.clientFirstMessage) user = (.ok serverFirst, a')) ∧
  ∃ r, exchange C c .scramSha256Plus [] 0 a serverNonceBytes user = .ok r ∧ r.verified = true

/-- The server advertises `-PLUS`, which is no mechanism's name. -/
theorem parseSaslMechanisms_advertised (v : Verifier) (certHash : CertHash) :
    parseSaslMechanisms (saslMechanismList (ScramAuthenticator.new v (some certHash)).mechanisms) = [.scramSha256] := by
  rw [show (ScramAuthenticator.new v (some certHash)).mechanisms = [plus, scramSha256] from rfl]
  decide +kernel

theorem plus_never_negotiates (certHash : CertHash) (password salt : Bytes) (iterations : UInt32) (nonce : NonceBytes)
    (serverNonceBytes : Key) (user : Str) :
    ¬ PlusNegotiates C certHash password salt iterations nonce serverNonceBytes user := by
  intro h
  obtain ⟨hoffered, -⟩ := h
  rw [parseSaslMechanisms_advertised] at hoffered
  cases hoffered with
  | tail _ h => cases h

/-- The run in which the server's certificate hash is 32 zero bytes. -/
theorem plus_is_not_offered :
    ¬ PlusNegotiates Sample.crypto ⟨.sha256, List.replicate 32 0, rfl⟩ (asBytes "pencil") Sample.salt 4096
      Sample.clientNonceBytes Sample.serverNonceBytes "alice" := by
  intro h
  obtain ⟨-, hselect, -⟩ := h
  rw [parseSaslMechanisms_advertised] at hselect
  cases hselect

end Wirechaos
