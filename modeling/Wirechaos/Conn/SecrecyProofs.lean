/-
  Wirechaos.Conn.SecrecyProofs — an unknown user is answered as a wrong password is.

  Two clients send the same bytes for the same user name, once to a store that does not
  know the user and once to a store that does. `challenge` is the exchange up to the
  client-final: of the verifier it sends only the salt and the iteration count, so that
  the two runs agree there. The client-final passes the same checks on both sides
  (`proofOf`) before the keys are used, and then both are refused with one text, unless
  the second one accepts the proof. The first never does.
-/

import Wirechaos.Conn.HandleProofs
import Wirechaos.Lib.TwoRuns

namespace Wirechaos

open Text Async Proc Scram

/-! ## The authenticator -/

namespace ScramAuthenticator

variable (C : Crypto)

/-- The same exchange against another verifier. -/
def against (a : ScramAuthenticator) (v : Verifier) : ScramAuthenticator := { a with verifier := v }

theorem handleClientFirst_against {a : ScramAuthenticator} {v : Verifier} (hsalt : v.salt = a.verifier.salt)
    (hiterations : v.iterations = a.verifier.iterations) (nonce : Key) (mechanism clientFirst user : Str) :
    (a.against v).handleClientFirst nonce mechanism clientFirst user =
      ((a.handleClientFirst nonce mechanism clientFirst user).1,
        (a.handleClientFirst nonce mechanism clientFirst user).2.against v) := by
  have hcheck : (a.against v).checkClientFirst mechanism clientFirst user = a.checkClientFirst mechanism clientFirst user := rfl
  have hmessage (nonce : Str) : serverFirstMessage v nonce = serverFirstMessage a.verifier nonce := by
    rw [serverFirstMessage, serverFirstMessage, hsalt, hiterations]
  unfold handleClientFirst
  rw [hcheck]
  rcases a.checkClientFirst mechanism clientFirst user with e | ⟨flag, authzidPart, bare⟩
  · rfl
  · dsimp only
    by_cases hnonce : clientNonceOf bare = []
    · rw [if_pos hnonce, if_pos hnonce]
      rfl
    · rw [if_neg hnonce, if_neg hnonce]
      simp only [against, hmessage]

/-- The checks of a client-final that come before the keys: its proof, and the message it
    is over. -/
def proofOf (a : ScramAuthenticator) (clientFinal : Str) : Except ScramError (Bytes × Str) := do
  let attrs ← collectAttrs (attributes clientFinal)
  let cbind ← okOr attrs.cbind malformed
  let nonce ← okOr attrs.nonce malformed
  let proofB64 ← okOr attrs.proofB64 malformed
  require (asBytes cbind = asBytes a.expectedCbind) a.channelBindingError
  require (nonce = a.combinedNonce) malformed
  require (startsWith a.clientNonce nonce = true) malformed
  let authMessage ← okOr (a.authMessage clientFinal) malformed
  let proof ← okOr (Base64.decode Base64.standard proofB64) malformed
  require (proof.length = 32) malformed
  return (proof, authMessage)

/-- The checks that use the keys. -/
def checkProof (v : Verifier) (user : Str) (proof : Bytes) (authMessage : Str) : Except ScramError (Bytes × Str) := do
  let recoveredClientKey := xorBytes proof (C.hmacSha256 v.storedKey.bytes (asBytes authMessage)).bytes
  require (C.sha256 recoveredClientKey = v.storedKey) (authenticationFailed user)
  require (v.isDummy = false) (authenticationFailed user)
  return (recoveredClientKey, authMessage)

theorem checkClientFinal_eq (a : ScramAuthenticator) (clientFinal user : Str) :
    checkClientFinal C a clientFinal user = a.proofOf clientFinal >>= fun p => checkProof C a.verifier user p.1 p.2 := by
  simp only [checkClientFinal, proofOf, checkProof, LawfulMonad.bind_assoc, LawfulMonad.pure_bind]

/-- There is one refusal behind the proof, and an entry that is no dummy may escape it. -/
theorem checkProof_error {v : Verifier} {user : Str} {proof : Bytes} {authMessage : Str} {e : ScramError}
    (h : checkProof C v user proof authMessage = .error e) : e = authenticationFailed user := by
  unfold checkProof require at h
  by_cases hsha : C.sha256 (xorBytes proof (C.hmacSha256 v.storedKey.bytes (asBytes authMessage)).bytes) = v.storedKey
  · by_cases hdummy : v.isDummy = false
    · simp only [if_pos hsha, if_pos hdummy] at h
      cases h
    · simp only [if_pos hsha, if_neg hdummy] at h
      cases h
      rfl
  · simp only [if_neg hsha] at h
    cases h
    rfl

theorem checkProof_dummy {v : Verifier} (hdummy : v.isDummy = true) (user : Str) (proof : Bytes) (authMessage : Str) :
    checkProof C v user proof authMessage = .error (authenticationFailed user) := by
  rcases h : checkProof C v user proof authMessage with e | p
  · rw [checkProof_error C h]
  · unfold checkProof at h
    obtain ⟨_, -, h⟩ := except_bind_eq_ok.mp h
    obtain ⟨_, hreal, -⟩ := except_bind_eq_ok.mp h
    rw [hdummy] at hreal
    exact absurd (require_eq_ok.mp hreal) Bool.noConfusion

theorem handleClientFinal_error {a : ScramAuthenticator} (hstate : a.state = .clientFirstReceived) {clientFinal user : Str}
    {e : ScramError} : (handleClientFinal C a clientFinal user).1 = .error e ↔
      checkClientFinal C { a with state := .done } clientFinal user = .error e := by
  unfold handleClientFinal
  rw [if_neg (by rw [hstate]; simp)]
  dsimp only
  rcases checkClientFinal C { a with state := .done } clientFinal user with e' | ⟨clientKey, authMessage⟩
  · simp
  · simp

/-- A dummy refuses every client-final, and in the words in which the same message is
    refused by any other verifier. -/
theorem handleClientFinal_dummy {d : Verifier} (hdummy : d.isDummy = true) (a : ScramAuthenticator)
    (clientFinal user : Str) : ∃ e, (handleClientFinal C (a.against d) clientFinal user).1 = .error e ∧
      ∀ v e', (handleClientFinal C (a.against v) clientFinal user).1 = .error e' → e' = e := by
  by_cases hstate : a.state = .clientFirstReceived
  · -- the checks before the keys do not see the verifier
    have hcheck (v : Verifier) : checkClientFinal C { a.against v with state := .done } clientFinal user =
        ({ a with state := .done } : ScramAuthenticator).proofOf clientFinal >>= fun p => checkProof C v user p.1 p.2 :=
      checkClientFinal_eq C _ clientFinal user
    rcases hproof : ({ a with state := .done } : ScramAuthenticator).proofOf clientFinal with e | ⟨proof, authMessage⟩
    · refine ⟨e, ?_, fun v e' h => ?_⟩
      · rw [handleClientFinal_error C (a := a.against d) hstate, hcheck, hproof]
        rfl
      · rw [handleClientFinal_error C (a := a.against v) hstate, hcheck, hproof] at h
        cases h
        rfl
    · refine ⟨authenticationFailed user, ?_, fun v e' h => ?_⟩
      · rw [handleClientFinal_error C (a := a.against d) hstate, hcheck, hproof]
        exact checkProof_dummy C hdummy user proof authMessage
      · rw [handleClientFinal_error C (a := a.against v) hstate, hcheck, hproof] at h
        exact checkProof_error C h
  · have hclosed (v : Verifier) : handleClientFinal C (a.against v) clientFinal user = (.error malformed, a.against v) :=
      if_pos hstate
    refine ⟨malformed, by rw [hclosed], fun v e' h => ?_⟩
    rw [hclosed] at h
    cases h
    rfl

end ScramAuthenticator

namespace Session

variable (C : Crypto) {V W : Type} {ε α : Type}

/-! ## Two clients -/

/-- The client's side of two connections is the same, and so is the nonce `next` that the
    server draws next, as long as that matters. -/
structure Alike (next : Option Key) (s : Session V) (t : Session W) : Prop where
  wire : s.conn.wire = t.conn.wire
  maxCapacity : s.conn.pool.maxCapacity = t.conn.pool.maxCapacity
  nonce : ∀ nonce, next = some nonce → s.world.serverNonces s.drawnNonces = nonce ∧ t.world.serverNonces t.drawnNonces = nonce

variable {next : Option Key}

theorem Alike.forget {s : Session V} {t : Session W} (h : Alike next s t) : Alike none s t :=
  ⟨h.wire, h.maxCapacity, by intro _ h; cases h⟩

abbrev Twins (next : Option Key) (x : Proc (Session V) ε α) (y : Proc (Session W) ε α) : Prop :=
  Agree (Alike next) (Alike next) x y

theorem twins_io (x : Proc Wire IoError α) : Twins (V := V) (W := W) next (io x) (io x) := by
  refine agree_then (agree_modify fun s t h => ⟨h.wire, h.maxCapacity, h.nonce⟩) fun _ => agree_mapErr _ ?_
  exact agree_zoom x (fun s t h => h.wire) fun s t w h => ⟨rfl, h.maxCapacity, h.nonce⟩

theorem twins_emit (e : Event) : Twins (V := V) (W := W) (ε := ε) next (emit e) (emit e) :=
  agree_modify fun _ _ h => ⟨h.wire, h.maxCapacity, h.nonce⟩

theorem twins_writeMessage (tag : UInt8) (body : Bytes) :
    Twins (V := V) (W := W) next (writeMessage tag body) (writeMessage tag body) := by
  refine agree_then (twins_emit _) fun _ => agree_then (twins_io _) fun _ => agree_then (twins_io _) fun _ => ?_
  exact agree_then (twins_io _) fun _ => twins_io _

theorem twins_readMessageLength : Twins (V := V) (W := W) next readMessageLength readMessageLength :=
  agree_then (agree_mapErr _ (twins_io _)) fun _ => agree_lift _

/-- Only the size of the largest buffer is seen, not what a buffer held before. -/
theorem readMessageBody_eq (n : Nat) (s : Session V) :
    readMessageBody n s = (if n = 0 then pure none
      else if n > s.conn.pool.maxCapacity then throw (connectionError .messageTooLarge)
      else do
        let bytes ← mapErr .internal (io (Wire.readExact n))
        pure (some bytes) : Proc (Session V) ProxyError (Option Bytes)) s := by
  unfold readMessageBody
  rw [bind_of_ok (get_apply s)]
  split
  · rfl
  split
  · rfl
  dsimp only
  rw [length_get]
  rcases hread : mapErr ProxyError.internal (io (Wire.readExact n)) s with ⟨bytes | e | scope, s'⟩
  · obtain ⟨w, hw, -⟩ := io_eq_ok.mp (mapErr_ok.mp hread)
    have hlength : bytes.length = (s.conn.pool.get s.suspensions n).length := by
      rw [length_get]
      exact (Wire.readExact_ok hw).1
    rw [bind_of_ok hread, bind_of_ok hread, overwrite_full hlength]
  · rw [bind_of_err hread, bind_of_err hread]
  · rw [bind_of_dropped hread, bind_of_dropped hread]

theorem twins_readMessageBody (n : Nat) : Twins (V := V) (W := W) next (readMessageBody n) (readMessageBody n) := by
  intro s t h
  rw [readMessageBody_eq, readMessageBody_eq, h.maxCapacity]
  split
  · exact ⟨rfl, h⟩
  split
  · exact ⟨rfl, h⟩
  exact agree_then (agree_mapErr _ (twins_io _)) (fun _ => agree_pure _) s t h

theorem twins_readSaslResponse : Twins (V := V) (W := W) next readSaslResponse readSaslResponse := by
  refine agree_then (agree_mapErr _ (twins_io _)) fun _ => agree_then (agree_lift _) fun _ => ?_
  refine agree_then (agree_mapErr _ twins_readMessageLength) fun _ => agree_then (agree_lift _) fun _ => ?_
  refine agree_then (agree_mapErr _ (twins_readMessageBody _)) fun _ => agree_then (agree_lift _) fun _ => ?_
  exact agree_then (twins_emit _) fun _ => agree_pure _

theorem agree_drawServerNonce (nonce : Key) : Agree (Alike (V := V) (W := W) (some nonce)) (Alike none)
    (drawServerNonce : Proc (Session V) ε Key) drawServerNonce := by
  intro s t h
  obtain ⟨hs, ht⟩ := h.nonce nonce rfl
  refine ⟨?_, h.wire, h.maxCapacity, by intro _ h; cases h⟩
  exact congrArg Outcome.ok (hs.trans ht.symm)

/-! ## The exchange in two parts -/

/-- Up to the client-final. -/
def challenge (scram : ScramAuthenticator) (user : Str) : Proc (Session V) AuthFailure (Str × ScramAuthenticator) := do
  let mechanics := scram.mechanisms
  sendAuthSasl mechanics
  let (chosen, clientFirst) ← readSaslInitialResponse mechanics
  let nonce ← drawServerNonce
  let (serverFirst, scram) ← lift (scramStep (scram.handleClientFirst nonce chosen clientFirst user))
  mapErr .internal (sendAuthMessage authSaslContinue (asBytes serverFirst))
  let clientFinal ← readSaslFinalResponse
  pure (clientFinal, scram)

/-- From the client-final on. -/
def conclude (user clientFinal : Str) (scram : ScramAuthenticator) : Proc (Session V) AuthFailure (Option Bytes) := do
  let (serverFinal, scram) ← lift (scramStep (scram.handleClientFinal C clientFinal user))
  mapErr .internal (sendAuthMessage authSaslFinal (asBytes serverFinal))
  mapErr .internal (sendAuthMessage authSaslOk [])
  pure scram.extractedClientKey

/-- The first part is the same against any verifier with this salt and iteration count. -/
theorem saslExchange_against {a : ScramAuthenticator} {v : Verifier} (hsalt : v.salt = a.verifier.salt)
    (hiterations : v.iterations = a.verifier.iterations) (user : Str) :
    saslExchange (V := V) C (a.against v) user =
      challenge a user >>= fun p => conclude C user p.1 (p.2.against v) := by
  unfold saslExchange challenge
  rw [Proc.bind_assoc]
  refine bind_congr fun _ => ?_
  rw [Proc.bind_assoc]
  refine bind_congr fun p => ?_
  rw [Proc.bind_assoc]
  refine bind_congr fun nonce => ?_
  rw [ScramAuthenticator.handleClientFirst_against hsalt hiterations]
  rcases a.handleClientFirst nonce p.1 p.2 user with ⟨e | serverFirst, a'⟩
  · rfl
  · have hanswered {β : Type} (scram : ScramAuthenticator) (f : Str × ScramAuthenticator → Proc (Session V) AuthFailure β) :
        (lift (scramStep (.ok serverFirst, scram)) >>= f) = f (serverFirst, scram) := rfl
    dsimp only
    rw [Proc.bind_assoc, hanswered, hanswered]
    dsimp only
    rw [Proc.bind_assoc]
    refine bind_congr fun _ => ?_
    rw [Proc.bind_assoc]
    exact bind_congr fun _ => rfl

theorem agree_challenge (nonce : Key) (scram : ScramAuthenticator) (user : Str) :
    Agree (Alike (V := V) (W := W) (some nonce)) (Alike none) (challenge scram user) (challenge scram user) := by
  have hforget : ∀ (s : Session V) (t : Session W), Alike (some nonce) s t → Alike none s t := fun s t h => h.forget
  unfold challenge
  refine agree_bind (agree_mapErr _ (twins_writeMessage _ _)) hforget fun _ => ?_
  refine agree_bind (agree_then twins_readSaslResponse fun _ => agree_lift _) hforget fun _ => ?_
  refine agree_bind (agree_drawServerNonce nonce) (fun _ _ h => h) fun _ => agree_then (agree_lift _) fun _ => ?_
  refine agree_then (agree_mapErr _ (twins_writeMessage _ _)) fun _ => ?_
  exact agree_then (agree_then twins_readSaslResponse fun _ => agree_lift _) fun _ => agree_pure _

/-! ## Logs -/

/-- Any event but the server's signature. -/
def NotFinal (e : Event) : Prop := ∀ data, e ≠ authEvent authSaslFinal data

theorem notFinal_authEvent {code : UInt32} (h : code ≠ authSaslFinal) (data : Bytes) : NotFinal (authEvent code data) := by
  intro data' he
  simp only [authEvent, Event.message.injEq, true_and] at he
  exact h (authBody_inj he).1

theorem keeps_challenge (scram : ScramAuthenticator) (user : Str) :
    Keeps (Extends NotFinal) (challenge (V := V) scram user) := by
  have hread : Keeps (Extends NotFinal) (readSaslResponse (V := V)) :=
    keeps_readSaslResponse fun body data he => by cases he
  have hsend {code : UInt32} (h : code ≠ authSaslFinal) (data : Bytes) : Keeps (Extends NotFinal)
      (mapErr AuthFailure.internal (sendAuthMessage (V := V) code data)) :=
    keeps_mapErr (keeps_writeMessage (notFinal_authEvent h data))
  refine keeps_bind (hsend (by decide) _) fun _ => keeps_bind (keeps_bind hread fun _ => keeps_lift _) fun _ => ?_
  refine keeps_bind (keeps_bind keeps_get fun s => keeps_bind (keeps_update (fun _ => ?_) fun _ => rfl) fun _ =>
    keeps_pure _) fun _ => ?_
  · exact ⟨⟨rfl, rfl, rfl, rfl, rfl, rfl, rfl, rfl, rfl⟩, rfl, rfl, rfl, rfl⟩
  refine keeps_bind (keeps_lift _) fun _ => keeps_bind (hsend (by decide) _) fun _ => ?_
  exact keeps_bind (keeps_bind hread fun _ => keeps_lift _) fun _ => keeps_pure _

theorem conclude_of_error {scram : ScramAuthenticator} {user clientFinal : Str} {e : ScramError}
    (h : (scram.handleClientFinal C clientFinal user).1 = .error e) (s : Session V) :
    conclude C user clientFinal scram s = (.err (rejected e), s) := by
  unfold conclude
  rcases hrun : scram.handleClientFinal C clientFinal user with ⟨r, scram'⟩
  rw [hrun] at h
  cases h
  rfl

/-- A proof that is accepted is answered. -/
theorem conclude_of_ok {scram : ScramAuthenticator} {user clientFinal serverFinal : Str}
    (h : (scram.handleClientFinal C clientFinal user).1 = .ok serverFinal) (s : Session V) :
    ∃ es, (conclude C user clientFinal scram s).2.log = s.log ++ authEvent authSaslFinal (asBytes serverFinal) :: es := by
  rcases hrun : scram.handleClientFinal C clientFinal user with ⟨r, scram'⟩
  rw [hrun] at h
  cases h
  have hconclude : conclude (V := V) C user clientFinal scram = (do
      mapErr AuthFailure.internal (sendAuthMessage authSaslFinal (asBytes serverFinal))
      mapErr AuthFailure.internal (sendAuthMessage authSaslOk [])
      pure scram'.extractedClientKey) := by
    unfold conclude
    rw [hrun]
    rfl
  rw [hconclude]
  have hrest : ∀ _ : Unit, Keeps (Extends fun _ => True) (do
      mapErr AuthFailure.internal (sendAuthMessage (V := V) authSaslOk [])
      pure scram'.extractedClientKey) := fun _ =>
    keeps_bind (keeps_mapErr (keeps_writeMessage trivial)) fun _ => keeps_pure _
  obtain ⟨es, hlog, hes⟩ := emits_sendAuthMessage (V := V) authSaslFinal (asBytes serverFinal) s
  obtain ⟨-, es', hlog', -⟩ := keeps_second (mapErr AuthFailure.internal (sendAuthMessage authSaslFinal (asBytes serverFinal)))
    hrest s
  refine ⟨es', ?_⟩
  rw [hlog', hlog, hes, List.append_assoc]
  rfl

/-! ## The two exchanges -/

/-- The dummy authenticates nobody. -/
theorem dummy_refused {d : Verifier} (hdummy : d.isDummy = true) (certHash : Option CertHash) (user : Str) (s : Session V) :
    (∀ k, (saslExchange C (.new d certHash) user s).1 ≠ .ok k) ∧
      Extends NotFinal s (saslExchange C (.new d certHash) user s).2 := by
  have hsplit := saslExchange_against (V := V) C (a := .new d certHash) (v := d) rfl rfl user
  have hkeeps := keeps_challenge (V := V) (.new d certHash) user s
  have hnew : (ScramAuthenticator.new d certHash).against d = .new d certHash := rfl
  rw [hnew] at hsplit
  rw [hsplit]
  rcases hrun : challenge (.new d certHash) user s with ⟨⟨clientFinal, scram⟩ | e | n, s'⟩ <;> rw [hrun] at hkeeps
  · obtain ⟨e, he, -⟩ := ScramAuthenticator.handleClientFinal_dummy C hdummy scram clientFinal user
    rw [bind_of_ok hrun, conclude_of_error C he]
    exact ⟨by simp, hkeeps⟩
  · rw [bind_of_err hrun]
    exact ⟨by simp, hkeeps⟩
  · rw [bind_of_dropped hrun]
    exact ⟨by simp, hkeeps⟩

/-- Against a dummy and against an entry with its salt and iteration count: the proof is
    accepted by the entry, or the two exchanges end alike. -/
theorem exchanges_agree {d v : Verifier} (hdummy : d.isDummy = true) (hsalt : v.salt = d.salt)
    (hiterations : v.iterations = d.iterations) {nonce : Key} {s : Session V} {t : Session W}
    (halike : Alike (some nonce) s t) (certHash : Option CertHash) (user : Str) :
    (∃ es serverFinal rest, (saslExchange C (.new v certHash) user t).2.log =
      t.log ++ es ++ authEvent authSaslFinal (asBytes serverFinal) :: rest) ∨
    (saslExchange C (.new d certHash) user s).1 = (saslExchange C (.new v certHash) user t).1 ∧
      Alike none (saslExchange C (.new d certHash) user s).2 (saslExchange C (.new v certHash) user t).2 := by
  have hd := saslExchange_against (V := V) C (a := .new d certHash) (v := d) rfl rfl user
  have hv := saslExchange_against (V := W) C (a := .new d certHash) hsalt hiterations user
  have hnew (w : Verifier) : (ScramAuthenticator.new d certHash).against w = .new w certHash := rfl
  rw [hnew] at hd hv
  rw [hd, hv]
  obtain ⟨hout, hstate⟩ := agree_challenge nonce (.new d certHash) user s t halike
  have hkeeps := keeps_challenge (V := W) (.new d certHash) user t
  rcases hrun : challenge (.new d certHash) user t with ⟨⟨clientFinal, scram⟩ | e | n, t'⟩ <;> rw [hrun] at hout hstate hkeeps
  · obtain ⟨e, he, hsame⟩ := ScramAuthenticator.handleClientFinal_dummy C hdummy scram clientFinal user
    rw [bind_of_ok (eq_of_fst hout), bind_of_ok hrun]
    rcases hfinal : ((scram.against v).handleClientFinal C clientFinal user).1 with e' | serverFinal
    · right
      obtain rfl := hsame v e' hfinal
      rw [conclude_of_error C he, conclude_of_error C hfinal]
      exact ⟨rfl, hstate⟩
    · left
      obtain ⟨-, es, hlog, -⟩ := hkeeps
      obtain ⟨rest, hrest⟩ := conclude_of_ok C hfinal t'
      exact ⟨es, serverFinal, rest, by rw [hrest, hlog]⟩
  · right
    rw [bind_of_err (eq_of_fst hout), bind_of_err hrun]
    exact ⟨rfl, hstate⟩
  · right
    rw [bind_of_dropped (eq_of_fst hout), bind_of_dropped hrun]
    exact ⟨rfl, hstate⟩

/-! ## The answer -/

theorem agree_answerAuth (r : Except AuthFailure (Option Bytes)) :
    Twins (V := V) (W := W) next (answerAuth r) (answerAuth r) := by
  rcases r with ⟨e | e⟩ | k
  · exact agree_then (agree_mapErr _ (twins_writeMessage _ _)) fun _ => agree_pure _
  · exact agree_throw _
  · exact agree_pure _

theorem keeps_answerAuth (r : Except AuthFailure (Option Bytes)) : Keeps (Extends NotFinal) (answerAuth (V := V) r) := by
  rcases r with ⟨e | e⟩ | k
  · refine keeps_bind (keeps_mapErr (keeps_writeMessage fun data he => ?_)) fun _ => keeps_pure _
    have htag : byte 'E' = byte 'R' := (Event.message.inj he).1
    exact absurd htag (by decide)
  · exact keeps_throw _
  · exact keeps_pure _

theorem answerAuth_error (e : AuthFailure) (s : Session V) (key : Bytes) : (answerAuth (.error e) s).1 ≠ .ok (some key) := by
  intro h
  cases e with
  | rejected e =>
    obtain ⟨_, s₁, -, hpure⟩ := bind_ok.mp (eq_of_fst h)
    cases hpure
  | internal e => cases h

/-- What a lookup leaves alone. -/
structure Unmoved (s s' : Session V) : Prop where
  wire : s'.conn.wire = s.conn.wire
  pool : s'.conn.pool = s.conn.pool
  certHash : scramCertHash s'.conn = scramCertHash s.conn
  serverNonce : s'.world.serverNonces s'.drawnNonces = s.world.serverNonces s.drawnNonces

instance : IsPreorder (Session V) Unmoved where
  refl _ := ⟨rfl, rfl, rfl, rfl⟩
  trans _ _ _ h h' := ⟨h'.wire.trans h.wire, h'.pool.trans h.pool, h'.certHash.trans h.certHash,
    h'.serverNonce.trans h.serverNonce⟩

section Provider

variable [VerifierProvider V] [VerifierProvider W]

omit [VerifierProvider W] in
theorem unmoved_lookup (user : Str) : Keeps Unmoved (lookup (V := V) (ε := ε) user) := by
  have hmodify {f : Session V → Session V} (h : ∀ s, Unmoved s (f s)) : Keeps Unmoved (modify f : Proc (Session V) ε Unit) :=
    keeps_modify h
  refine keeps_bind ?_ fun _ => keeps_bind keeps_get fun s => keeps_bind ?_ fun _ => keeps_bind ?_ fun _ => keeps_pure _
  · exact keeps_bind keeps_get fun s => keeps_bind (hmodify fun _ => ⟨rfl, rfl, rfl, rfl⟩) fun _ =>
      keeps_ite (keeps_drop _) (keeps_pure _)
  · exact hmodify fun _ => ⟨rfl, rfl, rfl, rfl⟩
  · exact hmodify fun _ => ⟨rfl, rfl, rfl, rfl⟩

omit [VerifierProvider W] in
/-- Once the provider has answered. -/
theorem handleAuthentication_eq {s s₁ : Session V} {user : Str} {answer : Except ProviderError (Option Verifier)}
    {v : Verifier} (huser : s.conn.user = some user) (hne : user ≠ [])
    (hlookup : lookup (ε := AuthFailure) user s = (.ok answer, s₁))
    (hv : verifierFor s₁.conn.provider user answer = .ok v) :
    handleAuthentication C s = (attempt (saslExchange C (.new v (scramCertHash s₁.conn)) user) >>= answerAuth) s₁ := by
  refine attempt_bind_congr ?_ answerAuth
  have hknown : okOr (s.conn.user.filter (· ≠ [])) noUserFailure = .ok user := by
    rw [huser, Option.filter_some, if_pos (by simpa using hne)]
    rfl
  unfold handleScramAuth
  rw [bind_of_ok (get_apply s), hknown, bind_of_ok (lift_ok user s), bind_of_ok hlookup, bind_of_ok (get_apply s₁), hv,
    bind_of_ok (lift_ok v s₁)]

omit [VerifierProvider W] in
theorem extends_lookup {user : Str} {s s₁ : Session V} {answer : Except ProviderError (Option Verifier)}
    (h : lookup (ε := AuthFailure) user s = (.ok answer, s₁)) : Extends NotFinal s s₁ := by
  have hkeeps : Extends NotFinal s (lookup (ε := AuthFailure) user s).2 :=
    keeps_lookup (fun answer data he => by cases he) s
  rw [h] at hkeeps
  exact hkeeps

omit [VerifierProvider W] in
/-- The dummy run sends no signature and returns no key. -/
theorem dummy_never_accepted {s s₁ : Session V} {user : Str} (huser : s.conn.user = some user) (hne : user ≠ [])
    (hunknown : lookup (ε := AuthFailure) user s = (.ok (.ok none), s₁)) :
    (∀ key, (handleAuthentication C s).1 ≠ .ok (some key)) ∧ Extends NotFinal s (handleAuthentication C s).2 := by
  obtain ⟨hnever, hexchange⟩ := dummy_refused C (VerifierProvider.isDummy_getDummyVerifier s₁.conn.provider user)
    (scramCertHash s₁.conn) user s₁
  rw [handleAuthentication_eq C huser hne hunknown rfl]
  have hextends := trans_of (Extends NotFinal) (extends_lookup hunknown) hexchange
  rcases hrun : saslExchange C (.new (VerifierProvider.getDummyVerifier s₁.conn.provider user) (scramCertHash s₁.conn))
    user s₁ with ⟨k | e | n, s₂⟩ <;> rw [hrun] at hextends hnever
  · exact absurd rfl (hnever k)
  · rw [bind_of_ok (attempt_of_err hrun)]
    exact ⟨answerAuth_error e s₂, trans_of (Extends NotFinal) hextends (keeps_answerAuth _ s₂)⟩
  · rw [bind_of_dropped (attempt_of_dropped hrun)]
    exact ⟨by simp, hextends⟩

/-- The client's side of two runs of the authentication: one user name, one stream of
    bytes, one certificate and one server nonce. -/
structure SameClient (s : Session V) (t : Session W) : Prop where
  user : s.conn.user = t.conn.user
  wire : s.conn.wire = t.conn.wire
  maxCapacity : s.conn.pool.maxCapacity = t.conn.pool.maxCapacity
  certHash : scramCertHash s.conn = scramCertHash t.conn
  serverNonce : s.world.serverNonces s.drawnNonces = t.world.serverNonces t.drawnNonces

/-- The proof was accepted in the run from `t`: the signature is sent. -/
def AcceptsProof (t : Session W) : Prop :=
  ∃ es data, (handleAuthentication C t).2.log = t.log ++ es ∧ authEvent authSaslFinal data ∈ es

/-- An unknown user and a known one whose proof is not accepted get the same bytes, and
    the runs end alike. An unknown user is never accepted. -/
theorem unknown_user_alike {s s₁ : Session V} {t t₁ : Session W} {user : Str} {v : Verifier} (hsame : SameClient s t)
    (huser : s.conn.user = some user) (hne : user ≠ [])
    (hunknown : lookup (ε := AuthFailure) user s = (.ok (.ok none), s₁))
    (hknown : lookup (ε := AuthFailure) user t = (.ok (.ok (some v)), t₁))
    (hsalt : v.salt = (VerifierProvider.getDummyVerifier s₁.conn.provider user).salt)
    (hiterations : v.iterations = (VerifierProvider.getDummyVerifier s₁.conn.provider user).iterations)
    (hrejected : ¬ AcceptsProof C t) :
    (handleAuthentication C s).2.conn.wire = (handleAuthentication C t).2.conn.wire ∧
      (handleAuthentication C s).1 = (handleAuthentication C t).1 ∧ ¬ AcceptsProof C s ∧
      ∀ key, (handleAuthentication C s).1 ≠ .ok (some key) := by
  have hdummy := VerifierProvider.isDummy_getDummyVerifier s₁.conn.provider user
  have hs := (unmoved_lookup user).run hunknown
  have ht := (unmoved_lookup user).run hknown
  have halike : Alike (some (s.world.serverNonces s.drawnNonces)) s₁ t₁ := by
    refine ⟨by rw [hs.wire, ht.wire, hsame.wire], by rw [hs.pool, ht.pool, hsame.maxCapacity], fun nonce hnonce => ?_⟩
    rw [hs.serverNonce, ht.serverNonce, ← hsame.serverNonce]
    exact ⟨Option.some.inj hnonce, Option.some.inj hnonce⟩
  have hcert : scramCertHash t₁.conn = scramCertHash s₁.conn := by rw [hs.certHash, ht.certHash, hsame.certHash]
  have hrun := handleAuthentication_eq C (hsame.user ▸ huser) hne hknown rfl
  rw [hcert] at hrun
  obtain ⟨hnever, hextends⟩ := dummy_never_accepted C huser hne hunknown
  have hunaccepted : ¬ AcceptsProof C s := by
    intro ⟨es, data, hlog, hmem⟩
    obtain ⟨-, es', hlog', hes'⟩ := hextends
    rw [hlog', List.append_cancel_left_eq] at hlog
    subst hlog
    exact hes' _ hmem data rfl
  rcases exchanges_agree C hdummy hsalt hiterations halike (scramCertHash s₁.conn) user with
    ⟨es, serverFinal, rest, hlog⟩ | hagree
  · -- the entry accepts the proof
    refine absurd ?_ hrejected
    obtain ⟨-, e₁, hlookup, -⟩ := extends_lookup hknown
    obtain ⟨-, e₂, hanswer, -⟩ := keeps_second (attempt (saslExchange C (.new v (scramCertHash s₁.conn)) user))
      (keeps_answerAuth (V := W)) t₁
    rw [attempt_snd, hlog, hlookup] at hanswer
    rw [← hrun] at hanswer
    refine ⟨e₁ ++ es ++ authEvent authSaslFinal (asBytes serverFinal) :: rest ++ e₂, asBytes serverFinal, ?_, by simp⟩
    rw [hanswer]
    simp only [List.append_assoc]
  · have hboth : Agree (fun a b => a = s₁ ∧ b = t₁) (Alike none)
        (saslExchange C (.new (VerifierProvider.getDummyVerifier s₁.conn.provider user) (scramCertHash s₁.conn)) user)
        (saslExchange C (.new v (scramCertHash s₁.conn)) user) := by
      intro a b hab
      obtain ⟨rfl, rfl⟩ := hab
      exact hagree
    obtain ⟨hout, hend⟩ := agree_bind (agree_attempt hboth) (fun _ _ h => h) agree_answerAuth s₁ t₁ ⟨rfl, rfl⟩
    rw [← handleAuthentication_eq C huser hne hunknown rfl, ← hrun] at hout hend
    exact ⟨hend.wire, hout, hunaccepted, hnever⟩

end Provider

end Session

namespace Sample

open Session

/-- An entry with the salt and the iteration count of Alice's dummy. -/
def knownVerifier : Verifier :=
  { iterations := 4096, salt := List.replicate 16 0, storedKey, serverKey, password := none, isDummy := false }

/-- A session of Alice's behind its StartupMessage. -/
def named (users : AList fun _ : Str => Verifier) : Session (CredentialStore crypto) :=
  let s := session (.fromSource .memory ⟨1, users⟩ .zero) (fun _ shared => shared) [saslMessages]
  { s with conn := { s.conn with user := some "alice" } }

def unknownUser : Session (CredentialStore crypto) := named ∅

/-- The proof in these messages is over another salt. -/
def wrongProof : Session (CredentialStore crypto) := named (AList.singleton "alice" knownVerifier)

/-- The code of an authentication message. -/
def authCode : Event → Option Bytes
  | .message tag body => if tag = byte 'R' then some (body.take 4) else none
  | _ => none

def lookedUp (s : Session (CredentialStore crypto)) : Session (CredentialStore crypto) :=
  (lookup (ε := AuthFailure) "alice" s).2

end Sample

namespace Session

theorem unknown_user_alike_wrong_proof :
    (handleAuthentication Sample.crypto Sample.unknownUser).2.conn.wire =
        (handleAuthentication Sample.crypto Sample.wrongProof).2.conn.wire ∧
      (handleAuthentication Sample.crypto Sample.unknownUser).1 = (handleAuthentication Sample.crypto Sample.wrongProof).1 ∧
      ¬ AcceptsProof Sample.crypto Sample.unknownUser ∧
      ∀ key, (handleAuthentication Sample.crypto Sample.unknownUser).1 ≠ .ok (some key) := by
  have hsame : SameClient Sample.unknownUser Sample.wrongProof := ⟨rfl, rfl, rfl, rfl, rfl⟩
  have hunknown : lookup (ε := AuthFailure) "alice" Sample.unknownUser =
      (.ok (.ok none), Sample.lookedUp Sample.unknownUser) := eq_of_fst (by decide +kernel)
  have hknown : lookup (ε := AuthFailure) "alice" Sample.wrongProof =
      (.ok (.ok (some Sample.knownVerifier)), Sample.lookedUp Sample.wrongProof) := eq_of_fst (by decide +kernel)
  refine unknown_user_alike Sample.crypto hsame rfl (by decide) hunknown hknown (by decide +kernel) (by decide +kernel) ?_
  intro ⟨es, data, hlog, hmem⟩
  have hcodes : (handleAuthentication Sample.crypto Sample.wrongProof).2.log.filterMap Sample.authCode =
      [beBytes authSasl, beBytes authSaslContinue] := by decide +kernel
  have hlog' : (handleAuthentication Sample.crypto Sample.wrongProof).2.log = es := hlog
  have hfinal : beBytes authSaslFinal ∈ es.filterMap Sample.authCode := List.mem_filterMap.mpr ⟨_, hmem, rfl⟩
  rw [← hlog', hcodes] at hfinal
  exact absurd hfinal (by decide)

end Session

end Wirechaos
