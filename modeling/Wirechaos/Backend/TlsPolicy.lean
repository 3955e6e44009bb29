/-
  Wirechaos.Backend.TlsPolicy — the TLS policy of the backend link (`decide_tls` in
  backend/mod.rs, `try_tls` and `connect` in backend/pg_client.rs).

  `decideTls` is the table of the design, by mode and reply. `try_tls` does not call it,
  but every run of it does what the table says, whatever the peer and the network do
  (`tryTls_follows_policy`): nothing goes out but (a beginning of) the SSLRequest, and then
  the link is given up, or stays in the clear, or goes on in a tunnel. The table has no
  clear link for `require` and `verify-full`, so that no run of `connect` says anything
  else in the clear (`nothing_in_the_clear`).

  The rest of `connect` keeps the ends of the wire (`keeps_startUp`), by a walk that holds
  of every relation that follows the wire.
-/

import Wirechaos.Backend.PgClientProofs
import Wirechaos.Backend.Link
import Wirechaos.Wire.WriteProofs

namespace Wirechaos

open Text Async Proc

/-! ## The table -/

/-- How the backend answered the SSLRequest. -/
inductive SslReply where
  | notRequested
  | no
  | yes
  deriving DecidableEq, Repr

inductive TlsOutcome where
  | plaintext
  | tls (verifyHost : Bool)
  | fail
  deriving DecidableEq, Repr

def decideTls : BackendTlsMode → SslReply → TlsOutcome
  | .disable, .notRequested => .plaintext
  | .prefer, .notRequested => .plaintext
  | .prefer, .no => .plaintext
  | .prefer, .yes => .tls false
  | .require, .yes => .tls false
  | .verifyFull, .yes => .tls true
  | .require, .no => .fail
  | .require, .notRequested => .fail
  | .verifyFull, .no => .fail
  | .verifyFull, .notRequested => .fail
  | .disable, .no => .fail
  | .disable, .yes => .fail

/-! ## The wire -/

namespace Wire

/-- Neither end is exchanged, and what is buffered stays so. -/
structure SameEnds (w w' : Wire) : Prop where
  reader : w'.reader.inner.transport = w.reader.inner.transport
  writer : w'.writer = w.writer

instance : IsPreorder Wire SameEnds where
  refl _ := ⟨rfl, rfl⟩
  trans _ _ _ h h' := ⟨h'.reader.trans h.reader, h'.writer.trans h.writer⟩

theorem sameEnds_await : Keeps SameEnds await := by
  intro w
  unfold await
  dsimp only
  split <;> exact ⟨rfl, rfl⟩

theorem sameEnds_writeAllRaw (data : Bytes) : Keeps SameEnds (writeAllRaw data) := by
  have hfrom (fuel : Nat) (data : Bytes) : Keeps SameEnds (writeAllRawFrom fuel data) := by
    induction fuel generalizing data with
    | zero => exact keeps_pure _
    | succ fuel ih =>
      refine keeps_ite (keeps_pure _) (keeps_bind ?_ fun n => ih _)
      refine keeps_bind keeps_get fun w => keeps_ite (keeps_throw _) (keeps_bind sameEnds_await fun n => ?_)
      exact keeps_ite (keeps_throw _) (keeps_bind (keeps_modify fun w => ⟨rfl, rfl⟩) fun _ => keeps_pure _)
  exact hfrom _ _

theorem sameEnds_readByteRaw : Keeps SameEnds readByteRaw := by
  refine keeps_bind sameEnds_await fun n => keeps_bind keeps_get fun w => ?_
  split
  · exact keeps_bind (keeps_modify fun w => ⟨rfl, rfl⟩) fun _ => keeps_pure _
  · exact keeps_throw _

theorem mute_readByteRaw : Keeps Mute readByteRaw := by
  refine keeps_bind mute_await fun n => keeps_bind keeps_get fun w => ?_
  split
  · exact keeps_bind (keeps_modify fun w => ⟨rfl, rfl⟩) fun _ => keeps_pure _
  · exact keeps_throw _

end Wire

namespace PgClient

def sslRequest : Bytes := beBytes 8 ++ beBytes sslRequestCode

theorem sameEnds_requestTls : Keeps Wire.SameEnds requestTls :=
  keeps_bind (Wire.sameEnds_writeAllRaw _) fun _ => keeps_bind (Wire.sameEnds_writeAllRaw _) fun _ =>
    keeps_bind Wire.sameEnds_readByteRaw fun _ => keeps_pure _

/-- The request is sent whole when there was an answer, else a beginning of it. -/
theorem requestTls_sent (w : Wire) :
    ∃ bs, bs <+: sslRequest ∧ (requestTls w).2.sent = w.sent ++ bs ∧ ∀ yes, (requestTls w).1 = .ok yes → bs = sslRequest := by
  have hanswer : Keeps Wire.Mute (do let answer ← Wire.readByteRaw; pure (decide (answer = byte 'S')) : Proc Wire IoError Bool) :=
    keeps_bind Wire.mute_readByteRaw fun _ => keeps_pure _
  unfold requestTls
  rcases hlength : Wire.writeAllRaw (beBytes 8) w with ⟨⟨⟩ | e | n, w₁⟩
  · have hsent₁ := Wire.writeAllRaw_ok hlength
    rw [bind_of_ok hlength]
    rcases hcode : Wire.writeAllRaw (beBytes sslRequestCode) w₁ with ⟨⟨⟩ | e | n, w₂⟩
    · have hsent₂ := Wire.writeAllRaw_ok hcode
      rw [bind_of_ok hcode]
      refine ⟨sslRequest, List.prefix_refl _, ?_, fun _ _ => rfl⟩
      rw [(hanswer w₂).sent, hsent₂, hsent₁, List.append_assoc, sslRequest]
    all_goals
      obtain ⟨bs, hbegins, hsent₂⟩ := Wire.writeAllRaw_sent (beBytes sslRequestCode) w₁
      rw [hcode] at hsent₂
      first
        | rw [bind_of_err hcode]
        | rw [bind_of_dropped hcode]
      refine ⟨beBytes 8 ++ bs, (List.prefix_append_right_inj _).mpr hbegins, ?_, fun _ h => by cases h⟩
      rw [hsent₂, hsent₁, List.append_assoc]
  all_goals
    obtain ⟨bs, hbegins, hsent₁⟩ := Wire.writeAllRaw_sent (beBytes 8) w
    rw [hlength] at hsent₁
    first
      | rw [bind_of_err hlength]
      | rw [bind_of_dropped hlength]
    exact ⟨bs, hbegins.trans (List.prefix_append _ _), hsent₁, fun _ h => by cases h⟩

/-! ## What keeps the ends -/

/-- What `connect` does once the policy is settled. -/
def startUp (C : Crypto) (config : PgConfig) : Proc PgClient PgError Unit := do
  writeStartupMessage config
  match ← timeout (handleStartupHandshake C config) with
  | none => throw .startupTimeout
  | some (.error e) => throw e
  | some (.ok ()) => pure ()

theorem connect_eq (C : Crypto) (env : LinkEnv) (config : PgConfig) :
    connect C env config = within .connectTimeout Wire.await >>= fun _ => tryTls env config >>= fun _ => startUp C config := rfl

/-- The ends of the wire; what was sent stays sent. -/
structure SameLink (c c' : PgClient) : Prop where
  reader : c'.wire.reader.inner.transport = c.wire.reader.inner.transport
  writer : c'.wire.writer.inner = c.wire.writer.inner
  sent : c.wire.sent <+: c'.wire.sent
  peerCertHash : c'.peerCertHash = c.peerCertHash

instance : IsPreorder PgClient SameLink where
  refl _ := ⟨rfl, rfl, List.prefix_refl _, rfl⟩
  trans _ _ _ h h' := ⟨h'.reader.trans h.reader, h'.writer.trans h.writer, h.sent.trans h'.sent,
    h'.peerCertHash.trans h.peerCertHash⟩

section Walk

variable (C : Crypto) {config : PgConfig} {α : Type}

theorem sameLink_stream {x : Proc Wire IoError α} (hx : Keeps Wire.Stable x) : Keeps SameLink (stream x) := by
  intro c
  rw [stream, within_snd]
  have hstable := hx c.wire
  exact ⟨hstable.reader, hstable.writer, hstable.sent, rfl⟩

theorem sameLink_modify {f : PgClient → PgClient} (hf : ∀ c, (f c).wire = c.wire ∧ (f c).peerCertHash = c.peerCertHash) :
    Keeps SameLink (modify f : Proc PgClient PgError Unit) := by
  intro c
  obtain ⟨hwire, hcert⟩ := hf c
  show SameLink c (f c)
  exact ⟨by rw [hwire], by rw [hwire], hwire ▸ List.prefix_refl _, hcert⟩

theorem sameLink_writeMessage (what : Response) (tag : UInt8) (body : Bytes) : Keeps SameLink (writeMessage what tag body) :=
  keeps_bind (sameLink_modify fun _ => ⟨rfl, rfl⟩) fun _ =>
    keeps_bind (sameLink_stream (Wire.keeps_writeAll _)) fun _ => sameLink_stream Wire.keeps_flush

theorem sameLink_readMessage : Keeps SameLink readMessage := by
  refine keeps_bind (keeps_bind (sameLink_stream (Wire.keeps_readExact _)) fun _ => keeps_lift _) fun header => ?_
  refine keeps_bind (keeps_bind keeps_get fun c => keeps_ite (keeps_throw _) ?_) fun payload => ?_
  · exact keeps_bind (sameLink_stream (Wire.keeps_readExact _)) fun _ => keeps_pure _
  · exact keeps_bind (sameLink_modify fun _ => ⟨rfl, rfl⟩) fun _ => keeps_pure _

theorem sameLink_readAuthenticationData (expected : UInt32) : Keeps SameLink (readAuthenticationData expected) :=
  keeps_bind sameLink_readMessage fun _ => keeps_lift _

theorem sameLink_handleSasl (body : Bytes) : Keeps SameLink (handleSasl C config body) := by
  refine keeps_bind keeps_get fun c => keeps_bind (keeps_lift _) fun started => ?_
  refine keeps_bind (sameLink_modify fun _ => ⟨rfl, rfl⟩) fun _ => keeps_bind (sameLink_writeMessage _ _ _) fun _ => ?_
  refine keeps_bind (sameLink_readAuthenticationData _) fun _ => keeps_bind (keeps_lift _) fun _ => ?_
  refine keeps_bind (keeps_lift _) fun final => keeps_bind (sameLink_writeMessage _ _ _) fun _ => ?_
  refine keeps_bind (sameLink_readAuthenticationData _) fun _ => keeps_bind (keeps_lift _) fun _ => ?_
  refine keeps_bind (keeps_lift _) fun verified => keeps_bind (sameLink_modify fun _ => ⟨rfl, rfl⟩) fun _ => ?_
  exact sameLink_modify fun _ => ⟨rfl, rfl⟩

theorem sameLink_handleAuth (authType : UInt32) (data : Bytes) : Keeps SameLink (handleAuth C config authType data) := by
  refine keeps_ite (keeps_pure _) (keeps_ite ?_ (keeps_ite ?_ (keeps_ite (sameLink_handleSasl C data) ?_)))
  · unfold handleCleartext
    split
    · exact keeps_throw _
    · exact sameLink_writeMessage _ _ _
  · unfold handleMd5
    refine keeps_ite (keeps_throw _) ?_
    split
    · exact keeps_throw _
    · exact sameLink_writeMessage _ _ _
  · exact keeps_ite (keeps_throw _) (keeps_throw _)

theorem sameLink_handleMessage (tag : UInt8) (payload : Bytes) : Keeps SameLink (handleMessage C config tag payload) := by
  refine keeps_ite ?_ (keeps_ite ?_ (keeps_ite ?_ (keeps_ite ?_ (keeps_ite ?_ ?_))))
  · exact keeps_bind (keeps_lift _) fun request => keeps_bind (sameLink_handleAuth C _ _) fun _ => keeps_pure _
  · exact keeps_bind (keeps_lift _) fun setting => keeps_bind (sameLink_modify fun _ => ⟨rfl, rfl⟩) fun _ => keeps_pure _
  · exact keeps_bind (sameLink_modify fun _ => ⟨rfl, rfl⟩) fun _ => keeps_pure _
  · exact keeps_bind (keeps_lift _) fun key => keeps_bind (sameLink_modify fun _ => ⟨rfl, rfl⟩) fun _ => keeps_pure _
  · exact keeps_bind (keeps_lift _) fun status => keeps_bind (sameLink_modify fun _ => ⟨rfl, rfl⟩) fun _ => keeps_pure _
  · exact keeps_ite (keeps_throw _) (keeps_throw _)

theorem sameLink_handshakeFrom (fuel : Nat) : Keeps SameLink (handshakeFrom C config fuel) := by
  induction fuel with
  | zero => exact keeps_throw _
  | succ fuel ih =>
    refine keeps_bind sameLink_readMessage fun m => keeps_bind (sameLink_handleMessage C _ _) fun done => ?_
    exact keeps_ite (keeps_pure _) ih

theorem keeps_startUp : Keeps SameLink (startUp C config) := by
  refine keeps_bind (keeps_bind (sameLink_modify fun _ => ⟨rfl, rfl⟩) fun _ => ?_) fun _ => ?_
  · exact keeps_bind (sameLink_stream (Wire.keeps_writeAll _)) fun _ => sameLink_stream Wire.keeps_flush
  · refine keeps_bind (fun c => ?_) fun result => ?_
    · rw [timeout_snd]
      exact keeps_bind keeps_get (fun c => sameLink_handshakeFrom C _) c
    · rcases result with _ | e | ⟨⟩
      · exact keeps_throw _
      · exact keeps_throw _
      · exact keeps_pure _

end Walk

/-! ## The policy -/

theorem within_ok {α : Type} {elapsed : PgError} {x : Proc Wire IoError α} {c c' : PgClient} {a : α}
    (h : within elapsed x c = (.ok a, c')) : ∃ w, x c.wire = (.ok a, w) ∧ c' = { c with wire := w } := by
  obtain ⟨r, c₁, ht, h⟩ := bind_ok.mp h
  unfold timeout zoom at ht
  rcases hx : x c.wire with ⟨b | e | _ | n, w⟩ <;> rw [hx] at ht <;> cases ht
  · cases h
    exact ⟨w, rfl, rfl⟩
  · cases h
  · cases h

theorem within_of_ok {α : Type} (elapsed : PgError) {x : Proc Wire IoError α} {c : PgClient} {a : α} {w : Wire}
    (h : x c.wire = (.ok a, w)) : within elapsed x c = (.ok a, { c with wire := w }) := by
  simp only [within, bind_apply, timeout, zoom, h]
  rfl

/-- A connection on which nothing was sent. -/
structure Unused (c : PgClient) : Prop where
  log : c.log = []
  sent : c.wire.sent = []
  reader : c.wire.reader.inner.transport = .plain
  writer : c.wire.writer = { buf := [], inner := .plain }
  peerCertHash : c.peerCertHash = none

/-- A link in the clear, as `plain_stream` makes it. -/
structure InTheClear (c : PgClient) : Prop where
  reader : c.wire.reader.inner.transport = .plain
  writer : c.wire.writer = { buf := [], inner := .plain }
  peerCertHash : c.peerCertHash = none

/-- A link in a tunnel that the TLS library has opened for this configuration and this
    name, with buffers that hold nothing from before. -/
structure Tunnelled (env : LinkEnv) (config : PgConfig) (c : PgClient) : Prop where
  reader : c.wire.reader.inner.transport = .clientTls
  writer : c.wire.writer = { buf := [], inner := .clientTls }
  buffered : c.wire.reader.buf = []
  handshake : env.validServerName config.tlsServerName = true ∧ env.tlsConfigError config.tls = none ∧
    ∃ left, env.connector config.tls config.tlsServerName left = some (c.wire.reader.inner.chunks, c.peerCertHash)

/-- The reply of a run of `try_tls`; `none` when a fault or a deadline came first. -/
def sslReply (config : PgConfig) (c : PgClient) : Option SslReply :=
  if config.tls.mode = .disable then some .notRequested
  else
    match (within .tlsTimeout requestTls c).1 with
    | .ok true => some .yes
    | .ok false => some .no
    | _ => none

/-- The run ended without a result. -/
def Stopped {α : Type} (o : Outcome PgError α) : Prop := ∀ a, o ≠ .ok a

/-- What `try_tls` has to do for an outcome of the table. -/
def Obeys (env : LinkEnv) (config : PgConfig) (r : Outcome PgError Unit × PgClient) : TlsOutcome → Prop
  | .plaintext => r.1 = .ok () ∧ InTheClear r.2
  | .fail => r.1 = .err (.tls noTlsMessage) ∧ InTheClear r.2
  | .tls verifyHost => (verifyHost = true ↔ config.tls.mode = .verifyFull) ∧
      (r.1 = .ok () ∧ Tunnelled env config r.2 ∨ Stopped r.1 ∧ InTheClear r.2)

section Policy

variable (C : Crypto) (env : LinkEnv) {config : PgConfig} {c : PgClient}

/-- The client after the request, and what it has sent. -/
theorem requested (h : Unused c) :
    InTheClear (within .tlsTimeout requestTls c).2 ∧ (within .tlsTimeout requestTls c).2.log = [] ∧
      (within .tlsTimeout requestTls c).2.wire.output <+: sslRequest ∧
      ∀ yes, (within .tlsTimeout requestTls c).1 = .ok yes → (within .tlsTimeout requestTls c).2.wire.output = sslRequest := by
  have hends := sameEnds_requestTls c.wire
  obtain ⟨bs, hbegins, hsent, hall⟩ := requestTls_sent c.wire
  have houtput : (requestTls c.wire).2.output = bs := by
    rw [Wire.output, hsent, hends.writer, h.writer, h.sent]
    simp
  rw [within_snd]
  refine ⟨⟨hends.reader.trans h.reader, hends.writer.trans h.writer, h.peerCertHash⟩, h.log, ?_, ?_⟩
  · show (requestTls c.wire).2.output <+: _
    rw [houtput]
    exact hbegins
  · intro yes hyes
    obtain ⟨w, hw, -⟩ := within_ok (eq_of_fst hyes)
    show (requestTls c.wire).2.output = _
    rw [houtput]
    exact hall yes (congrArg Prod.fst hw)

/-- The handshake: the tunnel, or the link as it was. -/
theorem connectTls_cases (config : PgConfig) (h : InTheClear c) (hlog : c.log = []) :
    (connectTls env config c).2.log = [] ∧ (connectTls env config c).2.wire.output = c.wire.output ∧
      ((connectTls env config c).1 = .ok () ∧ Tunnelled env config (connectTls env config c).2 ∨
        Stopped (connectTls env config c).1 ∧ InTheClear (connectTls env config c).2) := by
  unfold connectTls
  by_cases hname : env.validServerName config.tlsServerName = true
  · rw [require, if_pos hname, bind_of_ok (lift_ok () c)]
    rcases herror : env.tlsConfigError config.tls with _ | message
    · dsimp only
      rw [bind_of_ok (lift_ok () c)]
      have hwait := within_snd .tlsTimeout Wire.await c
      have hends := Wire.sameEnds_await c.wire
      have hmute := Wire.mute_await c.wire
      have hclear : InTheClear { c with wire := (Wire.await c.wire).2 } :=
        ⟨hends.reader.trans h.reader, hends.writer.trans h.writer, h.peerCertHash⟩
      rcases hawait : within .tlsTimeout Wire.await c with ⟨n | e | n, c₁⟩ <;> rw [hawait] at hwait
      · have hc₁ : c₁ = { c with wire := (Wire.await c.wire).2 } := hwait
        rw [bind_of_ok hawait, bind_of_ok (get_apply c₁)]
        rcases hconnector : env.connector config.tls config.tlsServerName c₁.wire.reader.inner.chunks with
          _ | ⟨chunks, certHash⟩
        · rw [okOr, bind_of_err (lift_error _ c₁), hc₁]
          exact ⟨hlog, hmute.output, .inr ⟨fun _ h => (by cases h), hclear⟩⟩
        · rw [okOr, bind_of_ok (lift_ok (chunks, certHash) c₁), hc₁]
          refine ⟨hlog, ?_, .inl ⟨rfl, ⟨rfl, rfl, rfl, hname, herror, c₁.wire.reader.inner.chunks, hconnector⟩⟩⟩
          show (Wire.await c.wire).2.sent ++ [] = _
          rw [hmute.sent, Wire.output, h.writer]
      · rw [bind_of_err hawait]
        have hc₁ : c₁ = { c with wire := (Wire.await c.wire).2 } := hwait
        rw [hc₁]
        exact ⟨hlog, hmute.output, .inr ⟨fun _ h => (by cases h), hclear⟩⟩
      · rw [bind_of_dropped hawait]
        have hc₁ : c₁ = { c with wire := (Wire.await c.wire).2 } := hwait
        rw [hc₁]
        exact ⟨hlog, hmute.output, .inr ⟨fun _ h => (by cases h), hclear⟩⟩
    · dsimp only
      rw [bind_of_err (lift_error _ c)]
      exact ⟨hlog, rfl, .inr ⟨fun _ h => (by cases h), h⟩⟩
  · rw [require, if_neg hname, bind_of_err (lift_error _ c)]
    exact ⟨hlog, rfl, .inr ⟨fun _ h => (by cases h), h⟩⟩

/-- `try_tls` on a new connection, by the reply. -/
theorem tryTls_cases (config : PgConfig) (h : Unused c) :
    (tryTls env config c).2.log = [] ∧
    match sslReply config c with
    | none => Stopped (tryTls env config c).1 ∧ InTheClear (tryTls env config c).2 ∧
        (tryTls env config c).2.wire.output <+: sslRequest
    | some .notRequested => config.tls.mode = .disable ∧ (tryTls env config c).2.wire.output = [] ∧
        (tryTls env config c).1 = .ok () ∧ InTheClear (tryTls env config c).2
    | some .no => config.tls.mode ≠ .disable ∧ (tryTls env config c).2.wire.output = sslRequest ∧
        (tryTls env config c).1 = (if config.tls.mode = .prefer then .ok () else .err (.tls noTlsMessage)) ∧
        InTheClear (tryTls env config c).2
    | some .yes => config.tls.mode ≠ .disable ∧ (tryTls env config c).2.wire.output = sslRequest ∧
        ((tryTls env config c).1 = .ok () ∧ Tunnelled env config (tryTls env config c).2 ∨
          Stopped (tryTls env config c).1 ∧ InTheClear (tryTls env config c).2) := by
  unfold tryTls sslReply
  by_cases hdisable : config.tls.mode = .disable
  · rw [if_pos hdisable, if_pos hdisable]
    refine ⟨h.log, hdisable, ?_, rfl, h.reader, h.writer, h.peerCertHash⟩
    show c.wire.output = []
    rw [Wire.output, h.sent, h.writer]
    rfl
  rw [if_neg hdisable, if_neg hdisable]
  obtain ⟨hclear, hlog, hbegins, hall⟩ := requested h
  rcases hrequest : within .tlsTimeout requestTls c with ⟨yes | e | n, c₁⟩ <;> rw [hrequest] at hclear hlog hbegins hall
  · rw [bind_of_ok hrequest]
    have hsent : c₁.wire.output = sslRequest := hall yes rfl
    cases yes with
    | true =>
      obtain ⟨htlsLog, htlsOutput, hcases⟩ := connectTls_cases env config hclear hlog
      exact ⟨htlsLog, hdisable, htlsOutput.trans hsent, hcases⟩
    | false =>
      by_cases hprefer : config.tls.mode = .prefer
      · rw [if_neg (by decide), if_pos hprefer]
        exact ⟨hlog, hdisable, hsent, (if_pos hprefer).symm, hclear⟩
      · rw [if_neg (by decide), if_neg hprefer]
        exact ⟨hlog, hdisable, hsent, (if_neg hprefer).symm, hclear⟩
  · rw [bind_of_err hrequest]
    exact ⟨hlog, fun _ h => (by cases h), hclear, hbegins⟩
  · rw [bind_of_dropped hrequest]
    exact ⟨hlog, fun _ h => (by cases h), hclear, hbegins⟩

/-- On a yes the table asks for TLS in every mode that has requested it. -/
theorem decideTls_yes {mode : BackendTlsMode} (h : mode ≠ .disable) :
    ∃ verifyHost, decideTls mode .yes = .tls verifyHost ∧ (verifyHost = true ↔ mode = .verifyFull) := by
  cases mode with
  | disable => exact absurd rfl h
  | prefer => exact ⟨false, rfl, by simp⟩
  | require => exact ⟨false, rfl, by simp⟩
  | verifyFull => exact ⟨true, rfl, by simp⟩

/-- On a no only `prefer` goes on. -/
theorem decideTls_no {mode : BackendTlsMode} (h : mode ≠ .prefer) : decideTls mode .no = .fail := by
  cases mode with
  | prefer => exact absurd rfl h
  | disable | require | verifyFull => rfl

/-- `try_tls` on a new connection does what the table says of the mode and the reply. It
    sends the SSLRequest, and nothing else in the clear. -/
theorem tryTls_follows_policy (h : Unused c) :
    (tryTls env config c).2.log = [] ∧
    match sslReply config c with
    | none => Stopped (tryTls env config c).1 ∧ InTheClear (tryTls env config c).2 ∧
        (tryTls env config c).2.wire.output <+: sslRequest
    | some reply => (tryTls env config c).2.wire.output = (if reply = .notRequested then [] else sslRequest) ∧
        Obeys env config (tryTls env config c) (decideTls config.tls.mode reply) := by
  obtain ⟨hlog, hcases⟩ := tryTls_cases env config h
  refine ⟨hlog, ?_⟩
  rcases hreply : sslReply config c with _ | _ | _ | _ <;> rw [hreply] at hcases
  · exact hcases
  · obtain ⟨hmode, hsent, hok, hclear⟩ := hcases
    rw [hmode]
    exact ⟨hsent, hok, hclear⟩
  · obtain ⟨hmode, hsent, hresult, hclear⟩ := hcases
    refine ⟨hsent, ?_⟩
    by_cases hprefer : config.tls.mode = .prefer
    · rw [if_pos hprefer] at hresult
      rw [hprefer]
      exact ⟨hresult, hclear⟩
    · rw [if_neg hprefer] at hresult
      rw [decideTls_no hprefer]
      exact ⟨hresult, hclear⟩
  · obtain ⟨hmode, hsent, htunnel⟩ := hcases
    obtain ⟨verifyHost, htls, hverify⟩ := decideTls_yes hmode
    refine ⟨hsent, ?_⟩
    show Obeys env config (tryTls env config c) (decideTls config.tls.mode .yes)
    rw [htls]
    exact ⟨hverify, htunnel⟩

theorem unused_fresh (pool : MultiBufferPool) (env : LinkEnv) : Unused (fresh pool env) := ⟨rfl, rfl, rfl, rfl, rfl⟩

/-- Under `require` and `verify-full`, in every run and wherever it stops, a link sends a
    beginning of the SSLRequest in the clear; whatever else it sends and all it is told by
    the backend goes through a tunnel of the TLS library. -/
theorem nothing_in_the_clear (pool : MultiBufferPool) (hmode : config.tls.mode = .require ∨ config.tls.mode = .verifyFull) :
    (Stopped (connect C env config (fresh pool env)).1 ∧ (connect C env config (fresh pool env)).2.log = [] ∧
        (connect C env config (fresh pool env)).2.wire.output <+: sslRequest) ∨
      ∃ t, t.log = [] ∧ t.wire.output = sslRequest ∧ Tunnelled env config t ∧
        connect C env config (fresh pool env) = startUp C config t ∧
        SameLink t (connect C env config (fresh pool env)).2 := by
  have hunused : Unused { fresh pool env with wire := (Wire.await (fresh pool env).wire).2 } := by
    have hends := Wire.sameEnds_await (fresh pool env).wire
    have hmute := Wire.mute_await (fresh pool env).wire
    exact ⟨rfl, hmute.sent, hends.reader, hends.writer, rfl⟩
  have hwait := within_snd .connectTimeout Wire.await (fresh pool env)
  rw [connect_eq]
  rcases hawait : within .connectTimeout Wire.await (fresh pool env) with ⟨n | e | n, c₁⟩ <;> rw [hawait] at hwait
  · have hc₁ : c₁ = { fresh pool env with wire := (Wire.await (fresh pool env).wire).2 } := hwait
    rw [bind_of_ok hawait]
    rw [← hc₁] at hunused
    obtain ⟨hlog, hreply⟩ := tryTls_cases env config hunused
    -- without a tunnel the run stops in `try_tls`
    have hstops (hstop : Stopped (tryTls env config c₁).1) (hsent : (tryTls env config c₁).2.wire.output <+: sslRequest) :
        Stopped ((tryTls env config >>= fun _ => startUp C config) c₁).1 ∧
          ((tryTls env config >>= fun _ => startUp C config) c₁).2.log = [] ∧
          ((tryTls env config >>= fun _ => startUp C config) c₁).2.wire.output <+: sslRequest := by
      rcases htls : tryTls env config c₁ with ⟨⟨⟩ | e | n, c₂⟩ <;> rw [htls] at hstop hsent hlog
      · exact absurd rfl (hstop ())
      · rw [bind_of_err htls]
        exact ⟨fun _ h => (by cases h), hlog, hsent⟩
      · rw [bind_of_dropped htls]
        exact ⟨fun _ h => (by cases h), hlog, hsent⟩
    rcases hssl : sslReply config c₁ with _ | _ | _ | _ <;> rw [hssl] at hreply
    · exact .inl (hstops hreply.1 hreply.2.2)
    · rcases hmode with hmode | hmode <;> rw [hmode] at hreply <;> cases hreply.1
    · obtain ⟨-, hsent, hresult, -⟩ := hreply
      have hprefer : config.tls.mode ≠ .prefer := by
        intro hprefer
        rcases hmode with hmode | hmode <;> rw [hmode] at hprefer <;> cases hprefer
      rw [if_neg hprefer] at hresult
      refine .inl (hstops (fun _ h => ?_) (hsent ▸ List.prefix_refl _))
      rw [hresult] at h
      cases h
    · obtain ⟨-, hsent, ⟨hok, htunnel⟩ | ⟨hstop, -⟩⟩ := hreply
      · right
        rw [bind_of_ok (eq_of_fst hok)]
        exact ⟨_, hlog, hsent, htunnel, rfl, keeps_startUp C _⟩
      · exact .inl (hstops hstop (hsent ▸ List.prefix_refl _))
  · have hc₁ : c₁ = { fresh pool env with wire := (Wire.await (fresh pool env).wire).2 } := hwait
    rw [bind_of_err hawait, hc₁]
    refine .inl ⟨fun _ h => (by cases h), rfl, ?_⟩
    rw [Wire.output, hunused.sent, hunused.writer]
    exact List.nil_prefix
  · have hc₁ : c₁ = { fresh pool env with wire := (Wire.await (fresh pool env).wire).2 } := hwait
    rw [bind_of_dropped hawait, hc₁]
    refine .inl ⟨fun _ h => (by cases h), rfl, ?_⟩
    rw [Wire.output, hunused.sent, hunused.writer]
    exact List.nil_prefix

end Policy

end PgClient

namespace Sample

/-- A backend that agrees to TLS and then hangs up in the tunnel. -/
def tlsEnv : LinkEnv :=
  { chunks := [[byte 'S']], sched := fun _ => .ready 8192, validServerName := fun _ => true
    tlsConfigError := fun _ => none, connector := fun _ _ left => some (left, some certHash)
    nonces := fun _ => clientNonceBytes }

def strictConfig : PgConfig := { pgConfig with tls := { pgConfig.tls with mode := .verifyFull } }

def noBuffers : MultiBufferPool := { maxCapacity := 1024, stale := fun _ _ => 0 }

end Sample

namespace PgClient

theorem tryTls_follows_policy_strict :
    (tryTls Sample.tlsEnv Sample.strictConfig (fresh Sample.noBuffers Sample.tlsEnv)).2.log = [] ∧
    match sslReply Sample.strictConfig (fresh Sample.noBuffers Sample.tlsEnv) with
    | none => Stopped (tryTls Sample.tlsEnv Sample.strictConfig (fresh Sample.noBuffers Sample.tlsEnv)).1 ∧
        InTheClear (tryTls Sample.tlsEnv Sample.strictConfig (fresh Sample.noBuffers Sample.tlsEnv)).2 ∧
        (tryTls Sample.tlsEnv Sample.strictConfig (fresh Sample.noBuffers Sample.tlsEnv)).2.wire.output <+: sslRequest
    | some reply => (tryTls Sample.tlsEnv Sample.strictConfig (fresh Sample.noBuffers Sample.tlsEnv)).2.wire.output =
          (if reply = .notRequested then [] else sslRequest) ∧
        Obeys Sample.tlsEnv Sample.strictConfig (tryTls Sample.tlsEnv Sample.strictConfig (fresh Sample.noBuffers Sample.tlsEnv))
          (decideTls .verifyFull reply) :=
  tryTls_follows_policy Sample.tlsEnv (unused_fresh _ _)

theorem nothing_in_the_clear_strict :
    (Stopped (connect Sample.crypto Sample.tlsEnv Sample.strictConfig (fresh Sample.noBuffers Sample.tlsEnv)).1 ∧
        (connect Sample.crypto Sample.tlsEnv Sample.strictConfig (fresh Sample.noBuffers Sample.tlsEnv)).2.log = [] ∧
        (connect Sample.crypto Sample.tlsEnv Sample.strictConfig (fresh Sample.noBuffers Sample.tlsEnv)).2.wire.output <+:
          sslRequest) ∨
      ∃ t, t.log = [] ∧ t.wire.output = sslRequest ∧ Tunnelled Sample.tlsEnv Sample.strictConfig t ∧
        connect Sample.crypto Sample.tlsEnv Sample.strictConfig (fresh Sample.noBuffers Sample.tlsEnv) =
          startUp Sample.crypto Sample.strictConfig t ∧
        SameLink t (connect Sample.crypto Sample.tlsEnv Sample.strictConfig (fresh Sample.noBuffers Sample.tlsEnv)).2 :=
  nothing_in_the_clear Sample.crypto Sample.tlsEnv Sample.noBuffers (.inr rfl)

end PgClient

end Wirechaos
