/-
  Wirechaos.Backend.DowngradeProofs — a mechanism list from which `-PLUS` was taken
  (see `Wirechaos.Backend.PgClient`).

  A server that offered `-PLUS` refuses the flag `y`, with which a client says that it
  could bind and was not asked to. The client role has no such flag: without `-PLUS` it
  sends `n`, which is always acceptable. So the stripping is noticed exactly when the
  client makes no exchange at all (`stripping_detected_iff`).
-/

import Wirechaos.Auth.ScramLink
import Wirechaos.Backend.PgClientProofs

namespace Wirechaos

open Text Async Proc Scram

namespace PgClient

variable (C : Crypto)

/-- Either no exchange is started, or every server that can be bound refuses the
    client-first as a downgrade. -/
def DetectsStripping (config : PgConfig) (body : Bytes) (c : PgClient) : Prop :=
  (∃ e, handleSasl C config body c = (.err e, c)) ∨
    ∀ (mechanism clientFirst : Str) (es : List PgEvent),
      (handleSasl C config body c).2.log = c.log ++ .wrote .saslInitial (saslInitialResponse mechanism clientFirst) :: es →
      ∀ (v : Verifier) (hash : CertHash) (serverNonceBytes : Key) (user : Str),
        ((ScramAuthenticator.new v (some hash)).handleClientFirst serverNonceBytes mechanism clientFirst user).1 =
          .error .channelBindingDowngrade

/-! ## What the log keeps -/

/-- Nothing logged is taken back. -/
def Logs (c c' : PgClient) : Prop := c.log <+: c'.log

instance : IsPreorder PgClient Logs where
  refl c := List.prefix_refl c.log
  trans _ _ _ h h' := List.IsPrefix.trans h h'

theorem logs_of_appends {α : Type} {p : PgEvent → Prop} {x : Proc PgClient PgError α} (hx : Keeps (Appends log p) x) :
    Keeps Logs x := by
  intro c
  obtain ⟨es, hl, -⟩ := hx c
  exact ⟨es, hl.symm⟩

theorem logs_emit (e : PgEvent) : Keeps Logs (emit e) := logs_of_appends (p := fun _ => True) (appends_emit trivial)

theorem logs_writeRaw (bytes : Bytes) : Keeps Logs (writeRaw bytes) :=
  logs_of_appends (p := fun _ => True) (appends_writeRaw bytes)

theorem logs_readMessage : Keeps Logs readMessage := by
  intro c
  obtain ⟨es, hl, -⟩ := emits_readMessage c
  exact ⟨es, hl.symm⟩

theorem logs_readAuthenticationData (expected : UInt32) : Keeps Logs (readAuthenticationData expected) :=
  keeps_bind logs_readMessage fun _ => keeps_lift _

variable {config : PgConfig} {body : Bytes} {c : PgClient} {hash : CertHash}

theorem handleSasl_of_error {e : PgError} (h : startSasl config c.peerCertHash (c.nonces c.drawn) body = .error e) :
    handleSasl C config body c = (.err e, c) := by
  unfold handleSasl
  rw [bind_of_ok (get_apply c), h]
  exact bind_of_err (lift_error e c) _

theorem logs_extend {ε α : Type} {x : Proc PgClient ε α} (hx : Keeps Logs x) {es : List PgEvent} {e : PgEvent}
    (h : c.log = es ++ [e]) : ∃ es', (x c).2.log = es ++ e :: es' := by
  obtain ⟨es', hes'⟩ := hx c
  exact ⟨es', by rw [← hes', h, List.append_assoc, List.singleton_append]⟩

/-- An exchange begins with the client-first. -/
theorem handleSasl_starts {chosen : SaslMechanism} {scram : ScramClient}
    (h : startSasl config c.peerCertHash (c.nonces c.drawn) body = .ok (chosen, scram)) :
    ∃ es, (handleSasl C config body c).2.log =
      c.log ++ .wrote .saslInitial (saslInitialResponse chosen.name scram.clientFirstMessage) :: es := by
  unfold handleSasl
  rw [bind_of_ok (get_apply c), h, bind_of_ok (lift_ok (chosen, scram) c)]
  dsimp only
  rw [bind_of_ok (modify_apply _ c), writeMessage, bind_assoc, emit, bind_of_ok (modify_apply _ _)]
  refine logs_extend (keeps_bind (logs_writeRaw _) fun _ => ?_) rfl
  refine keeps_bind (logs_readAuthenticationData 11) fun _ => keeps_bind (keeps_lift _) fun _ => ?_
  refine keeps_bind (keeps_lift _) fun final => ?_
  refine keeps_bind (keeps_bind (logs_emit _) fun _ => logs_writeRaw _) fun _ => ?_
  refine keeps_bind (logs_readAuthenticationData 12) fun _ => keeps_bind (keeps_lift _) fun _ => ?_
  refine keeps_bind (keeps_lift _) fun _ => keeps_bind (logs_emit _) fun _ => ?_
  exact keeps_modify fun _ => List.prefix_refl _

/-- The list without `-PLUS` is used by a client that prefers to bind, and by no other. -/
theorem startSasl_stripped (hash : CertHash) (nonce : NonceBytes)
    (hmode : config.tls.channelBinding = .prefer ∨ config.tls.channelBinding = .require)
    (hstripped : .scramSha256Plus ∉ parseSaslMechanisms body) :
    (config.tls.channelBinding = .require ∨ .scramSha256 ∉ parseSaslMechanisms body →
      ∃ e, startSasl config (some hash) nonce body = .error e) ∧
    (config.tls.channelBinding = .prefer → .scramSha256 ∈ parseSaslMechanisms body →
      startSasl config (some hash) nonce body =
        .ok (.scramSha256, ScramClient.new nonce config.clientKey config.serverKey config.storedKey config.password)) := by
  constructor
  · intro hnone
    by_cases hempty : parseSaslMechanisms body = []
    · simp only [startSasl, hempty, ne_eq, not_true_eq_false, require, if_false, except_bind_error]
      exact ⟨_, rfl⟩
    · have hselect : ∃ e, selectMechanism config.tls.channelBinding true (parseSaslMechanisms body) = .error e := by
        rcases hmode with hmode | hmode
        · have hplain : .scramSha256 ∉ parseSaslMechanisms body := by
            rcases hnone with h | h
            · rw [hmode] at h
              cases h
            · exact h
          simp only [selectMechanism, hmode, hstripped, hplain, false_and, if_false]
          exact ⟨_, rfl⟩
        · simp only [selectMechanism, hmode, hstripped, not_true_eq_false, if_false]
          exact ⟨_, rfl⟩
      obtain ⟨e, he⟩ := hselect
      simp only [startSasl, hempty, ne_eq, not_false_eq_true, require, if_true, except_bind_ok, Option.isSome_some, he,
        except_bind_error]
      exact ⟨_, rfl⟩
  · intro hprefer hplain
    have hne : parseSaslMechanisms body ≠ [] := List.ne_nil_of_mem hplain
    simp only [startSasl, hne, ne_eq, not_false_eq_true, require, if_true, except_bind_ok, Option.isSome_some,
      selectMechanism, hprefer, hstripped, false_and, if_false, hplain, saslClient, reduceCtorEq]
    rfl

/-- The plain client-first of a client that could bind is answered. -/
theorem not_detects_of_start {nonce : NonceBytes} (hnonce : c.nonces c.drawn = nonce)
    (hstart : startSasl config c.peerCertHash nonce body =
      .ok (.scramSha256, ScramClient.new nonce config.clientKey config.serverKey config.storedKey config.password)) :
    ¬ DetectsStripping C config body c := by
  subst hnonce
  obtain ⟨es, hlog⟩ := handleSasl_starts C hstart
  intro hdetects
  rcases hdetects with ⟨e, herror⟩ | hrefused
  · rw [herror] at hlog
    exact absurd hlog (by simp)
  · have huser : "u".toList ≠ [] := by decide
    have hanswer := handleClientFirst_plain (v := Sample.verifier) (plain_new (c.nonces c.drawn) config.clientKey
      config.serverKey config.storedKey config.password) huser .zero (some Sample.certHash)
    have hdowngrade := hrefused _ _ es hlog Sample.verifier Sample.certHash .zero "u"
    rw [show SaslMechanism.scramSha256.name = scramSha256 from rfl, hanswer] at hdowngrade
    cases hdowngrade

/-- The stripping of `-PLUS` is noticed when the client requires it, or when nothing else
    was offered. -/
theorem stripping_detected_iff (hmode : config.tls.channelBinding = .prefer ∨ config.tls.channelBinding = .require)
    (hpeer : c.peerCertHash = some hash) (hstripped : .scramSha256Plus ∉ parseSaslMechanisms body) :
    DetectsStripping C config body c ↔
      config.tls.channelBinding = .require ∨ .scramSha256 ∉ parseSaslMechanisms body := by
  obtain ⟨hfails, hstarts⟩ := startSasl_stripped hash (c.nonces c.drawn) hmode hstripped
  rw [← hpeer] at hfails hstarts
  constructor
  · intro hdetects
    by_cases hrequire : config.tls.channelBinding = .require
    · exact Or.inl hrequire
    · refine Or.inr fun hplain => ?_
      have hprefer : config.tls.channelBinding = .prefer := hmode.resolve_right hrequire
      exact not_detects_of_start C rfl (hstarts hprefer hplain) hdetects
  · intro hnone
    obtain ⟨e, he⟩ := hfails hnone
    exact Or.inl ⟨e, handleSasl_of_error C he⟩

end PgClient

/-! ## A client that prefers to bind -/

namespace Sample

def preferring : PgConfig := { pgConfig with tls := { pgConfig.tls with channelBinding := .prefer } }

/-- What is left of the list once `-PLUS` is taken from it. -/
def strippedList : Bytes := putCstr "SCRAM-SHA-256" ++ [0]

end Sample

namespace PgClient

theorem stripping_detected_iff_require :
    DetectsStripping Sample.crypto Sample.pgConfig Sample.strippedList (Sample.pgClient []) ↔
      Sample.pgConfig.tls.channelBinding = .require ∨ .scramSha256 ∉ parseSaslMechanisms Sample.strippedList :=
  stripping_detected_iff Sample.crypto (Or.inr rfl) rfl (by decide +kernel)

/-- The client that prefers to bind takes the stripped list for an honest one. -/
theorem stripping_unnoticed :
    .scramSha256Plus ∉ parseSaslMechanisms Sample.strippedList ∧
    ¬ DetectsStripping Sample.crypto Sample.preferring Sample.strippedList (Sample.pgClient []) := by
  have hstripped : .scramSha256Plus ∉ parseSaslMechanisms Sample.strippedList := by decide +kernel
  have hplain : .scramSha256 ∈ parseSaslMechanisms Sample.strippedList := by decide +kernel
  have hmode : Sample.preferring.tls.channelBinding = .prefer ∨ Sample.preferring.tls.channelBinding = .require := Or.inl rfl
  obtain ⟨-, hstarts⟩ := startSasl_stripped Sample.certHash Sample.clientNonceBytes hmode hstripped
  exact ⟨hstripped, not_detects_of_start Sample.crypto rfl (hstarts rfl hplain)⟩

end PgClient

end Wirechaos
