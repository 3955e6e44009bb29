/-
  Wirechaos.Backend.RefusalProofs — an ErrorResponse of the backend (see
  `Wirechaos.Backend.PgClient` and `Wirechaos.Backend.Link`).

  Wherever it is read, in the main loop or in place of a SASLContinue or SASLFinal, it is
  the last message, and the link fails with its severity, code and message and nothing else
  (`new_of_refuses`).
-/

import Wirechaos.Backend.Link
import Wirechaos.Backend.PgClientProofs

namespace Wirechaos

open Text Async Proc

namespace PgClient

variable (C : Crypto) {config : PgConfig} {p : PgEvent → Prop}

/-! ## What reads an ErrorResponse -/

def ErrorRead (e : PgEvent) (error : PgError) : Prop := ∃ body, e = .received (byte 'E') body ∧ error = parseErrorResponse body

/-- An ErrorResponse that is read ends the run. -/
abbrev Surfaces {α : Type} (x : Proc PgClient PgError α) : Prop := Fatal log (fun _ => True) ErrorRead x

variable {α β : Type}

theorem surfaces_of_appends {x : Proc PgClient PgError α}
    (hx : Keeps (Appends log fun e => ∀ tag payload, e ≠ .received tag payload) x) : Surfaces x := by
  refine fatal_of_appends fun c => (hx c).mono fun e he error herror => ?_
  obtain ⟨body, rfl, -⟩ := herror
  exact he _ _ rfl

theorem surfaces_bind {x : Proc PgClient PgError α} {f : α → Proc PgClient PgError β} (hx : Surfaces x)
    (hf : ∀ a, Surfaces (f a)) : Surfaces (x >>= f) := fatal_bind hx (fun _ _ => trivial) hf

theorem surfaces_pure (a : α) : Surfaces (pure a) := surfaces_of_appends (keeps_pure a)

theorem surfaces_throw (e : PgError) : Surfaces (throw e : Proc PgClient PgError α) := surfaces_of_appends (keeps_throw e)

theorem surfaces_lift (r : Except PgError α) : Surfaces (lift r) := surfaces_of_appends (keeps_lift r)

theorem surfaces_modify {f : PgClient → PgClient} (hf : ∀ c, (f c).log = c.log) : Surfaces (modify f) :=
  surfaces_of_appends fun c => appends_of_eq (hf c)

theorem surfaces_writeMessage (what : Response) (tag : UInt8) (body : Bytes) : Surfaces (writeMessage what tag body) :=
  surfaces_of_appends (keeps_bind (appends_emit fun _ _ h => by cases h) fun _ => appends_writeRaw _)

/-- Whatever is done with a message hands an ErrorResponse on. -/
theorem surfaces_readMessage {f : UInt8 × Bytes → Proc PgClient PgError β}
    (herror : ∀ payload c, f (byte 'E', payload) c = (.err (parseErrorResponse payload), c)) (hf : ∀ m, Surfaces (f m)) :
    Surfaces (readMessage >>= f) := by
  intro c
  obtain ⟨es, hl, hes⟩ := emits_readMessage c
  rcases hrun : readMessage c with ⟨m | e | n, c'⟩ <;> rw [hrun] at hl hes
  · obtain ⟨tag, payload⟩ := m
    obtain ⟨_, ho, rfl⟩ | ⟨h, -⟩ := hes
    · cases ho
      rw [bind_of_ok hrun]
      by_cases htag : tag = byte 'E'
      · subst htag
        rw [herror]
        refine ⟨_, hl, fun _ e he error hread => ?_⟩
        obtain ⟨body, rfl, rfl⟩ := hread
        cases List.mem_singleton.mp he
        rfl
      · obtain ⟨es', hl', hes'⟩ := hf (tag, payload) c'
        refine ⟨_, by rw [hl', hl, List.append_assoc], fun _ e he error hread => ?_⟩
        rcases List.mem_append.mp he with he | he
        · obtain ⟨body, rfl, rfl⟩ := hread
          cases List.mem_singleton.mp he
          exact absurd rfl htag
        · exact hes' trivial e he error hread
    · exact absurd rfl (h _)
  · obtain ⟨_, h, -⟩ | ⟨-, rfl⟩ := hes
    · cases h
    · rw [bind_of_err hrun]
      exact ⟨[], hl, by simp⟩
  · obtain ⟨_, h, -⟩ | ⟨-, rfl⟩ := hes
    · cases h
    · rw [bind_of_dropped hrun]
      exact ⟨[], hl, by simp⟩

theorem surfaces_readAuthenticationData (expected : UInt32) : Surfaces (readAuthenticationData expected) := by
  refine surfaces_readMessage (fun payload c => ?_) fun m => surfaces_lift _
  have herror : authenticationData expected (byte 'E') payload = .error (parseErrorResponse payload) := by
    unfold authenticationData require
    rw [if_neg (by simp)]
    rfl
  exact congrArg (fun r => lift r c) herror

/-! ## The handshake -/

theorem surfaces_handleSasl (body : Bytes) : Surfaces (handleSasl C config body) := by
  refine fatal_get fun c => surfaces_bind (surfaces_lift _) fun chosen => surfaces_bind (surfaces_modify fun _ => rfl) fun _ => ?_
  refine surfaces_bind (surfaces_writeMessage _ _ _) fun _ => surfaces_bind (surfaces_readAuthenticationData _) fun _ => ?_
  refine surfaces_bind (surfaces_lift _) fun serverFirst => surfaces_bind (surfaces_lift _) fun final => ?_
  refine surfaces_bind (surfaces_writeMessage _ _ _) fun _ => surfaces_bind (surfaces_readAuthenticationData _) fun _ => ?_
  refine surfaces_bind (surfaces_lift _) fun serverFinal => surfaces_bind (surfaces_lift _) fun verified => ?_
  refine surfaces_bind (surfaces_of_appends (appends_emit fun _ _ h => ?_)) fun _ => surfaces_modify fun _ => rfl
  cases h

theorem surfaces_handleAuth (authType : UInt32) (data : Bytes) : Surfaces (handleAuth C config authType data) := by
  refine fatal_ite (surfaces_pure _) (fatal_ite ?_ (fatal_ite ?_ (fatal_ite (surfaces_handleSasl C data) ?_)))
  · unfold handleCleartext
    split
    · exact surfaces_throw _
    · exact surfaces_writeMessage _ _ _
  · unfold handleMd5
    refine fatal_ite (surfaces_throw _) ?_
    split
    · exact surfaces_throw _
    · exact surfaces_writeMessage _ _ _
  · exact fatal_ite (surfaces_throw _) (surfaces_throw _)

theorem surfaces_handleMessage (tag : UInt8) (payload : Bytes) : Surfaces (handleMessage C config tag payload) := by
  refine fatal_ite ?_ (fatal_ite ?_ (fatal_ite ?_ (fatal_ite ?_ (fatal_ite ?_ ?_))))
  · refine surfaces_bind (surfaces_lift _) fun request => ?_
    exact surfaces_bind (surfaces_handleAuth C _ _) fun _ => surfaces_pure _
  · refine surfaces_bind (surfaces_lift _) fun setting => ?_
    exact surfaces_bind (surfaces_modify fun _ => rfl) fun _ => surfaces_pure _
  · exact surfaces_bind (surfaces_modify fun _ => rfl) fun _ => surfaces_pure _
  · refine surfaces_bind (surfaces_lift _) fun key => ?_
    exact surfaces_bind (surfaces_modify fun _ => rfl) fun _ => surfaces_pure _
  · refine surfaces_bind (surfaces_lift _) fun status => ?_
    exact surfaces_bind (surfaces_modify fun _ => rfl) fun _ => surfaces_pure _
  · exact fatal_ite (surfaces_throw _) (surfaces_throw _)

theorem handleMessage_error (payload : Bytes) (c : PgClient) :
    handleMessage C config (byte 'E') payload c = (.err (parseErrorResponse payload), c) := by
  rw [handleMessage, if_neg (by decide), if_neg (by decide), if_neg (by decide), if_neg (by decide), if_neg (by decide),
    if_pos rfl]
  rfl

theorem surfaces_handshakeFrom (fuel : Nat) : Surfaces (handshakeFrom C config fuel) := by
  induction fuel with
  | zero => exact surfaces_throw _
  | succ fuel ih =>
    refine surfaces_readMessage (fun payload c => ?_) fun m => ?_
    · exact bind_of_err (handleMessage_error C payload c) _
    · exact surfaces_bind (surfaces_handleMessage C _ _) fun done => fatal_ite (surfaces_pure _) ih

theorem appends_tryTls (env : LinkEnv) : Keeps (Appends log p) (tryTls env config) := by
  refine keeps_ite (keeps_pure _) (keeps_bind (appends_within _ _) fun supported => keeps_ite ?_ ?_)
  · refine keeps_bind (keeps_lift _) fun _ => keeps_bind (keeps_lift _) fun _ => keeps_bind (appends_within _ _) fun _ => ?_
    exact keeps_bind keeps_get fun c => keeps_bind (keeps_lift _) fun _ => keeps_modify fun _ => appends_of_eq rfl
  · exact keeps_ite (keeps_pure _) (keeps_throw _)

theorem surfaces_connect (env : LinkEnv) : Surfaces (connect C env config) := by
  refine surfaces_bind (surfaces_of_appends (appends_within _ _)) fun _ => ?_
  refine surfaces_bind (surfaces_of_appends (appends_tryTls env)) fun _ => surfaces_bind (surfaces_of_appends ?_) fun _ => ?_
  · exact keeps_bind (appends_emit fun _ _ h => by cases h) fun _ => appends_writeRaw _
  refine fatal_timeout (fatal_get fun c => surfaces_handshakeFrom C _) (fun _ _ => trivial) (fun r => ?_) fun e => rfl
  rcases r with _ | _ | _
  · exact surfaces_throw _
  · exact surfaces_throw _
  · exact surfaces_pure _

end PgClient

namespace Backend

variable {C : Crypto}

/-- A new link with this configuration reads an ErrorResponse. -/
def Refuses (C : Crypto) (env : LinkEnv) (pool : MultiBufferPool) (config : PgConfig) (body : Bytes) : Prop :=
  .received (byte 'E') body ∈ (Backend.new C env config (PgClient.fresh pool env)).2.log

instance (env : LinkEnv) (pool : MultiBufferPool) (config : PgConfig) (body : Bytes) :
    Decidable (Refuses C env pool config body) :=
  inferInstanceAs (Decidable (_ ∈ _))

theorem new_of_refuses {env : LinkEnv} {pool : MultiBufferPool} {config : PgConfig} {body : Bytes}
    (h : Refuses C env pool config body) :
    (Backend.new C env config (PgClient.fresh pool env)).1 = .err (PgClient.parseErrorResponse body) := by
  have hnew : PgClient.Surfaces (Backend.new C env config) :=
    PgClient.surfaces_bind (PgClient.surfaces_connect C env) fun _ => fatal_get fun _ => PgClient.surfaces_pure _
  obtain ⟨es, hl, hes⟩ := hnew (PgClient.fresh pool env)
  apply hes trivial _ _ _ ⟨body, rfl, rfl⟩
  rw [Refuses, hl] at h
  exact h

end Backend

end Wirechaos
