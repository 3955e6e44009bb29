/-
  Wirechaos.Conn.PasswordProofs — a `password:` entry on its way to the backend (see
  `Wirechaos.Credentials.Store`, `Wirechaos.Conn.Startup`, `Wirechaos.Backend.PgClient`).

  A user list that loads has a verifier for each of its entries (`lookup_of_yaml`), the
  link of a session is set up with the verifier that was looked up for it
  (`connect_of_lookup`), and the link answers a challenge with the password the verifier
  holds (`sends_iff`). That is the password as SASLprep left it, which SCRAM needs, so the
  configured one is sent exactly where SASLprep changes nothing
  (`configured_password_iff`).
-/

import Wirechaos.Backend.PgClientProofs
import Wirechaos.Conn.HandleProofs

namespace Wirechaos

open Text Async Proc

/-! ## Loading -/

namespace Snapshot

variable {C : Crypto} {L : Loader} {salts : Nat → Bytes}

/-- An entry that leaves no error is in, under a name that was not taken. -/
theorem load_ok {acc : Loading} {user : RawUser} (h : (load C L salts acc user).errors = []) :
    acc.errors = [] ∧ user.name ∉ acc.seen ∧ ∃ verifier drawn,
      entryVerifier C L salts acc.drawn user = .ok (verifier, drawn) ∧
      load C L salts acc user = ⟨[], acc.users.insert user.name verifier, user.name :: acc.seen, drawn⟩ := by
  rcases hentry : entryVerifier C L salts acc.drawn user with e | ⟨verifier, drawn⟩
  · simp only [load, hentry, List.append_eq_nil_iff] at h
    cases h.2
  · by_cases hwrong : nameErrors acc.seen user.name = []
    · have hseen := (nameErrors_eq_nil.mp hwrong).2.2
      have hload : load C L salts acc user =
          ⟨acc.errors, acc.users.insert user.name verifier, user.name :: acc.seen, drawn⟩ := by
        simp only [load, hentry, if_pos hwrong, if_neg hseen]
      rw [hload] at h
      refine ⟨h, hseen, verifier, drawn, rfl, ?_⟩
      rw [hload]
      exact congrArg (Loading.mk · _ _ _) h
    · simp only [load, hentry, if_neg hwrong, List.append_eq_nil_iff] at h
      exact absurd h.2 hwrong

/-- What is in stays, and every entry gets in. -/
theorem foldl_load {users : List RawUser} {acc : Loading} (h : (users.foldl (load C L salts) acc).errors = []) :
    acc.errors = [] ∧
      (∀ name ∈ acc.seen, (users.foldl (load C L salts) acc).users.lookup name = acc.users.lookup name) ∧
      ∀ user ∈ users, ∃ drawn verifier drawn', entryVerifier C L salts drawn user = .ok (verifier, drawn') ∧
        (users.foldl (load C L salts) acc).users.lookup user.name = some verifier := by
  induction users generalizing acc with
  | nil => exact ⟨h, fun _ _ => rfl, by simp⟩
  | cons user users ih =>
    obtain ⟨herrors, hkept, hin⟩ := ih h
    obtain ⟨hnone, hseen, verifier, drawn, hentry, hload⟩ := load_ok herrors
    rw [List.foldl_cons]
    rw [hload] at hkept hin ⊢
    refine ⟨hnone, fun name hname => ?_, fun user' huser' => ?_⟩
    · rw [hkept name (List.mem_cons_of_mem _ hname)]
      exact AList.lookup_insert_ne fun heq => hseen (heq ▸ hname)
    · rcases List.mem_cons.mp huser' with rfl | huser'
      · refine ⟨acc.drawn, verifier, drawn, hentry, ?_⟩
        rw [hkept _ List.mem_cons_self]
        exact AList.lookup_insert _
      · exact hin user' huser'

theorem entryVerifier_password {drawn drawn' : Nat} {user : RawUser} {verifier : Verifier} {password : Str}
    (h : entryVerifier C L salts drawn user = .ok (verifier, drawn')) (hpassword : user.password = some password) :
    verifier = deriveVerifier C L password (salts drawn) defaultIterations := by
  rcases hsecret : user.scramSecret with _ | secret
  · simp only [entryVerifier, hpassword, hsecret] at h
    split at h
    · cases h
    · cases h
      rfl
  · simp only [entryVerifier, hpassword, hsecret] at h
    cases h

/-- The verifier of a `password:` entry of a list that loads. -/
theorem lookup_of_yaml {text : Str} {snapshot : Snapshot} {users : List RawUser} {user : RawUser} {password : Str}
    (hload : snapshotFromYaml C L salts text = .ok snapshot) (husers : L.yaml text = some users) (huser : user ∈ users)
    (hpassword : user.password = some password) :
    ∃ salt, snapshot.users.lookup user.name = some (deriveVerifier C L password salt defaultIterations) := by
  unfold snapshotFromYaml at hload
  rw [husers] at hload
  dsimp only at hload
  generalize hloaded : List.foldl (load C L salts) _ users = loaded at hload
  split at hload
  · rename_i herrors
    cases hload
    subst hloaded
    obtain ⟨-, -, hin⟩ := foldl_load herrors
    obtain ⟨drawn, verifier, drawn', hentry, hlookup⟩ := hin user huser
    rw [entryVerifier_password hentry hpassword] at hlookup
    exact ⟨salts drawn, hlookup⟩
  · cases hload

end Snapshot

/-! ## The link -/

namespace Session

variable {C : Crypto} {V : Type} [VerifierProvider V]

/-- Past the AuthenticationOk, the link is set up with the verifier that is looked up. -/
theorem connect_of_lookup {s : Session V} (hs : Fresh s) {pre post : List Event} {data : Bytes} {user : Str} {v : Verifier}
    {config : PgConfig} (h : (handle C s).2.log = pre ++ authEvent authSaslOk data :: post)
    (hv : .lookup user (.ok (some v)) ∈ post) (hconnect : .connect config ∈ post) :
    ∃ (t : Session V) (clientKey : Bytes) (database host : Str) (port : Nat),
      config = pgConfig t clientKey user database v host port := by
  obtain ⟨_, t, _, _, identity, _, _, _, _, _, _, hafter, -⟩ := handle_of_ok C hs h
  rcases hafter with hplain | ⟨clientKey, answer, link, tail, -, hlink, htail, rfl⟩
  · exact absurd hconnect ((not_mem_of_plain hplain).1 config)
  · obtain ⟨hnoConnect, hnoLookup⟩ := not_mem_of_plain htail
    rcases hlink with ⟨rfl, -⟩ | ⟨v', host, port, rest, rfl, -, rfl, hrest⟩
    · simp [hnoConnect] at hconnect
    · obtain ⟨hnoConnect', hnoLookup'⟩ := not_mem_of_plain hrest
      simp only [List.cons_append, List.mem_cons, List.mem_append, Event.connect.injEq, reduceCtorEq, false_or, hnoConnect',
        hnoConnect, or_false] at hconnect
      simp only [List.cons_append, List.mem_cons, List.mem_append, Event.lookup.injEq, Except.ok.injEq, Option.some.injEq,
        reduceCtorEq, hnoLookup', hnoLookup, or_false] at hv
      obtain ⟨rfl, rfl⟩ := hv
      exact ⟨t.identify identity, clientKey, identity.database, host, port, hconnect⟩

end Session

/-! ## The challenge -/

namespace PgClient

variable (C : Crypto)

/-- The link answers the backend's password challenges with this password. -/
structure Sends (config : PgConfig) (password : Bytes) : Prop where
  md5 : ∀ salt : Bytes, salt.length = 4 → handleAuth C config 5 salt = writeMessage .md5 (byte 'p')
    (asBytes ("md5".toList ++ lowerHex (C.md5 (asBytes (lowerHex (C.md5 (password ++ asBytes config.user))) ++ salt))) ++ [0])
  cleartext : ∀ data, handleAuth C config 3 data = writeMessage .cleartext (byte 'p') (password ++ [0])

variable {C}

theorem sends_password {config : PgConfig} {password : Bytes} (h : config.password = some password) :
    Sends C config password := by
  constructor
  · intro salt hsalt
    simp only [handleAuth, handleMd5, h, hsalt]
    rfl
  · intro data
    simp only [handleAuth, handleCleartext, h]
    rfl

def SameLog (c c' : PgClient) : Prop := c'.log = c.log

instance : IsPreorder PgClient SameLog where
  refl _ := rfl
  trans _ _ _ h₁ h₂ := h₂.trans h₁

theorem keeps_stream {α : Type} (x : Proc Wire IoError α) : Keeps SameLog (stream x) := by
  intro c
  rw [SameLog, stream, within_snd]

/-- What is to be written is in the log, however the write ends. -/
theorem writeMessage_log (what : Response) (tag : UInt8) (body : Bytes) (c : PgClient) :
    (writeMessage what tag body c).2.log = c.log ++ [.wrote what body] := by
  unfold writeMessage
  rw [bind_of_ok (show emit (.wrote what body) c = (.ok (), { c with log := c.log ++ [.wrote what body] }) from rfl)]
  exact keeps_bind (keeps_stream _) (fun _ => keeps_stream _) _

theorem writeMessage_inj {what : Response} {tag : UInt8} {body body' : Bytes} (c : PgClient)
    (h : writeMessage what tag body c = writeMessage what tag body' c) : body = body' := by
  have hlog : (writeMessage what tag body c).2.log = (writeMessage what tag body' c).2.log := by rw [h]
  rw [writeMessage_log, writeMessage_log] at hlog
  cases List.append_cancel_left hlog
  rfl

/-- It sends the password it holds, and no other. -/
theorem sends_iff {config : PgConfig} {held : Bytes} (h : config.password = some held) (c : PgClient) (password : Bytes) :
    Sends C config password ↔ held = password := by
  constructor
  · intro hsends
    have heq := ((sends_password h).cleartext []).symm.trans (hsends.cleartext [])
    exact List.append_cancel_right (writeMessage_inj c (congrFun heq c))
  · intro heq
    subst heq
    exact sends_password h

end PgClient

/-! ## From the user list to the backend -/

namespace Session

variable {C : Crypto} {L : Loader}

/-- The prepared password is the configured one where SASLprep fails or changes nothing. -/
theorem preparePassword_eq_iff (password : Str) :
    Snapshot.preparePassword L password = password ↔ ∀ prepared, L.saslprep password = some prepared → prepared = password := by
  unfold Snapshot.preparePassword
  rcases L.saslprep password with _ | prepared
  · simp
  · simp

/-- The links of the sessions that use a `password:` entry send the configured password
    exactly where SASLprep does not change it. -/
theorem configured_password_iff {salts : Nat → Bytes} {text : Str} {snapshot : Snapshot} {users : List RawUser}
    {entry : RawUser} {password : Str} (hload : Snapshot.snapshotFromYaml C L salts text = .ok snapshot)
    (husers : L.yaml text = some users) (hentry : entry ∈ users) (hpassword : entry.password = some password) :
    ∃ v, snapshot.users.lookup entry.name = some v ∧
      ∀ (V : Type) [VerifierProvider V] (s : Session V) (pre post : List Event) (data : Bytes) (config : PgConfig),
        Fresh s → (handle C s).2.log = pre ++ authEvent authSaslOk data :: post →
        .lookup entry.name (.ok (some v)) ∈ post → .connect config ∈ post →
        config.user = entry.name ∧ (PgClient.Sends C config (asBytes password) ↔
          ∀ prepared, L.saslprep password = some prepared → prepared = password) := by
  obtain ⟨salt, hlookup⟩ := Snapshot.lookup_of_yaml hload husers hentry hpassword
  refine ⟨_, hlookup, ?_⟩
  intro V _ s pre post data config hs hlog hv hconnect
  obtain ⟨t, clientKey, database, host, port, rfl⟩ := connect_of_lookup hs hlog hv hconnect
  have hheld : (pgConfig t clientKey entry.name database (Snapshot.deriveVerifier C L password salt defaultIterations)
      host port).password = some (asBytes (Snapshot.preparePassword L password)) := rfl
  refine ⟨rfl, ?_⟩
  rw [PgClient.sends_iff hheld (PgClient.fresh s.conn.pool s.world.link), ← preparePassword_eq_iff]
  constructor
  · exact fun h => asBytes_inj h
  · exact fun h => congrArg asBytes h

theorem configured_password_iff_login :
    ∃ config, .connect config ∈ Sample.afterOk Sample.aliceVerifier ∧
      config.user = "alice".toList ∧ (PgClient.Sends Sample.crypto config (asBytes "pencil") ↔
        ∀ prepared, Sample.loader.saslprep "pencil".toList = some prepared → prepared = "pencil".toList) := by
  obtain ⟨snapshot, hload, halice⟩ : ∃ snapshot : Snapshot,
      Snapshot.snapshotFromYaml Sample.crypto Sample.loader (fun _ => Sample.salt) Sample.userList = .ok snapshot ∧
        snapshot.users.lookup "alice".toList = some Sample.aliceVerifier := ⟨_, rfl, rfl⟩
  have hentry : ⟨"alice", some "pencil", none⟩ ∈ ([⟨"alice", some "pencil", none⟩] : List RawUser) := List.mem_singleton_self _
  obtain ⟨v, hv, hall⟩ := configured_password_iff hload rfl hentry rfl
  cases hv.symm.trans halice
  refine ⟨Sample.linkTo Sample.aliceVerifier, by simp [Sample.afterOk], ?_⟩
  exact hall _ Sample.login _ _ _ _ Sample.fresh_login Sample.login_log (by simp [Sample.afterOk]) (by simp [Sample.afterOk])

end Session

namespace Sample

/-- A password with a soft hyphen, which SASLprep removes. -/
def hyphenated : Str := "pen\u00ADcil"

def hyphenLoader : Loader :=
  { yaml := fun text => if text = userList then some [⟨"alice", some hyphenated, none⟩] else none
    saslprep := fun password => if password = hyphenated then some "pencil" else some password }

def hyphenStore : CredentialStore crypto :=
  (CredentialStore.reload hyphenLoader (fun _ => salt) (some userList) (.fromSource .file ⟨0, ∅⟩ .zero)).2

/-- The client prepares its password, as SCRAM asks it to. -/
def hyphenLogin : Session (CredentialStore crypto) := session hyphenStore (fun _ shared => shared) [alice ++ saslMessages]

/-- Prepared, the password is Alice's, and so is what is made of it. -/
theorem hyphenStore_eq : hyphenStore = store := by
  have hprepare : Snapshot.preparePassword hyphenLoader hyphenated = Snapshot.preparePassword loader "pencil" := by decide
  have hderive : Snapshot.deriveVerifier crypto hyphenLoader hyphenated salt defaultIterations =
      Snapshot.deriveVerifier crypto loader "pencil" salt defaultIterations := by
    rw [Snapshot.deriveVerifier, Snapshot.deriveVerifier, hprepare]
  have hload : Snapshot.load crypto hyphenLoader (fun _ => salt) ⟨[], ∅, [], 0⟩ ⟨"alice", some hyphenated, none⟩ =
      Snapshot.load crypto loader (fun _ => salt) ⟨[], ∅, [], 0⟩ ⟨"alice", some "pencil", none⟩ := by
    have hne : hyphenated ≠ [] := by decide
    have hne' : "pencil".toList ≠ [] := by decide
    simp only [Snapshot.load, Snapshot.entryVerifier, if_neg hne, if_neg hne', hderive]
  have hyaml : hyphenLoader.yaml userList = some [⟨"alice", some hyphenated, none⟩] := by simp only [hyphenLoader, if_true]
  have hyaml' : loader.yaml userList = some [⟨"alice", some "pencil", none⟩] := by simp only [loader, if_true]
  have hsnapshot : Snapshot.snapshotFromYaml crypto hyphenLoader (fun _ => salt) userList =
      Snapshot.snapshotFromYaml crypto loader (fun _ => salt) userList := by
    simp only [Snapshot.snapshotFromYaml, hyaml, hyaml', reduceCtorEq, if_false, List.foldl_cons, List.foldl_nil, hload]
  simp only [hyphenStore, store, CredentialStore.reload, CredentialStore.reloadSource, CredentialStore.reloadFile,
    CredentialStore.fromSource, hsnapshot]

theorem hyphenLogin_eq : hyphenLogin = login := by
  rw [hyphenLogin, hyphenStore_eq]
  rfl

end Sample

namespace Session

/-- Alice is authenticated, and the backend is sent a password that is not hers. -/
theorem a_soft_hyphen_is_lost :
    (handle Sample.crypto Sample.hyphenLogin).2.log =
        Sample.beforeOk ++ authEvent authSaslOk [] :: Sample.afterOk Sample.aliceVerifier ∧
      (∃ snapshot : Snapshot,
        Snapshot.snapshotFromYaml Sample.crypto Sample.hyphenLoader (fun _ => Sample.salt) Sample.userList = .ok snapshot ∧
          snapshot.users.lookup "alice".toList = some Sample.aliceVerifier) ∧
      .connect (Sample.linkTo Sample.aliceVerifier) ∈ Sample.afterOk Sample.aliceVerifier ∧
      ¬ PgClient.Sends Sample.crypto (Sample.linkTo Sample.aliceVerifier) (asBytes Sample.hyphenated) := by
  refine ⟨?_, ⟨_, rfl, rfl⟩, by simp [Sample.afterOk], ?_⟩
  · rw [Sample.hyphenLogin_eq]
    exact Sample.login_log
  · intro h
    have hheld : (Sample.linkTo Sample.aliceVerifier).password = some (asBytes "pencil") := rfl
    rw [PgClient.sends_iff hheld (Sample.pgClient [])] at h
    exact absurd (asBytes_inj h) (by decide)

end Session

end Wirechaos
