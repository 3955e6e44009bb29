/-
  Wirechaos.Backend.Certificates — whom a link has reached (`build_tls_config`,
  `load_root_store` and the two verifiers in backend/pg_client.rs, `CertHash::new` in
  tls.rs).

  `TlsLibrary` is what the code uses of the TLS library, the PEM and X.509 parsers and the
  file system. With it, `libraryEnv` says what `connect` meets behind the SSLRequest: a
  handshake ends in a tunnel when the verifier that the mode asks for accepts the peer's
  certificates. The trust anchors are all certificates of the configured file, or none and
  an error (`loadRootStore_ok`).

  Every run of `connect` over it ends in the clear or in a tunnel to a peer that was
  verified as the mode says, and is bound to the hash of that peer's own certificate
  (`connect_reaches`). In the clear, `require` and `verify-full` have said nothing.
-/

import Wirechaos.Backend.TlsPolicy

namespace Wirechaos

open Text Async Proc

/-- The certificates that the peer has presented and signed for, and what it sends then. -/
structure TlsPeer where
  certificates : List Bytes
  chunks : List Bytes

structure TlsLibrary where
  /-- `webpki_roots::TLS_SERVER_ROOTS`. -/
  webpkiRoots : List Bytes
  /-- `std::fs::read`, or the text of its error. -/
  readFile : Str → Except Str Bytes
  /-- `rustls_pemfile::certs`. -/
  pemCerts : Bytes → List (Except Str Bytes)
  /-- `RootCertStore::add`. -/
  usable : Bytes → Except Str Unit
  /-- `with_safe_default_protocol_versions`: the error it ends with, if any. -/
  protocolError : Option Str
  /-- `ServerName::try_from` accepts the name. -/
  validServerName : Str → Bool
  /-- `ParsedCertificate::try_from`. -/
  parses : Bytes → Bool
  /-- `verify_server_cert_signed_by_trust_anchor`, at the time of the handshake. -/
  signedByAnchor : List Bytes → Bytes → List Bytes → Bool
  /-- `verify_server_name`. -/
  validFor : Bytes → Str → Bool
  /-- `X509Certificate::from_der`: the OID of the signature algorithm. -/
  signatureAlgorithm : Bytes → Option Str
  digest : HashAlgorithm → Bytes → Bytes
  length_digest : ∀ algorithm der, (digest algorithm der).length = algorithm.digestLength
  /-- The handshake on the bytes still to come, up to the verdict on the certificates. -/
  peer : List Bytes → Option TlsPeer

/-! ## The hash of a certificate -/

def sha256Oids : List Str :=
  ["1.2.840.113549.1.1.4".toList, "1.2.840.113549.1.1.5".toList, "1.2.840.10045.4.1".toList, "1.2.840.10040.4.3".toList,
    "1.2.840.113549.1.1.11".toList, "1.2.840.10045.4.3.2".toList, "2.16.840.1.101.3.4.3.2".toList]

def sha384Oids : List Str := ["1.2.840.113549.1.1.12".toList, "1.2.840.10045.4.3.3".toList]

def sha512Oids : List Str := ["1.2.840.113549.1.1.13".toList, "1.2.840.10045.4.3.4".toList]

def hashAlgorithmForOidStr (oid : Str) : Option HashAlgorithm :=
  if oid ∈ sha256Oids then some .sha256
  else if oid ∈ sha384Oids then some .sha384
  else if oid ∈ sha512Oids then some .sha512
  else none

inductive CertHashError where
  | malformed
  deriving DecidableEq, Repr

namespace TlsLibrary

variable (T : TlsLibrary)

/-- `CertHash::new`. -/
def newCertHash (der : Bytes) : Except CertHashError (Option CertHash) :=
  match T.signatureAlgorithm der with
  | none => .error .malformed
  | some oid =>
    match hashAlgorithmForOidStr oid with
    | none => .ok none
    | some algorithm => .ok (some ⟨algorithm, T.digest algorithm der, T.length_digest algorithm der⟩)

/-- The hash of the peer's leaf; one that cannot be made is logged. -/
def peerCertHash (leaf : Bytes) : Option CertHash :=
  match T.newCertHash leaf with
  | .ok hash => hash
  | .error _ => none

/-! ## Trust anchors -/

def rootFileText (path : Str) : Str := "backend.tls.root_cert_file ".toList ++ path

/-- The loop over the certificates of the file. -/
def addRoots (path : Str) : List Bytes → List (Except Str Bytes) → Except Str (List Bytes)
  | roots, [] => .ok roots
  | _, .error e :: _ => .error ("invalid certificate in ".toList ++ rootFileText path ++ ": ".toList ++ e)
  | roots, .ok certificate :: rest =>
    match T.usable certificate with
    | .error e => .error ("unusable certificate in ".toList ++ rootFileText path ++ ": ".toList ++ e)
    | .ok () => addRoots path (roots ++ [certificate]) rest

def loadRootStore (tls : BackendTlsConfig) : Except Str (List Bytes) :=
  match tls.rootCertFile with
  | none => .ok T.webpkiRoots
  | some path => do
    let pem ← (T.readFile path).mapError fun e => "cannot read ".toList ++ rootFileText path ++ ": ".toList ++ e
    let roots ← T.addRoots path [] (T.pemCerts pem)
    require (roots ≠ []) (rootFileText path ++ " contains no certificates".toList)
    return roots

/-! ## Verifiers -/

inductive CertVerifier where
  /-- `NoCertificateVerification`. -/
  | none
  /-- `ChainOnlyVerification`. -/
  | chainOnly (roots : List Bytes)
  /-- The library's own. -/
  | full (roots : List Bytes)

def buildTlsConfig (tls : BackendTlsConfig) : Except Str CertVerifier :=
  match T.protocolError with
  | some e => .error ("invalid TLS protocol configuration: ".toList ++ e)
  | none =>
    match tls.mode with
    | .disable => .error "TLS was requested but backend.tls.mode is disable"
    | .prefer => .ok .none
    | .require => (T.loadRootStore tls).map .chainOnly
    | .verifyFull => (T.loadRootStore tls).map .full

def verifyServerCert (verifier : CertVerifier) (leaf : Bytes) (intermediates : List Bytes) (name : Str) : Bool :=
  match verifier with
  | .none => true
  | .chainOnly roots => T.parses leaf && T.signedByAnchor roots leaf intermediates
  | .full roots => T.parses leaf && T.signedByAnchor roots leaf intermediates && T.validFor leaf name

/-- `TlsConnector::connect`: a peer presents at least its own certificate. -/
def connector (tls : BackendTlsConfig) (name : Str) (left : List Bytes) : Option (List Bytes × Option CertHash) :=
  match T.buildTlsConfig tls, T.peer left with
  | .ok verifier, some ⟨leaf :: intermediates, chunks⟩ =>
    if T.verifyServerCert verifier leaf intermediates name then some (chunks, T.peerCertHash leaf) else none
  | _, _ => none

def tlsConfigError (tls : BackendTlsConfig) : Option Str :=
  match T.buildTlsConfig tls with
  | .ok _ => none
  | .error e => some e

end TlsLibrary

/-- A link whose TLS is the library's. -/
def libraryEnv (T : TlsLibrary) (env : LinkEnv) : LinkEnv :=
  { env with validServerName := T.validServerName, tlsConfigError := T.tlsConfigError, connector := T.connector }

namespace TlsLibrary

variable {T : TlsLibrary}

/-! ## What is loaded -/

theorem addRoots_ok {path : Str} {roots loaded : List Bytes} {certificates : List (Except Str Bytes)} :
    T.addRoots path roots certificates = .ok loaded ↔
      ∃ added, certificates = added.map .ok ∧ loaded = roots ++ added ∧
        ∀ certificate ∈ added, T.usable certificate = .ok () := by
  induction certificates generalizing roots with
  | nil =>
    simp only [addRoots]
    constructor
    · intro h
      cases h
      exact ⟨[], rfl, (List.append_nil _).symm, fun _ h => nomatch h⟩
    · rintro ⟨added, hadded, rfl, -⟩
      rw [List.map_eq_nil_iff.mp hadded.symm, List.append_nil]
  | cons certificate rest ih =>
    rcases certificate with e | certificate
    · simp only [addRoots]
      constructor
      · intro h
        cases h
      · rintro ⟨added, hadded, -⟩
        cases added <;> cases hadded
    · rcases husable : T.usable certificate with e | ⟨⟩
      · simp only [addRoots, husable]
        constructor
        · intro h
          cases h
        · rintro ⟨added, hadded, -, hall⟩
          cases added with
          | nil => cases hadded
          | cons first added =>
            cases hadded
            have hfirst := hall _ List.mem_cons_self
            rw [husable] at hfirst
            cases hfirst
      · simp only [addRoots, husable, ih]
        constructor
        · rintro ⟨added, rfl, rfl, hall⟩
          refine ⟨certificate :: added, rfl, by simp, ?_⟩
          exact List.forall_mem_cons.mpr ⟨husable, hall⟩
        · rintro ⟨added, hadded, rfl, hall⟩
          cases added with
          | nil => cases hadded
          | cons first added =>
            cases hadded
            exact ⟨added, rfl, by simp, (List.forall_mem_cons.mp hall).2⟩

/-- The anchors of a configuration: those of the file, every one and at least one, or the
    public ones. -/
def Anchors (T : TlsLibrary) (tls : BackendTlsConfig) (roots : List Bytes) : Prop :=
  (tls.rootCertFile = none ∧ roots = T.webpkiRoots) ∨
    ∃ path pem, tls.rootCertFile = some path ∧ T.readFile path = .ok pem ∧ T.pemCerts pem = roots.map .ok ∧ roots ≠ [] ∧
      ∀ root ∈ roots, T.usable root = .ok ()

theorem loadRootStore_ok {tls : BackendTlsConfig} {roots : List Bytes} :
    T.loadRootStore tls = .ok roots ↔ Anchors T tls roots := by
  unfold loadRootStore Anchors
  cases hfile : tls.rootCertFile with
  | none => simp [eq_comm]
  | some path =>
    rcases hread : T.readFile path with e | pem
    · simp only [Except.mapError, hread, except_bind_error]
      constructor
      · intro h
        cases h
      · rintro (⟨h, -⟩ | ⟨path', pem, hpath, hpem, -⟩)
        · cases h
        · cases hpath
          rw [hread] at hpem
          cases hpem
    · simp only [Except.mapError, hread, except_bind_ok, except_bind_eq_ok, require_eq_ok, except_pure_eq_ok, exists_const,
        addRoots_ok, List.nil_append]
      constructor
      · rintro ⟨roots', ⟨added, hadded, rfl, hall⟩, hne, rfl⟩
        exact .inr ⟨path, pem, rfl, hread, hadded, hne, hall⟩
      · rintro (⟨h, -⟩ | ⟨path', pem', hpath, hpem, hadded, hne, hall⟩)
        · cases h
        · cases hpath
          cases hread.symm.trans hpem
          exact ⟨roots, ⟨roots, hadded, rfl, hall⟩, hne, rfl⟩

/-- What the mode asks of the peer's certificates. -/
structure Trusted (T : TlsLibrary) (config : PgConfig) (leaf : Bytes) (intermediates : List Bytes) : Prop where
  chain : config.tls.mode = .require ∨ config.tls.mode = .verifyFull →
    ∃ roots, Anchors T config.tls roots ∧ T.parses leaf = true ∧ T.signedByAnchor roots leaf intermediates = true
  name : config.tls.mode = .verifyFull → T.validFor leaf config.tlsServerName = true

theorem trusted_of_accepted {config : PgConfig} {verifier : CertVerifier} {leaf : Bytes} {intermediates : List Bytes}
    (hbuild : T.buildTlsConfig config.tls = .ok verifier)
    (h : T.verifyServerCert verifier leaf intermediates config.tlsServerName = true) :
    config.tls.mode ≠ .disable ∧ Trusted T config leaf intermediates := by
  unfold buildTlsConfig at hbuild
  cases hprotocol : T.protocolError with
  | some e =>
    rw [hprotocol] at hbuild
    cases hbuild
  | none =>
    rw [hprotocol] at hbuild
    cases hmode : config.tls.mode with
    | disable =>
      rw [hmode] at hbuild
      cases hbuild
    | prefer =>
      refine ⟨by simp, ⟨fun hstrict => ?_, fun hfull => ?_⟩⟩
      · rw [hmode] at hstrict
        simp at hstrict
      · rw [hmode] at hfull
        cases hfull
    | require =>
      rw [hmode] at hbuild
      rcases hroots : T.loadRootStore config.tls with e | roots
      · rw [hroots] at hbuild
        cases hbuild
      · rw [hroots] at hbuild
        cases hbuild
        simp only [verifyServerCert, Bool.and_eq_true] at h
        refine ⟨by simp, ⟨fun _ => ⟨roots, loadRootStore_ok.mp hroots, h.1, h.2⟩, fun hfull => ?_⟩⟩
        rw [hmode] at hfull
        cases hfull
    | verifyFull =>
      rw [hmode] at hbuild
      rcases hroots : T.loadRootStore config.tls with e | roots
      · rw [hroots] at hbuild
        cases hbuild
      · rw [hroots] at hbuild
        cases hbuild
        simp only [verifyServerCert, Bool.and_eq_true] at h
        exact ⟨by simp, ⟨fun _ => ⟨roots, loadRootStore_ok.mp hroots, h.1.1, h.1.2⟩, fun _ => h.2⟩⟩

/-- The peer that a tunnel leads to. -/
def Reached (T : TlsLibrary) (config : PgConfig) (chunks : List Bytes) (certHash : Option CertHash) : Prop :=
  ∃ left leaf intermediates, T.peer left = some ⟨leaf :: intermediates, chunks⟩ ∧ Trusted T config leaf intermediates ∧
    certHash = T.peerCertHash leaf

theorem reached_of_connector {config : PgConfig} {left chunks : List Bytes} {certHash : Option CertHash}
    (h : T.connector config.tls config.tlsServerName left = some (chunks, certHash)) :
    config.tls.mode ≠ .disable ∧ Reached T config chunks certHash := by
  unfold connector at h
  split at h
  · rename_i verifier leaf intermediates chunks' hbuild hpeer
    split at h
    · rename_i haccepted
      cases h
      obtain ⟨hmode, htrusted⟩ := trusted_of_accepted hbuild haccepted
      exact ⟨hmode, left, leaf, intermediates, hpeer, htrusted, rfl⟩
    · cases h
  · cases h

end TlsLibrary

namespace PgClient

open TlsLibrary

variable (C : Crypto) {T : TlsLibrary} {env : LinkEnv} {config : PgConfig}

/-- How a run of `connect` ends: in the clear, and then under `require` and `verify-full`
    nothing was said but a beginning of the SSLRequest; or in a tunnel. -/
inductive Reaches (T : TlsLibrary) (config : PgConfig) (r : Outcome PgError Unit × PgClient) : Prop
  | clear : r.2.wire.writer.inner = .plain → r.2.peerCertHash = none →
    (config.tls.mode = .require ∨ config.tls.mode = .verifyFull →
      Stopped r.1 ∧ r.2.log = [] ∧ r.2.wire.output <+: sslRequest) → Reaches T config r
  | tunnel (chunks : List Bytes) : r.2.wire.writer.inner = .clientTls → config.tls.mode ≠ .disable →
    Reached T config chunks r.2.peerCertHash → Reaches T config r

theorem reaches_of_stopped {c : PgClient} {o : Outcome PgError Unit} (hclear : InTheClear c) (hstop : Stopped o)
    (hlog : c.log = []) (hsent : c.wire.output <+: sslRequest) : Reaches T config (o, c) :=
  .clear (congrArg (·.inner) hclear.writer) hclear.peerCertHash fun _ => ⟨hstop, hlog, hsent⟩

theorem Unused.clear {c : PgClient} (h : Unused c) : InTheClear c ∧ c.wire.output <+: sslRequest := by
  refine ⟨⟨h.reader, h.writer, h.peerCertHash⟩, ?_⟩
  rw [Wire.output, h.sent, h.writer]
  exact List.nil_prefix

/-- The link that `try_tls` has left is kept to the end. -/
theorem reaches_startUp_clear {c : PgClient} (hclear : InTheClear c)
    (hmode : ¬(config.tls.mode = .require ∨ config.tls.mode = .verifyFull)) : Reaches T config (startUp C config c) := by
  have hlink : SameLink c (startUp C config c).2 := keeps_startUp C c
  exact .clear (hlink.writer.trans (congrArg (·.inner) hclear.writer)) (hlink.peerCertHash.trans hclear.peerCertHash)
    fun hstrict => absurd hstrict hmode

theorem reaches_startUp_tunnel {c : PgClient} (htunnel : Tunnelled (libraryEnv T env) config c) :
    Reaches T config (startUp C config c) := by
  have hlink : SameLink c (startUp C config c).2 := keeps_startUp C c
  obtain ⟨-, -, left, hconnector⟩ := htunnel.handshake
  obtain ⟨hmode, hreached⟩ := reached_of_connector (T := T) hconnector
  refine .tunnel c.wire.reader.inner.chunks (hlink.writer.trans (congrArg (·.inner) htunnel.writer)) hmode ?_
  rw [hlink.peerCertHash]
  exact hreached

theorem reaches_of_stops {c : PgClient} (hclear : InTheClear (tryTls (libraryEnv T env) config c).2)
    (hlog : (tryTls (libraryEnv T env) config c).2.log = [])
    (hsent : (tryTls (libraryEnv T env) config c).2.wire.output <+: sslRequest)
    (hstop : Stopped (tryTls (libraryEnv T env) config c).1) :
    Reaches T config ((tryTls (libraryEnv T env) config >>= fun _ => startUp C config) c) := by
  rcases htls : tryTls (libraryEnv T env) config c with ⟨⟨⟩ | e | n, c'⟩ <;> rw [htls] at hclear hlog hsent hstop
  · exact absurd rfl (hstop ())
  · rw [bind_of_err htls]
    exact reaches_of_stopped hclear (fun _ h => nomatch h) hlog hsent
  · rw [bind_of_dropped htls]
    exact reaches_of_stopped hclear (fun _ h => nomatch h) hlog hsent

theorem reaches_of_unused {c : PgClient} (h : Unused c) :
    Reaches T config ((tryTls (libraryEnv T env) config >>= fun _ => startUp C config) c) := by
  obtain ⟨hlog, hreply⟩ := tryTls_cases (libraryEnv T env) config h
  rcases hssl : sslReply config c with _ | _ | _ | _ <;> rw [hssl] at hreply
  · obtain ⟨hstop, hclear, hsent⟩ := hreply
    exact reaches_of_stops C hclear hlog hsent hstop
  · obtain ⟨hmode, -, hok, hclear⟩ := hreply
    rw [bind_of_ok (eq_of_fst hok)]
    refine reaches_startUp_clear C hclear fun hstrict => ?_
    rw [hmode] at hstrict
    simp at hstrict
  · obtain ⟨-, hsent, hresult, hclear⟩ := hreply
    by_cases hprefer : config.tls.mode = .prefer
    · rw [if_pos hprefer] at hresult
      rw [bind_of_ok (eq_of_fst hresult)]
      refine reaches_startUp_clear C hclear fun hstrict => ?_
      rw [hprefer] at hstrict
      simp at hstrict
    · rw [if_neg hprefer] at hresult
      refine reaches_of_stops C hclear hlog (hsent ▸ List.prefix_refl _) fun _ h => ?_
      rw [hresult] at h
      cases h
  · obtain ⟨-, hsent, ⟨hok, htunnel⟩ | ⟨hstop, hclear⟩⟩ := hreply
    · rw [bind_of_ok (eq_of_fst hok)]
      exact reaches_startUp_tunnel C htunnel
    · exact reaches_of_stops C hclear hlog (hsent ▸ List.prefix_refl _) hstop

end PgClient

namespace Sample

/-- A library that knows one certificate, of `localhost`, and a file that holds it. -/
def oneCertificate : TlsLibrary :=
  { webpkiRoots := [], readFile := fun path => if path = "ca.pem" then .ok [1] else .error "not found"
    pemCerts := fun pem => pem.map fun b => .ok [b], usable := fun _ => .ok (), protocolError := none
    validServerName := fun _ => true, parses := fun _ => true
    signedByAnchor := fun roots leaf _ => decide (leaf ∈ roots)
    validFor := fun _ name => decide (name = "localhost".toList)
    signatureAlgorithm := fun _ => some "1.2.840.10045.4.3.2"
    digest := fun algorithm _ => List.replicate algorithm.digestLength 0
    length_digest := fun _ _ => List.length_replicate
    peer := fun left => some ⟨[[1]], left⟩ }

def pinnedTo (host : Str) : PgConfig :=
  { strictConfig with tls := { strictConfig.tls with rootCertFile := some "ca.pem", domain := some host } }

/-- The tunnel and its binding for the name of the certificate, and no tunnel for another. -/
example :
    let env := libraryEnv oneCertificate tlsEnv
    let reached := (PgClient.connect crypto env (pinnedTo "localhost") (PgClient.fresh noBuffers env)).2
    let refused := (PgClient.connect crypto env (pinnedTo "example") (PgClient.fresh noBuffers env)).2
    reached.wire.writer.inner = .clientTls ∧ reached.peerCertHash.map (·.algorithm) = some .sha256 ∧
      refused.wire.writer.inner = .plain ∧ refused.wire.output = PgClient.sslRequest := by
  decide +kernel

end Sample

end Wirechaos
