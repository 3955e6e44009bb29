/-
  Wirechaos.Wire.Tls — the frontend's TLS material and `tls-server-end-point` channel
  binding (tls.rs).
-/

import Wirechaos.Lib.Base64

namespace Wirechaos

open Text

inductive HashAlgorithm where
  | sha256
  | sha384
  | sha512
  deriving DecidableEq, Repr

def HashAlgorithm.digestLength : HashAlgorithm → Nat
  | .sha256 => 32
  | .sha384 => 48
  | .sha512 => 64

/-- The hash of a certificate, as `CertHash::new` makes it: the digest has the length
    of its algorithm. -/
structure CertHash where
  algorithm : HashAlgorithm
  digest : Bytes
  length_eq : digest.length = algorithm.digestLength
  deriving DecidableEq

def tlsServerEndPointHeader : Bytes := asBytes "p=tls-server-end-point,,"

def CertHash.cbindInput (h : CertHash) : Bytes := tlsServerEndPointHeader ++ h.digest

/-- The value the client must send in its `c=` attribute. -/
def CertHash.expectedC (h : CertHash) : Str := Base64.encode Base64.standard h.cbindInput

/-- `acceptor` stands for the TLS handshake on the bytes still to come: what the
    session reads through the tunnel, or `none` when the handshake fails. -/
structure FrontendTls where
  acceptor : List Bytes → Option (List Bytes)
  certHash : Option CertHash

end Wirechaos
