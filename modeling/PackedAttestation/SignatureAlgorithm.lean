import PackedAttestation.Digest
import PackedAttestation.Oid
import PackedAttestation.Provider

/-! # Signature algorithms of certificates

The algorithms that a certificate may declare and with which its key may have signed
a statement.  Each needs keys of one kind, and most sign a digest of the message.
-/
namespace PackedAttestation

/-- An algorithm that a certificate may declare for its signature. -/
inductive SignatureAlgorithm where
  | ecdsaSha256
  | ecdsaSha384
  | ecdsaSha512
  | rsaPkcs1Sha256
  | rsaPkcs1Sha384
  | rsaPkcs1Sha512
  | ed25519
deriving DecidableEq

namespace SignatureAlgorithm

/-- The name of an algorithm. -/
def name : SignatureAlgorithm → String
  | ecdsaSha256 => "EcdsaSha256"
  | ecdsaSha384 => "EcdsaSha384"
  | ecdsaSha512 => "EcdsaSha512"
  | rsaPkcs1Sha256 => "RsaPkcs1Sha256"
  | rsaPkcs1Sha384 => "RsaPkcs1Sha384"
  | rsaPkcs1Sha512 => "RsaPkcs1Sha512"
  | ed25519 => "Ed25519"

/-- The algorithm that an object identifier declares. Algorithms with SHA-1 and RSA PSS are
not among them. -/
def ofOid? (oid : Oid) : Option SignatureAlgorithm :=
  List.lookup oid
    [(Oid.ecdsaWithSha256, ecdsaSha256), (Oid.ecdsaWithSha384, ecdsaSha384),
      (Oid.ecdsaWithSha512, ecdsaSha512), (Oid.sha256WithRsa, rsaPkcs1Sha256),
      (Oid.sha384WithRsa, rsaPkcs1Sha384), (Oid.sha512WithRsa, rsaPkcs1Sha512),
      (Oid.ed25519, ed25519)]

/-- The digest of the message that an algorithm signs. Ed25519 signs the message itself. -/
def digest? : SignatureAlgorithm → Option Digest
  | ecdsaSha256 | rsaPkcs1Sha256 => some .sha256
  | ecdsaSha384 | rsaPkcs1Sha384 => some .sha384
  | ecdsaSha512 | rsaPkcs1Sha512 => some .sha512
  | ed25519 => none

/-- The kind of keys that an algorithm needs. -/
def keyKind : SignatureAlgorithm → KeyKind
  | ecdsaSha256 | ecdsaSha384 | ecdsaSha512 => .ec
  | rsaPkcs1Sha256 | rsaPkcs1Sha384 | rsaPkcs1Sha512 => .rsa
  | ed25519 => .ed25519

/-- The algorithms to fall back on when the declared one does not verify a signature: some
authenticators declare another algorithm than the one they sign statements with. -/
def fallbacks : List SignatureAlgorithm := [ecdsaSha256]

/-- The algorithms to try, in order: the declared one, then the fallbacks other than it. -/
def candidates (declared : Option SignatureAlgorithm) : List SignatureAlgorithm :=
  declared.toList ++ fallbacks.filter fun algorithm => some algorithm != declared

end SignatureAlgorithm
end PackedAttestation
