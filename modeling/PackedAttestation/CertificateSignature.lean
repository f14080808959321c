import PackedAttestation.Certificate.Basic
import PackedAttestation.Trial

/-! # Signatures by the key of a certificate

The declared algorithm of the certificate is tried first, then the fallback.  An attempt
holds, or does not hold, or ends in an error of the provider, and the last two only mean
that the next algorithm is tried.  The result is the algorithm that verified the
signature.
-/
namespace PackedAttestation

open Certificate (PublicKey)

namespace SignatureAlgorithm

/-- Checks a signature with one algorithm. It never holds under a key of the wrong kind. -/
def attempt (algorithm : SignatureAlgorithm) (key : PublicKey) (signature message : Bytes) :
    Trial (Except ProviderFault Bool) :=
  if key.kind ≠ algorithm.keyKind then do
    Trial.note (.keyMismatch algorithm key.kind)
    pure (.ok false)
  else pure (key.verify algorithm.digest? signature message)

/-- Tries algorithms in order until one verifies the signature. `again` tells that one has
been tried before. -/
def firstValid (key : PublicKey) (signature message : Bytes) :
    (again : Bool) → List SignatureAlgorithm → Trial (Option SignatureAlgorithm)
  | _, [] => pure none
  | again, algorithm :: rest => do
    if again then Trial.note (.retrying algorithm)
    match ← algorithm.attempt key signature message with
    | .ok true => pure (some algorithm)
    | .ok false =>
      Trial.note (.notVerified algorithm)
      firstValid key signature message true rest
    | .error fault =>
      Trial.note (.attemptFailed algorithm fault)
      firstValid key signature message true rest

end SignatureAlgorithm

namespace Certificate

/-- The algorithm that a certificate declares for its own signature, if it is known. -/
def declaredAlgorithm? (certificate : Certificate) : Option SignatureAlgorithm :=
  SignatureAlgorithm.ofOid? certificate.signatureAlgorithm.oid

/-- Checks a signature by the key of a certificate, and finds the algorithm that verifies
it. A key that does not load verifies nothing. -/
def verifySignature (certificate : Certificate) (signature message : Bytes) :
    Trial (Option SignatureAlgorithm) :=
  match certificate.key with
  | none => do
    Trial.note .keyNotLoaded
    pure none
  | some key => do
    let declared := certificate.declaredAlgorithm?
    if declared.isNone then
      Trial.note (.unrecognisedAlgorithm certificate.signatureAlgorithm.oid)
    SignatureAlgorithm.firstValid key signature message false
      (SignatureAlgorithm.candidates declared)

end Certificate
end PackedAttestation
