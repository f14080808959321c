import PackedAttestation.Certificate.Basic
import PackedAttestation.Cose

/-! # What is attested, and what is established

The authenticator data are what an authenticator says about a new credential: the bytes
as received, which are signed, and the credential data decoded from them.  An
attestation is what a successful verification has established.
-/
namespace PackedAttestation

/-! ### Authenticator data -/

/-- The credential data of a registration. -/
structure CredentialData where
  /-- The model of the authenticator. -/
  aaguid : Aaguid
  credentialId : Bytes
  /-- The public key of the credential. -/
  publicKey : Cose.Key
deriving DecidableEq

/-- The authenticator data of a registration. -/
structure AuthenticatorData where
  /-- The bytes as received. -/
  raw : Bytes
  credential : CredentialData
deriving DecidableEq

namespace AuthenticatorData

/-- The bytes that every packed attestation signs: the authenticator data, then the hash of
the client data. -/
def signedBytes (auth : AuthenticatorData) (clientDataHash : Bytes) : Bytes :=
  auth.raw ++ clientDataHash

end AuthenticatorData

/-! ### Attestations -/

/-- Who vouches for a credential. -/
inductive Trust where
  /-- The key of the attestation certificate, which comes first. The certificates are as
  presented, and nothing is said about whom to trust. -/
  | basic (path : List Certificate)
  /-- The credential key itself. -/
  | self
deriving DecidableEq

/-- The certificates that vouch for a credential. -/
def Trust.path : Trust → List Certificate
  | basic path => path
  | self => []

/-- What is known about the authenticator. -/
inductive Metadata where
  | none
  /-- The model of the authenticator. Where the attestation certificate tells it, it is the
  same. -/
  | packed (aaguid : Aaguid)
deriving DecidableEq

/-- The text of metadata for diagnosis. -/
def Metadata.text : Metadata → String
  | none => "None"
  | packed aaguid => "Packed \x7b aaguid: " ++ Uuid.text aaguid ++ " \x7d"

/-- The result of a successful verification. -/
structure Attestation where
  trust : Trust
  metadata : Metadata
deriving DecidableEq

end PackedAttestation
