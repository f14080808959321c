import PackedAttestation.Cose
import PackedAttestation.Der.Header
import PackedAttestation.Provider

/-! # Errors

Every error says which check of an attestation failed.  `Error.kind` sorts errors
by the part of the input that is at fault, and `Error.message` is the text for a
reader.
-/
namespace PackedAttestation

/-- A field of an attestation statement. -/
inductive Field where
  | alg | sig | x5c | ecdaaKeyId
deriving DecidableEq

/-- The key of a field in the statement. -/
def Field.key : Field → String
  | alg => "alg"
  | sig => "sig"
  | x5c => "x5c"
  | ecdaaKeyId => "ecdaaKeyId"

/-- Why the outline of a certificate is refused. -/
inductive OutlineFault where
  /-- An element is not what belongs in its place. -/
  | malformed
  /-- The input ends before an element does. -/
  | unfinished
  /-- An extension that is asked for comes twice. -/
  | repeatedExtensions
deriving DecidableEq

/-- Why a certificate could not be decoded. -/
inductive CertificateFault where
  /-- The outline is refused. -/
  | outline (fault : OutlineFault)
  /-- The certificate as a whole does not read. -/
  | encoding
  /-- The certificate is followed by this many bytes. -/
  | trailing (count : Nat)
deriving DecidableEq

/-- The text of a certificate fault. -/
def CertificateFault.message : CertificateFault → String
  | outline _ => "The certificate is not a valid x509 DER structure"
  | encoding => "OpenSSL could not parse the certificate"
  | trailing count => "The certificate is followed by " ++ toString count ++
      " bytes of trailing data"

/-- What the profile asks of an attestation certificate. -/
inductive Requirement where
  | versionThree
  | notAuthority
deriving DecidableEq

/-- The text of a requirement. -/
def Requirement.text : Requirement → String
  | versionThree => "version must be 3"
  | notAuthority => "basic constraints CA must be false"

/-- Which check of an attestation failed. -/
inductive Error where
  /-- The statement is no map. -/
  | notMap
  | missingField (field : Field)
  /-- A field has a value of the wrong type or shape. -/
  | invalidField (field : Field)
  /-- A certificate does not decode. -/
  | invalidCertificate (fault : CertificateFault)
  /-- The signature is not one of the signed bytes under the key. -/
  | invalidSignature
  /-- The attestation certificate does not fit the profile. -/
  | unmetRequirement (requirement : Requirement)
  /-- The AAGUID extension is critical. -/
  | criticalExtension
  /-- The AAGUID extension does not hold an AAGUID. -/
  | invalidAaguid (fault : Der.Fault)
  /-- The AAGUID extension holds another AAGUID than the authenticator data. -/
  | aaguidMismatch
  /-- The statement is of the ECDAA type. -/
  | ecdaaUnsupported
  /-- Self attestation with this algorithm and type of key is not supported. -/
  | unsupportedKey (alg : Int64) (type : Cose.KeyType)
  /-- The credential key is not a point of its curve. -/
  | invalidPublicKey
  /-- The signature of a self attestation is not an encoded ECDSA signature. -/
  | malformedSignature (fault : Der.Fault)
  /-- No verifier is known for the statement format. -/
  | unknownFormat (format : String)
  /-- The provider of the primitives failed. -/
  | provider (fault : ProviderFault)
deriving DecidableEq

/-- The part of the input that an error finds at fault. -/
inductive ErrorKind where
  | missingField | wrongType | invalidCertificate | invalidSignature | invalidCertificateProfile
  | invalidExtension | invalidAaguidEncoding | aaguidMismatch | unsupportedFormat
  | unsupportedKeyOrAlgorithm | malformedSignature | internal
deriving DecidableEq

namespace Error

/-- The kind of an error. -/
def kind : Error → ErrorKind
  | missingField _ => .missingField
  | notMap | invalidField _ => .wrongType
  | invalidCertificate _ => .invalidCertificate
  | invalidSignature => .invalidSignature
  | unmetRequirement _ => .invalidCertificateProfile
  | criticalExtension => .invalidExtension
  | invalidAaguid _ => .invalidAaguidEncoding
  | aaguidMismatch => .aaguidMismatch
  | ecdaaUnsupported | unknownFormat _ => .unsupportedFormat
  | unsupportedKey _ _ | invalidPublicKey => .unsupportedKeyOrAlgorithm
  | malformedSignature _ => .malformedSignature
  | provider _ => .internal

/-- The text of an error. -/
def message : Error → String
  | notMap => "The attestation statement is not a map"
  | missingField field => "The attestation statement is missing the required field '" ++
      field.key ++ "'"
  | invalidField field => "The attestation statement field '" ++ field.key ++
      "' has an unexpected type or shape"
  | invalidCertificate _ => "The attestation certificate could not be decoded"
  | invalidSignature => "The attestation statement signature is not valid"
  | unmetRequirement requirement =>
      "The attestation certificate does not meet the format requirements: " ++ requirement.text
  | criticalExtension =>
      "The attestation certificate id-fido-gen-ce-aaguid extension must not be critical"
  | invalidAaguid _ =>
      "The attestation certificate id-fido-gen-ce-aaguid extension is not a 16 byte OCTET STRING"
  | aaguidMismatch =>
      "The attestation certificate AAGUID does not match the authenticator data AAGUID"
  | ecdaaUnsupported => "The attestation type ECDAA is not supported"
  | unsupportedKey alg type => "Self attestation with a " ++ type.name ++ " key and algorithm " ++
      toString alg.toInt ++ " is not supported"
  | invalidPublicKey => "The credential public key is not a valid point on its curve"
  | malformedSignature _ =>
      "The self attestation signature is not a DER encoded ECDSA signature"
  | unknownFormat format => "The attestation statement format '" ++ format ++
      "' is not supported"
  | provider _ => "An OpenSSL Error has occurred"

end Error
end PackedAttestation
