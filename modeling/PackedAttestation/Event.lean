import PackedAttestation.Cose
import PackedAttestation.SignatureAlgorithm

/-! # The log

A verification leaves a list of events behind.  `Event.line` is what is written of an
event: a level, a message and fields.  Where a field shows what a library tells, as the
reason of an error or the names in a certificate, its text here is this library's own.
-/
namespace PackedAttestation

/-- Something that a verification notes on its way. -/
inductive Event where
  /-- A basic statement with this many certificates is verified. -/
  | basicAttestation (certificates : Nat)
  | ecdaaAttestation (keyId : Option Bytes)
  | selfAttestation
  /-- The algorithm that a basic statement names. -/
  | statementAlgorithm (alg : Int64)
  /-- The attestation certificate is decoded, and has these names. -/
  | attestationCertificate (subject issuer : Bytes)
  /-- The version, less one, of an attestation certificate that is not of version 3. -/
  | notVersionThree (version : Nat)
  | trailingExtensionData (count : Nat)
  | noAaguidExtension
  | keyNotLoaded
  /-- No algorithm is known for what the certificate declares. -/
  | unrecognisedAlgorithm (oid : Oid)
  /-- A further algorithm is tried. -/
  | retrying (algorithm : SignatureAlgorithm)
  /-- The key of the certificate is not of the kind that the algorithm needs. -/
  | keyMismatch (algorithm : SignatureAlgorithm) (kind : KeyKind)
  /-- The signature is not one with the algorithm. -/
  | notVerified (algorithm : SignatureAlgorithm)
  /-- The check of the signature with the algorithm ended in an error. -/
  | attemptFailed (algorithm : SignatureAlgorithm) (fault : ProviderFault)
  | signatureValid (algorithm : SignatureAlgorithm)
  | signatureInvalid
  | trailingSignatureData (count : Nat)
  /-- The check of the signature of a self attestation ended in an error. -/
  | ecdsaFailed (fault : ProviderFault)
  | selfSignatureInvalid
  /-- No verifier is known for the format of a statement. -/
  | noVerifier (format : String)
deriving DecidableEq

/-- How detailed a line of the log is. -/
inductive Level where
  | debug | trace
deriving DecidableEq

/-- The name of a level. -/
def Level.name : Level → String
  | debug => "DEBUG"
  | trace => "TRACE"

/-- A line of the log. -/
structure Line where
  level : Level
  message : String
  /-- The names and the texts of the fields. -/
  fields : List (String × String)
deriving DecidableEq

/-- The text of a line. -/
def Line.text (line : Line) : String :=
  line.level.name ++ " " ++ line.message ++
    String.join (line.fields.map fun (name, value) => " " ++ name ++ "=" ++ value)

namespace Event

/-- The name of the registered algorithm with a number, if there is one. -/
def algorithmText (alg : Int64) : String :=
  match Cose.Algorithm.ofId? alg.toInt with
  | some algorithm => "Some(" ++ algorithm.name ++ ")"
  | none => "None"

/-- The bytes of an optional byte string, in decimal. -/
def bytesText : Option Bytes → String
  | some bytes => "Some([" ++ ", ".intercalate (bytes.map fun b => toString b.toNat) ++ "])"
  | none => "None"

/-- The line of an event. -/
def line : Event → Line
  | basicAttestation certificates =>
      ⟨.debug, "packed basic attestation", [("certificates", toString certificates)]⟩
  | ecdaaAttestation keyId =>
      ⟨.debug, "packed ecdaa attestation", [("ecdaa_key_id", bytesText keyId)]⟩
  | selfAttestation => ⟨.debug, "packed self attestation", []⟩
  | statementAlgorithm alg =>
      ⟨.trace, "", [("alg", toString alg.toInt), ("cose_alg", algorithmText alg)]⟩
  | attestationCertificate subject issuer =>
      ⟨.trace, "attestation certificate",
        [("subject", Bytes.toHex subject), ("issuer", Bytes.toHex issuer)]⟩
  | notVersionThree version =>
      ⟨.trace, "attestation certificate is not x509 v3",
        [("version", "X509Version(" ++ toString version ++ ")")]⟩
  | trailingExtensionData count =>
      ⟨.trace, "data after extension value",
        [("oid", Oid.aaguidExtension.text), ("trailing", toString count)]⟩
  | noAaguidExtension => ⟨.trace, "attestation certificate has no aaguid extension", []⟩
  | keyNotLoaded =>
      ⟨.trace, "attestation certificate public key could not be loaded",
        [("err", ProviderFault.keyRefused.text)]⟩
  | unrecognisedAlgorithm oid =>
      ⟨.debug, "unrecognised certificate signature algorithm", [("declared_nid", oid.text)]⟩
  | retrying algorithm =>
      ⟨.debug, "retrying attestation signature with fallback algorithm",
        [("alg", algorithm.name)]⟩
  | keyMismatch algorithm kind =>
      ⟨.trace, "certificate key does not match algorithm",
        [("alg", algorithm.name), ("key_id", kind.text)]⟩
  | notVerified algorithm =>
      ⟨.trace, "attestation signature did not verify", [("alg", algorithm.name)]⟩
  | attemptFailed algorithm fault =>
      ⟨.trace, "attestation signature could not be verified",
        [("alg", algorithm.name), ("err", fault.text)]⟩
  | signatureValid algorithm => ⟨.trace, "packed x509 signature valid", [("alg", algorithm.name)]⟩
  | signatureInvalid => ⟨.trace, "packed x509 signature invalid", []⟩
  | trailingSignatureData count =>
      ⟨.trace, "data after ecdsa signature", [("trailing", toString count)]⟩
  | ecdsaFailed fault =>
      ⟨.trace, "ecdsa signature could not be verified", [("err", fault.text)]⟩
  | selfSignatureInvalid => ⟨.trace, "Invalid Self Attestation Signature", []⟩
  | noVerifier format =>
      ⟨.debug, "no verifier registered for attestation format", [("fmt", format)]⟩

end Event
end PackedAttestation
