import PackedAttestation.Attestation
import PackedAttestation.Certificate.BasicConstraints
import PackedAttestation.CertificateSignature
import PackedAttestation.Statement

/-! # Verification of packed attestation statements

A statement signs the authenticator data followed by the hash of the client data.

A basic statement carries certificates, and the key of the first one, the attestation
certificate, signs.  Every certificate has to decode.  The attestation certificate has to
fit the profile, and where it tells an AAGUID, that of the authenticator data.

A self statement is signed with the credential key itself.  Only ECDSA with SHA-256 on
the curve P-256 is supported.
-/
namespace PackedAttestation

open Der
open Certificate (Outline Extension)

/-! ### Certificates -/

/-- Reads an AAGUID in an OCTET STRING, and returns what follows it. -/
def Aaguid.read (bs : Bytes) : Except Fault (Aaguid × Bytes) :=
  match readOctetString bs with
  | .error fault => .error fault
  | .ok (content, rest) =>
    match Octets.ofBytes? 16 content with
    | some aaguid => .ok (aaguid, rest)
    | none => .error .invalidLength

namespace Certificate

/-- Decodes a certificate twice: its outline, which is to fill the input, and the certificate
as a whole. -/
def decode (der : Bytes) : Except CertificateFault (Outline × Certificate) :=
  match Outline.read der with
  | .error fault => .error (.outline fault)
  | .ok (outline, rest) =>
    if rest ≠ [] then .error (.trailing rest.length)
    else
      match Certificate.read? der with
      | none => .error .encoding
      | some (certificate, _) => .ok (outline, certificate)

/-- Decodes the certificates of a chain in order. -/
def decodeChain : List Bytes → Except CertificateFault (List Certificate)
  | [] => .ok []
  | der :: rest =>
    match decode der with
    | .error fault => .error fault
    | .ok (_, certificate) =>
      match decodeChain rest with
      | .error fault => .error fault
      | .ok certificates => .ok (certificate :: certificates)

namespace Outline

/-- Whether the basic constraints say that the certificate is that of an authority. Where they
are absent or do not read, it is not. -/
def isAuthority (outline : Outline) : Except CertificateFault Bool :=
  match outline.basicConstraints with
  | .error fault => .error (.outline fault)
  | .ok constraints => .ok ((constraints.map BasicConstraints.ca).getD false)

/-- Checks the profile of an attestation certificate: version 3, and not an authority. -/
def checkProfile (outline : Outline) : Trial Unit := do
  if outline.version ≠ 2 then
    Trial.note (.notVersionThree outline.version)
    Trial.fail (.unmetRequirement .versionThree)
  else
    match outline.isAuthority with
    | .error fault => Trial.fail (.invalidCertificate fault)
    | .ok true => Trial.fail (.unmetRequirement .notAuthority)
    | .ok false => pure ()

/-- Checks the first AAGUID extension of a certificate: it must not be critical, and hold
exactly the AAGUID expected. The result tells whether there is one. -/
def checkAaguid (outline : Outline) (expected : Aaguid) : Trial Bool :=
  match outline.extensions.find? (·.oid == Oid.aaguidExtension) with
  | none => pure false
  | some extension => do
    if extension.critical then Trial.fail .criticalExtension
    else
      match Aaguid.read extension.value with
      | .error fault => Trial.fail (.invalidAaguid fault)
      | .ok (aaguid, rest) =>
        if rest ≠ [] then
          Trial.note (.trailingExtensionData rest.length)
          Trial.fail (.invalidAaguid .invalidLength)
        else if aaguid = expected then pure true
        else Trial.fail .aaguidMismatch

end Outline
end Certificate

/-! ### Basic statements -/

/-- The result of a check of certificates, as an error of the attestation. -/
def CertificateFault.lift {α : Type} : Except CertificateFault α → Except Error α
  | .error fault => .error (.invalidCertificate fault)
  | .ok a => .ok a

/-- Verifies a basic statement about the model `aaguid` over the bytes that are signed. -/
def BasicStatement.verify (statement : BasicStatement) (aaguid : Aaguid) (message : Bytes) :
    Trial Attestation := do
  Trial.note (.statementAlgorithm statement.alg)
  let (outline, leaf) ← Trial.ofExcept (CertificateFault.lift (Certificate.decode statement.leaf))
  Trial.note (.attestationCertificate outline.subject outline.issuer)
  let chain ← Trial.ofExcept (CertificateFault.lift (Certificate.decodeChain statement.chain))
  outline.checkProfile
  let present ← outline.checkAaguid aaguid
  if !present then Trial.note .noAaguidExtension
  match ← leaf.verifySignature statement.sig message with
  | none =>
    Trial.note .signatureInvalid
    Trial.fail .invalidSignature
  | some algorithm =>
    Trial.note (.signatureValid algorithm)
    pure ⟨.basic (leaf :: chain), .packed aaguid⟩

/-! ### Self statements -/

/-- The public key with the given coordinates on the curve P-256, if it is a point of it. -/
def Ecdsa.p256Key? (x y : Bytes) : Option Curve.Point :=
  if Curve.p256.contains (Bytes.toNat x) (Bytes.toNat y) then
    some (.affine (Bytes.toNat x) (Bytes.toNat y))
  else none

/-- Loads a number of a signature. -/
def Ecdsa.loadNumber (bs : Bytes) : Trial Nat :=
  match Provider.loadNumber bs with
  | .error fault => Trial.fail (.provider fault)
  | .ok n => pure n

/-- Checks a signature of a message with SHA-256 on the curve P-256. Numbers that do not load are
an error, and a check that ends in one does not hold. -/
def Ecdsa.verifyP256 (key : Curve.Point) (signature : Ecdsa.Signature) (message : Bytes) :
    Trial Bool := do
  let r ← loadNumber signature.r
  let s ← loadNumber signature.s
  match verify Curve.p256.n (Curve.p256.combineX? key) (Digest.sha256.run message) r s with
  | .ok valid => pure valid
  | .error fault =>
    Trial.note (.ecdsaFailed fault)
    pure false

/-- The key material of a credential key that declares ECDSA with SHA-256 and is on the curve
P-256. -/
def Cose.Key.es256? (key : Cose.Key) : Option Cose.Ec2Key :=
  match key.material with
  | .ec2 ec2 => if ec2.curve = .p256 ∧ key.algorithm = .es256 then some ec2 else none
  | _ => none

/-- Verifies a self statement about a credential key over the bytes that are signed. -/
def SelfStatement.verify (statement : SelfStatement) (key : Cose.Key) (message : Bytes) :
    Trial Attestation :=
  match key.es256? with
  | none => Trial.fail (.unsupportedKey statement.alg key.material.type)
  | some ec2 => do
    if Cose.Algorithm.ofId? statement.alg.toInt ≠ some .es256 then
      Trial.fail (.unsupportedKey statement.alg key.material.type)
    else
      match Ecdsa.Signature.read statement.sig with
      | .error fault => Trial.fail (.malformedSignature fault)
      | .ok (signature, rest) =>
        if rest ≠ [] then
          Trial.note (.trailingSignatureData rest.length)
          Trial.fail (.malformedSignature .invalidLength)
        else
          match Ecdsa.p256Key? ec2.x ec2.y with
          | none => Trial.fail .invalidPublicKey
          | some point =>
            if ← Ecdsa.verifyP256 point signature message then pure ⟨.self, .none⟩
            else
              Trial.note .selfSignatureInvalid
              Trial.fail .invalidSignature

/-! ### Statements -/

/-- Verifies a statement about the credential of `auth`. -/
def Statement.verify (statement : Statement) (auth : AuthenticatorData) (clientDataHash : Bytes) :
    Trial Attestation := do
  let message := auth.signedBytes clientDataHash
  match statement with
  | .basic s =>
    Trial.note (.basicAttestation s.x5c.length)
    s.verify auth.credential.aaguid message
  | .ecdaa s =>
    Trial.note (.ecdaaAttestation s.keyId)
    Trial.fail .ecdaaUnsupported
  | .self s =>
    Trial.note .selfAttestation
    s.verify auth.credential.publicKey message

/-- Verifies an untyped statement about the credential of `auth`. -/
def verifyPacked (value : Cbor) (auth : AuthenticatorData) (clientDataHash : Bytes) :
    Trial Attestation := do
  let statement ← Trial.ofExcept (Statement.ofCbor value)
  statement.verify auth clientDataHash

end PackedAttestation
