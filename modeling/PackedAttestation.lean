import PackedAttestation.Attestation
import PackedAttestation.Ber.Frame
import PackedAttestation.Ber.Value
import PackedAttestation.Bytes
import PackedAttestation.Certificate.Basic
import PackedAttestation.Certificate.BasicConstraints
import PackedAttestation.Certificate.Name
import PackedAttestation.Certificate.Outline
import PackedAttestation.Certificate.PublicKey
import PackedAttestation.Certificate.Time
import PackedAttestation.CertificateSignature
import PackedAttestation.Cose
import PackedAttestation.Curve
import PackedAttestation.Curve.Binary
import PackedAttestation.Curve.Named
import PackedAttestation.Der.Element
import PackedAttestation.Der.Header
import PackedAttestation.Digest
import PackedAttestation.Ecdsa
import PackedAttestation.Ed25519
import PackedAttestation.Error
import PackedAttestation.Event
import PackedAttestation.Json
import PackedAttestation.Modular
import PackedAttestation.Octets
import PackedAttestation.Oid
import PackedAttestation.Presentation
import PackedAttestation.Provider
import PackedAttestation.Registry
import PackedAttestation.Registry.Session
import PackedAttestation.Rsa
import PackedAttestation.SignatureAlgorithm
import PackedAttestation.Statement
import PackedAttestation.Text
import PackedAttestation.Trial
import PackedAttestation.Verify
import PackedAttestation.Proofs.SelfVerification
import PackedAttestation.Proofs.StatementFields
import PackedAttestation.Proofs.BasicVerification
import PackedAttestation.Proofs.Acceptance
import PackedAttestation.Proofs.OutlineReading
import PackedAttestation.Proofs.AuthorityConstraints
import PackedAttestation.Proofs.LeafExtensions
import PackedAttestation.Proofs.StatementForms
import PackedAttestation.Proofs.Noninterference
import PackedAttestation.Proofs.FirstFailure
import PackedAttestation.Proofs.FirstAccepted
import PackedAttestation.Proofs.StatementErrors
import PackedAttestation.Proofs.BasicErrors
import PackedAttestation.Proofs.ErrorOrder
import PackedAttestation.Proofs.ShortestBytes
import PackedAttestation.Proofs.ElementWriting
import PackedAttestation.Proofs.SignatureEncoding
import PackedAttestation.Proofs.SignaturePaths
import PackedAttestation.Proofs.JsonRoundTrip
import PackedAttestation.Proofs.SignatureRoundTrip
import PackedAttestation.Proofs.QuotedText
import PackedAttestation.Proofs.RegistryHistory
import PackedAttestation.Proofs.ElementAgreement
import PackedAttestation.Proofs.CertificateForm
import PackedAttestation.Proofs.TrustPath
import PackedAttestation.Proofs.ElementForms
import PackedAttestation.Proofs.ElementFaults
import PackedAttestation.Proofs.SignatureFormat
import PackedAttestation.Proofs.SignatureFaults
import PackedAttestation.Proofs.CertificateExtent
import PackedAttestation.Proofs.SignatureFallback
import PackedAttestation.Proofs.ChainIndependence
import PackedAttestation.Proofs.AaguidExtension
import PackedAttestation.Proofs.CurveNumbers
import PackedAttestation.Proofs.TrialEvents
import PackedAttestation.Proofs.SignatureLog
import PackedAttestation.Proofs.VerificationEvents
import PackedAttestation.Proofs.VerificationLog
import PackedAttestation.Proofs.UuidSpellings
import PackedAttestation.Proofs.JsonForms
import PackedAttestation.Proofs.JsonPresentations
