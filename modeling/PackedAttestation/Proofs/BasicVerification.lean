import Mathlib.Data.List.Forall2
import PackedAttestation.Proofs.ElementAgreement
import PackedAttestation.Proofs.OutlineReading
import PackedAttestation.Proofs.TrialEvents
import PackedAttestation.Verify

/-! # When a basic statement verifies

Each check of a basic statement is read off on its own: a certificate is decoded
(`Certificate.decode_eq_ok_iff`), a chain is decoded element by element
(`Certificate.decodeChain_eq_ok_iff`), the attestation certificate fits the profile
(`Outline.outcome_checkProfile_eq_ok_iff`) and tells no other AAGUID
(`Outline.outcome_checkAaguid_eq_ok_iff`).  A statement verifies exactly if all checks
do, each on its own certificate (`BasicStatement.outcome_verify_eq_ok_iff`).
-/
namespace PackedAttestation

open Der
open Certificate (Outline Extension)

/-! ### Certificates -/

namespace Certificate

/-- Both decoders accept `der` as one certificate, with nothing after it. -/
def Decodes (der : Bytes) (outline : Outline) (certificate : Certificate) : Prop :=
  Outline.read der = .ok (outline, []) ∧ read? der = some (certificate, [])

/-- `der` is one certificate for both decoders, whatever its outline is. -/
def DecodesAs (der : Bytes) (certificate : Certificate) : Prop :=
  ∃ outline, Decodes der outline certificate

/-- A certificate that fills its input as an outline fills it as a whole. -/
theorem rest_eq_nil_of_read? {der rest : Bytes} {outline : Outline} {certificate : Certificate}
    (houtline : Outline.read der = .ok (outline, []))
    (hread : read? der = some (certificate, rest)) :
    rest = [] := by
  -- Where the certificate ends is decided by its outermost header, which both readers share.
  obtain ⟨content, _, _, _, hcontent, -⟩ := Outline.read_eq_ok_iff.mp houtline
  exact (fields?_of_readContent hcontent hread).2.2

theorem decode_eq_ok_iff {der : Bytes} {outline : Outline} {certificate : Certificate} :
    decode der = .ok (outline, certificate) ↔ Decodes der outline certificate := by
  rw [decode]
  constructor
  · intro h
    split at h
    · cases h
    rename_i outline' rest houtline
    split at h
    · cases h
    rename_i hrest
    split at h
    · cases h
    rename_i certificate' rest' hread
    cases h
    rw [Decidable.not_not] at hrest
    subst hrest
    have := rest_eq_nil_of_read? houtline hread
    subst this
    exact ⟨houtline, hread⟩
  · rintro ⟨houtline, hread⟩
    simp [houtline, hread]

theorem decodeChain_eq_ok_iff {ders : List Bytes} {certificates : List Certificate} :
    decodeChain ders = .ok certificates ↔ List.Forall₂ DecodesAs ders certificates := by
  induction ders generalizing certificates with
  | nil =>
    rw [decodeChain, List.forall₂_nil_left_iff]
    simp [eq_comm]
  | cons der ders ih =>
    rw [decodeChain]
    constructor
    · intro h
      split at h
      · cases h
      rename_i outline certificate hdecode
      split at h
      · cases h
      rename_i rest hrest
      cases h
      exact .cons ⟨outline, decode_eq_ok_iff.mp hdecode⟩ (ih.mp hrest)
    · rintro (_ | ⟨⟨outline, hdecodes⟩, hrest⟩)
      simp [decode_eq_ok_iff.mpr hdecodes, ih.mpr hrest]

/-! ### The profile -/

namespace Outline

/-- Basic constraints that are no error and do not say that the certificate is an authority. -/
def DeniesAuthority (outline : Outline) : Prop :=
  ∃ constraints, outline.basicConstraints = .ok constraints ∧ ∀ c ∈ constraints, c.ca = false

theorem isAuthority_eq_false_iff {outline : Outline} :
    outline.isAuthority = .ok false ↔ outline.DeniesAuthority := by
  rw [isAuthority, DeniesAuthority]
  cases outline.basicConstraints with
  | error _ => simp
  | ok constraints => cases constraints <;> simp

theorem outcome_checkProfile_eq_ok_iff {outline : Outline} :
    outline.checkProfile.outcome = .ok () ↔ outline.version = 2 ∧ outline.DeniesAuthority := by
  rw [checkProfile, ← isAuthority_eq_false_iff]
  by_cases hversion : outline.version = 2
  · simp only [hversion, ne_eq, not_true_eq_false, ite_false, true_and]
    rcases outline.isAuthority with fault | _ | _ <;> simp
  · simp [hversion]

end Outline

/-! ### The AAGUID extension -/

/-- An extension that tells exactly `aaguid`: it is not critical, and its value is one OCTET
STRING that holds the AAGUID, with nothing after it. -/
def Extension.Tells (extension : Extension) (aaguid : Aaguid) : Prop :=
  extension.critical = false ∧ readOctetString extension.value = .ok (aaguid.bytes, [])

end Certificate

theorem Aaguid.read_eq_ok_iff {bs rest : Bytes} {aaguid : Aaguid} :
    read bs = .ok (aaguid, rest) ↔ readOctetString bs = .ok (aaguid.bytes, rest) := by
  rw [read]
  constructor
  · intro h
    split at h
    · cases h
    rename_i content rest' hcontent
    split at h
    · rename_i aaguid' hlength
      cases h
      rw [Octets.ofBytes?] at hlength
      split at hlength
      · cases hlength
        exact hcontent
      · cases hlength
    · cases h
  · intro h
    simp [h, Octets.ofBytes?_bytes]

namespace Certificate.Outline

/-- The check of the AAGUID extension succeeds exactly if there is none, or the first one tells
the AAGUID expected. -/
theorem outcome_checkAaguid_eq_ok_iff {outline : Outline} {expected : Aaguid} :
    (∃ present, (outline.checkAaguid expected).outcome = .ok present) ↔
      ∀ extension, outline.extensions.find? (·.oid == Oid.aaguidExtension) = some extension →
        extension.Tells expected := by
  rw [checkAaguid]
  cases outline.extensions.find? (·.oid == Oid.aaguidExtension) with
  | none => simp
  | some extension =>
    simp only [Option.some.injEq, forall_eq', Extension.Tells, ← Aaguid.read_eq_ok_iff]
    constructor
    · rintro ⟨present, h⟩
      split at h
      · cases h
      rename_i hcritical
      split at h
      · cases h
      rename_i aaguid rest hread
      split at h
      · cases h
      rename_i hrest
      split at h
      · rename_i heq
        rw [Decidable.not_not] at hrest
        subst hrest heq
        exact ⟨by simpa using hcritical, hread⟩
      · cases h
    · rintro ⟨hcritical, hread⟩
      simp [hcritical, hread]

end Certificate.Outline

/-! ### The statement -/

theorem CertificateFault.lift_eq_ok_iff {α : Type} {x : Except CertificateFault α} {a : α} :
    lift x = .ok a ↔ x = .ok a := by
  cases x <;> simp [lift]

namespace BasicStatement

/-- The part of the verification that comes before the signature. -/
def examine (s : BasicStatement) (aaguid : Aaguid) : Trial (Certificate × List Certificate) := do
  Trial.note (.statementAlgorithm s.alg)
  let (outline, leaf) ← Trial.ofExcept (CertificateFault.lift (Certificate.decode s.leaf))
  Trial.note (.attestationCertificate outline.subject outline.issuer)
  let chain ← Trial.ofExcept (CertificateFault.lift (Certificate.decodeChain s.chain))
  outline.checkProfile
  let present ← outline.checkAaguid aaguid
  if !present then Trial.note .noAaguidExtension
  return (leaf, chain)

/-- The part of the verification that checks the signature. -/
def judge (s : BasicStatement) (aaguid : Aaguid) (message : Bytes) (leaf : Certificate)
    (chain : List Certificate) : Trial Attestation := do
  match ← leaf.verifySignature s.sig message with
  | none =>
    Trial.note .signatureInvalid
    Trial.fail .invalidSignature
  | some algorithm =>
    Trial.note (.signatureValid algorithm)
    pure ⟨.basic (leaf :: chain), .packed aaguid⟩

variable {statement : BasicStatement} {aaguid : Aaguid} {message : Bytes} {leaf : Certificate}
  {chain : List Certificate} {a : Attestation}

theorem verify_eq_examine_bind :
    statement.verify aaguid message =
      statement.examine aaguid >>= fun (leaf, chain) =>
        statement.judge aaguid message leaf chain := by
  unfold verify examine
  simp only [bind_assoc]
  refine bind_congr fun _ => bind_congr fun _ => bind_congr fun _ => bind_congr fun _ =>
    bind_congr fun _ => bind_congr fun present => ?_
  cases present <;> rfl

theorem outcome_examine_eq_ok_iff :
    (statement.examine aaguid).outcome = .ok (leaf, chain) ↔
      ∃ outline, Certificate.Decodes statement.leaf outline leaf ∧
        List.Forall₂ Certificate.DecodesAs statement.chain chain ∧
        outline.version = 2 ∧ outline.DeniesAuthority ∧
        ∀ extension, outline.extensions.find? (·.oid == Oid.aaguidExtension) = some extension →
          extension.Tells aaguid := by
  simp only [examine, Trial.outcome_note_bind, Trial.outcome_bind_eq_ok_iff,
    Trial.outcome_ofExcept, Trial.outcome_ite_note_bind, CertificateFault.lift_eq_ok_iff,
    Prod.exists, Certificate.decode_eq_ok_iff, Certificate.decodeChain_eq_ok_iff,
    Trial.outcome_pure, Except.ok.injEq, Prod.mk.injEq]
  constructor
  · rintro ⟨outline, _, hleaf, _, hchain, _, hprofile, present, hpresent, rfl, rfl⟩
    obtain ⟨hversion, hdenies⟩ := Outline.outcome_checkProfile_eq_ok_iff.mp hprofile
    have htells := Outline.outcome_checkAaguid_eq_ok_iff.mp ⟨present, hpresent⟩
    exact ⟨outline, hleaf, hchain, hversion, hdenies, htells⟩
  · rintro ⟨outline, hleaf, hchain, hversion, hdenies, htells⟩
    have hprofile := Outline.outcome_checkProfile_eq_ok_iff.mpr ⟨hversion, hdenies⟩
    obtain ⟨present, hpresent⟩ := Outline.outcome_checkAaguid_eq_ok_iff.mpr htells
    exact ⟨outline, leaf, hleaf, chain, hchain, (), hprofile, present, hpresent, rfl, rfl⟩

theorem outcome_judge_eq_ok_iff :
    (statement.judge aaguid message leaf chain).outcome = .ok a ↔
      ∃ algorithm, (leaf.verifySignature statement.sig message).outcome = .ok (some algorithm) ∧
        a = ⟨.basic (leaf :: chain), .packed aaguid⟩ := by
  rw [judge, Trial.outcome_bind_eq_ok_iff]
  constructor
  · rintro ⟨found, hfound, h⟩
    cases found with
    | none => cases h
    | some algorithm =>
      cases h
      exact ⟨algorithm, hfound, rfl⟩
  · rintro ⟨algorithm, hfound, rfl⟩
    exact ⟨some algorithm, hfound, rfl⟩

/-- **Basic attestation, check by check.** -/
theorem outcome_verify_eq_ok_iff :
    (statement.verify aaguid message).outcome = .ok a ↔
      ∃ outline leaf chain algorithm,
        Certificate.Decodes statement.leaf outline leaf ∧
        List.Forall₂ Certificate.DecodesAs statement.chain chain ∧
        outline.version = 2 ∧ outline.DeniesAuthority ∧
        (∀ extension, outline.extensions.find? (·.oid == Oid.aaguidExtension) = some extension →
          extension.Tells aaguid) ∧
        (leaf.verifySignature statement.sig message).outcome = .ok (some algorithm) ∧
        a = ⟨.basic (leaf :: chain), .packed aaguid⟩ := by
  rw [verify_eq_examine_bind, Trial.outcome_bind_eq_ok_iff]
  constructor
  · rintro ⟨⟨leaf, chain⟩, hexamine, hjudge⟩
    obtain ⟨outline, hleaf, hchain, hversion, hdenies, htells⟩ :=
      outcome_examine_eq_ok_iff.mp hexamine
    obtain ⟨algorithm, hfound, rfl⟩ := outcome_judge_eq_ok_iff.mp hjudge
    exact ⟨outline, leaf, chain, algorithm, hleaf, hchain, hversion, hdenies, htells, hfound, rfl⟩
  · rintro ⟨outline, leaf, chain, algorithm, hleaf, hchain, hversion, hdenies, htells, hfound, rfl⟩
    exact ⟨(leaf, chain),
      outcome_examine_eq_ok_iff.mpr ⟨outline, hleaf, hchain, hversion, hdenies, htells⟩,
      outcome_judge_eq_ok_iff.mpr ⟨algorithm, hfound, rfl⟩⟩

end BasicStatement
end PackedAttestation
