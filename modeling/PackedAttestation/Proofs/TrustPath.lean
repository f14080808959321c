import PackedAttestation.Proofs.CertificateForm
import PackedAttestation.Proofs.LeafExtensions

/-! # The trust path and the certificates presented

An accepted basic attestation comes with its trust path, the certificates of `x5c` in the order
presented.  They are decoded and, when asked for, written again.  The body of each, which is
what its issuer signed, is always what was presented; the rest of a certificate is if it was
presented in the form in which certificates are written (`trustPath_of_accepted`).

The specimen is accepted as well with a header that is longer than needed, and then its trust
path is not what was presented (`Specimen.longForm_accepted`).
-/
namespace PackedAttestation

open Der
open Certificate (Decodes DecodesAs HasWrittenForm)

/-- A certificate and what it was decoded from: the body is the same, and all of it is exactly
for a certificate in the form of what is written. -/
def Certificate.KeepsForm (der : Bytes) (certificate : Certificate) : Prop :=
  (∃ after, readContent Tag.sequence der = .ok (certificate.body ++ after, [])) ∧
    (certificate.toDer = der ↔ HasWrittenForm der)

theorem Certificate.DecodesAs.keepsForm {der : Bytes} {certificate : Certificate}
    (h : DecodesAs der certificate) : certificate.KeepsForm der := by
  obtain ⟨outline, hdecodes⟩ := h
  obtain ⟨content, afterBody, afterAlgorithm, hpresents⟩ := hdecodes.exists_presents
  refine ⟨⟨afterBody, ?_⟩, toDer_eq_iff hdecodes⟩
  rw [hpresents.body_append]
  exact readContent_eq_ok_iff.mpr ⟨_, hpresents.sequence, rfl, rfl⟩

/-- A list is what it was made from exactly if each item is. -/
theorem map_eq_iff_forall_mem {α β : Type} {f : β → α} {P : α → Prop} {as : List α} {bs : List β}
    (h : List.Forall₂ (fun a b => f b = a ↔ P a) as bs) : bs.map f = as ↔ ∀ a ∈ as, P a := by
  induction h with
  | nil => simp
  | cons hab _ ih => rw [List.map_cons, List.cons.injEq, hab, ih, List.forall_mem_cons]

/-- **The trust path is what was presented, up to the form of each certificate.** It has as many
certificates as `x5c`, in the same order, and the body of each is byte for byte that of the one
presented. All of a certificate is written back byte for byte exactly if it was presented in the
form in which certificates are written, and the whole path exactly if all of them were. -/
theorem trustPath_of_accepted {value : Cbor} {auth : AuthenticatorData} {clientDataHash : Bytes}
    {path : List Certificate} {metadata : Metadata}
    (h : (verifyPacked value auth clientDataHash).outcome = .ok ⟨.basic path, metadata⟩) :
    ∃ entries x5c, value = .map entries ∧
      Cbor.lookup "x5c" entries = some (.array (x5c.map .bytes)) ∧
      path.length = x5c.length ∧
      (∀ (i : Nat) (der : Bytes) (certificate : Certificate),
        x5c[i]? = some der → path[i]? = some certificate →
          (∃ after, readContent Tag.sequence der = .ok (certificate.body ++ after, [])) ∧
          (certificate.toDer = der ↔ HasWrittenForm der)) ∧
      (path.map Certificate.toDer = x5c ↔ ∀ der ∈ x5c, HasWrittenForm der) := by
  obtain ⟨statement, hstatement, hverify⟩ := outcome_verifyPacked_eq_ok_basic_iff.mp h
  obtain ⟨entries, hvalue, -, -, hx5c⟩ := Statement.ofCbor_eq_ok_iff.mp hstatement
  obtain ⟨outline, leaf, chain, algorithm, hleaf, hchain, -, -, -, -, heq⟩ :=
    BasicStatement.outcome_verify_eq_ok_iff.mp hverify
  cases heq
  have hdecodes : List.Forall₂ DecodesAs statement.x5c (leaf :: chain) :=
    .cons ⟨outline, hleaf⟩ hchain
  have hkeeps : List.Forall₂ Certificate.KeepsForm statement.x5c (leaf :: chain) :=
    hdecodes.imp fun _ _ => DecodesAs.keepsForm
  refine ⟨entries, statement.x5c, hvalue, hx5c, hkeeps.length_eq.symm, ?_, ?_⟩
  · intro i der certificate hder hcertificate
    obtain ⟨hi, rfl⟩ := List.getElem?_eq_some_iff.mp hder
    obtain ⟨hi', rfl⟩ := List.getElem?_eq_some_iff.mp hcertificate
    exact (List.forall₂_iff_get.mp hkeeps).2 i hi hi'
  · exact map_eq_iff_forall_mem (hkeeps.imp fun _ _ hkeep => hkeep.2)

namespace Specimen

/-- The trust path of the specimen is the certificate presented: the body is the same, and since
the certificate is written back as presented it was in the form of what is written. -/
theorem plain_trustPath :
    (verifyPacked (value plain) auth clientDataHash).outcome =
        .ok ⟨.basic [leaf plain], .packed aaguid⟩ ∧
      (∃ after, readContent Tag.sequence (leaf plain).toDer =
        .ok ((leaf plain).body ++ after, [])) ∧
      HasWrittenForm (leaf plain).toDer := by
  obtain ⟨entries, x5c, hvalue, hx5c, -, hpath, -⟩ := trustPath_of_accepted plain_accepted
  cases hvalue
  have hitems : [Cbor.bytes (leaf plain).toDer] = x5c.map .bytes :=
    Cbor.array.inj (Option.some.inj hx5c)
  have hpresented : some [(leaf plain).toDer] = some x5c :=
    Statement.byteStrings?_eq_some_iff.mpr hitems
  cases hpresented
  obtain ⟨hbody, hform⟩ := hpath 0 _ _ rfl rfl
  exact ⟨plain_accepted, hbody, hform.mp rfl⟩

/-- The plain leaf under a header with three octets for a length that takes two. -/
def longForm : Bytes :=
  [0x30, 0x83, 0x00] ++ (leaf plain).toDer.drop 2

/-- **A trust path need not be what was presented.** The leaf is accepted in the longer form, and
written back in the shorter one. -/
theorem longForm_accepted :
    (verifyPacked (valueOf longForm) auth clientDataHash).outcome =
        .ok ⟨.basic [leaf plain], .packed aaguid⟩ ∧
      (∃ entries, valueOf longForm = .map entries ∧
        Cbor.lookup "x5c" entries = some (.array ([longForm].map .bytes))) ∧
      [leaf plain].map Certificate.toDer ≠ [longForm] := by
  have hdecodes : Decodes longForm (outlineOf plain) (leaf plain) := by
    rw [Decodes]
    decide +kernel
  have hdiffers : (leaf plain).toDer ≠ longForm := by decide +kernel
  refine ⟨outcome_verifyPacked_valueOf hdecodes ⟨some ⟨false, none⟩, rfl, by simp⟩,
    ⟨_, rfl, rfl⟩, ?_⟩
  intro hsame
  exact hdiffers (List.singleton_inj.mp hsame)

end Specimen
end PackedAttestation
