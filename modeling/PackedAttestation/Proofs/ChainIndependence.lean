import PackedAttestation.Proofs.CertificateExtent

/-! # The certificates after the leaf

Of the certificates of a basic statement only the first one, the leaf, is judged.  The others have
to decode, and are handed on in the trust path.  So a statement whose chain decodes is verified like
the statement with its leaf alone (`BasicStatement.outcome_verify_eq_alone`), and two statements
with the same leaf and the same signature fail with the same error or are both accepted
(`outcome_verifyPacked_of_same_leaf`).

A chain that does not decode is another matter: its first element that does not decode is the error,
whatever else is wrong with the statement (`BasicStatement.outcome_verify_of_not_decodesAs`).
-/
namespace PackedAttestation

open Der
open Certificate (Outline DecodesAs)

/-! ### Chains that decode -/

/-- The statement without the certificates after the leaf. -/
def BasicStatement.alone (s : BasicStatement) : BasicStatement :=
  { s with chain := [] }

/-- An attestation with further certificates at the end of its trust path. -/
def Attestation.extend (a : Attestation) (chain : List Certificate) : Attestation :=
  { a with trust := .basic (a.trust.path ++ chain) }

namespace BasicStatement

variable {s s' : BasicStatement} {aaguid : Aaguid} {message : Bytes}

@[simp] theorem alone_sig : s.alone.sig = s.sig := rfl

@[simp] theorem alone_leaf : s.alone.leaf = s.leaf := rfl

@[simp] theorem alone_chain : s.alone.chain = [] := rfl

/-- **A chain that decodes has no part in the verdict.** It is put after the leaf. -/
theorem outcome_verify_eq_alone {chain : List Certificate}
    (h : List.Forall₂ DecodesAs s.chain chain) :
    (s.verify aaguid message).outcome =
      (s.alone.verify aaguid message).outcome.map (·.extend chain) := by
  have hchain : CertificateFault.lift (Certificate.decodeChain s.chain) = .ok chain :=
    CertificateFault.lift_eq_ok_iff.mpr (Certificate.decodeChain_eq_ok_iff.mpr h)
  have hnone : CertificateFault.lift (Certificate.decodeChain []) = .ok [] := rfl
  simp only [verify, alone_sig, alone_leaf, alone_chain, Trial.outcome_bind, Trial.outcome_note,
    Trial.outcome_ofExcept, Trial.outcome_ite_note_bind, hchain, hnone, Except.bind]
  -- Check by check, both statements fail with the same error or both go on.
  rcases CertificateFault.lift (Certificate.decode s.leaf) with e | ⟨outline, leaf⟩
  · rfl
  dsimp only
  rcases outline.checkProfile.outcome with e | ⟨⟩
  · rfl
  dsimp only
  rcases (outline.checkAaguid aaguid).outcome with e | present
  · rfl
  dsimp only
  rcases (leaf.verifySignature s.sig message).outcome with e | _ | algorithm
  · rfl
  · rfl
  · rfl

/-- Alone with the same leaf and the same signature, two statements have the same outcome. -/
theorem outcome_verify_alone_congr (hsig : s.sig = s'.sig) (hleaf : s.leaf = s'.leaf) :
    (s.alone.verify aaguid message).outcome = (s'.alone.verify aaguid message).outcome := by
  have hx5c : s.alone.x5c = s'.alone.x5c := congrArg (· :: []) hleaf
  exact outcome_verify_congr hsig hx5c

/-- Alone, a leaf is accepted with itself as the trust path. -/
theorem eq_of_outcome_verify_alone {a : Attestation}
    (h : (s.alone.verify aaguid message).outcome = .ok a) :
    ∃ leaf, DecodesAs s.leaf leaf ∧ a = ⟨.basic [leaf], .packed aaguid⟩ := by
  obtain ⟨outline, leaf, chain, algorithm, hleaf, hchain, -, -, -, -, rfl⟩ :=
    outcome_verify_eq_ok_iff.mp h
  cases hchain
  exact ⟨leaf, ⟨outline, hleaf⟩, rfl⟩

end BasicStatement

/-! ### Chains that do not decode -/

theorem Certificate.decodesAs_or_decodeFails (der : Bytes) :
    (∃ certificate, DecodesAs der certificate) ∨ ∃ e, DecodeFails der e := by
  cases h : decode der with
  | ok decoded => exact .inl ⟨decoded.2, decoded.1, decode_eq_ok_iff.mp h⟩
  | error fault => exact .inr ⟨_, fault, decode_eq_error_iff.mp h, rfl⟩

/-- **The first element of a chain that does not decode is the error.** -/
theorem BasicStatement.outcome_verify_of_not_decodesAs {s : BasicStatement} {leaf : Certificate}
    (hleaf : DecodesAs s.leaf leaf) {d : Bytes} (hmem : d ∈ s.chain)
    (hnot : ¬∃ certificate, DecodesAs d certificate) :
    ∃ before der after fault, s.chain = before ++ der :: after ∧
      (∀ d ∈ before, ∃ certificate, DecodesAs d certificate) ∧
      CertificateFault.IsOf der fault ∧
      ∀ aaguid message, (s.verify aaguid message).outcome = .error (.invalidCertificate fault) := by
  obtain ⟨e, hfails⟩ := (Certificate.decodesAs_or_decodeFails d).resolve_left hnot
  cases hchain : CertificateFault.lift (Certificate.decodeChain s.chain) with
  | ok chain =>
    exact absurd hfails ((Certificate.follows_decodeChain s.chain).ok chain hchain d hmem e)
  | error e' =>
    obtain ⟨before, der, after, hsplit, hbefore, fault, hfault, -⟩ :=
      Certificate.lift_decodeChain_eq_error_iff.mp hchain
    have hdecode : ∀ d ∈ before, ∃ certificate, DecodesAs d certificate := by
      intro d hd
      refine (Certificate.decodesAs_or_decodeFails d).resolve_right ?_
      rintro ⟨e, he⟩
      exact hbefore d hd e he
    have hx5c : s.x5c = (s.leaf :: before) ++ der :: after := congrArg (s.leaf :: ·) hsplit
    refine ⟨before, der, after, fault, hsplit, hdecode, hfault, fun aaguid message => ?_⟩
    exact s.outcome_verify_of_isOf hx5c (List.forall_mem_cons.mpr ⟨⟨leaf, hleaf⟩, hdecode⟩) hfault

/-! ### Two runs -/

/-- **The certificates after the leaf only have to decode.** Let two basic statements have the same
signature and the same leaf, and let both chains decode. Then both fail with the same error, or both
are accepted with the same metadata, and the trust path of each is the leaf and then its own chain.
If the leaf decodes and some element of the chain does not, the first such element is the error,
whatever the profile and the extensions of the leaf and the signature are. -/
theorem outcome_verifyPacked_of_same_leaf (auth : AuthenticatorData) (clientDataHash : Bytes) :
    (∀ (value value' : Cbor) (s s' : BasicStatement) (chain chain' : List Certificate),
      Statement.ofCbor value = .ok (.basic s) → Statement.ofCbor value' = .ok (.basic s') →
      s.sig = s'.sig → s.leaf = s'.leaf →
      List.Forall₂ DecodesAs s.chain chain → List.Forall₂ DecodesAs s'.chain chain' →
      (∃ e, (verifyPacked value auth clientDataHash).outcome = .error e ∧
        (verifyPacked value' auth clientDataHash).outcome = .error e) ∨
      ∃ leaf, DecodesAs s.leaf leaf ∧
        (verifyPacked value auth clientDataHash).outcome =
          .ok ⟨.basic (leaf :: chain), .packed auth.credential.aaguid⟩ ∧
        (verifyPacked value' auth clientDataHash).outcome =
          .ok ⟨.basic (leaf :: chain'), .packed auth.credential.aaguid⟩) ∧
    ∀ (value : Cbor) (s : BasicStatement) (leaf : Certificate) (d : Bytes),
      Statement.ofCbor value = .ok (.basic s) → DecodesAs s.leaf leaf →
      d ∈ s.chain → (¬∃ certificate, DecodesAs d certificate) →
      ∃ before der after fault, s.chain = before ++ der :: after ∧
        (∀ d ∈ before, ∃ certificate, DecodesAs d certificate) ∧
        CertificateFault.IsOf der fault ∧
        (verifyPacked value auth clientDataHash).outcome = .error (.invalidCertificate fault) := by
  refine ⟨?decode, ?fail⟩
  case decode =>
    intro value value' s s' chain chain' hs hs' hsig hleaf hchain hchain'
    rw [outcome_verifyPacked_of_basic hs, outcome_verifyPacked_of_basic hs',
      BasicStatement.outcome_verify_eq_alone hchain, BasicStatement.outcome_verify_eq_alone hchain',
      ← BasicStatement.outcome_verify_alone_congr hsig hleaf]
    cases hverdict :
        (s.alone.verify auth.credential.aaguid (auth.raw ++ clientDataHash)).outcome with
    | error e => exact .inl ⟨e, rfl, rfl⟩
    | ok a =>
      obtain ⟨leaf, hdecodes, rfl⟩ := BasicStatement.eq_of_outcome_verify_alone hverdict
      exact .inr ⟨leaf, hdecodes, rfl, rfl⟩
  case fail =>
    intro value s leaf d hs hleaf hmem hnot
    obtain ⟨before, der, after, fault, hsplit, hbefore, hfault, hverify⟩ :=
      BasicStatement.outcome_verify_of_not_decodesAs hleaf hmem hnot
    refine ⟨before, der, after, fault, hsplit, hbefore, hfault, ?_⟩
    rw [outcome_verifyPacked_of_basic hs]
    exact hverify _ _

namespace Specimen

/-- Basic constraints that say that a certificate is that of an authority. -/
def authority : List Certificate.Extension :=
  extensions (encodeSequence (encodeUniversal false Tag.boolean [255])) []

/-- A statement with given certificates. -/
def valueOfChain (leaf : Bytes) (chain : List Bytes) : Cbor :=
  .map [(.text "alg", .integer (-7)), (.text "sig", .bytes sig),
    (.text "x5c", .array ((leaf :: chain).map .bytes))]

theorem ofCbor_valueOfChain {leaf : Bytes} {chain : List Bytes} :
    Statement.ofCbor (valueOfChain leaf chain) = .ok (.basic ⟨-7, sig, leaf, chain⟩) := by
  rw [Statement.ofCbor_eq_ok_iff]
  exact ⟨_, rfl, rfl, rfl, rfl⟩

theorem decodesAs_authority : DecodesAs (leaf authority).toDer (leaf authority) :=
  ⟨outlineOf authority, show WellFormed authority by decide +kernel⟩

/-- The certificate of an authority after the leaf makes no difference. In place of the leaf it is
not even judged where something that is no certificate comes after it. -/
theorem authority_after_leaf :
    (verifyPacked (valueOfChain (leaf plain).toDer []) auth clientDataHash).outcome =
        .ok ⟨.basic [leaf plain], .packed aaguid⟩ ∧
      (verifyPacked (valueOfChain (leaf plain).toDer [(leaf authority).toDer]) auth
          clientDataHash).outcome =
        .ok ⟨.basic [leaf plain, leaf authority], .packed aaguid⟩ ∧
      (verifyPacked (valueOfChain (leaf authority).toDer [[]]) auth clientDataHash).outcome =
        .error (.invalidCertificate (.outline .unfinished)) := by
  obtain ⟨hdecode, hfail⟩ := outcome_verifyPacked_of_same_leaf auth clientDataHash
  have halone : (verifyPacked (valueOfChain (leaf plain).toDer []) auth clientDataHash).outcome =
      .ok ⟨.basic [leaf plain], .packed aaguid⟩ := plain_accepted
  refine ⟨halone, ?longer, ?garbled⟩
  case longer =>
    obtain ⟨e, herror, -⟩ | ⟨certificate, -, hok, hok'⟩ :=
      hdecode _ _ ⟨-7, sig, _, []⟩ ⟨-7, sig, _, [(leaf authority).toDer]⟩ [] [leaf authority]
        ofCbor_valueOfChain ofCbor_valueOfChain rfl rfl .nil (.cons decodesAs_authority .nil)
    · cases halone.symm.trans herror
    · rw [halone, Except.ok.injEq, Attestation.mk.injEq, Trust.basic.injEq, List.cons.injEq] at hok
      obtain ⟨⟨rfl, -⟩, -⟩ := hok
      exact hok'
  case garbled =>
    have hempty : Certificate.decode [] = .error (.outline .unfinished) := rfl
    have hnot : ¬∃ certificate, DecodesAs [] certificate := by
      rintro ⟨certificate, outline, hdecodes⟩
      cases hempty.symm.trans (Certificate.decode_eq_ok_iff.mpr hdecodes)
    obtain ⟨before, der, after, fault, hsplit, -, hfault, herror⟩ :=
      hfail _ ⟨-7, sig, _, [[]]⟩ _ [] ofCbor_valueOfChain decodesAs_authority
        (List.mem_singleton.mpr rfl) hnot
    have hmem : der ∈ [([] : Bytes)] :=
      hsplit.symm.subst (List.mem_append_right before List.mem_cons_self)
    obtain rfl := List.mem_singleton.mp hmem
    cases hempty.symm.trans (Certificate.decode_eq_error_iff.mpr hfault)
    exact herror

end Specimen
end PackedAttestation
