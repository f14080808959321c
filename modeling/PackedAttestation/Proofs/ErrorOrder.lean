import PackedAttestation.Proofs.BasicErrors
import PackedAttestation.Proofs.SelfVerification
import PackedAttestation.Proofs.StatementErrors
import PackedAttestation.Verify

/-! # Which error is reported

An attestation with several defects fails with the error of the first check that fails
(`outcome_verifyPacked_eq_error_iff`).  The checks are those of the value, and then those of
the basic or of the self statement that it reads as.  Which of them fail, and with which
errors, is said of each check on its own.
-/
namespace PackedAttestation

/-! ### Self statements -/

namespace SelfStatement

/-- A check of a self statement. -/
inductive Check where
  /-- The credential key is one of ECDSA with SHA-256 on the curve P-256, and the statement
  names this algorithm. -/
  | keySupported
  | signatureReads
  /-- The credential key is a point of the curve. -/
  | keyOnCurve
  /-- The provider takes numbers as large as those of the signature. -/
  | numbersLoad
  | signatureVerifies

/-- The checks of a self statement, in order. -/
def Check.order : List Check :=
  [.keySupported, .signatureReads, .keyOnCurve, .numbersLoad, .signatureVerifies]

variable (s : SelfStatement) (key : Cose.Key) (message : Bytes)

/-- When a check of a self statement fails, and with which error. -/
def Fails : Check → Error → Prop
  | .keySupported, e =>
      ¬(s.alg.toInt = -7 ∧ key.algorithm = .es256 ∧
        ∃ ec2, key.material = .ec2 ec2 ∧ ec2.curve = .p256) ∧
      e = .unsupportedKey s.alg key.material.type
  | .signatureReads, e => ∃ fault, Ecdsa.Signature.ofDer s.sig = .error fault ∧
      e = .malformedSignature fault
  | .keyOnCurve, e => ∃ ec2, key.material = .ec2 ec2 ∧ Ecdsa.p256Key? ec2.x ec2.y = none ∧
      e = .invalidPublicKey
  | .numbersLoad, e => ∃ signature, Ecdsa.Signature.ofDer s.sig = .ok signature ∧
      ¬signature.Loads ∧ e = .provider .numberTooLong
  | .signatureVerifies, e => ∃ ec2 point signature, key.material = .ec2 ec2 ∧
      Ecdsa.p256Key? ec2.x ec2.y = some point ∧ Ecdsa.Signature.ofDer s.sig = .ok signature ∧
      (Ecdsa.verifyP256 point signature message).outcome = .ok false ∧ e = .invalidSignature

variable {s key message}

theorem Fails.unique {c : Check} {e e' : Error} (h : s.Fails key message c e)
    (h' : s.Fails key message c e') : e = e' := by
  cases c with
  | keySupported => exact h.2.trans h'.2.symm
  | signatureReads =>
    obtain ⟨fault, hfault, rfl⟩ := h
    obtain ⟨fault', hfault', rfl⟩ := h'
    cases hfault.symm.trans hfault'
    rfl
  | keyOnCurve =>
    obtain ⟨_, -, -, rfl⟩ := h
    obtain ⟨_, -, -, rfl⟩ := h'
    rfl
  | numbersLoad =>
    obtain ⟨_, -, -, rfl⟩ := h
    obtain ⟨_, -, -, rfl⟩ := h'
    rfl
  | signatureVerifies =>
    obtain ⟨_, _, _, -, -, -, -, rfl⟩ := h
    obtain ⟨_, _, _, -, -, -, -, rfl⟩ := h'
    rfl

/-- The key and the algorithm are supported exactly if there is key material to go on with and
the statement names the same algorithm. -/
theorem supported_iff :
    (s.alg.toInt = -7 ∧ key.algorithm = .es256 ∧
        ∃ ec2, key.material = .ec2 ec2 ∧ ec2.curve = .p256) ↔
      (∃ ec2, key.es256? = some ec2) ∧ Cose.Algorithm.ofId? s.alg.toInt = some .es256 := by
  simp only [Cose.Key.es256?_eq_some_iff, Cose.Algorithm.ofId?_eq_some_iff]
  constructor
  · rintro ⟨halg, hdeclared, ec2, hmaterial, hcurve⟩
    exact ⟨⟨ec2, hmaterial, hcurve, hdeclared⟩, halg⟩
  · rintro ⟨⟨ec2, hmaterial, hcurve, hdeclared⟩, halg⟩
    exact ⟨halg, hdeclared, ec2, hmaterial, hcurve⟩

/-- The numbers of the signature are the last thing to be judged: they load, and verify. -/
theorem follows_judgeNumbers {ec2 : Cose.Ec2Key} {point : Curve.Point}
    {signature : Ecdsa.Signature} (hmaterial : key.material = .ec2 ec2)
    (hpoint : Ecdsa.p256Key? ec2.x ec2.y = some point)
    (hsignature : Ecdsa.Signature.ofDer s.sig = .ok signature) {f : Bool → Trial Attestation}
    (hfalse : (f false).outcome = .error .invalidSignature)
    (htrue : ∃ a, (f true).outcome = .ok a) :
    Follows (Ecdsa.verifyP256 point signature message >>= f).outcome (s.Fails key message)
      [.numbersLoad, .signatureVerifies] := by
  by_cases hloads : signature.Loads
  case neg =>
    rw [Trial.bind_of_error (Ecdsa.outcome_verifyP256_of_not_loads hloads)]
    exact .head ⟨signature, hsignature, hloads, rfl⟩
  refine .skip ?_ ?_
  · rintro e ⟨signature', hsignature', hnot, -⟩
    cases hsignature.symm.trans hsignature'
    exact hnot hloads
  obtain ⟨valid, hverify⟩ : ∃ valid,
      (Ecdsa.verifyP256 point signature message).outcome = .ok valid :=
    ⟨_, Ecdsa.outcome_verifyP256_of_loads hloads⟩
  rw [Trial.bind_of_ok hverify]
  cases valid with
  | false =>
    rw [hfalse]
    exact .head ⟨ec2, point, signature, hmaterial, hpoint, hsignature, hverify, rfl⟩
  | true =>
    obtain ⟨a, ha⟩ := htrue
    rw [ha]
    refine .skip ?_ (.nil a)
    rintro e ⟨ec2', point', signature', hmaterial', hpoint', hsignature', hinvalid, -⟩
    cases hmaterial.symm.trans hmaterial'
    cases hpoint.symm.trans hpoint'
    cases hsignature.symm.trans hsignature'
    cases hverify.symm.trans hinvalid

/-- **Verification of a self statement follows its checks.** -/
theorem follows_verify (s : SelfStatement) (key : Cose.Key) (message : Bytes) :
    Follows (s.verify key message).outcome (s.Fails key message) Check.order := by
  rw [verify]
  -- The cases are in the order of the checks: where one fails that is it, else it is skipped.
  cases hkey : key.es256? with
  | none =>
    refine .head ⟨?_, rfl⟩
    rw [supported_iff, hkey]
    rintro ⟨⟨ec2, ⟨⟩⟩, -⟩
  | some ec2 =>
  obtain ⟨hmaterial, -, -⟩ := Cose.Key.es256?_eq_some_iff.mp hkey
  dsimp only
  by_cases halg : Cose.Algorithm.ofId? s.alg.toInt = some .es256
  case neg =>
    rw [if_pos halg]
    exact .head ⟨fun h => halg (supported_iff.mp h).2, rfl⟩
  rw [if_neg (not_not_intro halg)]
  refine .skip (fun e hfails => hfails.1 (supported_iff.mpr ⟨⟨ec2, hkey⟩, halg⟩)) ?_
  cases hread : Ecdsa.Signature.read s.sig with
  | error fault => exact .head ⟨fault, by rw [Ecdsa.Signature.ofDer, hread], rfl⟩
  | ok result =>
  obtain ⟨signature, rest⟩ := result
  dsimp only
  by_cases hrest : rest = []
  case neg =>
    rw [if_pos hrest]
    refine .head ⟨.invalidLength, ?_, rfl⟩
    simp [Ecdsa.Signature.ofDer, hread, hrest]
  subst hrest
  have hsignature := Ecdsa.Signature.ofDer_eq_ok_iff.mpr hread
  rw [if_neg (not_not_intro rfl)]
  refine .skip (by rintro e ⟨fault, hfault, -⟩; cases hsignature.symm.trans hfault) ?_
  cases hpoint : Ecdsa.p256Key? ec2.x ec2.y with
  | none => exact .head ⟨ec2, hmaterial, hpoint, rfl⟩
  | some point =>
  refine .skip ?_ ?_
  · rintro e ⟨ec2', hmaterial', hnone, -⟩
    cases hmaterial.symm.trans hmaterial'
    cases hpoint.symm.trans hnone
  exact follows_judgeNumbers hmaterial hpoint hsignature rfl ⟨_, rfl⟩

end SelfStatement

/-! ### Attestations -/

/-- A check of an attestation. -/
inductive Check where
  | statement (check : Statement.Check)
  | basic (check : BasicStatement.Check)
  | self (check : SelfStatement.Check)

namespace Check

/-- The checks of an attestation, in order. Those of a type of statement come after those of
the value. -/
def order : List Check :=
  Statement.Check.order.map statement ++ BasicStatement.Check.order.map basic ++
    SelfStatement.Check.order.map self

variable (value : Cbor) (auth : AuthenticatorData) (clientDataHash : Bytes)

/-- When a check of an attestation fails, and with which error. The checks of a type of
statement only fail for a value that reads as a statement of the type. -/
def Fails : Check → Error → Prop
  | statement c, e => c.Fails value e
  | basic c, e => ∃ s, Statement.ofCbor value = .ok (.basic s) ∧
      s.Fails auth.credential.aaguid (auth.raw ++ clientDataHash) c e
  | self c, e => ∃ s, Statement.ofCbor value = .ok (.self s) ∧
      s.Fails auth.credential.publicKey (auth.raw ++ clientDataHash) c e

variable {value auth clientDataHash}

theorem Fails.unique {c : Check} {e e' : Error} (h : Fails value auth clientDataHash c e)
    (h' : Fails value auth clientDataHash c e') : e = e' := by
  cases c with
  | statement c => exact Statement.Check.Fails.unique h h'
  | basic c =>
    obtain ⟨s, hs, h⟩ := h
    obtain ⟨s', hs', h'⟩ := h'
    cases hs.symm.trans hs'
    exact h.unique h'
  | self c =>
    obtain ⟨s, hs, h⟩ := h
    obtain ⟨s', hs', h'⟩ := h'
    cases hs.symm.trans hs'
    exact h.unique h'

end Check

end PackedAttestation
