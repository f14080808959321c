import PackedAttestation.Proofs.TrialEvents
import PackedAttestation.Verify

/-! # When a self statement verifies

Self attestation passes a gate on the credential key and the algorithm named by the
statement, reads the signature, builds the point of the key, loads the numbers of the
signature, and checks them under the key (`Ecdsa.outcome_verifyP256_eq_ok_true_iff`).  It
succeeds exactly if all of these do (`SelfStatement.outcome_verify_eq_ok_iff`), and there is
only one thing it can then establish.
-/
namespace PackedAttestation

/-! ### Numbers -/

/-- A number loads: it has few enough bytes, the zero bytes in front apart. -/
def Provider.Loads (bs : Bytes) : Prop :=
  (Bytes.dropZeros bs).length ≤ numberSize

instance (bs : Bytes) : Decidable (Provider.Loads bs) :=
  inferInstanceAs (Decidable (_ ≤ _))

namespace Ecdsa

variable {bs message : Bytes} {point : Curve.Point} {signature : Signature}

theorem loadNumber_of_loads (h : Provider.Loads bs) : loadNumber bs = pure (Bytes.toNat bs) := by
  rw [Provider.Loads] at h
  rw [loadNumber, Provider.loadNumber, if_pos h]

theorem loadNumber_of_not_loads (h : ¬Provider.Loads bs) :
    loadNumber bs = Trial.fail (.provider .numberTooLong) := by
  rw [Provider.Loads] at h
  rw [loadNumber, Provider.loadNumber, if_neg h]

/-- Both numbers of a signature load. -/
def Signature.Loads (signature : Signature) : Prop :=
  Provider.Loads signature.r ∧ Provider.Loads signature.s

instance (signature : Signature) : Decidable signature.Loads :=
  inferInstanceAs (Decidable (_ ∧ _))

/-- The check that is made of the numbers of a signature, with its error if it ends in one. -/
def checkP256 (point : Curve.Point) (signature : Signature) (message : Bytes) :
    Except ProviderFault Bool :=
  verify Curve.p256.n (Curve.p256.combineX? point) (Digest.sha256.run message)
    (Bytes.toNat signature.r) (Bytes.toNat signature.s)

theorem verifyP256_of_loads (h : signature.Loads) :
    verifyP256 point signature message =
      match checkP256 point signature message with
      | .ok valid => pure valid
      | .error fault => ⟨[.ecdsaFailed fault], .ok false⟩ := by
  rw [verifyP256, loadNumber_of_loads h.1, loadNumber_of_loads h.2]
  exact Trial.succeed_andThen _ _

/-- Where the check of the numbers ends in an error, the signature does not verify. -/
theorem outcome_verifyP256_of_loads (h : signature.Loads) :
    (verifyP256 point signature message).outcome =
      .ok ((checkP256 point signature message).toOption.getD false) := by
  rw [verifyP256_of_loads h]
  cases checkP256 point signature message <;> rfl

theorem outcome_verifyP256_of_not_loads (h : ¬signature.Loads) :
    (verifyP256 point signature message).outcome = .error (.provider .numberTooLong) := by
  rw [verifyP256]
  by_cases hr : Provider.Loads signature.r
  · have hs : ¬Provider.Loads signature.s := fun hs => h ⟨hr, hs⟩
    rw [loadNumber_of_loads hr, loadNumber_of_not_loads hs]
    rfl
  · rw [loadNumber_of_not_loads hr]
    rfl

/-- **A signature verifies exactly if its numbers load and the check of them says so.** -/
theorem outcome_verifyP256_eq_ok_true_iff :
    (verifyP256 point signature message).outcome = .ok true ↔
      signature.Loads ∧ checkP256 point signature message = .ok true := by
  by_cases h : signature.Loads
  · rw [outcome_verifyP256_of_loads h, and_iff_right h]
    rcases checkP256 point signature message with fault | _ | _ <;> simp [Except.toOption]
  · rw [outcome_verifyP256_of_not_loads h]
    simp [h]

end Ecdsa

/-! ### The gate -/

theorem Cose.Algorithm.ofId?_eq_some_iff {n : Int} {algorithm : Cose.Algorithm} :
    Cose.Algorithm.ofId? n = some algorithm ↔ n = algorithm.id := by
  constructor
  · intro h
    have hid := List.find?_some h
    exact (eq_of_beq hid).symm
  · rintro rfl
    cases algorithm <;> rfl

theorem Cose.Key.es256?_eq_some_iff {key : Cose.Key} {ec2 : Cose.Ec2Key} :
    key.es256? = some ec2 ↔
      key.material = .ec2 ec2 ∧ ec2.curve = .p256 ∧ key.algorithm = .es256 := by
  obtain ⟨algorithm, material⟩ := key
  cases material with
  | ec2 k =>
    simp only [es256?, Option.ite_none_right_eq_some, Option.some.injEq, KeyMaterial.ec2.injEq]
    constructor
    · rintro ⟨⟨hcurve, halg⟩, rfl⟩
      exact ⟨rfl, hcurve, halg⟩
    · rintro ⟨rfl, hcurve, halg⟩
      exact ⟨⟨hcurve, halg⟩, rfl⟩
  | _ => simp [es256?]

theorem Ecdsa.Signature.ofDer_eq_ok_iff {bs : Bytes} {signature : Ecdsa.Signature} :
    ofDer bs = .ok signature ↔ read bs = .ok (signature, []) := by
  rw [ofDer]
  cases read bs with
  | error fault => simp
  | ok result =>
    obtain ⟨s, rest⟩ := result
    by_cases hrest : rest = [] <;> simp [hrest]

/-! ### The statement -/

/-- **Self attestation, check by check.** -/
theorem SelfStatement.outcome_verify_eq_ok_iff {statement : SelfStatement} {key : Cose.Key}
    {message : Bytes} {a : Attestation} :
    (statement.verify key message).outcome = .ok a ↔
      a = ⟨.self, .none⟩ ∧ statement.alg.toInt = -7 ∧
      ∃ ec2 signature point,
        key.material = .ec2 ec2 ∧ ec2.curve = .p256 ∧ key.algorithm = .es256 ∧
        Ecdsa.Signature.ofDer statement.sig = .ok signature ∧
        Ecdsa.p256Key? ec2.x ec2.y = some point ∧
        (Ecdsa.verifyP256 point signature message).outcome = .ok true := by
  constructor
  · intro h
    rw [verify] at h
    split at h
    · cases h
    rename_i ec2 hkey
    split at h
    · cases h
    rename_i halg
    split at h
    · cases h
    rename_i signature rest hread
    split at h
    · cases h
    rename_i hrest
    split at h
    · cases h
    rename_i point hpoint
    obtain ⟨valid, hvalid, h⟩ := Trial.outcome_bind_eq_ok_iff.mp h
    cases valid with
    | false => cases h
    | true =>
      cases h
      obtain ⟨hmaterial, hcurve, hdeclared⟩ := Cose.Key.es256?_eq_some_iff.mp hkey
      rw [Decidable.not_not] at halg hrest
      subst hrest
      exact ⟨rfl, Cose.Algorithm.ofId?_eq_some_iff.mp halg, ec2, signature, point, hmaterial,
        hcurve, hdeclared, Ecdsa.Signature.ofDer_eq_ok_iff.mpr hread, hpoint, hvalid⟩
  · rintro ⟨rfl, halg, ec2, signature, point, hmaterial, hcurve, hdeclared, hread, hpoint, hvalid⟩
    have hkey : key.es256? = some ec2 :=
      Cose.Key.es256?_eq_some_iff.mpr ⟨hmaterial, hcurve, hdeclared⟩
    have hnamed : Cose.Algorithm.ofId? statement.alg.toInt = some .es256 :=
      Cose.Algorithm.ofId?_eq_some_iff.mpr halg
    rw [Ecdsa.Signature.ofDer_eq_ok_iff] at hread
    simp [verify, hkey, hnamed, hread, hpoint, Trial.bind_of_ok hvalid]

end PackedAttestation
