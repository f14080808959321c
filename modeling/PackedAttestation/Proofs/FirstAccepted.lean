import Mathlib.Control.Monad.Basic
import PackedAttestation.CertificateSignature
import PackedAttestation.Proofs.TrialEvents

/-! # The algorithm that verifies a signature

Verification under the key of a certificate tries algorithms one after the other.  An attempt
holds, does not hold, or ends in an error (`SignatureAlgorithm.outcome_attempt`), and a key
accepts a signature under an algorithm if the attempt holds.  Whatever the other attempts end
in, the algorithm found is the first one under which the signature is accepted
(`SignatureAlgorithm.outcome_firstValid`), and the algorithms tried are the declared one and the
one fallback (`SignatureAlgorithm.mem_candidates_iff`).
-/
namespace PackedAttestation

open Certificate (PublicKey)

namespace SignatureAlgorithm

variable {key : PublicKey} {signature message : Bytes} {algorithm : SignatureAlgorithm}

/-! ### One attempt -/

/-- A key accepts a signature under an algorithm: it is of the kind that the algorithm needs, and
the check of the signature says yes. -/
def Accepts (key : PublicKey) (signature message : Bytes) (algorithm : SignatureAlgorithm) : Prop :=
  key.kind = algorithm.keyKind ∧ key.verify algorithm.digest? signature message = .ok true

instance : DecidablePred (Accepts key signature message) := fun _ =>
  inferInstanceAs (Decidable (_ ∧ _))

theorem outcome_attempt :
    (algorithm.attempt key signature message).outcome =
      if key.kind = algorithm.keyKind then .ok (key.verify algorithm.digest? signature message)
      else .ok (.ok false) := by
  rw [attempt, ite_not]
  split <;> rfl

/-- An attempt always comes to a result, which may be an error of the provider. -/
theorem exists_outcome_attempt (algorithm : SignatureAlgorithm) (key : PublicKey)
    (signature message : Bytes) :
    ∃ result, (algorithm.attempt key signature message).outcome = .ok result := by
  rw [outcome_attempt]
  split <;> exact ⟨_, rfl⟩

theorem outcome_attempt_eq_ok_true_iff :
    (algorithm.attempt key signature message).outcome = .ok (.ok true) ↔
      Accepts key signature message algorithm := by
  rw [outcome_attempt, Accepts]
  split <;> simp [*]

/-- In other words, the attempt does not hold, or ends in an error. -/
theorem not_accepts_iff_outcome_attempt :
    ¬Accepts key signature message algorithm ↔
      (algorithm.attempt key signature message).outcome = .ok (.ok false) ∨
        ∃ fault, (algorithm.attempt key signature message).outcome = .ok (.error fault) := by
  obtain ⟨result, hresult⟩ := exists_outcome_attempt algorithm key signature message
  rw [← outcome_attempt_eq_ok_true_iff, hresult]
  rcases result with fault | _ | _ <;> simp

/-! ### One attempt after the other -/

/-- The first of the algorithms under which a key accepts a signature. -/
def firstAccepted? (key : PublicKey) (signature message : Bytes)
    (algorithms : List SignatureAlgorithm) : Option SignatureAlgorithm :=
  algorithms.find? fun algorithm => Accepts key signature message algorithm

theorem firstAccepted?_cons_of_accepts (h : Accepts key signature message algorithm)
    (rest : List SignatureAlgorithm) :
    firstAccepted? key signature message (algorithm :: rest) = some algorithm :=
  List.find?_cons_of_pos (decide_eq_true h)

theorem firstAccepted?_cons_of_not_accepts (h : ¬Accepts key signature message algorithm)
    (rest : List SignatureAlgorithm) :
    firstAccepted? key signature message (algorithm :: rest) =
      firstAccepted? key signature message rest :=
  List.find?_cons_of_neg (by simpa using h)

/-- One step: an algorithm under which the signature is accepted is found. After any other
result, an error included, the rest is tried. -/
theorem outcome_firstValid_cons (again : Bool) (rest : List SignatureAlgorithm) :
    (firstValid key signature message again (algorithm :: rest)).outcome =
      if Accepts key signature message algorithm then .ok (some algorithm)
      else (firstValid key signature message true rest).outcome := by
  obtain ⟨result, hresult⟩ := exists_outcome_attempt algorithm key signature message
  have haccepts : result = .ok true ↔ Accepts key signature message algorithm := by
    rw [← outcome_attempt_eq_ok_true_iff, hresult, Except.ok.injEq]
  simp only [firstValid, Trial.outcome_ite_note_bind, Trial.bind_of_ok hresult, ← haccepts]
  rcases result with fault | _ | _ <;> simp

/-- Trying algorithms finds the first one under which the signature is accepted. -/
theorem outcome_firstValid (again : Bool) (algorithms : List SignatureAlgorithm) :
    (firstValid key signature message again algorithms).outcome =
      .ok (firstAccepted? key signature message algorithms) := by
  -- Whether one was tried before is noted, and so it varies, but decides nothing.
  induction algorithms generalizing again with
  | nil => rfl
  | cons algorithm rest ih =>
    rw [outcome_firstValid_cons]
    split
    · rename_i haccepts
      rw [firstAccepted?_cons_of_accepts haccepts]
    · rename_i hfails
      rw [firstAccepted?_cons_of_not_accepts hfails, ih]

/-! ### The algorithms tried -/

theorem candidates_eq (declared : Option SignatureAlgorithm) :
    candidates declared =
      declared.toList ++ if declared = some ecdsaSha256 then [] else [ecdsaSha256] := by
  rw [candidates, fallbacks]
  by_cases hdeclared : declared = some ecdsaSha256
  · simp [hdeclared]
  · have hother : some ecdsaSha256 ≠ declared := fun heq => hdeclared heq.symm
    simp [hdeclared, hother]

theorem mem_candidates_iff {declared : Option SignatureAlgorithm} :
    algorithm ∈ candidates declared ↔ declared = some algorithm ∨ algorithm = ecdsaSha256 := by
  rw [candidates_eq, List.mem_append, Option.mem_toList]
  by_cases hdeclared : declared = some ecdsaSha256
  · subst hdeclared
    simp [eq_comm]
  · simp [hdeclared]

theorem of_firstAccepted? {declared : Option SignatureAlgorithm}
    (h : firstAccepted? key signature message (candidates declared) = some algorithm) :
    (declared = some algorithm ∨ algorithm = ecdsaSha256) ∧
      Accepts key signature message algorithm :=
  ⟨mem_candidates_iff.mp (List.mem_of_find?_eq_some h), by simpa using List.find?_some h⟩

end SignatureAlgorithm

namespace Certificate

open SignatureAlgorithm

variable {certificate : Certificate} {signature message : Bytes}

theorem outcome_verifySignature_of_none (h : certificate.key = none) :
    (certificate.verifySignature signature message).outcome = .ok none := by
  rw [verifySignature, h]
  rfl

theorem outcome_verifySignature_of_key {key : PublicKey} (h : certificate.key = some key) :
    (certificate.verifySignature signature message).outcome =
      .ok (firstAccepted? key signature message (candidates certificate.declaredAlgorithm?)) := by
  simp only [verifySignature, h, Trial.outcome_ite_note_bind, outcome_firstValid]

end Certificate
end PackedAttestation
