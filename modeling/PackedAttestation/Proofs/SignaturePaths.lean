import PackedAttestation.Proofs.LeafExtensions
import PackedAttestation.Proofs.SignatureEncoding

/-! # ECDSA by a certificate key and by a credential key

A signature with SHA-256 on the curve P-256 is checked in two ways.  Under the key of a
certificate it has to be in its shortest form; under a credential key it is read by the
lenient reader.  For the same point of the curve, the first way accepts exactly those
signatures in the shortest form that the second accepts (`attempt_ecdsaSha256_iff`).
-/
namespace PackedAttestation

open Der
open Certificate (PublicKey)

/-! ### Points of certificate keys -/

namespace Curve

variable {c : Curve} {x y : Nat}

theorem contains_of_decompress? {x₀ : Nat} {odd : Bool}
    (h : c.decompress? x₀ odd = some (.affine x y)) : c.contains x y = true := by
  obtain ⟨root, -, h⟩ := Option.bind_eq_some_iff.mp h
  rw [Option.ite_none_right_eq_some, Option.some.injEq, Point.affine.injEq] at h
  obtain ⟨hcontains, rfl, rfl⟩ := h
  exact hcontains

/-- The coordinates of a point that loads are those of a point of the curve. -/
theorem contains_of_pointOfBytes? {bs : Bytes} (h : c.pointOfBytes? bs = some (.affine x y)) :
    c.contains x y = true := by
  cases bs with
  | nil => cases h
  | cons lead rest =>
    simp only [pointOfBytes?] at h
    split at h
    case h_1 => split at h <;> cases h
    case h_2 | h_3 =>
      split at h
      · exact contains_of_decompress? h
      · cases h
    case h_4 =>
      split at h
      · rename_i hpoint
        cases h
        exact hpoint.2
      · cases h
    case h_5 | h_6 =>
      split at h
      · rename_i hpoint
        cases h
        exact hpoint.2.1
      · cases h
    case h_7 => cases h

end Curve

theorem Ber.exists_of_fields? {α : Type} {f : Bytes → Option (α × Bytes)} {bs rest : Bytes} {a : α}
    (h : fields? f bs = some (a, rest)) : ∃ content after, f content = some (a, after) := by
  obtain ⟨frame, -, h⟩ := Option.bind_eq_some_iff.mp h
  split at h
  · rw [Frame.within?] at h
    split at h
    · split at h
      · rename_i hf
        cases h
        exact ⟨_, _, hf⟩
      · cases h
    · split at h
      · rename_i hf
        cases h
        exact ⟨_, _, hf⟩
      · cases h
  · cases h

namespace Certificate

theorem contains_of_ofCurve? {curve : AnyCurve} {octets : Bytes} {c : Curve} {x y : Nat}
    (h : PublicKey.ofCurve? curve octets = some (.ec c (.affine x y))) : c.contains x y = true := by
  cases curve with
  | prime curve =>
    obtain ⟨point, hpoint, h⟩ := Option.bind_eq_some_iff.mp h
    rw [Option.pure_def, Option.some.injEq] at h
    split at h
    · cases h
    · cases h
      exact Curve.contains_of_pointOfBytes? hpoint
  | binary curve =>
    obtain ⟨point, -, h⟩ := Option.map_eq_some_iff.mp h
    cases h

theorem PublicKey.eq_of_integerKey? {kind : ForeignKind} {read? : Bytes → Option (Unit × Bytes)}
    {algorithm : Algorithm} {bits : Bytes} {key : PublicKey}
    (h : integerKey? kind read? algorithm bits = some key) : key = .foreign kind := by
  rw [integerKey?] at h
  split at h
  · simp only [Option.pure_def, Option.bind_eq_bind, Option.bind_eq_some_iff,
      Option.some.injEq] at h
    obtain ⟨_, -, _, -, rfl⟩ := h
    rfl
  · cases h

/-- Points are loaded for the algorithm of keys on curves, and for that of keys on SM2. -/
theorem ofCurve?_of_ofBits? {algorithm : Algorithm} {bits : Bytes} {c : Curve} {q : Curve.Point}
    (h : PublicKey.ofBits? algorithm bits = some (.ec c q)) :
    ∃ curve, PublicKey.ofCurve? curve bits = some (.ec c q) := by
  unfold PublicKey.ofBits? at h
  dsimp only at h
  by_cases hec : algorithm.oid = Oid.ecPublicKey
  · rw [if_pos hec] at h
    obtain ⟨curve, -, h⟩ := Option.bind_eq_some_iff.mp h
    exact ⟨curve, h⟩
  rw [if_neg hec] at h
  by_cases hsm2 : algorithm.oid = Oid.sm2
  · rw [if_pos hsm2] at h
    obtain ⟨curve, -, h⟩ := Option.bind_eq_some_iff.mp h
    exact ⟨curve, (Option.ite_none_right_eq_some.mp h).2⟩
  rw [if_neg hsm2] at h
  -- None of the other algorithms loads a point.
  have hinteger {kind : ForeignKind} {read? : Bytes → Option (Unit × Bytes)} :
      PublicKey.integerKey? kind read? algorithm bits ≠ some (.ec c q) := by
    intro h
    cases PublicKey.eq_of_integerKey? h
  simp [hinteger, PublicKey.plainKey?, ite_eq_iff] at h

theorem contains_of_ofBits? {algorithm : Algorithm} {bits : Bytes} {c : Curve} {x y : Nat}
    (h : PublicKey.ofBits? algorithm bits = some (.ec c (.affine x y))) :
    c.contains x y = true := by
  obtain ⟨curve, hcurve⟩ := ofCurve?_of_ofBits? h
  exact contains_of_ofCurve? hcurve

theorem contains_of_subjectKey? {bs rest : Bytes} {c : Curve} {x y : Nat}
    (h : subjectKey? bs = some (some (.ec c (.affine x y)), rest)) : c.contains x y = true := by
  obtain ⟨⟨⟨algorithm, bits⟩, after⟩, -, h⟩ := Option.bind_eq_some_iff.mp h
  obtain ⟨-, h⟩ := Option.ite_none_right_eq_some.mp h
  rw [Option.some.injEq, Prod.mk.injEq, Option.ite_none_right_eq_some] at h
  exact contains_of_ofBits? h.1.2

/-- A key that a certificate loads with is on its curve. -/
theorem contains_of_read? {der rest : Bytes} {certificate : Certificate} {c : Curve} {x y : Nat}
    (hread : read? der = some (certificate, rest))
    (hkey : certificate.key = some (.ec c (.affine x y))) : c.contains x y = true := by
  obtain ⟨content, after, h⟩ := Ber.exists_of_fields? hread
  simp only [Option.bind_eq_bind, Option.bind_eq_some_iff] at h
  obtain ⟨⟨key, _⟩, hbody, _, -, _, -, heq⟩ := h
  cases heq
  dsimp only at hkey
  subst hkey
  obtain ⟨content, after, h⟩ := Ber.exists_of_fields? hbody
  simp only [Option.bind_eq_bind, Option.bind_eq_some_iff] at h
  -- The version, the serial number, an algorithm, two names and the validity are not looked at.
  obtain ⟨_, -, _, -, _, -, _, -, _, -, _, -, ⟨key, _⟩, hkey, _, -, _, -, _, -, heq⟩ := h
  cases heq
  exact contains_of_subjectKey? hkey

end Certificate

/-! ### The two ways -/

namespace Ecdsa

/-- The numbers of a signature that verifies are at least one and below the order of the
curve. -/
theorem range_of_verify {n : Nat} {combineX? : (k l : Nat) → Option Nat} {digest : Bytes}
    {r s : Nat} (h : verify n combineX? digest r s = .ok true) :
    (1 ≤ r ∧ r < n) ∧ 1 ≤ s ∧ s < n := by
  rw [verify] at h
  split at h
  · rename_i hrange
    exact ⟨⟨hrange.1, hrange.2.1⟩, hrange.2.2⟩
  · cases h

variable {q : Curve.Point} {signature : Signature} {bs message : Bytes}

/-- A signature that verifies on P-256 is written in few bytes. -/
theorem length_content_le_of_checkP256 (hshortest : signature.IsShortest)
    (h : checkP256 q signature message = .ok true) : signature.content.length ≤ 70 := by
  obtain ⟨⟨-, hr⟩, -, hs⟩ := range_of_verify h
  have hn : Curve.p256.n < 256 ^ 32 := by decide
  have hrLength : signature.r.length ≤ 32 := hshortest.1.length_le (hr.trans hn)
  have hsLength : signature.s.length ≤ 32 := hshortest.2.length_le (hs.trans hn)
  have hrWritten := length_encodeUnsigned_le (Nat.lt_of_le_of_lt hrLength (by decide))
  have hsWritten := length_encodeUnsigned_le (Nat.lt_of_le_of_lt hsLength (by decide))
  rw [Signature.content, List.length_append]
  omega

/-- The numbers of a signature that verifies on P-256 load. -/
theorem loads_of_checkP256 (h : checkP256 q signature message = .ok true) : signature.Loads := by
  obtain ⟨⟨-, hr⟩, -, hs⟩ := range_of_verify h
  have hload {bs : Bytes} (hlt : Bytes.toNat bs < Curve.p256.n) : Provider.Loads bs := by
    have hlt' : Bytes.toNat (Bytes.dropZeros bs) < 256 ^ 32 := by
      rw [Bytes.toNat_dropZeros]
      exact hlt.trans (by decide)
    exact ((Bytes.shortest_dropZeros bs).length_le hlt').trans (by decide)
  exact ⟨hload hr, hload hs⟩

theorem outcome_verifyP256_eq_ok_true_iff_checkP256 :
    (verifyP256 q signature message).outcome = .ok true ↔
      checkP256 q signature message = .ok true := by
  rw [outcome_verifyP256_eq_ok_true_iff]
  exact and_iff_right_of_imp loads_of_checkP256

/-- The strict way makes the same check of the numbers that it reads. -/
theorem verifyStrict_sha256_eq_ok_true_iff :
    verifyStrict Curve.p256.n (Curve.p256.combineX? q) .sha256 bs message = .ok true ↔
      ∃ signature, Signature.readStrict? bs = some signature ∧
        checkP256 q signature message = .ok true := by
  rw [verifyStrict]
  cases Signature.readStrict? bs with
  | none => simp
  | some signature => simp [checkP256]

/-- Under one point, the strict way accepts those signatures in the shortest form that the
lenient way accepts. -/
theorem verifyStrict_sha256_iff :
    verifyStrict Curve.p256.n (Curve.p256.combineX? q) .sha256 bs message = .ok true ↔
      (∃ r s : Nat, bs = Signature.encode ⟨Bytes.ofNat r, Bytes.ofNat s⟩) ∧
      ∃ signature, Signature.ofDer bs = .ok signature ∧
        (verifyP256 q signature message).outcome = .ok true := by
  simp only [verifyStrict_sha256_eq_ok_true_iff, outcome_verifyP256_eq_ok_true_iff_checkP256]
  constructor
  · rintro ⟨signature, hread, hcheck⟩
    obtain ⟨hshortest, rfl⟩ := Signature.eq_encode_of_readStrict? hread
    have hlength := length_content_le_of_checkP256 hshortest hcheck
    refine ⟨⟨Bytes.toNat signature.r, Bytes.toNat signature.s, ?_⟩, signature, ?_, hcheck⟩
    · rw [Bytes.ofNat_toNat hshortest.1, Bytes.ofNat_toNat hshortest.2]
    · exact Signature.ofDer_encode hshortest (Nat.lt_of_le_of_lt hlength (by decide))
  · rintro ⟨⟨r, s, rfl⟩, signature, hread, hcheck⟩
    have hshortest : Signature.IsShortest ⟨Bytes.ofNat r, Bytes.ofNat s⟩ :=
      ⟨Bytes.shortest_ofNat r, Bytes.shortest_ofNat s⟩
    -- Numbers too large to be written and read do not get here.
    have hreadable := Signature.length_content_lt_of_ofDer hread
    cases hread.symm.trans (Signature.ofDer_encode hshortest hreadable)
    have hlength := length_content_le_of_checkP256 hshortest hcheck
    exact ⟨_, Signature.readStrict?_encode hshortest (Nat.lt_of_le_of_lt hlength (by decide)),
      hcheck⟩

end Ecdsa

/-- Under a point of a curve the attempt is the strict check. -/
theorem SignatureAlgorithm.outcome_attempt_ec (c : Curve) (q : Curve.Point)
    (signature message : Bytes) :
    (ecdsaSha256.attempt (.ec c q) signature message).outcome =
      .ok (Ecdsa.verifyStrict c.n (c.combineX? q) .sha256 signature message) :=
  rfl

/-- **The two ways agree.** Let the key of a certificate be the point of P-256 with the given
coordinates. The credential key with these coordinates is the same point. A signature of any
message verifies with ECDSA and SHA-256 under the key of the certificate exactly if it is some
pair of numbers in the shortest form, and the lenient reader reads it as a signature that
verifies under the credential key. -/
theorem attempt_ecdsaSha256_iff {der rest x y : Bytes} {certificate : Certificate}
    (hread : Certificate.read? der = some (certificate, rest))
    (hkey : certificate.key =
      some (.ec Curve.p256 (.affine (Bytes.toNat x) (Bytes.toNat y)))) :
    ∃ key point, certificate.key = some key ∧ Ecdsa.p256Key? x y = some point ∧
      ∀ signature message : Bytes,
        (SignatureAlgorithm.ecdsaSha256.attempt key signature message).outcome = .ok (.ok true) ↔
          (∃ r s : Nat, signature = Ecdsa.Signature.encode ⟨Bytes.ofNat r, Bytes.ofNat s⟩) ∧
          ∃ numbers, Ecdsa.Signature.ofDer signature = .ok numbers ∧
            (Ecdsa.verifyP256 point numbers message).outcome = .ok true := by
  have hpoint : Ecdsa.p256Key? x y = some (.affine (Bytes.toNat x) (Bytes.toNat y)) :=
    if_pos (Certificate.contains_of_read? hread hkey)
  refine ⟨_, _, hkey, hpoint, fun signature message => ?_⟩
  rw [SignatureAlgorithm.outcome_attempt_ec, Except.ok.injEq, Ecdsa.verifyStrict_sha256_iff]

namespace Specimen

/-- The signature of the specimen with one octet more for the length. -/
def longSig : Bytes :=
  [0x30, 0x81] ++ sig.drop 1

/-- Under the key of the specimen its signature is accepted in both ways. In a longer form the
lenient reader reads the same numbers, and the strict way ends in an error. -/
theorem ways_agree :
    ∃ point numbers, (leaf plain).key = some key ∧ Ecdsa.p256Key? x y = some point ∧
      (SignatureAlgorithm.ecdsaSha256.attempt key sig (auth.raw ++ clientDataHash)).outcome =
        .ok (.ok true) ∧
      (∃ r s : Nat, sig = Ecdsa.Signature.encode ⟨Bytes.ofNat r, Bytes.ofNat s⟩) ∧
      Ecdsa.Signature.ofDer sig = .ok numbers ∧ Ecdsa.Signature.ofDer longSig = .ok numbers ∧
      (Ecdsa.verifyP256 point numbers (auth.raw ++ clientDataHash)).outcome = .ok true ∧
      (SignatureAlgorithm.ecdsaSha256.attempt key longSig (auth.raw ++ clientDataHash)).outcome =
        .ok (.error .formRefused) := by
  have haccepted := SignatureAlgorithm.outcome_attempt_eq_ok_true_iff.mpr accepts_ecdsaSha256
  have hsame : Ecdsa.Signature.ofDer longSig = Ecdsa.Signature.ofDer sig := by decide
  have hrefused := SignatureAlgorithm.outcome_attempt_ec Curve.p256
    (.affine (Bytes.toNat x) (Bytes.toNat y)) longSig (auth.raw ++ clientDataHash)
  rw [Ecdsa.verifyStrict, show Ecdsa.Signature.readStrict? longSig = none by decide] at hrefused
  obtain ⟨_, point, hkey, hpoint, hiff⟩ := attempt_ecdsaSha256_iff wellFormed_plain.2 rfl
  cases hkey
  obtain ⟨hform, numbers, hread, hverifies⟩ := (hiff sig (auth.raw ++ clientDataHash)).mp haccepted
  exact ⟨point, numbers, rfl, hpoint, haccepted, hform, hread, hsame.trans hread, hverifies,
    hrefused⟩

end Specimen
end PackedAttestation
