import PackedAttestation.Proofs.SelfVerification
import PackedAttestation.Proofs.SignaturePaths
import Mathlib.Data.Int.ModEq
import Mathlib.Tactic.Ring

/-! # Credential keys and signatures as numbers

The coordinates of a credential key and the two numbers of a signature come as byte
strings of any length, and what is checked are the numbers that they spell.  A key is a
finite point with reduced coordinates, both numbers of a signature that verifies lie
between one and the order of the curve, and zero bytes in front are not seen
(`Ecdsa.p256_sees_numbers`).
-/
namespace PackedAttestation

@[simp] theorem Bytes.toNat_replicate_zero_append (k : Nat) (bs : Bytes) :
    toNat (List.replicate k 0 ++ bs) = toNat bs := by
  induction k with
  | zero => rfl
  | succ k ih => rw [List.replicate_succ, List.cons_append, toNat_zero_cons, ih]

/-- Byte strings that spell the same number are the same but for zero bytes in front. -/
theorem Bytes.dropZeros_congr {bs bs' : Bytes} (h : toNat bs' = toNat bs) :
    dropZeros bs' = dropZeros bs := by
  rw [← ofNat_toNat (shortest_dropZeros bs'), toNat_dropZeros, h, ← toNat_dropZeros bs,
    ofNat_toNat (shortest_dropZeros bs)]

/-! ### Points of a curve -/

namespace Curve

/-- Two numbers are coordinates of a point: both are reduced, and the equation of the curve
holds modulo its prime. -/
structure IsPoint (c : Curve) (x y : Nat) : Prop where
  x_lt : x < c.p
  y_lt : y < c.p
  equation : (y : ℤ) ^ 2 ≡ (x : ℤ) ^ 3 + c.a * x + c.b [ZMOD c.p]

variable {c : Curve} {x y : Nat}

theorem contains_iff_isPoint : c.contains x y = true ↔ c.IsPoint x y := by
  have hsquare : (y : ℤ) ^ 2 = ((y * y : Nat) : ℤ) := by push_cast; ring
  have hcubic : (x : ℤ) ^ 3 + c.a * x + c.b = ((x * x * x + c.a * x + c.b : Nat) : ℤ) := by
    push_cast; ring
  have hequation : (y : ℤ) ^ 2 ≡ (x : ℤ) ^ 3 + c.a * x + c.b [ZMOD c.p] ↔
      y * y % c.p = (x * x * x + c.a * x + c.b) % c.p := by
    rw [hsquare, hcubic, Int.natCast_modEq_iff, Nat.ModEq]
  unfold contains
  simp only [Bool.and_eq_true, decide_eq_true_eq, beq_iff_eq, ← hequation]
  constructor
  · rintro ⟨⟨hx, hy⟩, h⟩
    exact ⟨hx, hy, h⟩
  · rintro ⟨hx, hy, h⟩
    exact ⟨⟨hx, hy⟩, h⟩

/-- The curve P-256 is `y² = x³ - 3 x + b`. -/
theorem p256_isPoint_iff :
    p256.IsPoint x y ↔
      x < p256.p ∧ y < p256.p ∧
        (y : ℤ) ^ 2 ≡ (x : ℤ) ^ 3 - 3 * x + p256.b [ZMOD p256.p] := by
  have ha : (p256.a : ℤ) ≡ -3 [ZMOD p256.p] := by decide
  have hcubic :
      (x : ℤ) ^ 3 + p256.a * x + p256.b ≡ (x : ℤ) ^ 3 - 3 * x + p256.b [ZMOD p256.p] := by
    calc (x : ℤ) ^ 3 + p256.a * x + p256.b
      _ ≡ (x : ℤ) ^ 3 + -3 * x + p256.b [ZMOD p256.p] :=
        ((ha.mul_right _).add_left _).add_right _
      _ = (x : ℤ) ^ 3 - 3 * x + p256.b := by ring
  constructor
  · rintro ⟨hx, hy, h⟩
    exact ⟨hx, hy, h.trans hcubic⟩
  · rintro ⟨hx, hy, h⟩
    exact ⟨hx, hy, h.trans hcubic.symm⟩

end Curve

namespace Ecdsa

variable {x x' y y' r r' s s' message : Bytes} {point : Curve.Point}

/-! ### Keys -/

theorem p256Key?_eq_some_iff :
    p256Key? x y = some point ↔
      Curve.p256.IsPoint (Bytes.toNat x) (Bytes.toNat y) ∧
        point = .affine (Bytes.toNat x) (Bytes.toNat y) := by
  unfold p256Key?
  rw [Option.ite_none_right_eq_some, Curve.contains_iff_isPoint, Option.some.injEq,
    eq_comm (a := point)]

theorem p256Key?_eq_none (h : ¬Curve.p256.IsPoint (Bytes.toNat x) (Bytes.toNat y)) :
    p256Key? x y = none :=
  if_neg (mt Curve.contains_iff_isPoint.mp h)

theorem p256Key?_congr (hx : Bytes.toNat x' = Bytes.toNat x)
    (hy : Bytes.toNat y' = Bytes.toNat y) :
    p256Key? x' y' = p256Key? x y := by
  unfold p256Key?
  rw [hx, hy]

theorem p256Key?_origin (hx : Bytes.toNat x = 0) (hy : Bytes.toNat y = 0) :
    p256Key? x y = none := by
  apply p256Key?_eq_none
  rw [hx, hy]
  intro h
  -- The right-hand side of the equation is the constant of the curve.
  have hzero := h.equation
  revert hzero
  decide

/-! ### Signatures -/

theorem loadNumber_congr (h : Bytes.toNat r' = Bytes.toNat r) : loadNumber r' = loadNumber r := by
  unfold loadNumber Provider.loadNumber
  rw [Bytes.dropZeros_congr h, h]

theorem verifyP256_congr (hr : Bytes.toNat r' = Bytes.toNat r)
    (hs : Bytes.toNat s' = Bytes.toNat s) :
    verifyP256 point ⟨r', s'⟩ message = verifyP256 point ⟨r, s⟩ message := by
  unfold verifyP256
  rw [loadNumber_congr hr, loadNumber_congr hs]

theorem range_of_verifyP256 {signature : Signature}
    (h : (verifyP256 point signature message).outcome = .ok true) :
    (1 ≤ Bytes.toNat signature.r ∧ Bytes.toNat signature.r < Curve.p256.n) ∧
      1 ≤ Bytes.toNat signature.s ∧ Bytes.toNat signature.s < Curve.p256.n :=
  range_of_verify (outcome_verifyP256_eq_ok_true_iff.mp h).2

/-- **P-256 works on numbers.** Let the coordinates of a key and the numbers of a signature be
byte strings of any length. The coordinates make a key exactly if the numbers they spell are
below the prime `p` of the field and fulfil `y² = x³ - 3 x + b` modulo `p`, and the key is then
the finite point with these coordinates. So it is not the point at infinity, the origin is
refused, and so is a coordinate to which `p` has been added. A signature that verifies, under
whatever point and for whatever message, has both numbers at least one and below the order of
the curve. Both answers depend on the numbers only: zero bytes may be put in front of any of the
four byte strings, or taken away. -/
theorem p256_sees_numbers (x y r s : Bytes) (point : Curve.Point) (message : Bytes) :
    (p256Key? x y = some point ↔
      Bytes.toNat x < Curve.p256.p ∧ Bytes.toNat y < Curve.p256.p ∧
      (Bytes.toNat y : ℤ) ^ 2 ≡
        (Bytes.toNat x : ℤ) ^ 3 - 3 * Bytes.toNat x + Curve.p256.b [ZMOD Curve.p256.p] ∧
      point = .affine (Bytes.toNat x) (Bytes.toNat y)) ∧
    p256Key? x y ≠ some .infinity ∧
    (Bytes.toNat x = 0 ∧ Bytes.toNat y = 0 → p256Key? x y = none) ∧
    (Curve.p256.p ≤ Bytes.toNat x ∨ Curve.p256.p ≤ Bytes.toNat y → p256Key? x y = none) ∧
    ((verifyP256 point ⟨r, s⟩ message).outcome = .ok true →
      (1 ≤ Bytes.toNat r ∧ Bytes.toNat r < Curve.p256.n) ∧
        1 ≤ Bytes.toNat s ∧ Bytes.toNat s < Curve.p256.n) ∧
    (∀ x' y' r' s' : Bytes, Bytes.toNat x' = Bytes.toNat x → Bytes.toNat y' = Bytes.toNat y →
      Bytes.toNat r' = Bytes.toNat r → Bytes.toNat s' = Bytes.toNat s →
        p256Key? x' y' = p256Key? x y ∧
          verifyP256 point ⟨r', s'⟩ message = verifyP256 point ⟨r, s⟩ message) ∧
    (∀ i j k l : Nat,
      p256Key? (.replicate i 0 ++ x) (.replicate j 0 ++ y) = p256Key? x y ∧
        verifyP256 point ⟨.replicate k 0 ++ r, .replicate l 0 ++ s⟩ message =
          verifyP256 point ⟨r, s⟩ message) ∧
    p256Key? (Bytes.dropZeros x) (Bytes.dropZeros y) = p256Key? x y ∧
    verifyP256 point ⟨Bytes.dropZeros r, Bytes.dropZeros s⟩ message =
      verifyP256 point ⟨r, s⟩ message := by
  refine ⟨?key, ?infinity, ?origin, ?reduced, ?range, ?values, ?padded, ?strippedKey, ?stripped⟩
  case key =>
    rw [p256Key?_eq_some_iff, Curve.p256_isPoint_iff, and_assoc, and_assoc]
  case infinity =>
    intro h
    obtain ⟨-, hfinite⟩ := p256Key?_eq_some_iff.mp h
    cases hfinite
  case origin =>
    rintro ⟨hx, hy⟩
    exact p256Key?_origin hx hy
  case reduced =>
    intro hlarge
    apply p256Key?_eq_none
    intro h
    have hx := h.x_lt
    have hy := h.y_lt
    omega
  case range => exact range_of_verifyP256
  case values =>
    intro x' y' r' s' hx hy hr hs
    exact ⟨p256Key?_congr hx hy, verifyP256_congr hr hs⟩
  case padded =>
    intro i j k l
    refine ⟨p256Key?_congr ?_ ?_, verifyP256_congr ?_ ?_⟩ <;>
      exact Bytes.toNat_replicate_zero_append _ _
  case strippedKey => exact p256Key?_congr (Bytes.toNat_dropZeros x) (Bytes.toNat_dropZeros y)
  case stripped => exact verifyP256_congr (Bytes.toNat_dropZeros r) (Bytes.toNat_dropZeros s)

end Ecdsa

namespace Specimen

/-- Zero bytes in front of the numbers of the specimen are not seen. -/
theorem padded_verifies :
    ∃ point r s, Ecdsa.Signature.ofDer sig = .ok ⟨r, s⟩ ∧
      Ecdsa.p256Key? (.replicate 3 0 ++ x) (.replicate 1 0 ++ y) = some point ∧
      (Ecdsa.verifyP256 point ⟨.replicate 2 0 ++ r, .replicate 40 0 ++ s⟩
        (auth.raw ++ clientDataHash)).outcome = .ok true ∧
      (1 ≤ Bytes.toNat r ∧ Bytes.toNat r < Curve.p256.n) ∧
      1 ≤ Bytes.toNat s ∧ Bytes.toNat s < Curve.p256.n := by
  have hpoint : Ecdsa.p256Key? x y = some (.affine (Bytes.toNat x) (Bytes.toNat y)) := by
    decide +kernel
  have hstrict : Ecdsa.verifyStrict Curve.p256.n
      (Curve.p256.combineX? (.affine (Bytes.toNat x) (Bytes.toNat y))) .sha256 sig
      (auth.raw ++ clientDataHash) = .ok true :=
    accepts_ecdsaSha256.2
  obtain ⟨-, ⟨r, s⟩, hread, hvalid⟩ := Ecdsa.verifyStrict_sha256_iff.mp hstrict
  obtain ⟨-, -, -, -, hrange, -, hpadded, -⟩ :=
    Ecdsa.p256_sees_numbers x y r s (.affine (Bytes.toNat x) (Bytes.toNat y))
      (auth.raw ++ clientDataHash)
  obtain ⟨hkey, hverify⟩ := hpadded 3 1 2 40
  refine ⟨_, r, s, hread, hkey.trans hpoint, ?_, hrange hvalid⟩
  rw [hverify]
  exact hvalid

end Specimen
end PackedAttestation
