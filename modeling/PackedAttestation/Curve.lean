import PackedAttestation.Modular

/-! # Elliptic curves over prime fields

A curve is `y² = x³ + a x + b` over the numbers modulo a prime, with a base point
of prime order.  Sums are computed in Jacobian coordinates, where `(X, Y, Z)`
stands for the point `(X / Z², Y / Z³)` and `Z = 0` for the point at infinity, so
that one division at the end is enough.
-/
namespace PackedAttestation

/-- A point of a curve, or the point at infinity. -/
inductive Curve.Point where
  | infinity
  | affine (x y : Nat)
deriving DecidableEq

/-- A curve with its base point. -/
structure Curve where
  /-- The prime modulus of the field. -/
  p : Nat
  a : Nat
  b : Nat
  /-- The order of the base point. -/
  n : Nat
  base : Curve.Point
deriving DecidableEq

namespace Curve

variable (c : Curve)

/-- Whether two numbers are coordinates of a point: both are reduced, and the equation
of the curve holds. -/
def contains (x y : Nat) : Bool :=
  x < c.p && y < c.p && y * y % c.p == (x * x * x + c.a * x + c.b) % c.p

/-- The number of bytes of a coordinate. -/
def coordinateBytes : Nat :=
  c.p.log2 / 8 + 1

/-- A point in Jacobian coordinates. -/
structure Jacobian where
  x : Nat
  y : Nat
  z : Nat

namespace Jacobian

/-- The point at infinity. -/
def infinity : Jacobian := ⟨1, 1, 0⟩

/-- A point in Jacobian coordinates. -/
def ofPoint : Point → Jacobian
  | .infinity => infinity
  | .affine x y => ⟨x, y, 1⟩

/-- The first affine coordinate, unless the point is at infinity. -/
def affineX? (q : Jacobian) : Option Nat :=
  if q.z = 0 then none
  else
    let i := Modular.inv c.p q.z
    some (q.x * (i * i % c.p) % c.p)

/-- Twice a point. -/
def double (q : Jacobian) : Jacobian :=
  let p := c.p
  let yy := q.y * q.y % p
  let zz := q.z * q.z % p
  let s := 4 * q.x * yy % p
  let m := (3 * (q.x * q.x) + c.a * (zz * zz % p)) % p
  let x := Modular.sub p (m * m) (2 * s % p)
  let y := Modular.sub p (m * Modular.sub p s x) (8 * (yy * yy) % p)
  ⟨x, y, 2 * q.y * q.z % p⟩

/-- The sum of two points. -/
def add (q r : Jacobian) : Jacobian :=
  if q.z = 0 then r
  else if r.z = 0 then q
  else
    let p := c.p
    let qzz := q.z * q.z % p
    let rzz := r.z * r.z % p
    let u := q.x * rzz % p
    let s := q.y * (rzz * r.z % p) % p
    let h := Modular.sub p (r.x * qzz) u
    let d := Modular.sub p (r.y * (qzz * q.z % p)) s
    if h = 0 then
      if d = 0 then double c q else infinity
    else
      let hh := h * h % p
      let hhh := hh * h % p
      let v := u * hh % p
      let x := Modular.sub p (d * d) ((hhh + 2 * v) % p)
      let y := Modular.sub p (d * Modular.sub p v x) (s * hhh % p)
      ⟨x, y, h * (q.z * r.z % p) % p⟩

/-- Extends `acc` by the lowest `bits` bits of `k` and `l`, highest first: each bit
doubles `acc` and then adds `q`, `r` or the sum `qr` of both where bits are set. -/
def mulAddLoop (q r qr : Jacobian) (k l : Nat) : (bits : Nat) → Jacobian → Jacobian
  | 0, acc => acc
  | bits + 1, acc =>
    let acc := double c acc
    let next := match k.testBit bits, l.testBit bits with
      | false, false => acc
      | true, false => add c acc q
      | false, true => add c acc r
      | true, true => add c acc qr
    mulAddLoop q r qr k l bits next

/-- `k q + l r`. -/
def mulAdd (k : Nat) (q : Jacobian) (l : Nat) (r : Jacobian) : Jacobian :=
  mulAddLoop c q r (add c q r) k l ((max k l).log2 + 1) infinity

end Jacobian

/-- The first coordinate of `k G + l Q`, where `G` is the base point, unless that sum is
the point at infinity. -/
def combineX? (q : Point) (k l : Nat) : Option Nat :=
  (Jacobian.mulAdd c k (Jacobian.ofPoint c.base) l (Jacobian.ofPoint q)).affineX? c

/-- The point with the first coordinate `x` whose second coordinate is odd or even as
asked. -/
def decompress? (x : Nat) (odd : Bool) : Option Point := do
  let y ← Modular.sqrt? c.p ((x * x * x + c.a * x + c.b) % c.p)
  let y := if (y % 2 == 1) == odd then y else c.p - y
  if c.contains x y then some (.affine x y) else none

/-- Reads the octets of a point: one zero byte for infinity, or a leading byte that tells
the compressed (2, 3), uncompressed (4) or hybrid (6, 7) form, whose lowest bit is the
parity of the second coordinate. -/
def pointOfBytes? (bs : Bytes) : Option Point :=
  match bs with
  | [] => none
  | lead :: rest =>
    let size := c.coordinateBytes
    let x := Bytes.toNat (rest.take size)
    let y := Bytes.toNat (rest.drop size)
    let odd := lead.toNat % 2 == 1
    match lead.toNat with
    | 0 => if rest.isEmpty then some .infinity else none
    | 2 | 3 => if rest.length = size ∧ x < c.p then c.decompress? x odd else none
    | 4 => if rest.length = 2 * size ∧ c.contains x y then some (.affine x y) else none
    | 6 | 7 =>
      if rest.length = 2 * size ∧ c.contains x y ∧ (y % 2 == 1) = odd then some (.affine x y)
      else none
    | _ => none

end Curve
end PackedAttestation
