import PackedAttestation.Curve

/-! # Elliptic curves over binary fields

An element of a binary field is a polynomial over the field of two elements, kept as the
number whose bits are its coefficients, and reduced modulo an irreducible polynomial.
A curve is `y² + x y = x³ + a x² + b` over such a field.  Sums are computed in affine
coordinates, with one division for each.
-/
namespace PackedAttestation

namespace BinaryField

/-- `a` times the unknown, modulo `f`. -/
def shift (f a : Nat) : Nat :=
  let shifted := a <<< 1
  if shifted.testBit f.log2 then shifted ^^^ f else shifted

/-- Extends `acc` by the product of `a` and the lowest `bits` coefficients of `b`, highest
first. -/
def mulLoop (f a b : Nat) : (bits acc : Nat) → Nat
  | 0, acc => acc
  | bits + 1, acc =>
    let shifted := shift f acc
    mulLoop f a b bits (if b.testBit bits then shifted ^^^ a else shifted)

/-- The product of two elements. -/
def mul (f a b : Nat) : Nat :=
  mulLoop f a b f.log2 0

/-- The remainder of a polynomial modulo `f`, for one of less than `bits` more coefficients. -/
def reduceLoop (f : Nat) : (bits a : Nat) → Nat
  | 0, a => a
  | bits + 1, a =>
    reduceLoop f bits (if a.testBit (f.log2 + bits) then a ^^^ (f <<< bits) else a)

/-- A polynomial modulo `f`. -/
def reduce (f a : Nat) : Nat :=
  reduceLoop f (a.log2 + 1) a

/-- Euclid's algorithm on polynomials: `g a = u` and `h a = v` hold modulo `f` throughout, and
each step lowers the degree of `u` or of `v`. -/
def invLoop : (fuel u v g h : Nat) → Nat
  | 0, _, _, g, _ => g
  | fuel + 1, u, v, g, h =>
    if u = 1 then g
    else if v.log2 ≤ u.log2 then
      let j := u.log2 - v.log2
      invLoop fuel (u ^^^ (v <<< j)) v (g ^^^ (h <<< j)) h
    else
      let j := v.log2 - u.log2
      invLoop fuel (v ^^^ (u <<< j)) u (h ^^^ (g <<< j)) g

/-- The inverse of an element other than zero. -/
def inv (f a : Nat) : Nat :=
  reduce f (invLoop (2 * f.log2 + 2) a f 1 0)

/-- The quotient of two elements. -/
def div (f a b : Nat) : Nat :=
  mul f a (inv f b)

/-- `a` squared `k` times. -/
def squares (f : Nat) : (k a : Nat) → Nat
  | 0, a => a
  | k + 1, a => squares f k (mul f a a)

/-- The square root of an element, which is its last square before the squares repeat. -/
def sqrt (f a : Nat) : Nat :=
  squares f (f.log2 - 1) a

/-- An element whose trace is one: a power of the unknown. The exponent is zero if the degree is
odd, and else, by Newton's identities, the first odd number that is the degree less the exponent
of a term of `f`. -/
def traceOne (f : Nat) : Nat :=
  let degree := f.log2
  if degree % 2 = 1 then 1
  else
    match (List.range degree).find? fun k => k % 2 == 1 && f.testBit (degree - k) with
    | some k => 1 <<< k
    | none => 0

/-- Each step squares `z` and `w`, and adds `c w²` to the one and `rho` to the other. After as
many steps as the degree less one, `z² + z = c` holds if the trace of `c` is zero and that of
`rho` is one. -/
def quadraticLoop (f c rho : Nat) : (steps z w : Nat) → Nat
  | 0, z, _ => z
  | steps + 1, z, w =>
    let ww := mul f w w
    quadraticLoop f c rho steps (mul f z z ^^^ mul f ww c) (ww ^^^ rho)

/-- A solution of `z² + z = c`, if there is one. -/
def solveQuadratic? (f c : Nat) : Option Nat :=
  let rho := traceOne f
  let z := quadraticLoop f c rho (f.log2 - 1) 0 rho
  if mul f z z ^^^ z = c then some z else none

end BinaryField

/-- A curve over a binary field, with its base point. -/
structure BinaryCurve where
  /-- The irreducible polynomial of the field. -/
  f : Nat
  a : Nat
  b : Nat
  /-- The order of the base point. -/
  n : Nat
  base : Curve.Point
deriving DecidableEq

namespace BinaryCurve

open BinaryField
open Curve (Point)

variable (c : BinaryCurve)

/-- Whether two numbers are coordinates of a point: both are reduced, and the equation of the
curve holds. -/
def contains (x y : Nat) : Bool :=
  let xx := mul c.f x x
  x < 1 <<< c.f.log2 && y < 1 <<< c.f.log2 &&
    (mul c.f y y ^^^ mul c.f x y) == (mul c.f xx (x ^^^ c.a) ^^^ c.b)

/-- The number of bytes of a coordinate. -/
def coordinateBytes : Nat :=
  (c.f.log2 + 7) / 8

/-- The sum of two points. -/
def add : Point → Point → Point
  | .infinity, q => q
  | q, .infinity => q
  | .affine x y, .affine u v =>
    if x ≠ u then
      let m := div c.f (y ^^^ v) (x ^^^ u)
      let s := mul c.f m m ^^^ m ^^^ x ^^^ u ^^^ c.a
      .affine s (mul c.f m (x ^^^ s) ^^^ s ^^^ y)
    else if y ≠ v ∨ x = 0 then .infinity
    else
      let m := x ^^^ div c.f y x
      let s := mul c.f m m ^^^ m ^^^ c.a
      .affine s (mul c.f x x ^^^ mul c.f (m ^^^ 1) s)

/-- Extends `acc` by the lowest `bits` bits of `k` and `l`, highest first: each bit doubles
`acc` and then adds `q`, `r` or the sum `qr` of both where bits are set. -/
def mulAddLoop (q r qr : Point) (k l : Nat) : (bits : Nat) → Point → Point
  | 0, acc => acc
  | bits + 1, acc =>
    let acc := add c acc acc
    let next := match k.testBit bits, l.testBit bits with
      | false, false => acc
      | true, false => add c acc q
      | false, true => add c acc r
      | true, true => add c acc qr
    mulAddLoop q r qr k l bits next

/-- The first coordinate of `k G + l Q`, where `G` is the base point, unless that sum is the
point at infinity. -/
def combineX? (q : Point) (k l : Nat) : Option Nat :=
  match mulAddLoop c c.base q (add c c.base q) k l ((max k l).log2 + 1) .infinity with
  | .infinity => none
  | .affine x _ => some x

/-- The point with the first coordinate `x` for which the quotient of its coordinates is odd or
even as asked. -/
def decompress? (x : Nat) (odd : Bool) : Option Point := do
  let y ←
    if x = 0 then some (sqrt c.f c.b)
    else
      (solveQuadratic? c.f (x ^^^ c.a ^^^ div c.f c.b (mul c.f x x))).map fun z =>
        mul c.f x z ^^^ if (z % 2 == 1) == odd then 0 else x
  if c.contains x y then some (.affine x y) else none

/-- Reads the octets of a point, in the forms of the curves over prime fields. The parity is
that of the quotient of the coordinates. -/
def pointOfBytes? (bs : Bytes) : Option Point :=
  match bs with
  | [] => none
  | lead :: rest =>
    let size := c.coordinateBytes
    let x := Bytes.toNat (rest.take size)
    let y := Bytes.toNat (rest.drop size)
    let odd := lead.toNat % 2 == 1
    let quotientOdd := x ≠ 0 && div c.f y x % 2 == 1
    match lead.toNat with
    | 0 => if rest.isEmpty then some .infinity else none
    | 2 | 3 => if rest.length = size ∧ x < 1 <<< c.f.log2 then c.decompress? x odd else none
    | 4 => if rest.length = 2 * size ∧ c.contains x y then some (.affine x y) else none
    | 6 | 7 =>
      if rest.length = 2 * size ∧ c.contains x y ∧ quotientOdd = odd then some (.affine x y)
      else none
    | _ => none

end BinaryCurve
end PackedAttestation
