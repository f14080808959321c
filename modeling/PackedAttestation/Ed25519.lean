import PackedAttestation.Digest
import PackedAttestation.Modular

/-! # Ed25519 signatures

The curve is `-x² + y² = 1 + d x² y²` over the numbers modulo `2 ^ 255 - 19`.
Points are kept in extended coordinates `(X, Y, Z, T)` with `x = X / Z`,
`y = Y / Z` and `x y = T / Z`, for which one addition formula serves all pairs of
points.
-/
namespace PackedAttestation.Ed25519

/-- The modulus of the field. -/
def p : Nat := (1 <<< 255) - 19

/-- The order of the base point. -/
def order : Nat := (1 <<< 252) + 27742317777372353535851937790883648493

/-- The coefficient of the curve, `-121665 / 121666`. -/
def d : Nat := 37095705934669439343138083508754565189542113879843219016388785533085940283555

/-- A square root of `-1`. -/
def rootOfMinusOne : Nat :=
  19681161376707505956807079304988542015446066515923890162744021073123829784752

/-- A point in extended coordinates. -/
structure Point where
  x : Nat
  y : Nat
  z : Nat
  t : Nat

namespace Point

/-- The neutral point. -/
def neutral : Point := ⟨0, 1, 1, 0⟩

/-- The point with the given affine coordinates. -/
def affine (x y : Nat) : Point := ⟨x, y, 1, x * y % p⟩

/-- The base point. -/
def base : Point :=
  affine 15112221349535400772501151409588531511454012693041857206046113283949847762202
    46316835694926478169428394003475163141307993866256225615783033603165251855960

/-- The sum of two points. -/
def add (q r : Point) : Point :=
  let a := Modular.sub p q.y q.x * Modular.sub p r.y r.x % p
  let b := (q.y + q.x) * (r.y + r.x) % p
  let c := 2 * d * (q.t * r.t % p) % p
  let dd := 2 * q.z * r.z % p
  let e := Modular.sub p b a
  let f := Modular.sub p dd c
  let g := dd + c
  let h := b + a
  ⟨e * f % p, g * h % p, f * g % p, e * h % p⟩

/-- The point mirrored in the second axis. -/
def neg (q : Point) : Point :=
  ⟨Modular.sub p 0 q.x, q.y, q.z, Modular.sub p 0 q.t⟩

/-- Extends `acc` by the lowest `bits` bits of `k` and `l`, highest first: each bit doubles
`acc` and then adds `q`, `r` or both where bits are set. -/
def mulAddLoop (q r : Point) (k l : Nat) : (bits : Nat) → Point → Point
  | 0, acc => acc
  | bits + 1, acc =>
    let acc := add acc acc
    let acc := if k.testBit bits then add acc q else acc
    mulAddLoop q r k l bits (if l.testBit bits then add acc r else acc)

/-- `k q + l r`, for `k` and `l` of 256 bits at most. -/
def mulAdd (k : Nat) (q : Point) (l : Nat) (r : Point) : Point :=
  mulAddLoop q r k l 256 neutral

/-- The second coordinate, least significant byte first, with the parity of the first
coordinate in the top bit. -/
def encode (q : Point) : Bytes :=
  let i := Modular.inv p q.z
  let x := q.x * i % p
  let y := q.y * i % p
  (Bytes.ofNatFixed 32 (y + if x % 2 = 1 then 1 <<< 255 else 0)).reverse

/-- Reads an encoded point. The second coordinate need not be reduced. -/
def decode? (bs : Bytes) : Option Point :=
  let n := Bytes.toNat bs.reverse
  let y := n % (1 <<< 255) % p
  let odd := (n >>> 255) % 2
  let u := Modular.sub p (y * y) 1
  let v := (d * (y * y % p) + 1) % p
  let vvv := v * v % p * v % p
  let x := u * vvv % p * Modular.pow p (u * (vvv * vvv % p * v % p) % p) ((p - 5) / 8) % p
  let vxx := v * (x * x % p) % p
  let root? :=
    if vxx = u then some x
    else if vxx = Modular.sub p 0 u then some (x * rootOfMinusOne % p)
    else none
  root?.map fun x => affine (if x % 2 = odd then x else Modular.sub p 0 x) y

end Point

/-- Checks a signature of a message under a key of 32 bytes: 32 bytes that encode a point
`R`, and a number `s` below the order of the base point, such that `s B - h A`, with `h`
the digest of `R`, the key and the message, is encoded by the same 32 bytes. -/
def verify (key signature message : Bytes) : Bool :=
  let r := signature.take 32
  let s := Bytes.toNat (signature.drop 32).reverse
  if signature.length = 64 ∧ s < order then
    match Point.decode? key with
    | none => false
    | some a =>
      let h := Bytes.toNat (Digest.sha512.run (r ++ key ++ message)).reverse % order
      (Point.mulAdd s Point.base h a.neg).encode == r
  else false

end PackedAttestation.Ed25519
