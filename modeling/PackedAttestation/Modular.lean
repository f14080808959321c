import PackedAttestation.Bytes

/-! # Arithmetic modulo a prime

Powers by repeated squaring, inverses as powers, and square roots by a search in
the group of elements whose order is a power of two.  Every loop is bounded by the
bit length of a number that it consumes.
-/
namespace PackedAttestation.Modular

/-- Squares `b` once for each bit of `e`, `fuel` bits at most, and multiplies the
squares that belong to a bit one into `acc`. -/
def powLoop (m : Nat) : (fuel b e acc : Nat) → Nat
  | 0, _, _, acc => acc
  | fuel + 1, b, e, acc =>
    powLoop m fuel (b * b % m) (e / 2) (if e % 2 = 1 then acc * b % m else acc)

/-- `b ^ e` modulo `m`. -/
def pow (m b e : Nat) : Nat :=
  powLoop m (e.log2 + 1) (b % m) e (1 % m)

/-- The inverse of `a` modulo the prime `m`, and zero for a multiple of `m`. -/
def inv (m a : Nat) : Nat :=
  pow m a (m - 2)

/-- `a - b` modulo `m`, for `b` below `m`. -/
def sub (m a b : Nat) : Nat :=
  (a + (m - b)) % m

/-- Splits `n` into an odd factor and a power of two: halves `n` while it is even,
`fuel` times at most, and counts the halvings. -/
def oddPart : (fuel n count : Nat) → Nat × Nat
  | 0, n, count => (n, count)
  | fuel + 1, n, count => if n % 2 = 0 then oddPart fuel (n / 2) (count + 1) else (n, count)

/-- The first number from `a` on, among `fuel` of them, that is no square modulo the
prime `p`. -/
def nonSquare (p : Nat) : (fuel a : Nat) → Nat
  | 0, a => a
  | fuel + 1, a => if pow p a ((p - 1) / 2) = p - 1 then a else nonSquare p fuel (a + 1)

/-- How many squarings take `t` to one modulo `p`, counting `fuel` at most. -/
def orderExponent (p : Nat) : (fuel t : Nat) → Nat
  | 0, _ => 0
  | fuel + 1, t => if t = 1 then 0 else orderExponent p fuel (t * t % p) + 1

/-- The search for a square root: `r * r = a * t` holds throughout, and `t` has an
order that divides `2 ^ (m - 1)`. -/
def sqrtLoop (p : Nat) : (fuel m c t r : Nat) → Nat
  | 0, _, _, _, r => r
  | fuel + 1, m, c, t, r =>
    if t = 1 then r
    else
      let i := orderExponent p m t
      let b := pow p c (1 <<< (m - i - 1))
      sqrtLoop p fuel i (b * b % p) (t * (b * b % p) % p) (r * b % p)

/-- A square root of `a` modulo the odd prime `p`, if there is one. -/
def sqrt? (p a : Nat) : Option Nat :=
  let (q, s) := oddPart p.log2 (p - 1) 0
  let r := sqrtLoop p s s (pow p (nonSquare p 100 2) q) (pow p a q) (pow p a ((q + 1) / 2))
  if r * r % p = a % p then some r else none

end PackedAttestation.Modular
