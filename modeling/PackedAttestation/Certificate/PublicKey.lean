import PackedAttestation.Ber.Value
import PackedAttestation.Curve.Named
import PackedAttestation.Ecdsa
import PackedAttestation.Ed25519
import PackedAttestation.Rsa

/-! # Public keys

The kind of the key in a certificate decides how a signature under it is checked, and what the
provider makes of a signature is a yes, a no or an error (`PublicKey.verify`).

A certificate holds its key as an algorithm and a string of bits.  The algorithm says of
what kind the key is, and has parameters for some kinds.  Those of a key on an elliptic
curve name a curve or describe one (`explicitCurve?`), whose numbers are then taken at
their word: that the modulus is prime, say, is not checked.
-/
namespace PackedAttestation.Certificate

/-- The key of a certificate. -/
inductive PublicKey where
  /-- A point of a curve over a prime field. -/
  | ec (curve : Curve) (point : Curve.Point)
  /-- A point of a curve over a binary field. -/
  | ecBinary (curve : BinaryCurve) (point : Curve.Point)
  | rsa (key : Rsa.Key)
  /-- An Ed25519 key of 32 bytes. -/
  | ed25519 (key : Bytes)
  /-- A key of a kind that no signature algorithm here uses. -/
  | foreign (kind : ForeignKind)
deriving DecidableEq

namespace PublicKey

/-- The kind of a key. -/
def kind : PublicKey → KeyKind
  | ec _ _ | ecBinary _ _ => .ec
  | rsa _ => .rsa
  | ed25519 _ => .ed25519
  | foreign kind => .foreign kind

/-- Checks a signature of a message. Where a digest is needed and none is named it is SHA-256. -/
def verify (key : PublicKey) (digest? : Option Digest) (signature message : Bytes) :
    Except ProviderFault Bool :=
  let digest := digest?.getD .sha256
  match key with
  | ec curve point =>
    Ecdsa.verifyStrict curve.n (curve.combineX? point) digest signature message
  | ecBinary curve point =>
    Ecdsa.verifyStrict curve.n (curve.combineX? point) digest signature message
  | rsa key => .ok (Rsa.verify digest key signature message)
  | ed25519 key =>
    if digest?.isNone then .ok (Ed25519.verify key signature message) else .error .digestRefused
  | foreign _ => .error .keyUnsupported

end PublicKey

/-! ### Loading -/

open Der
open Ber

/-- An algorithm and its parameters. -/
structure Algorithm where
  oid : Oid
  parameters : Option Any
deriving DecidableEq

namespace Algorithm

/-- Reads an algorithm. -/
def read? : Bytes → Option (Algorithm × Bytes) :=
  fields? fun bs => do
    let (oid, bs) ← objectIdentifier? bs
    if atEnd bs then some (⟨oid, none⟩, bs)
    else
      let (parameters, bs) ← Any.read? bs
      return (⟨oid, some parameters⟩, bs)

/-- Writes an algorithm. -/
def encode (algorithm : Algorithm) : Bytes :=
  Der.encodeSequence <|
    Der.encodeUniversal false Tag.objectIdentifier algorithm.oid.content ++
      (algorithm.parameters.map Any.encode).getD []

end Algorithm

namespace PublicKey

/-! ### Numbers -/

/-- Reads an INTEGER as a number without a sign. -/
def unsignedOf? (frame : Frame) : Option (Nat × Bytes) := do
  let (content, rest) ← frame.primitive?
  return (Bytes.toNat content, rest)

/-- Reads an INTEGER as a number without a sign. -/
def unsigned? (bs : Bytes) : Option (Nat × Bytes) := do
  let frame ← Frame.read? bs
  if frame.isUniversal Tag.integer then unsignedOf? frame else none

/-- The number of the content of an INTEGER. -/
def signed (content : Bytes) : Int :=
  let n := Bytes.toNat content
  if isNegative content then n - (1 <<< (8 * content.length) : Nat) else n

/-- Reads an INTEGER of 32 bits. Content without bytes stands for zero. -/
def int32Of? (frame : Frame) : Option (Int × Bytes) := do
  let (content, rest) ← frame.primitive?
  let n := signed content
  if (content.isEmpty || Ber.integerContentOk content) && -0x80000000 ≤ n && n < 0x80000000 then
    some (n, rest)
  else none

/-- Reads an INTEGER of 32 bits. -/
def int32? (bs : Bytes) : Option (Int × Bytes) := do
  let frame ← Frame.read? bs
  if frame.isUniversal Tag.integer then int32Of? frame else none

/-- Reads an INTEGER that is positive. -/
def positive? (bs : Bytes) : Option (Nat × Bytes) := do
  let (content, rest) ← Ber.content? Tag.integer bs
  if ¬isNegative content ∧ Bytes.toNat content ≠ 0 then some (Bytes.toNat content, rest) else none

/-! ### Curves -/

/-- The most bits that an element of a field may have. -/
def fieldBits : Nat := 661

/-- The terms of the polynomial of a binary field besides the first and the last: one, or three in
increasing order. -/
def middleTerms? (basis : Oid) (bs : Bytes) : Option (List Int × Bytes) :=
  if basis = Oid.trinomialBasis then do
    let (k, bs) ← positive? bs
    return ([(k : Int)], bs)
  else if basis = Oid.pentanomialBasis then
    let terms := fun bs => do
      let (k, bs) ← int32? bs
      let (l, bs) ← int32? bs
      let (m, bs) ← int32? bs
      return ([k, l, m], bs)
    fields? terms bs
  else none

/-- Reads the polynomial of a binary field: its degree, the type of its basis, and its middle
terms. -/
def polynomial? : Bytes → Option (Nat × Bytes) :=
  fields? fun bs => do
    let (degree, bs) ← int32? bs
    let (basis, bs) ← objectIdentifier? bs
    let (terms, bs) ← middleTerms? basis bs
    let exponents := 0 :: (terms ++ [degree])
    if degree ≤ fieldBits ∧ (exponents.zip exponents.tail).all fun (k, l) => k < l then
      some (exponents.foldl (fun f k => f + 1 <<< k.toNat) 0, bs)
    else none

/-- Reads the field of a curve: a curve over it without coefficients and base point. -/
def field? : Bytes → Option (AnyCurve × Bytes) :=
  fields? fun bs => do
    let (type, bs) ← objectIdentifier? bs
    if type = Oid.primeField then
      let (p, bs) ← positive? bs
      if p % 2 = 1 ∧ 5 ≤ p ∧ p.log2 < fieldBits then
        some (.prime ⟨p, 0, 0, 1, .infinity⟩, bs)
      else none
    else if type = Oid.binaryField then
      let (f, bs) ← polynomial? bs
      return (.binary ⟨f, 0, 0, 1, .infinity⟩, bs)
    else none

/-- Reads the seed of a curve, which is not empty. -/
def seedOf? (frame : Frame) : Option (Unit × Bytes) := do
  let (seed, rest) ← bitStringOf? frame
  if seed.bytes.isEmpty then none else some ((), rest)

/-- Reads the two coefficients of a curve and, perhaps, a seed. -/
def coefficients? : Bytes → Option ((Nat × Nat) × Bytes) :=
  fields? fun bs => do
    let (a, bs) ← Ber.content? Tag.octetString bs
    let (b, bs) ← Ber.content? Tag.octetString bs
    let (_, bs) ← optional? (·.isUniversal Tag.bitString) seedOf? bs
    let a ← (Provider.loadNumber a).toOption
    let b ← (Provider.loadNumber b).toOption
    return ((a, b), bs)

/-- A curve with a base point, which is not at infinity, and its order. The order has one bit more
than an element of the field at most. -/
def withBase? (curve : AnyCurve) (a b : Nat) (base : Bytes) (n : Nat) : Option AnyCurve :=
  match curve with
  | .prime c => do
    let c := { c with a := a % c.p, b := b % c.p, n := n }
    let base ← c.pointOfBytes? base
    if base ≠ .infinity ∧ n.log2 ≤ c.p.log2 + 1 then some (.prime { c with base := base }) else none
  | .binary c => do
    let c := { c with a := BinaryField.reduce c.f a, b := BinaryField.reduce c.f b, n := n }
    let base ← c.pointOfBytes? base
    if base ≠ .infinity ∧ n.log2 ≤ c.f.log2 then some (.binary { c with base := base }) else none

/-- Reads the cofactor of a curve, which is not negative. -/
def cofactorOf? (frame : Frame) : Option (Unit × Bytes) := do
  let (content, rest) ← frame.primitive?
  if Ber.integerContentOk content && !isNegative content then some ((), rest) else none

/-- Reads a curve that is described: version, field, coefficients, base point, order and, perhaps,
cofactor. -/
def explicitCurve? (bs : Bytes) : Option AnyCurve := do
  let curve := fun bs => do
    let (_, bs) ← int32? bs
    let (curve, bs) ← field? bs
    let ((a, b), bs) ← coefficients? bs
    let (base, bs) ← Ber.content? Tag.octetString bs
    let (n, bs) ← positive? bs
    let (_, bs) ← optional? (·.isUniversal Tag.integer) cofactorOf? bs
    let curve ← withBase? curve a b base n
    return (curve, bs)
  let (curve, _) ← fields? curve bs
  return curve

/-- The curve that the parameters of a key name or describe. -/
def curve? : Option Any → Option AnyCurve
  | some (.value number content) =>
    if number = Tag.objectIdentifier then AnyCurve.named? ⟨content⟩ else none
  | some (.asPresented encoding) => explicitCurve? encoding
  | none => none

/-- The key that is the point of a curve with the given octets. -/
def ofCurve? (curve : AnyCurve) (octets : Bytes) : Option PublicKey :=
  match curve with
  | .prime curve => do
    let point ← curve.pointOfBytes? octets
    return if curve = Curve.sm2 then .foreign .sm2 else .ec curve point
  | .binary curve => (curve.pointOfBytes? octets).map (.ecBinary curve)

/-! ### Other keys -/

/-- Reads an RSA key: a sequence of modulus and exponent. What follows it is ignored. -/
def rsaKey? (bs : Bytes) : Option Rsa.Key := do
  let key := fun bs => do
    let (modulus, bs) ← unsigned? bs
    let (exponent, bs) ← unsigned? bs
    return (Rsa.Key.mk modulus exponent, bs)
  let (key, _) ← fields? key bs
  return key

/-- Reads the three numbers of DSA parameters. -/
def dsaParameters? (bs : Bytes) : Option (Unit × Bytes) := do
  let (_, bs) ← unsigned? bs
  let (_, bs) ← unsigned? bs
  let (_, bs) ← unsigned? bs
  return ((), bs)

/-- Reads the two numbers of Diffie-Hellman parameters and, perhaps, the bits of a private key. -/
def dhParameters? (bs : Bytes) : Option (Unit × Bytes) := do
  let (_, bs) ← unsigned? bs
  let (_, bs) ← unsigned? bs
  let (_, bs) ← optional? (·.isUniversal Tag.integer) int32Of? bs
  return ((), bs)

/-- Reads how the numbers of X9.42 parameters were found: a seed and a counter. -/
def validation? (frame : Frame) : Option (Unit × Bytes) :=
  let found := fun bs => do
    let (_, bs) ← bitString? bs
    let (_, bs) ← unsigned? bs
    return ((), bs)
  if frame.identifier.constructed then frame.within? found else none

/-- Reads the three numbers of X9.42 parameters and, perhaps, a cofactor and how they were
found. -/
def x942Parameters? (bs : Bytes) : Option (Unit × Bytes) := do
  let (_, bs) ← dsaParameters? bs
  let (_, bs) ← optional? (·.isUniversal Tag.integer) unsignedOf? bs
  let (_, bs) ← optional? (·.isUniversal Tag.sequence) validation? bs
  return ((), bs)

/-- A key of a kind whose parameters are a sequence that `read?` reads, and whose bits hold an
INTEGER, after which more may follow. -/
def integerKey? (kind : ForeignKind) (read? : Bytes → Option (Unit × Bytes)) (algorithm : Algorithm)
    (bits : Bytes) : Option PublicKey :=
  match algorithm.parameters with
  | some (.asPresented encoding) => do
    let _ ← fields? read? encoding
    let _ ← Ber.content? Tag.integer bits
    return .foreign kind
  | _ => none

/-- A key of `size` bytes, of an algorithm that has no parameters. -/
def plainKey? (algorithm : Algorithm) (size : Nat) (key : PublicKey) (bits : Bytes) :
    Option PublicKey :=
  if algorithm.parameters = none ∧ bits.length = size then some key else none

/-- Whether parameters are a SEQUENCE. -/
def isSequence : Any → Bool
  | .asPresented encoding => encoding.head? == some 0x30
  | .value _ _ => false

/-- The key that an algorithm and the bytes of a bit string describe. -/
def ofBits? (algorithm : Algorithm) (bits : Bytes) : Option PublicKey :=
  let oid := algorithm.oid
  if oid = Oid.ecPublicKey then do
    let curve ← curve? algorithm.parameters
    ofCurve? curve bits
  else if oid = Oid.sm2 then do
    let curve ← curve? algorithm.parameters
    if curve = .prime Curve.sm2 then ofCurve? curve bits else none
  else if oid = Oid.rsaEncryption ∨ oid = Oid.rsa then (rsaKey? bits).map .rsa
  else if oid = Oid.rsaPss then
    if algorithm.parameters.all isSequence then (rsaKey? bits).map fun _ => .foreign .rsaPss
    else none
  else if [Oid.dsa, Oid.dsaWithSha1, Oid.oldDsa, Oid.oldDsaWithSha, Oid.oldDsaWithSha1].contains oid
  then integerKey? .dsa dsaParameters? algorithm bits
  else if oid = Oid.dhKeyAgreement then integerKey? .dh dhParameters? algorithm bits
  else if oid = Oid.dhPublicNumber then integerKey? .dhX942 x942Parameters? algorithm bits
  else if oid = Oid.ed25519 then plainKey? algorithm 32 (.ed25519 bits) bits
  else if oid = Oid.x25519 then plainKey? algorithm 32 (.foreign .x25519) bits
  else if oid = Oid.x448 then plainKey? algorithm 56 (.foreign .x448) bits
  else if oid = Oid.ed448 then plainKey? algorithm 57 (.foreign .ed448) bits
  else none

end PublicKey
end PackedAttestation.Certificate
