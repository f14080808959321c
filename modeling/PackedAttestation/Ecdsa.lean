import PackedAttestation.Der.Element
import PackedAttestation.Digest
import PackedAttestation.Modular
import PackedAttestation.Provider

/-! # ECDSA signatures

A signature is a pair of numbers `r` and `s`, kept as their bytes.  It travels as
`SEQUENCE { r INTEGER, s INTEGER }`.  There are two readers of that form: `read`
takes any tag class and any spelling of a length, and `readStrict?`, which is that of
the provider, takes the one shortest spelling that `encode` writes, with lengths of
two octets at most.
-/
namespace PackedAttestation.Ecdsa

open Der

/-- The two numbers of a signature, most significant byte first. -/
structure Signature where
  r : Bytes
  s : Bytes
deriving DecidableEq

namespace Signature

/-- Reads the content of the sequence: two non-negative integers and nothing else. The
signs are judged after the sequence is known to hold two integers. -/
def ofContent (content : Bytes) : Except Fault Signature :=
  match readInteger content with
  | .error fault => .error fault
  | .ok (r, rest) =>
    match readInteger rest with
    | .error fault => .error fault
    | .ok (s, rest) =>
      if rest ≠ [] then .error .invalidLength
      else
        match magnitude r with
        | .error fault => .error fault
        | .ok r =>
          match magnitude s with
          | .error fault => .error fault
          | .ok s => .ok ⟨r, s⟩

/-- Reads a signature and returns what follows it. -/
def read (bs : Bytes) : Except Fault (Signature × Bytes) :=
  match Header.read bs with
  | .error fault => .error fault
  | .ok (header, rest) =>
    if rest.length < header.length then .error .overrun
    else if header.identifier.number ≠ Tag.sequence then .error .wrongType
    else
      match ofContent (rest.take header.length) with
      | .error fault => .error fault
      | .ok signature => .ok (signature, rest.drop header.length)

/-- Reads a signature that fills its input. -/
def ofDer (bs : Bytes) : Except Fault Signature :=
  match read bs with
  | .error fault => .error fault
  | .ok (signature, rest) => if rest = [] then .ok signature else .error .invalidLength

/-- Writes a signature whose numbers have no leading zero bytes. -/
def encode (signature : Signature) : Bytes :=
  encodeSequence (encodeUnsigned signature.r ++ encodeUnsigned signature.s)

/-- Reads length octets in their shortest form. The long form has two further octets at
most. -/
def readStrictLength? : Bytes → Option (Nat × Bytes)
  | [] => none
  | b :: rest =>
    if b < 128 then some (b.toNat, rest)
    else
      let count := b.toNat - 128
      let octets := rest.take count
      if count ≤ 2 ∧ octets.length = count ∧ 128 ≤ Bytes.toNat octets ∧
          octets.head? ≠ some 0 then
        some (Bytes.toNat octets, rest.drop count)
      else none

/-- Reads the content of an element with the identifier octet `lead` and the shortest
length octets. -/
def readStrictContent? (lead : UInt8) : Bytes → Option (Bytes × Bytes)
  | [] => none
  | b :: rest => do
    if b ≠ lead then none
    else
      let (length, rest) ← readStrictLength? rest
      if length ≤ rest.length then some (rest.take length, rest.drop length) else none

/-- The bytes of a non-negative integer in its shortest form, without the sign byte. -/
def strictMagnitude? (content : Bytes) : Option Bytes :=
  if integerContentOk content && !isNegative content then some (Bytes.dropZeros content)
  else none

/-- Reads a signature that fills its input and is in the one shortest form. -/
def readStrict? (bs : Bytes) : Option Signature := do
  let (content, rest) ← readStrictContent? 0x30 bs
  if rest ≠ [] then none
  else
    let (r, rest) ← readStrictContent? 0x02 content
    let (s, rest) ← readStrictContent? 0x02 rest
    if rest ≠ [] then none
    else
      let r ← strictMagnitude? r
      let s ← strictMagnitude? s
      return ⟨r, s⟩

end Signature

/-- The number that a digest stands for in a group of order `n`: its leading bits, as
many as `n` has. -/
def digestNumber (n : Nat) (digest : Bytes) : Nat :=
  let bits := n.log2 + 1
  let kept := digest.take ((bits + 7) / 8)
  if bits < 8 * kept.length then Bytes.toNat kept >>> (8 - bits % 8) else Bytes.toNat kept

/-- Checks the signature with the numbers `r` and `s` of a digest in a group of order `n`, where
`combineX? k l` is the first coordinate of `k G + l Q` with the base point `G` and the public
point `Q`. Both numbers have to be at least one and below the order, and the point
`(e / s) G + (r / s) Q` to have `r` as its first coordinate modulo the order. -/
def verify (n : Nat) (combineX? : (k l : Nat) → Option Nat) (digest : Bytes) (r s : Nat) :
    Except ProviderFault Bool :=
  if 0 < r ∧ r < n ∧ 0 < s ∧ s < n then
    if n % 2 = 0 then .error .noInverse
    else
      let w := Modular.inv n s
      match combineX? (digestNumber n digest * w % n) (r * w % n) with
      | none => .error .pointAtInfinity
      | some x => .ok (x % n == r)
  else .ok false

/-- Checks a signature of a message that has to be in its shortest form. -/
def verifyStrict (n : Nat) (combineX? : (k l : Nat) → Option Nat) (digest : Digest)
    (signature message : Bytes) : Except ProviderFault Bool :=
  match Signature.readStrict? signature with
  | none => .error .formRefused
  | some numbers =>
    verify n combineX? (digest.run message) (Bytes.toNat numbers.r) (Bytes.toNat numbers.s)

end PackedAttestation.Ecdsa
