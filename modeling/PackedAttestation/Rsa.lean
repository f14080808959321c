import PackedAttestation.Digest
import PackedAttestation.Modular

/-! # RSA signatures with the PKCS #1 version 1.5 padding

A signature is a number below the modulus, written in as many bytes as the modulus
has.  Its power by the public exponent has to be the one padded digest for that
width (`paddedDigest?`).
-/
namespace PackedAttestation.Rsa

/-- A public key. -/
structure Key where
  modulus : Nat
  exponent : Nat
deriving DecidableEq

namespace Key

/-- The number of bits of the modulus. -/
def bits (key : Key) : Nat :=
  key.modulus.log2 + 1

/-- The number of bytes of the modulus, and so of a signature. -/
def size (key : Key) : Nat :=
  key.modulus.log2 / 8 + 1

/-- Whether a key is fit for use: the modulus is odd, above the exponent and no longer than
16384 bits, and the exponent of a modulus above 3072 bits has 64 bits at most. -/
def usable (key : Key) : Bool :=
  key.modulus % 2 == 1 && key.exponent < key.modulus && key.bits ≤ 16384 &&
    (key.bits ≤ 3072 || key.exponent < UInt64.size)

end Key

/-- What stands before the bytes of a digest in the structure that is padded. -/
def digestInfo : Digest → Bytes
  | .sha256 => [0x30, 0x31, 0x30, 0x0d, 0x06, 0x09, 0x60, 0x86, 0x48, 0x01, 0x65, 0x03, 0x04,
      0x02, 0x01, 0x05, 0x00, 0x04, 0x20]
  | .sha384 => [0x30, 0x41, 0x30, 0x0d, 0x06, 0x09, 0x60, 0x86, 0x48, 0x01, 0x65, 0x03, 0x04,
      0x02, 0x02, 0x05, 0x00, 0x04, 0x30]
  | .sha512 => [0x30, 0x51, 0x30, 0x0d, 0x06, 0x09, 0x60, 0x86, 0x48, 0x01, 0x65, 0x03, 0x04,
      0x02, 0x03, 0x05, 0x00, 0x04, 0x40]

/-- The padded digest of a message in `size` bytes: `00 01`, at least eight bytes `ff`, `00`
and the digest with its algorithm. -/
def paddedDigest? (digest : Digest) (message : Bytes) (size : Nat) : Option Bytes :=
  let tail := digestInfo digest ++ digest.run message
  if tail.length + 11 ≤ size then
    some (0x00 :: 0x01 :: (List.replicate (size - tail.length - 3) 0xff ++ 0x00 :: tail))
  else none

/-- Checks a signature of a message. -/
def verify (digest : Digest) (key : Key) (signature message : Bytes) : Bool :=
  key.usable && signature.length == key.size &&
    Bytes.toNat signature < key.modulus &&
    match paddedDigest? digest message key.size with
    | none => false
    | some padded =>
      Modular.pow key.modulus (Bytes.toNat signature) key.exponent == Bytes.toNat padded

end PackedAttestation.Rsa
