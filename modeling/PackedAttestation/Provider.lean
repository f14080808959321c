import PackedAttestation.Bytes

/-! # The provider of the primitives

Keys are loaded and signatures are checked by a provider of cryptographic primitives.
It knows each kind of key by a number, and it may stop in an error, which is neither a
yes nor a no.  A `ProviderFault` is the reason of such an error.
-/
namespace PackedAttestation

/-- The kinds of keys that load, although no signature algorithm here uses them. -/
inductive ForeignKind where
  | rsaPss
  | dsa
  | dh
  /-- Diffie-Hellman with the parameters of X9.42. -/
  | dhX942
  /-- Keys on the curve SM2. -/
  | sm2
  | x25519
  | x448
  | ed448
deriving DecidableEq

/-- The kinds of keys that load. -/
inductive KeyKind where
  | rsa
  | ec
  | ed25519
  | foreign (kind : ForeignKind)
deriving DecidableEq

/-- The number of a kind of keys. The curve SM2 has none of its own. -/
def KeyKind.number : KeyKind → Int
  | rsa => 6
  | ec => 408
  | ed25519 => 1087
  | foreign .rsaPss => 912
  | foreign .dsa => 116
  | foreign .dh => 28
  | foreign .dhX942 => 920
  | foreign .sm2 => -1
  | foreign .x25519 => 1034
  | foreign .x448 => 1035
  | foreign .ed448 => 1088

/-- The text of a kind of keys. -/
def KeyKind.text (kind : KeyKind) : String :=
  "Id(" ++ toString kind.number ++ ")"

/-- Why the provider stopped in an error. -/
inductive ProviderFault where
  /-- A number has too many bytes. -/
  | numberTooLong
  /-- A key does not load. -/
  | keyRefused
  /-- A signature is not in the one form that is taken. -/
  | formRefused
  /-- The order of a curve is even, so that not every number below it has an inverse. -/
  | noInverse
  /-- A sum is the point at infinity, which has no coordinates. -/
  | pointAtInfinity
  /-- The kind of key takes no digest of the message. -/
  | digestRefused
  /-- The kind of key makes no signatures. -/
  | keyUnsupported
deriving DecidableEq

/-- The text of a fault. -/
def ProviderFault.text : ProviderFault → String
  | numberTooLong => "number too long"
  | keyRefused => "key refused"
  | formRefused => "signature form refused"
  | noInverse => "no inverse"
  | pointAtInfinity => "point at infinity"
  | digestRefused => "digest refused"
  | keyUnsupported => "key unsupported"

namespace Provider

/-- How many bytes a number may have, without the zero bytes in front. -/
def numberSize : Nat := 67108856

/-- Loads a number from its bytes, most significant first. -/
def loadNumber (bs : Bytes) : Except ProviderFault Nat :=
  if (Bytes.dropZeros bs).length ≤ numberSize then .ok (Bytes.toNat bs)
  else .error .numberTooLong

end Provider
end PackedAttestation
