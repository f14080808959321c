import PackedAttestation.Bytes

/-! # Element headers

An encoded element starts with a header: identifier octets (class, constructed
bit and tag number) and length octets.  The readers here accept long forms that
are longer than needed: any number of leading zero length octets up to 126
octets in all, and tag numbers below 31 written in the multi-byte form.  Each
reader returns what is left of its input, or the `Fault` that stopped it.
-/
namespace PackedAttestation.Der

/-- Why an encoding was refused. -/
inductive Fault where
  /-- The outermost element has another type than the one asked for. -/
  | wrongType
  /-- The outermost element announces more content than there is. -/
  | overrun
  /-- The input ends early, a length is out of range, or bytes are left over. -/
  | invalidLength
  /-- An inner element has another tag number than the one asked for. -/
  | unexpectedTag
  /-- A multi-byte tag number is unfinished or too long. -/
  | invalidTag
  /-- A rule of the distinguished encoding is broken. -/
  | constraint
  /-- A number is negative where none may be. -/
  | invalidValue
deriving DecidableEq

/-- The class of a tag. -/
inductive TagClass where
  | universal | application | contextual | reserved
deriving DecidableEq

namespace TagClass

/-- The class that two leading bits stand for. -/
def ofBits : Nat → TagClass
  | 0 => universal
  | 1 => application
  | 2 => contextual
  | _ => reserved

/-- The two leading bits of a class. -/
def toBits : TagClass → Nat
  | universal => 0
  | application => 1
  | contextual => 2
  | reserved => 3

end TagClass

/-- What identifier octets say. -/
structure Identifier where
  cls : TagClass
  constructed : Bool
  number : Nat
deriving DecidableEq

namespace Identifier

/-- Reads the octets of a multi-byte tag number, at most `fuel` of them, seven bits
from each. The number is kept to 32 bits. -/
def readNumber : (fuel acc : Nat) → Bytes → Except Fault (Nat × Bytes)
  | 0, _, _ => .error .invalidTag
  | _ + 1, _, [] => .error .invalidTag
  | fuel + 1, acc, b :: rest =>
    let number := (acc * 128 + b.toNat % 128) % UInt32.size
    if b < 128 then .ok (number, rest) else readNumber fuel number rest

/-- Reads identifier octets. A multi-byte tag number has at most five octets. -/
def read : Bytes → Except Fault (Identifier × Bytes)
  | [] => .error .invalidLength
  | b :: rest =>
    let cls := TagClass.ofBits (b.toNat / 64)
    let constructed := b.toNat / 32 % 2 == 1
    if b.toNat % 32 = 31 then
      match readNumber 5 0 rest with
      | .error fault => .error fault
      | .ok (number, rest) => .ok (⟨cls, constructed, number⟩, rest)
    else .ok (⟨cls, constructed, b.toNat % 32⟩, rest)

end Identifier

/-- How far the content of an element reaches. -/
inductive Extent where
  /-- The content has this many bytes. -/
  | definite (length : Nat)
  /-- The content reaches to an end-of-contents mark. -/
  | indefinite
deriving DecidableEq

/-- Reads length octets: one octet below 128, the octet 128 for the indefinite form, or
128 plus the count of further octets, at most 126 of them, whose value fits 64 bits. -/
def Extent.read : Bytes → Except Fault (Extent × Bytes)
  | [] => .error .invalidLength
  | b :: rest =>
    if b < 128 then .ok (.definite b.toNat, rest)
    else if b = 128 then .ok (.indefinite, rest)
    else
      let count := b.toNat - 128
      let length := Bytes.toNat (rest.take count)
      if b ≠ 255 ∧ count ≤ rest.length ∧ length < UInt64.size then
        .ok (.definite length, rest.drop count)
      else .error .invalidLength

/-- The header of an element of definite length. -/
structure Header where
  identifier : Identifier
  length : Nat
deriving DecidableEq

/-- Reads the header of an element. The distinguished encoding has no indefinite
lengths. -/
def Header.read (bs : Bytes) : Except Fault (Header × Bytes) :=
  match Identifier.read bs with
  | .error fault => .error fault
  | .ok (identifier, rest) =>
    match Extent.read rest with
    | .error fault => .error fault
    | .ok (.indefinite, _) => .error .constraint
    | .ok (.definite length, rest) => .ok (⟨identifier, length⟩, rest)

end PackedAttestation.Der
