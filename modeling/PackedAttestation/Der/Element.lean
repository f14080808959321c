import PackedAttestation.Der.Header

/-! # Elements and their content

An element is a header followed by as many bytes of content as the header
announces.  The readers for INTEGER and OCTET STRING elements look at the tag
number only, neither at the class nor at the constructed bit.  Elements are written
in the distinguished encoding, where lengths take the fewest octets, and so do tag
numbers.
-/
namespace PackedAttestation.Der

/-! ### Tag numbers of the universal types -/

namespace Tag

def boolean : Nat := 1
def integer : Nat := 2
def bitString : Nat := 3
def octetString : Nat := 4
def null : Nat := 5
def objectIdentifier : Nat := 6
def objectDescriptor : Nat := 7
def external : Nat := 8
def real : Nat := 9
def enumerated : Nat := 10
def embeddedValue : Nat := 11
def utf8String : Nat := 12
def relativeIdentifier : Nat := 13
def time : Nat := 14
def reserved : Nat := 15
def sequence : Nat := 16
def set : Nat := 17
def numericString : Nat := 18
def printableString : Nat := 19
def teletexString : Nat := 20
def ia5String : Nat := 22
def utcTime : Nat := 23
def generalizedTime : Nat := 24
def universalString : Nat := 28
def characterString : Nat := 29
def bmpString : Nat := 30

end Tag

/-- An encoded element: what its identifier octets say, and its content. -/
structure Element where
  identifier : Identifier
  content : Bytes
deriving DecidableEq

/-- Reads one element of any type. -/
def Element.read (bs : Bytes) : Except Fault (Element × Bytes) :=
  match Header.read bs with
  | .error fault => .error fault
  | .ok (header, rest) =>
    if header.length ≤ rest.length then
      .ok (⟨header.identifier, rest.take header.length⟩, rest.drop header.length)
    else .error .invalidLength

/-- Reads the content of an element with the tag number `number`. -/
def readContent (number : Nat) (bs : Bytes) : Except Fault (Bytes × Bytes) :=
  match Header.read bs with
  | .error fault => .error fault
  | .ok (header, rest) =>
    if header.identifier.number ≠ number then .error .unexpectedTag
    else if header.length ≤ rest.length then
      .ok (rest.take header.length, rest.drop header.length)
    else .error .invalidLength

/-- Content of an INTEGER has at least one byte, and no zero byte in front that the
sign does not need. -/
def integerContentOk : Bytes → Bool
  | [] => false
  | 0 :: b :: _ => 128 ≤ b
  | _ => true

/-- Reads the content of an INTEGER element. -/
def readInteger (bs : Bytes) : Except Fault (Bytes × Bytes) :=
  match readContent Tag.integer bs with
  | .error fault => .error fault
  | .ok (content, rest) =>
    if integerContentOk content then .ok (content, rest) else .error .constraint

/-- Whether the content of an INTEGER has its sign bit set. -/
def isNegative : Bytes → Bool
  | [] => false
  | b :: _ => 128 ≤ b

/-- The bytes of a non-negative INTEGER, without leading zero bytes. -/
def magnitude (content : Bytes) : Except Fault Bytes :=
  if isNegative content then .error .invalidValue else .ok (Bytes.dropZeros content)

/-- Reads the content of an OCTET STRING element. -/
def readOctetString (bs : Bytes) : Except Fault (Bytes × Bytes) :=
  readContent Tag.octetString bs

/-! ### Writing elements -/

/-- Base-128 digits of a tag number, most significant first, with the continuation bit
on all but the last. -/
def numberOctets : (fuel n : Nat) → (continued : Bool) → Bytes
  | 0, _, _ => []
  | fuel + 1, n, continued =>
    let octet := UInt8.ofNat (n % 128 + if continued then 128 else 0)
    if n < 128 then [octet] else numberOctets fuel (n / 128) true ++ [octet]

/-- The identifier octets of an element. -/
def identifierOctets (i : Identifier) : Bytes :=
  let lead := i.cls.toBits * 64 + if i.constructed then 32 else 0
  if i.number < 31 then [UInt8.ofNat (lead + i.number)]
  else UInt8.ofNat (lead + 31) :: numberOctets (i.number.log2 / 7 + 1) i.number false

/-- The fewest length octets for content of `n` bytes. -/
def lengthOctets (n : Nat) : Bytes :=
  if n < 128 then [UInt8.ofNat n]
  else
    let octets := Bytes.ofNat n
    UInt8.ofNat (128 + octets.length) :: octets

/-- Writes an element. -/
def encode (i : Identifier) (content : Bytes) : Bytes :=
  identifierOctets i ++ lengthOctets content.length ++ content

/-- Writes an element of a universal type. -/
def encodeUniversal (constructed : Bool) (number : Nat) (content : Bytes) : Bytes :=
  encode ⟨.universal, constructed, number⟩ content

/-- Writes a SEQUENCE around already written elements. -/
def encodeSequence (content : Bytes) : Bytes :=
  encodeUniversal true Tag.sequence content

/-- The content of a non-negative INTEGER: a zero byte goes in front of an empty
magnitude and of one whose top bit is set. -/
def unsignedContent : Bytes → Bytes
  | [] => [0]
  | b :: bs => if 128 ≤ b then 0 :: b :: bs else b :: bs

/-- Writes the INTEGER whose magnitude is given without leading zero bytes. -/
def encodeUnsigned (m : Bytes) : Bytes :=
  encodeUniversal false Tag.integer (unsignedContent m)

end PackedAttestation.Der
