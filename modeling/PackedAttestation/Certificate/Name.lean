import PackedAttestation.Ber.Value

/-! # Names

A name is a sequence of sets of attributes, each an object identifier and a text.
Text of a kind that has a Unicode reading has to have one.
-/
namespace PackedAttestation.Certificate.Name

open Der
open Ber

/-- Whether a number is a Unicode scalar value. -/
def isScalar (n : Nat) : Bool :=
  n < 0xd800 || 0xe000 ≤ n && n ≤ 0x10ffff

/-- Whether content is a sequence of Unicode scalar values, each in `width` bytes. -/
def isFixedWidth (width : Nat) : (fuel : Nat) → Bytes → Bool
  | _, [] => true
  | 0, _ => false
  | fuel + 1, bs =>
    width ≤ bs.length && isScalar (Bytes.toNat (bs.take width)) &&
      isFixedWidth width fuel (bs.drop width)

/-- The types of text that an attribute may have. -/
def textTypes : List Nat :=
  [Tag.bitString, Tag.objectDescriptor, Tag.external, Tag.real, Tag.embeddedValue,
    Tag.utf8String, Tag.relativeIdentifier, Tag.time, Tag.reserved, Tag.sequence,
    Tag.numericString, Tag.printableString, Tag.teletexString, Tag.ia5String,
    Tag.universalString, Tag.characterString, Tag.bmpString]

/-- Whether the next `count` bytes are there and continue a character. -/
def continues (count : Nat) (bs : Bytes) : Bool :=
  count ≤ bs.length && (bs.take count).all fun b => 0x80 ≤ b && b < 0xc0

/-- Whether content is UTF-8: each scalar value in its shortest form of one to four bytes. The
second byte is restricted where the first alone would let in a longer form, a surrogate or a
number that is too large. -/
def isUtf8 : (fuel : Nat) → Bytes → Bool
  | _, [] => true
  | 0, _ => false
  | fuel + 1, b :: rest =>
    let second := rest.headD 0
    if b < 0x80 then isUtf8 fuel rest
    else if b < 0xc2 then false
    else if b < 0xe0 then continues 1 rest && isUtf8 fuel (rest.drop 1)
    else if b < 0xf0 then
      continues 2 rest && (b != 0xe0 || 0xa0 ≤ second) && (b != 0xed || second < 0xa0) &&
        isUtf8 fuel (rest.drop 2)
    else if b < 0xf5 then
      continues 3 rest && (b != 0xf0 || 0x90 ≤ second) && (b != 0xf4 || second < 0x90) &&
        isUtf8 fuel (rest.drop 3)
    else false

/-- Whether content of the universal type `number` has a Unicode reading, or needs none. -/
def isReadable (number : Nat) (content : Bytes) : Bool :=
  if number = Tag.utf8String then isUtf8 content.length content
  else if number = Tag.bmpString then isFixedWidth 2 content.length content
  else if number = Tag.universalString then isFixedWidth 4 content.length content
  else true

/-- Reads the text of an attribute. -/
def text? (bs : Bytes) : Option (Unit × Bytes) := do
  let frame ← Frame.read? bs
  if frame.identifier.cls = .universal ∧ textTypes.contains frame.identifier.number then
    match ← Any.ofFrame? bs frame with
    | (.asPresented _, rest) => some ((), rest)
    | (.value number content, rest) => if isReadable number content then some ((), rest) else none
  else none

/-- Reads an attribute. -/
def attribute? : Bytes → Option (Unit × Bytes) :=
  fields? fun bs => do
    let (_, bs) ← objectIdentifier? bs
    text? bs

/-- The most bytes that a name may have. -/
def maxSize : Nat := 1 <<< 20

/-- Reads a name, and returns what follows it. -/
def read? (bs : Bytes) : Option Bytes := do
  let seen := bs.take maxSize
  let (_, rest) ← listOf? Tag.sequence (listOf? Tag.set attribute?) seen
  return bs.drop (seen.length - rest.length)

end PackedAttestation.Certificate.Name
