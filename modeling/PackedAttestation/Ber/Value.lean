import PackedAttestation.Ber.Frame
import PackedAttestation.Oid

/-! # Values of the basic encoding

Each reader checks the content of one universal type.  Strings may be split into
pieces inside a constructed element, and are put together again.  `Any` keeps a
value of any type in a form that can be written back (`Any.encode`).
-/
namespace PackedAttestation.Ber

open Der

/-- The content of a string element: that of a primitive element, or the pieces of a
constructed one put together. Pieces may be constructed themselves, `depth` levels deep. -/
def pieces? : (depth : Nat) → Frame → Option (Bytes × Bytes)
  | 0, frame => frame.primitive?
  | depth + 1, frame =>
    if frame.identifier.constructed then do
      let piece := fun bs => Frame.read? bs >>= pieces? depth
      let (contents, rest) ← frame.within? (elements? piece frame.body.length)
      return (contents.flatten, rest)
    else frame.primitive?

/-- The content of a string element, in six levels of pieces at most. -/
def string? (frame : Frame) : Option (Bytes × Bytes) :=
  pieces? 6 frame

/-- Content of an INTEGER or ENUMERATED has at least one byte, and its first byte is
neither a needless `00` nor a needless `ff`. The byte `ff` before zeros alone is needed. -/
def integerContentOk : Bytes → Bool
  | [] => false
  | [_] => true
  | 0 :: b :: _ => 128 ≤ b
  | 255 :: b :: rest => b < 128 || (b :: rest).all (· == 0)
  | _ => true

/-- A string of bits: how many bits of the last byte are unused, and the bytes, whose unused
bits are zero. -/
structure BitString where
  unused : Nat
  bytes : Bytes
deriving DecidableEq

namespace BitString

/-- Reads the content of a BIT STRING and clears the unused bits. -/
def ofContent? : Bytes → Option BitString
  | [] => none
  | unused :: bytes =>
    if unused ≤ 7 then
      let mask := UInt8.ofNat (256 - (1 <<< unused.toNat))
      some ⟨unused.toNat, bytes.dropLast ++ (bytes.getLast?.map (· &&& mask)).toList⟩
    else none

/-- The content of a BIT STRING. Without bytes there are no unused bits either. -/
def content (bits : BitString) : Bytes :=
  (if bits.bytes.isEmpty then 0 else UInt8.ofNat bits.unused) :: bits.bytes

end BitString

/-- A value of any type, as far as it takes to write it back. -/
inductive Any where
  /-- A SEQUENCE, a SET or an element that is not universal, as presented. -/
  | asPresented (encoding : Bytes)
  /-- A universal element of another type, in primitive form. -/
  | value (number : Nat) (content : Bytes)
deriving DecidableEq

namespace Any

/-- Checks content of the universal type `number`, and clears unused bits. -/
def content? (number : Nat) (content : Bytes) : Option Bytes :=
  if number = Tag.boolean then if content.length = 1 then some content else none
  else if number = Tag.integer ∨ number = Tag.enumerated then
    if integerContentOk content then some content else none
  else if number = Tag.bitString then (BitString.ofContent? content).map BitString.content
  else if number = Tag.null then if content.isEmpty then some content else none
  else if number = Tag.objectIdentifier then
    if Oid.wellFormed true content then some content else none
  else if number = Tag.utcTime then if 13 ≤ content.length then some content else none
  else if number = Tag.generalizedTime then if 15 ≤ content.length then some content else none
  else if number = Tag.universalString then
    if content.length % 4 = 0 then some content else none
  else if number = Tag.bmpString then if content.length % 2 = 0 then some content else none
  else some content

/-- Whether elements of the universal type `number` are always primitive. -/
def alwaysPrimitive (number : Nat) : Bool :=
  [Tag.boolean, Tag.integer, Tag.null, Tag.objectIdentifier, Tag.enumerated].contains number

/-- Reads a value from an element, given the input that starts with the element. -/
def ofFrame? (bs : Bytes) (frame : Frame) : Option (Any × Bytes) :=
  let number := frame.identifier.number
  let presented := do
    let rest ← frame.skip?
    return (asPresented (bs.take (bs.length - rest.length)), rest)
  if frame.identifier.cls ≠ .universal then presented
  else if number = Tag.sequence ∨ number = Tag.set then
    if frame.identifier.constructed then presented else none
  else do
    let (content, rest) ← if alwaysPrimitive number then frame.primitive? else string? frame
    let content ← content? number content
    return (value number content, rest)

/-- Reads a value of any type. -/
def read? (bs : Bytes) : Option (Any × Bytes) :=
  Frame.read? bs >>= ofFrame? bs

/-- Writes a value. -/
def encode : Any → Bytes
  | asPresented encoding => encoding
  | value number content => Der.encodeUniversal false number content

end Any

/-- Reads a value of the universal type `number`. -/
def content? (number : Nat) (bs : Bytes) : Option (Bytes × Bytes) := do
  let frame ← Frame.read? bs
  if frame.isUniversal number then
    match ← Any.ofFrame? bs frame with
    | (.value _ content, rest) => some (content, rest)
    | (.asPresented _, _) => none
  else none

/-- Reads an object identifier. -/
def objectIdentifier? (bs : Bytes) : Option (Oid × Bytes) :=
  (content? Tag.objectIdentifier bs).map fun (content, rest) => (⟨content⟩, rest)

/-- Reads the bit string of an element that has the tag of one. -/
def bitStringOf? (frame : Frame) : Option (BitString × Bytes) := do
  let (content, rest) ← string? frame
  let bits ← BitString.ofContent? content
  return (bits, rest)

/-- Reads a bit string. -/
def bitString? (bs : Bytes) : Option (BitString × Bytes) := do
  let frame ← Frame.read? bs
  if frame.isUniversal Tag.bitString then bitStringOf? frame else none

end PackedAttestation.Ber
