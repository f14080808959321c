import PackedAttestation.Certificate.Outline

/-! # Basic constraints

The value of the basic constraints extension is `SEQUENCE { cA BOOLEAN, pathLen
INTEGER }`, both optional.  Other types of number may stand for the path length.  A
value that does not read as such says nothing, and what follows the sequence is
ignored.
-/
namespace PackedAttestation.Certificate

open Der

/-- What the basic constraints of a certificate say. -/
structure BasicConstraints where
  ca : Bool
  pathLength : Option Nat
deriving DecidableEq

namespace BasicConstraints

/-- Reads elements that fill their input, `fuel` of them at most. Their lengths may be
indefinite, and the content is then what stands before the mark that ends it. -/
def elements? : (fuel : Nat) → Bytes → Option (List Element)
  | _, [] => some []
  | 0, _ => none
  | fuel + 1, bs => do
    let (identifier, rest) ← (Identifier.read bs).toOption
    let (extent, rest) ← (Extent.read rest).toOption
    let (content, rest) ← match extent with
      | .definite length =>
        if length ≤ rest.length then some (rest.take length, rest.drop length) else none
      | .indefinite => do
        if identifier.constructed then
          let after ← Outline.skipOpen? rest.length 1 rest
          some (rest.take (rest.length - after.length - 2), after)
        else none
    let elements ← elements? fuel rest
    return ⟨identifier, content⟩ :: elements

/-- The truth value of an element. Any byte but zero means true. -/
def boolean? (element : Element) : Option Bool :=
  match element.content with
  | [b] =>
    if element.identifier.cls = .universal ∧ element.identifier.number = Tag.boolean then
      some (b != 0)
    else none
  | _ => none

/-- The number below `2 ^ 32` in the content of a BIT STRING, whose unused bits are dropped. -/
def bitNumber? : Bytes → Option Nat
  | [] => none
  | unused :: bytes =>
    let n := Bytes.toNat bytes >>> unused.toNat
    if bytes ≠ [] ∧ unused.toNat ≤ 8 * bytes.length ∧ 8 * bytes.length ≤ 64 + unused.toNat ∧
        n < UInt32.size then
      some n
    else none

/-- The number below `2 ^ 32` of an element: that of a non-negative INTEGER, of an ENUMERATED
or of the bits of a BIT STRING. Content without bytes stands for zero. -/
def number? (element : Element) : Option Nat :=
  let n := Bytes.toNat element.content
  if element.identifier.cls ≠ .universal then none
  else if element.identifier.number = Tag.integer then
    if ¬isNegative element.content ∧ n < UInt32.size then some n else none
  else if element.identifier.number = Tag.enumerated then
    if ¬element.identifier.constructed ∧ n < UInt32.size then some n else none
  else if element.identifier.number = Tag.bitString then bitNumber? element.content
  else none

/-- What the elements of the sequence say. -/
def ofElements? : List Element → Option BasicConstraints
  | [] => some ⟨false, none⟩
  | [e] =>
    match boolean? e with
    | some ca => some ⟨ca, none⟩
    | none => (number? e).map fun n => ⟨false, some n⟩
  | [e, f] => do
    let ca ← boolean? e
    let pathLength ← number? f
    return ⟨ca, some pathLength⟩
  | _ => none

/-- Reads the value of the extension. -/
def ofValue? (value : Bytes) : Option BasicConstraints := do
  let (element, _) ← Outline.element? value
  if element.identifier.number = Tag.sequence ∧ element.identifier.constructed then
    let elements ← elements? element.content.length element.content
    ofElements? elements
  else none

end BasicConstraints

/-- The extensions with the identifier `oid`, in order. -/
def Outline.extensionsWith (outline : Outline) (oid : Oid) : List Extension :=
  outline.extensions.filter fun extension => extension.oid == oid

/-- The basic constraints of a certificate, if it has the extension and its value reads. It is
an error to have the extension twice. -/
def Outline.basicConstraints (outline : Outline) :
    Except OutlineFault (Option BasicConstraints) :=
  match outline.extensionsWith Oid.basicConstraints with
  | [] => .ok none
  | [extension] => .ok (BasicConstraints.ofValue? extension.value)
  | _ :: _ :: _ => .error .repeatedExtensions

end PackedAttestation.Certificate
