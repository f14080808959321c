import PackedAttestation.Certificate.Time
import PackedAttestation.Error
import PackedAttestation.Oid

/-! # The outline of a certificate

The outline is what the profile of an attestation certificate is judged by: its
version and its extensions, and the two names for the log.  The reader walks over the
fields in order and checks the form of each.  It does not look at the class or the
constructed bit of most elements, and what is left over inside a sequence is ignored,
except among the extensions: they have to fill their sequence, and their sequence the
rest of the certificate body, whatever length the tag around them announces.

Where it stops, the input is malformed or unfinished.  Headers may be unfinished, and
the content of some elements; inside a field that is complete, anything else than what
belongs there is malformed.
-/
namespace PackedAttestation.Certificate

open Der

/-- An extension of a certificate. -/
structure Extension where
  oid : Oid
  critical : Bool
  /-- The content of the octet string that holds the value. -/
  value : Bytes
deriving DecidableEq

/-- The parts of a certificate that its profile is judged by. -/
structure Outline where
  /-- One less than the version: 2 for version 3. -/
  version : Nat
  /-- The content of the name of who issued the certificate. -/
  issuer : Bytes
  /-- The content of the name of who holds the key. -/
  subject : Bytes
  extensions : List Extension
deriving DecidableEq

namespace Outline

/-! ### Elements -/

/-- What is wrong with a header that does not read: it is unfinished if it may still be
completed. -/
def headerFault (bs : Bytes) : OutlineFault :=
  match Identifier.read bs with
  | .error _ => if bs.isEmpty then .unfinished else .malformed
  | .ok (_, []) => .unfinished
  | .ok (_, b :: octets) =>
    if 128 < b ∧ b < 255 ∧ octets.length < b.toNat - 128 then .unfinished else .malformed

/-- What is wrong with an element that does not read: it is unfinished as well if its content is
cut short. -/
def elementFault (bs : Bytes) : OutlineFault :=
  match Header.read bs with
  | .error _ => headerFault bs
  | .ok (header, rest) => if rest.length < header.length then .unfinished else .malformed

/-- The result of a reader, with a fault of the outline in place of its own. -/
def orFault {ε α : Type} (fault : OutlineFault) : Except ε α → Except OutlineFault α
  | .error _ => .error fault
  | .ok a => .ok a

/-- The result of a reader inside a field that is complete. -/
def orMalformed {α : Type} : Option α → Except OutlineFault α
  | none => .error .malformed
  | some a => .ok a

/-- Reads an element that may be unfinished. -/
def readElement (bs : Bytes) : Except OutlineFault (Element × Bytes) :=
  orFault (elementFault bs) (Element.read bs)

/-- Reads the content of a SEQUENCE whose header may be unfinished. -/
def readSequence (bs : Bytes) : Except OutlineFault (Bytes × Bytes) :=
  orFault (headerFault bs) (readContent Tag.sequence bs)

/-- Reads one element. -/
def element? (bs : Bytes) : Option (Element × Bytes) :=
  (Element.read bs).toOption

/-- Reads the content of an element with the tag number `number`. -/
def content? (number : Nat) (bs : Bytes) : Option (Bytes × Bytes) :=
  (readContent number bs).toOption

/-- Reads a primitive element of any type. -/
def primitive? (bs : Bytes) : Option (Element × Bytes) := do
  let (element, rest) ← element? bs
  if element.identifier.constructed then none else some (element, rest)

/-! ### Fields -/

/-- The number of a non-negative INTEGER below `2 ^ 32`, written with the fewest bytes. -/
def smallNumber? (bs : Bytes) : Option Nat := do
  let (element, _) ← primitive? bs
  let content := element.content
  if element.identifier.number = Tag.integer ∧ integerContentOk content ∧
      ¬isNegative content ∧ Bytes.toNat content < UInt32.size then
    some (Bytes.toNat content)
  else none

/-- Reads the version, which is 0 where it is left out. -/
def readVersion (bs : Bytes) : Except OutlineFault (Nat × Bytes) :=
  if bs.isEmpty then .ok (0, bs)
  else do
    let (element, rest) ← readElement bs
    if element.identifier.number ≠ 0 then .ok (0, bs)
    else if element.identifier.cls ≠ .contextual then .error .malformed
    else
      let version ← orMalformed (smallNumber? element.content)
      return (version, rest)

/-- Passes over elements until `opened` indefinite lengths are closed, reading `fuel` headers
at most. An empty element with the tag number 0 closes one. No more than 49 are open at a
time. -/
def skipOpen? : (fuel opened : Nat) → Bytes → Option Bytes
  | _, 0, bs => some bs
  | 0, _ + 1, _ => none
  | fuel + 1, opened + 1, bs => do
    let (identifier, rest) ← (Identifier.read bs).toOption
    let (extent, rest) ← (Extent.read rest).toOption
    if 49 ≤ opened then none
    else
      match extent with
      | .definite length =>
        let closes := identifier.number == 0 && length == 0
        if length ≤ rest.length then
          skipOpen? fuel (if closes then opened else opened + 1) (rest.drop length)
        else none
      | .indefinite =>
        if identifier.constructed then skipOpen? fuel (opened + 2) rest else none

/-- Reads the serial number, an element with the tag number of an INTEGER. Its length may be
indefinite. -/
def serial? (bs : Bytes) : Option Bytes := do
  let (identifier, rest) ← (Identifier.read bs).toOption
  let (extent, rest) ← (Extent.read rest).toOption
  if identifier.number ≠ Tag.integer then none
  else
    match extent with
    | .definite length => if length ≤ rest.length then some (rest.drop length) else none
    | .indefinite => if identifier.constructed then skipOpen? rest.length 1 rest else none

/-- Reads an algorithm: a sequence of a primitive element and, perhaps, parameters. -/
def readAlgorithm (bs : Bytes) : Except OutlineFault Bytes := do
  let (content, rest) ← orFault (elementFault bs) (readContent Tag.sequence bs)
  let (element, parameters) ← readElement content
  if element.identifier.constructed then .error .malformed
  else if parameters.isEmpty then .ok rest
  else
    let _ ← readElement parameters
    return rest

/-- Reads a time. -/
def time? (bs : Bytes) : Option Bytes := do
  let (element, rest) ← element? bs
  let number := element.identifier.number
  if number = Tag.utcTime ∧ Time.isUtc element.content ∨
      number = Tag.generalizedTime ∧ Time.isGeneralized element.content then
    some rest
  else none

/-- Reads the two times of validity. -/
def readValidity (bs : Bytes) : Except OutlineFault Bytes := do
  let (content, rest) ← readSequence bs
  let _ ← orMalformed (time? content >>= time?)
  return rest

/-- Content of a BIT STRING starts with the count of unused bits, and these are zero. -/
def bitStringOk : Bytes → Bool
  | [] => false
  | unused :: bytes =>
    match bytes.getLast? with
    | none => unused == 0
    | some last => unused ≤ 8 && last.toNat % (1 <<< unused.toNat) == 0

/-- Reads a BIT STRING. -/
def bitString? (bs : Bytes) : Option Bytes := do
  let (element, rest) ← primitive? bs
  if element.identifier.number = Tag.bitString ∧ bitStringOk element.content then some rest
  else none

/-- Reads the key of the subject. -/
def readSubjectKey (bs : Bytes) : Except OutlineFault Bytes := do
  let (content, rest) ← readSequence bs
  let content ← readAlgorithm content
  let _ ← orMalformed (bitString? content)
  return rest

/-- Reads an optional unique identifier with the context-specific tag `number`. -/
def uniqueId? (number : Nat) (bs : Bytes) : Option Bytes :=
  if bs.isEmpty then some bs
  else do
    let (header, _) ← (Header.read bs).toOption
    if header.identifier.number ≠ number then some bs
    else
      let (element, rest) ← element? bs
      if element.identifier.cls = .contextual ∧ element.content ≠ [] then some rest else none

/-- Reads the mark of a critical extension, which is absent for one that is not. Any byte but
zero means true. -/
def critical (bs : Bytes) : Bool × Bytes :=
  match content? Tag.boolean bs with
  | some ([b], rest) => (b != 0, rest)
  | _ => (false, bs)

/-- Reads an extension. -/
def extension? (bs : Bytes) : Option (Extension × Bytes) := do
  let (content, rest) ← content? Tag.sequence bs
  let (oid, content) ← primitive? content
  let (critical, content) := critical content
  let (value, _) ← primitive? content
  if value.identifier.number = Tag.octetString then
    some (⟨⟨oid.content⟩, critical, value.content⟩, rest)
  else none

/-- Reads extensions that fill their input, `fuel` of them at most. -/
def extensionList? : (fuel : Nat) → Bytes → Option (List Extension)
  | _, [] => some []
  | 0, _ => none
  | fuel + 1, bs => do
    let (extension, rest) ← extension? bs
    let extensions ← extensionList? fuel rest
    return extension :: extensions

/-- Reads the extensions, which are the rest of the certificate body. The length of the
element around their sequence is not looked at. -/
def readExtensions (bs : Bytes) : Except OutlineFault (List Extension) :=
  if bs.isEmpty then .ok []
  else do
    let (header, rest) ← orFault .malformed (Header.read bs)
    if header.identifier.number ≠ 3 then .error .malformed
    else
      let (content, rest) ← readSequence rest
      if rest.isEmpty then orMalformed (extensionList? content.length content)
      else .error .malformed

/-! ### Certificates -/

/-- Reads the body of a certificate, which is what its issuer signs. What the names hold is not
looked at. -/
def readBody (bs : Bytes) : Except OutlineFault (Outline × Bytes) := do
  let (content, rest) ← readSequence bs
  let (version, content) ← readVersion content
  let content ← orMalformed (serial? content)
  let content ← readAlgorithm content
  let (issuer, content) ← readSequence content
  let content ← readValidity content
  let (subject, content) ← readSequence content
  let content ← readSubjectKey content
  let content ← orMalformed (uniqueId? 1 content)
  let content ← orMalformed (uniqueId? 2 content)
  let extensions ← readExtensions content
  return (⟨version, issuer, subject, extensions⟩, rest)

/-- Reads the outline of a certificate, and returns what follows the certificate. -/
def read (bs : Bytes) : Except OutlineFault (Outline × Bytes) := do
  let (content, rest) ← readSequence bs
  let (outline, content) ← readBody content
  let content ← readAlgorithm content
  let _ ← orMalformed (bitString? content)
  return (outline, rest)

end Outline
end PackedAttestation.Certificate
