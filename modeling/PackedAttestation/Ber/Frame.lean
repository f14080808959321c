import PackedAttestation.Der.Header

/-! # Elements of the basic encoding, with indefinite lengths

A `Frame` is an element whose header has been read and found to fit its input.
`Frame.within?` then reads the content, either the announced number of bytes, all
of which have to be used, or up to an end-of-contents mark.
-/
namespace PackedAttestation.Ber

open Der (TagClass Identifier Extent)

/-- An element whose header has been read. `body` is all that follows the header. -/
structure Frame where
  identifier : Identifier
  extent : Extent
  body : Bytes

/-- Reads a multi-byte tag number below `2 ^ 31`. -/
def readNumber? : (acc : Nat) → Bytes → Option (Nat × Bytes)
  | _, [] => none
  | acc, b :: rest =>
    let n := acc * 128 + b.toNat % 128
    if b < 128 then some (n, rest) else if n < 1 <<< 24 then readNumber? n rest else none

/-- Reads identifier octets. -/
def readIdentifier? : Bytes → Option (Identifier × Bytes)
  | [] => none
  | b :: rest =>
    let cls := TagClass.ofBits (b.toNat / 64)
    let constructed := b.toNat / 32 % 2 == 1
    if b.toNat % 32 = 31 then do
      let (number, rest) ← readNumber? 0 rest
      return (⟨cls, constructed, number⟩, rest)
    else some (⟨cls, constructed, b.toNat % 32⟩, rest)

/-- Reads length octets. The long form needs at least one byte after it, and its value is
below `2 ^ 63`. -/
def readExtent? : Bytes → Option (Extent × Bytes)
  | [] => none
  | b :: rest =>
    if b < 128 then some (.definite b.toNat, rest)
    else if b = 128 then some (.indefinite, rest)
    else
      let count := b.toNat - 128
      let length := Bytes.toNat (rest.take count)
      if count < rest.length ∧ length < 1 <<< 63 then some (.definite length, rest.drop count)
      else none

namespace Frame

/-- Reads the header of an element. Content of definite length has to be there in full, and
only constructed elements may have an indefinite length. -/
def read? (bs : Bytes) : Option Frame := do
  let (identifier, rest) ← readIdentifier? bs
  let (extent, body) ← readExtent? rest
  match extent with
  | .definite length => if length ≤ body.length then some ⟨identifier, extent, body⟩ else none
  | .indefinite => if identifier.constructed then some ⟨identifier, extent, body⟩ else none

/-- Whether an element has the universal tag `number`. -/
def isUniversal (frame : Frame) (number : Nat) : Bool :=
  frame.identifier.cls == .universal && frame.identifier.number == number

/-- Whether an element has the context-specific tag `number`. -/
def isContextual (frame : Frame) (number : Nat) : Bool :=
  frame.identifier.cls == .contextual && frame.identifier.number == number

/-- The content of a primitive element, and what follows it. -/
def primitive? (frame : Frame) : Option (Bytes × Bytes) :=
  match frame.extent with
  | .definite length =>
    if frame.identifier.constructed then none
    else some (frame.body.take length, frame.body.drop length)
  | .indefinite => none

/-- Reads the content of an element with `f`, which returns what it did not use, and
returns what follows the element. -/
def within? {α : Type} (frame : Frame) (f : Bytes → Option (α × Bytes)) : Option (α × Bytes) :=
  match frame.extent with
  | .definite length =>
    match f (frame.body.take length) with
    | some (a, []) => some (a, frame.body.drop length)
    | _ => none
  | .indefinite =>
    match f frame.body with
    | some (a, 0 :: 0 :: rest) => some (a, rest)
    | _ => none

end Frame

/-- Whether no further element follows: the input is used up, or an end-of-contents mark
comes next. -/
def atEnd : Bytes → Bool
  | [] => true
  | 0 :: 0 :: _ => true
  | _ => false

/-- Reads elements with `f` until no further one follows, `fuel` of them at most. -/
def elements? {α : Type} (f : Bytes → Option (α × Bytes)) :
    (fuel : Nat) → Bytes → Option (List α × Bytes)
  | 0, bs => if atEnd bs then some ([], bs) else none
  | fuel + 1, bs =>
    if atEnd bs then some ([], bs)
    else do
      let (a, rest) ← f bs
      let (as, rest) ← elements? f fuel rest
      return (a :: as, rest)

/-- Reads the elements of a SEQUENCE OF or SET OF with `f`. The constructed bit is not
looked at. -/
def listOf? {α : Type} (number : Nat) (f : Bytes → Option (α × Bytes)) (bs : Bytes) :
    Option (List α × Bytes) := do
  let frame ← Frame.read? bs
  if frame.isUniversal number then frame.within? (elements? f frame.body.length) else none

/-- Reads the fields of a SEQUENCE with `f`. -/
def fields? {α : Type} (f : Bytes → Option (α × Bytes)) (bs : Bytes) : Option (α × Bytes) := do
  let frame ← Frame.read? bs
  if frame.isUniversal 16 ∧ frame.identifier.constructed then frame.within? f else none

/-- Reads an optional element with `f`, if the next element is one that `wanted` picks. -/
def optional? {α : Type} (wanted : Frame → Bool) (f : Frame → Option (α × Bytes)) (bs : Bytes) :
    Option (Option α × Bytes) :=
  if atEnd bs then some (none, bs)
  else do
    let frame ← Frame.read? bs
    if wanted frame then
      let (a, rest) ← f frame
      return (some a, rest)
    else some (none, bs)

/-- Reads the one element inside an element with an explicit tag. -/
def explicit? {α : Type} (f : Bytes → Option (α × Bytes)) (frame : Frame) : Option (α × Bytes) :=
  if frame.identifier.constructed then frame.within? f else none

/-- Passes over elements until `open` indefinite lengths are closed, reading `fuel` headers
and marks at most. -/
def skipOpen? : (fuel opened : Nat) → Bytes → Option Bytes
  | _, 0, bs => some bs
  | 0, _ + 1, _ => none
  | fuel + 1, opened + 1, bs =>
    match bs with
    | 0 :: 0 :: rest => skipOpen? fuel opened rest
    | _ => do
      let frame ← Frame.read? bs
      match frame.extent with
      | .definite length => skipOpen? fuel (opened + 1) (frame.body.drop length)
      | .indefinite => skipOpen? fuel (opened + 2) frame.body

/-- Whether the header of the next element, and those of the elements inside indefinite
lengths, of which `opened` are open, have `size` bytes at most, reading `fuel` headers and
marks at most. -/
def headersWithin (size : Nat) : (fuel opened : Nat) → Bytes → Bool
  | 0, _, _ => false
  | fuel + 1, opened, bs =>
    match opened, bs with
    | opened + 1, 0 :: 0 :: rest => opened == 0 || headersWithin size fuel opened rest
    | opened, bs =>
      match Frame.read? bs with
      | none => false
      | some frame =>
        bs.length - frame.body.length ≤ size &&
          match frame.extent with
          | .definite length =>
            opened == 0 || headersWithin size fuel opened (frame.body.drop length)
          | .indefinite => headersWithin size fuel (opened + 1) frame.body

/-- What follows an element, whatever its content is. -/
def Frame.skip? (frame : Frame) : Option Bytes :=
  match frame.extent with
  | .definite length => some (frame.body.drop length)
  | .indefinite => skipOpen? frame.body.length 1 frame.body

end PackedAttestation.Ber
