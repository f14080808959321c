import PackedAttestation.Bytes

/-! # Byte strings of a fixed length, and UUIDs

A UUID is sixteen bytes.  It is written with hyphens (`Uuid.text`), and read with
hyphens, alone, in braces or after `urn:uuid:`, or as thirty-two digits without
hyphens (`Uuid.parse?`).  Letters may have either case everywhere.
-/
namespace PackedAttestation

/-- A byte string of length `n`. -/
structure Octets (n : Nat) where
  bytes : Bytes
  length_eq : bytes.length = n
deriving DecidableEq

namespace Octets

/-- A byte string as one of length `n`, if it is. -/
def ofBytes? (n : Nat) (bs : Bytes) : Option (Octets n) :=
  if h : bs.length = n then some ⟨bs, h⟩ else none

theorem ofBytes?_bytes {n : Nat} (o : Octets n) : ofBytes? n o.bytes = some o := by
  simp [ofBytes?, o.length_eq]

end Octets

/-- A universally unique identifier. -/
abbrev Uuid := Octets 16

/-- The identifier of a model of authenticators. -/
abbrev Aaguid := Uuid

namespace Uuid

/-- Thirty-two digits in groups of 8, 4, 4, 4 and 12. -/
def hyphenate (digits : List Char) : List Char :=
  digits.take 8 ++ '-' :: ((digits.drop 8).take 4 ++ '-' :: ((digits.drop 12).take 4 ++
    '-' :: ((digits.drop 16).take 4 ++ '-' :: digits.drop 20)))

/-- The lower-case text of a UUID, with hyphens. -/
def text (uuid : Uuid) : String :=
  String.ofList (hyphenate (Bytes.toHexChars uuid.bytes))

/-- The digits of a text of thirty-six characters with hyphens in the right places. -/
def unhyphenate? (cs : List Char) : Option (List Char) :=
  let digits := cs.take 8 ++ ((cs.drop 9).take 4 ++ ((cs.drop 14).take 4 ++
    ((cs.drop 19).take 4 ++ cs.drop 24)))
  if cs.length = 36 ∧ cs[8]? = some '-' ∧ cs[13]? = some '-' ∧ cs[18]? = some '-' ∧
      cs[23]? = some '-' then
    some digits
  else none

/-- The digits of a UUID in any of its spellings. -/
def digits? (cs : List Char) : Option (List Char) :=
  if cs.length = 32 then some cs
  else if cs.length = 38 then
    if cs.head? = some '\x7b' ∧ cs.getLast? = some '\x7d' then unhyphenate? (cs.drop 1).dropLast
    else none
  else if cs.length = 45 then
    if (cs.take 9).map Char.toLower = "urn:uuid:".toList then unhyphenate? (cs.drop 9) else none
  else unhyphenate? cs

/-- Reads a UUID in any of its spellings. -/
def parse? (s : String) : Option Uuid := do
  let digits ← digits? s.toList
  let bytes ← Bytes.ofHexChars? digits
  Octets.ofBytes? 16 bytes

end Uuid
end PackedAttestation
