import PackedAttestation.Octets

/-! # JSON values and their common presentations

Two notations are read for a record, and one is written.  A record is an object with
a member for each field, where further members are ignored, or an array of exactly
the fields in order (`Json.fields?`); it is written as an object.  A choice between
alternatives is an object whose only member is named for the alternative
(`Json.alternative?`).  An alternative without content may also stand alone as a
string (`Json.bareName?`), and is written so.
-/
namespace PackedAttestation

/-- A JSON value. The members of an object have different names. -/
inductive Json where
  | null
  | bool (b : Bool)
  | integer (n : Int)
  /-- A number that is not written as an integer, kept as text. -/
  | decimal (text : String)
  | string (s : String)
  | array (items : List Json)
  | object (members : List (String × Json))
deriving Inhabited

namespace Json

/-- The member of an object with a name. -/
def member? (name : String) : List (String × Json) → Option Json
  | [] => none
  | (key, value) :: rest => if key = name then some value else member? name rest

/-- The members of an object with the given names, in the order of the names. -/
def members? (object : List (String × Json)) : List String → Option (List Json)
  | [] => some []
  | name :: names => do
    let value ← member? name object
    let values ← members? object names
    return value :: values

/-- The fields of a record in order, from an object or an array. -/
def fields? (names : List String) : Json → Option (List Json)
  | object members => members? members names
  | array items => if items.length = names.length then some items else none
  | _ => none

/-- The name and the content of an alternative. -/
def alternative? : Json → Option (String × Json)
  | object [(name, content)] => some (name, content)
  | _ => none

/-- The name of an alternative without content. -/
def bareName? : Json → Option String
  | string name => some name
  | object [(name, null)] => some name
  | _ => none

/-! ### Byte strings -/

/-- A byte as an integer. -/
def ofByte (b : UInt8) : Json := integer b.toNat

/-- A byte from an integer in its range. -/
def byte? : Json → Option UInt8
  | integer n => if 0 ≤ n ∧ n < 256 then some (UInt8.ofNat n.toNat) else none
  | _ => none

/-- A byte string as an array of integers. -/
def ofBytes (bs : Bytes) : Json := array (bs.map ofByte)

/-- The bytes in a list of values. -/
def byteList? : List Json → Option Bytes
  | [] => some []
  | item :: items => do
    let b ← byte? item
    let bs ← byteList? items
    return b :: bs

/-- A byte string from an array of integers. -/
def bytes? : Json → Option Bytes
  | array items => byteList? items
  | _ => none

/-- A byte string of a fixed length from an array of integers. -/
def octets? (n : Nat) (json : Json) : Option (Octets n) := do
  let bs ← json.bytes?
  Octets.ofBytes? n bs

/-- A UUID as text. -/
def ofUuid (uuid : Uuid) : Json := string (Uuid.text uuid)

/-- A UUID from text in any of its spellings. -/
def uuid? : Json → Option Uuid
  | string s => Uuid.parse? s
  | _ => none

end Json
end PackedAttestation
