import PackedAttestation.Attestation
import PackedAttestation.Json

/-! # JSON presentations

Credential keys, authenticator data and metadata as JSON values.  Names stand for
algorithms and curves, records for what has fields, and alternatives for what has
several types.
-/
namespace PackedAttestation

/-! ### Keys -/

namespace Cose

namespace Algorithm

/-- The algorithm with a name or a second name. -/
def ofAnyName? (s : String) : Option Algorithm :=
  all.find? fun algorithm => algorithm.name == s || algorithm.alias? == some s

/-- An algorithm as its name. -/
def toJson (algorithm : Algorithm) : Json := .string algorithm.name

/-- An algorithm from one of its names. -/
def ofJson? (json : Json) : Option Algorithm := do
  let name ← json.bareName?
  ofAnyName? name

end Algorithm

/-- A curve as its name. -/
def EcCurve.toJson (curve : EcCurve) : Json := .string curve.name

/-- A curve from its name. -/
def EcCurve.ofJson? (json : Json) : Option EcCurve := do
  let name ← json.bareName?
  EcCurve.ofName? name

/-- A curve as its name. -/
def EdCurve.toJson (curve : EdCurve) : Json := .string curve.name

/-- A curve from its name. -/
def EdCurve.ofJson? (json : Json) : Option EdCurve := do
  let name ← json.bareName?
  EdCurve.ofName? name

namespace Ec2Key

/-- The names of the fields. -/
def fieldNames : List String := ["curve", "x", "y"]

/-- A key with two coordinates as a record. -/
def toJson (key : Ec2Key) : Json :=
  .object [("curve", key.curve.toJson), ("x", .ofBytes key.x), ("y", .ofBytes key.y)]

/-- A key with two coordinates from a record. -/
def ofJson? (json : Json) : Option Ec2Key :=
  match json.fields? fieldNames with
  | some [curve, x, y] => do
    let curve ← EcCurve.ofJson? curve
    let x ← x.bytes?
    let y ← y.bytes?
    return ⟨curve, x, y⟩
  | _ => none

end Ec2Key

namespace OkpKey

/-- The names of the fields. -/
def fieldNames : List String := ["curve", "x"]

/-- A key with one coordinate as a record. -/
def toJson (key : OkpKey) : Json :=
  .object [("curve", key.curve.toJson), ("x", .ofBytes key.x)]

/-- A key with one coordinate from a record. -/
def ofJson? (json : Json) : Option OkpKey :=
  match json.fields? fieldNames with
  | some [curve, x] => do
    let curve ← EdCurve.ofJson? curve
    let x ← x.bytes?
    return ⟨curve, x⟩
  | _ => none

end OkpKey

namespace RsaKey

/-- The names of the fields. -/
def fieldNames : List String := ["n", "e"]

/-- An RSA key as a record. -/
def toJson (key : RsaKey) : Json :=
  .object [("n", .ofBytes key.modulus), ("e", .ofBytes key.exponent.bytes)]

/-- An RSA key from a record. -/
def ofJson? (json : Json) : Option RsaKey :=
  match json.fields? fieldNames with
  | some [n, e] => do
    let modulus ← n.bytes?
    let exponent ← e.octets? 3
    return ⟨modulus, exponent⟩
  | _ => none

end RsaKey

namespace KeyMaterial

/-- Key material as an alternative for each type of key. -/
def toJson : KeyMaterial → Json
  | okp key => .object [("EC_OKP", key.toJson)]
  | ec2 key => .object [("EC_EC2", key.toJson)]
  | rsa key => .object [("RSA", key.toJson)]

/-- Key material from an alternative. -/
def ofJson? (json : Json) : Option KeyMaterial := do
  match ← json.alternative? with
  | ("EC_OKP", content) => (OkpKey.ofJson? content).map okp
  | ("EC_EC2", content) => (Ec2Key.ofJson? content).map ec2
  | ("RSA", content) => (RsaKey.ofJson? content).map rsa
  | _ => none

end KeyMaterial

namespace Key

/-- The names of the fields. -/
def fieldNames : List String := ["type_", "key"]

/-- A key as a record of its algorithm and its material. -/
def toJson (key : Key) : Json :=
  .object [("type_", key.algorithm.toJson), ("key", key.material.toJson)]

/-- A key from a record. -/
def ofJson? (json : Json) : Option Key :=
  match json.fields? fieldNames with
  | some [algorithm, material] => do
    let algorithm ← Algorithm.ofJson? algorithm
    let material ← KeyMaterial.ofJson? material
    return ⟨algorithm, material⟩
  | _ => none

end Key
end Cose

/-! ### Authenticator data -/

namespace CredentialData

/-- The names of the fields. -/
def fieldNames : List String := ["aaguid", "credential_id", "credential_pk"]

/-- Credential data as a record, with the AAGUID as an array of bytes. -/
def toJson (credential : CredentialData) : Json :=
  .object [("aaguid", .ofBytes credential.aaguid.bytes),
    ("credential_id", .ofBytes credential.credentialId),
    ("credential_pk", credential.publicKey.toJson)]

/-- Credential data from a record. -/
def ofJson? (json : Json) : Option CredentialData :=
  match json.fields? fieldNames with
  | some [aaguid, credentialId, publicKey] => do
    let aaguid ← aaguid.octets? 16
    let credentialId ← credentialId.bytes?
    let publicKey ← Cose.Key.ofJson? publicKey
    return ⟨aaguid, credentialId, publicKey⟩
  | _ => none

end CredentialData

namespace AuthenticatorData

/-- The names of the fields. -/
def fieldNames : List String := ["raw", "attested_credential_data"]

/-- Authenticator data as a record. -/
def toJson (auth : AuthenticatorData) : Json :=
  .object [("raw", .ofBytes auth.raw), ("attested_credential_data", auth.credential.toJson)]

/-- Authenticator data from a record. -/
def ofJson? (json : Json) : Option AuthenticatorData :=
  match json.fields? fieldNames with
  | some [raw, credential] => do
    let raw ← raw.bytes?
    let credential ← CredentialData.ofJson? credential
    return ⟨raw, credential⟩
  | _ => none

end AuthenticatorData

/-! ### Metadata -/

namespace Metadata

/-- Metadata as an alternative. -/
def toJson : Metadata → Json
  | none => .string "None"
  | packed aaguid => .object [("Packed", .object [("aaguid", .ofUuid aaguid)])]

/-- Metadata from an alternative. The content of a packed one is an object only, not an
array. -/
def ofJson? (json : Json) : Option Metadata :=
  match json.alternative? with
  | some ("Packed", .object members) => do
    let aaguid ← Json.member? "aaguid" members
    let aaguid ← aaguid.uuid?
    return packed aaguid
  | _ => if json.bareName? = some "None" then some none else Option.none

end Metadata

end PackedAttestation
