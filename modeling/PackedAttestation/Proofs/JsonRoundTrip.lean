import PackedAttestation.Presentation
import PackedAttestation.Proofs.UuidSpellings

/-! # The JSON form loses nothing

What is written as JSON is read back, layer by layer: byte strings and UUIDs, names, records and
alternatives (`ofJson?_toJson` for each type).  A reader takes further forms than its writer
gives: second names, records as arrays, further members, other spellings of a UUID.  Writing
what was read gives the one form of the value, and that form stays as it is
(`Json.LosesNothing.of_roundTrip`).
-/
namespace PackedAttestation

namespace Json

/-- A reader and a writer of a type that fit each other. What is written is read back. What was
read from any JSON value and is written again reads as the same, and whatever it reads as is
written the same way. -/
structure LosesNothing {α : Type} (write : α → Json) (read : Json → Option α) : Prop where
  roundTrip : ∀ a, read (write a) = some a
  settles : ∀ json a, read json = some a →
    read (write a) = some a ∧ (read (write a)).map write = some (write a)

theorem LosesNothing.of_roundTrip {α : Type} {write : α → Json} {read : Json → Option α}
    (h : ∀ a, read (write a) = some a) : LosesNothing write read where
  roundTrip := h
  settles := fun _ a _ => ⟨h a, by rw [h a, Option.map_some]⟩

/-! ### Byte strings and UUIDs -/

@[simp] theorem byte?_ofByte (b : UInt8) : (ofByte b).byte? = some b := by
  have hb : b.toNat < 256 := b.toNat_lt
  have hrange : (0 : Int) ≤ b.toNat ∧ (b.toNat : Int) < 256 := by omega
  simp [ofByte, byte?, hrange]

@[simp] theorem byteList?_map_ofByte (bs : Bytes) : byteList? (bs.map ofByte) = some bs := by
  induction bs with
  | nil => rfl
  | cons b bs ih => simp [byteList?, ih]

@[simp] theorem bytes?_ofBytes (bs : Bytes) : (ofBytes bs).bytes? = some bs :=
  byteList?_map_ofByte bs

@[simp] theorem octets?_ofBytes {n : Nat} (o : Octets n) :
    (ofBytes o.bytes).octets? n = some o := by
  simp [octets?, Octets.ofBytes?_bytes]

@[simp] theorem uuid?_ofUuid (uuid : Uuid) : (ofUuid uuid).uuid? = some uuid :=
  Uuid.parse?_text uuid

end Json

/-! ### Algorithms, curves and keys -/

namespace Cose

@[simp] theorem Algorithm.ofJson?_toJson (algorithm : Algorithm) :
    ofJson? algorithm.toJson = some algorithm := by
  cases algorithm <;> decide

@[simp] theorem EcCurve.ofJson?_toJson (curve : EcCurve) : ofJson? curve.toJson = some curve := by
  cases curve <;> decide

@[simp] theorem EdCurve.ofJson?_toJson (curve : EdCurve) : ofJson? curve.toJson = some curve := by
  cases curve <;> decide

@[simp] theorem Ec2Key.ofJson?_toJson (key : Ec2Key) : ofJson? key.toJson = some key := by
  have hfields : key.toJson.fields? fieldNames =
      some [key.curve.toJson, .ofBytes key.x, .ofBytes key.y] := rfl
  simp [ofJson?, hfields]

@[simp] theorem OkpKey.ofJson?_toJson (key : OkpKey) : ofJson? key.toJson = some key := by
  have hfields : key.toJson.fields? fieldNames =
      some [key.curve.toJson, .ofBytes key.x] := rfl
  simp [ofJson?, hfields]

@[simp] theorem RsaKey.ofJson?_toJson (key : RsaKey) : ofJson? key.toJson = some key := by
  have hfields : key.toJson.fields? fieldNames =
      some [.ofBytes key.modulus, .ofBytes key.exponent.bytes] := rfl
  simp [ofJson?, hfields]

@[simp] theorem KeyMaterial.ofJson?_toJson (material : KeyMaterial) :
    ofJson? material.toJson = some material := by
  cases material with
  | okp key => simp [ofJson?, toJson, Json.alternative?]
  | ec2 key => simp [ofJson?, toJson, Json.alternative?]
  | rsa key => simp [ofJson?, toJson, Json.alternative?]

@[simp] theorem Key.ofJson?_toJson (key : Key) : ofJson? key.toJson = some key := by
  have hfields : key.toJson.fields? fieldNames =
      some [key.algorithm.toJson, key.material.toJson] := rfl
  simp [ofJson?, hfields]

end Cose

/-! ### Authenticator data and metadata -/

@[simp] theorem CredentialData.ofJson?_toJson (credential : CredentialData) :
    ofJson? credential.toJson = some credential := by
  have hfields : credential.toJson.fields? fieldNames =
      some [.ofBytes credential.aaguid.bytes, .ofBytes credential.credentialId,
        credential.publicKey.toJson] := rfl
  simp [ofJson?, hfields]

theorem AuthenticatorData.ofJson?_toJson (auth : AuthenticatorData) :
    ofJson? auth.toJson = some auth := by
  have hfields : auth.toJson.fields? fieldNames =
      some [.ofBytes auth.raw, auth.credential.toJson] := rfl
  simp [ofJson?, hfields]

theorem Metadata.ofJson?_toJson (metadata : Metadata) :
    ofJson? metadata.toJson = some metadata := by
  cases metadata with
  | none => rfl
  | packed aaguid => simp [ofJson?, toJson, Json.alternative?, Json.member?]

/-- **The JSON form loses nothing.** Authenticator data, keys, algorithms and metadata are read
back from the JSON value that is written for them. Any JSON value that reads as one of these has
one form to which it settles in one step. And the text of a UUID reads as the UUID: of all the
texts that do, it is the one in groups of 8, 4, 4, 4 and 12 lower-case digits with hyphens. -/
theorem json_losesNothing :
    Json.LosesNothing AuthenticatorData.toJson AuthenticatorData.ofJson? ∧
    Json.LosesNothing Cose.Key.toJson Cose.Key.ofJson? ∧
    Json.LosesNothing Cose.Algorithm.toJson Cose.Algorithm.ofJson? ∧
    Json.LosesNothing Metadata.toJson Metadata.ofJson? ∧
    (∀ uuid, Uuid.parse? (Uuid.text uuid) = some uuid) ∧
    ∀ uuid s, s = Uuid.text uuid ↔ Uuid.IsGrouped s ∧ Uuid.parse? s = some uuid :=
  ⟨.of_roundTrip AuthenticatorData.ofJson?_toJson, .of_roundTrip Cose.Key.ofJson?_toJson,
    .of_roundTrip Cose.Algorithm.ofJson?_toJson, .of_roundTrip Metadata.ofJson?_toJson,
    Uuid.parse?_text, fun _ _ => Uuid.eq_text_iff⟩

end PackedAttestation
