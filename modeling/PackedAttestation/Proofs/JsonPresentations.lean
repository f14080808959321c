import PackedAttestation.Proofs.JsonForms

/-! # The JSON values that read as a value

Which JSON values present a value is said by recursion on the types, from byte strings and names
up to authenticator data (`IsPresentation` of each type).  Each reader takes the presentations of a
value and gives the value for them (`ofJson?_eq_some_iff` of each type), so what presents no value
is refused; the main result is `json_acceptsExactly`.

All records are presented as objects or as arrays, with one exception: the content of packed
metadata is an object only (`Specimen.positional_refused`).
-/
namespace PackedAttestation

open Json (IsRecord IsObject IsAlternative IsBareName IsBytes IsUuid)

variable {json : Json}

/-- A reader takes the presentations of each value, and refuses what presents no value. -/
structure Json.AcceptsExactly {α : Type} (read : Json → Option α)
    (IsPresentation : α → Json → Prop) : Prop where
  accepts : ∀ json a, read json = some a ↔ IsPresentation a json
  refuses : ∀ json, read json = none ↔ ∀ a, ¬IsPresentation a json

theorem Json.AcceptsExactly.of_iff {α : Type} {read : Json → Option α}
    {IsPresentation : α → Json → Prop}
    (h : ∀ {json a}, read json = some a ↔ IsPresentation a json) :
    Json.AcceptsExactly read IsPresentation where
  accepts := fun _ _ => h
  refuses := fun json => by simp only [Option.eq_none_iff_forall_ne_some, ne_eq, h]

namespace Cose

/-! ### Algorithms and curves -/

variable {s : String}

theorem Algorithm.ofAnyName?_eq_some_iff {algorithm : Algorithm} :
    ofAnyName? s = some algorithm ↔ algorithm.name = s ∨ algorithm.alias? = some s := by
  constructor
  · intro h
    simpa using List.find?_some h
  · rintro (rfl | hsecond)
    · cases algorithm <;> decide
    · cases algorithm <;> cases hsecond <;> decide

/-- The presentations of an algorithm: its name, or its second name if it has one. -/
def Algorithm.IsPresentation (algorithm : Algorithm) (json : Json) : Prop :=
  IsBareName algorithm.name json ∨
    ∃ second, algorithm.alias? = some second ∧ IsBareName second json

theorem Algorithm.ofJson?_eq_some_iff {algorithm : Algorithm} :
    ofJson? json = some algorithm ↔ algorithm.IsPresentation json := by
  simp only [ofJson?, Option.bind_eq_bind, Option.bind_eq_some_iff, Json.bareName?_eq_some_iff,
    ofAnyName?_eq_some_iff, IsPresentation]
  constructor
  · rintro ⟨name, hname, rfl | hsecond⟩
    · exact .inl hname
    · exact .inr ⟨name, hsecond, hname⟩
  · rintro (hname | ⟨second, hsecond, hname⟩)
    · exact ⟨algorithm.name, hname, .inl rfl⟩
    · exact ⟨second, hname, .inr hsecond⟩

theorem EcCurve.ofName?_eq_some_iff {curve : EcCurve} :
    ofName? s = some curve ↔ curve.name = s := by
  constructor
  · intro h
    simpa using List.find?_some h
  · rintro rfl
    cases curve <;> decide

theorem EcCurve.ofJson?_eq_some_iff {curve : EcCurve} :
    ofJson? json = some curve ↔ IsBareName curve.name json := by
  simp only [ofJson?, Option.bind_eq_bind, Option.bind_eq_some_iff, Json.bareName?_eq_some_iff,
    ofName?_eq_some_iff, exists_eq_right']

theorem EdCurve.ofName?_eq_some_iff {curve : EdCurve} :
    ofName? s = some curve ↔ curve.name = s := by
  constructor
  · intro h
    simpa using List.find?_some h
  · rintro rfl
    cases curve <;> decide

theorem EdCurve.ofJson?_eq_some_iff {curve : EdCurve} :
    ofJson? json = some curve ↔ IsBareName curve.name json := by
  simp only [ofJson?, Option.bind_eq_bind, Option.bind_eq_some_iff, Json.bareName?_eq_some_iff,
    ofName?_eq_some_iff, exists_eq_right']

/-! ### Keys -/

/-- The presentations of a key with two coordinates. -/
def Ec2Key.IsPresentation (key : Ec2Key) : Json → Prop :=
  IsRecord [⟨"curve", IsBareName key.curve.name⟩, ⟨"x", IsBytes key.x⟩, ⟨"y", IsBytes key.y⟩]

theorem Ec2Key.ofJson?_eq_some_iff {key : Ec2Key} :
    ofJson? json = some key ↔ key.IsPresentation json := by
  obtain ⟨curve, x, y⟩ := key
  refine Json.readThree_iff fun _ _ _ => ?_
  simp [Option.bind_eq_some_iff, EcCurve.ofJson?_eq_some_iff, Json.bytes?_eq_some_iff]

/-- The presentations of a key with one coordinate. -/
def OkpKey.IsPresentation (key : OkpKey) : Json → Prop :=
  IsRecord [⟨"curve", IsBareName key.curve.name⟩, ⟨"x", IsBytes key.x⟩]

theorem OkpKey.ofJson?_eq_some_iff {key : OkpKey} :
    ofJson? json = some key ↔ key.IsPresentation json := by
  obtain ⟨curve, x⟩ := key
  refine Json.readTwo_iff fun _ _ => ?_
  simp [Option.bind_eq_some_iff, EdCurve.ofJson?_eq_some_iff, Json.bytes?_eq_some_iff]

/-- The presentations of an RSA key. The exponent has three bytes. -/
def RsaKey.IsPresentation (key : RsaKey) : Json → Prop :=
  IsRecord [⟨"n", IsBytes key.modulus⟩, ⟨"e", IsBytes key.exponent.bytes⟩]

theorem RsaKey.ofJson?_eq_some_iff {key : RsaKey} :
    ofJson? json = some key ↔ key.IsPresentation json := by
  obtain ⟨modulus, exponent⟩ := key
  refine Json.readTwo_iff fun _ _ => ?_
  simp [Option.bind_eq_some_iff, Json.bytes?_eq_some_iff, Json.octets?_eq_some_iff]

/-- The presentations of key material: those of the key, under the name of its type. -/
def KeyMaterial.IsPresentation : KeyMaterial → Json → Prop
  | okp key => IsAlternative "EC_OKP" key.IsPresentation
  | ec2 key => IsAlternative "EC_EC2" key.IsPresentation
  | rsa key => IsAlternative "RSA" key.IsPresentation

theorem KeyMaterial.ofJson?_eq_some_iff {material : KeyMaterial} :
    ofJson? json = some material ↔ material.IsPresentation json := by
  constructor
  · intro h
    simp only [ofJson?, Option.bind_eq_bind, Option.bind_eq_some_iff] at h
    obtain ⟨entry, hentry, h⟩ := h
    split at h
    · obtain ⟨key, hkey, rfl⟩ := Option.map_eq_some_iff.mp h
      obtain rfl := Json.alternative?_eq_some_iff.mp hentry
      exact .object (OkpKey.ofJson?_eq_some_iff.mp hkey)
    · obtain ⟨key, hkey, rfl⟩ := Option.map_eq_some_iff.mp h
      obtain rfl := Json.alternative?_eq_some_iff.mp hentry
      exact .object (Ec2Key.ofJson?_eq_some_iff.mp hkey)
    · obtain ⟨key, hkey, rfl⟩ := Option.map_eq_some_iff.mp h
      obtain rfl := Json.alternative?_eq_some_iff.mp hentry
      exact .object (RsaKey.ofJson?_eq_some_iff.mp hkey)
    · cases h
  · intro h
    cases material with
    | okp key =>
      obtain ⟨hkey⟩ := h
      simp [ofJson?, Json.alternative?, OkpKey.ofJson?_eq_some_iff.mpr hkey]
    | ec2 key =>
      obtain ⟨hkey⟩ := h
      simp [ofJson?, Json.alternative?, Ec2Key.ofJson?_eq_some_iff.mpr hkey]
    | rsa key =>
      obtain ⟨hkey⟩ := h
      simp [ofJson?, Json.alternative?, RsaKey.ofJson?_eq_some_iff.mpr hkey]

/-- The presentations of a key. -/
def Key.IsPresentation (key : Key) : Json → Prop :=
  IsRecord [⟨"type_", key.algorithm.IsPresentation⟩, ⟨"key", key.material.IsPresentation⟩]

theorem Key.ofJson?_eq_some_iff {key : Key} :
    ofJson? json = some key ↔ key.IsPresentation json := by
  obtain ⟨algorithm, material⟩ := key
  refine Json.readTwo_iff fun _ _ => ?_
  simp [Option.bind_eq_some_iff, Algorithm.ofJson?_eq_some_iff, KeyMaterial.ofJson?_eq_some_iff]

end Cose

/-! ### Authenticator data -/

/-- The presentations of credential data. The AAGUID is an array of sixteen bytes, not a text. -/
def CredentialData.IsPresentation (credential : CredentialData) : Json → Prop :=
  IsRecord [⟨"aaguid", IsBytes credential.aaguid.bytes⟩,
    ⟨"credential_id", IsBytes credential.credentialId⟩,
    ⟨"credential_pk", credential.publicKey.IsPresentation⟩]

theorem CredentialData.ofJson?_eq_some_iff {credential : CredentialData} :
    ofJson? json = some credential ↔ credential.IsPresentation json := by
  obtain ⟨aaguid, credentialId, publicKey⟩ := credential
  refine Json.readThree_iff fun _ _ _ => ?_
  simp [Option.bind_eq_some_iff, Json.octets?_eq_some_iff, Json.bytes?_eq_some_iff,
    Cose.Key.ofJson?_eq_some_iff]

/-- The presentations of authenticator data. -/
def AuthenticatorData.IsPresentation (auth : AuthenticatorData) : Json → Prop :=
  IsRecord [⟨"raw", IsBytes auth.raw⟩,
    ⟨"attested_credential_data", auth.credential.IsPresentation⟩]

theorem AuthenticatorData.ofJson?_eq_some_iff {auth : AuthenticatorData} :
    ofJson? json = some auth ↔ auth.IsPresentation json := by
  obtain ⟨raw, credential⟩ := auth
  refine Json.readTwo_iff fun _ _ => ?_
  simp [Option.bind_eq_some_iff, Json.bytes?_eq_some_iff, CredentialData.ofJson?_eq_some_iff]

/-! ### Metadata -/

/-- The presentations of metadata. The content of a packed one is an object, and not an array. -/
def Metadata.IsPresentation : Metadata → Json → Prop
  | none => IsBareName "None"
  | packed aaguid => IsAlternative "Packed" (IsObject [⟨"aaguid", IsUuid aaguid⟩])

theorem Metadata.ofJson?_eq_some_iff {metadata : Metadata} :
    ofJson? json = some metadata ↔ metadata.IsPresentation json := by
  constructor
  · intro h
    unfold ofJson? at h
    split at h
    · rename_i members hname
      obtain rfl := Json.alternative?_eq_some_iff.mp hname
      simp only [Option.bind_eq_bind, Option.bind_eq_some_iff, Json.member?_eq_some_iff,
        Json.uuid?_eq_some_iff] at h
      obtain ⟨value, hmember, aaguid, huuid, ⟨⟩⟩ := h
      exact .object (.object (by simpa using ⟨value, hmember, huuid⟩))
    · split at h
      · rename_i hname
        cases h
        exact Json.bareName?_eq_some_iff.mp hname
      · cases h
  · intro h
    cases metadata with
    | none => obtain _ | _ := h <;> rfl
    | packed aaguid =>
      obtain ⟨⟨h⟩⟩ := h
      obtain ⟨value, hmember, huuid⟩ := h _ List.mem_cons_self
      simp [ofJson?, Json.alternative?, Json.member?_eq_some_iff.mpr hmember,
        Json.uuid?_eq_some_iff.mpr huuid]

/-- **The readers accept exactly the presentations.** Any JSON value reads as given authenticator
data, key, algorithm or metadata exactly if it presents it, and is refused exactly if it presents
none. Records may be objects with further members, or arrays of just the fields in order; names
stand alone or with null; bytes are integers in their range, as many as the type asks for; and
the text of a UUID is one of its spellings. -/
theorem json_acceptsExactly :
    Json.AcceptsExactly AuthenticatorData.ofJson? AuthenticatorData.IsPresentation ∧
    Json.AcceptsExactly Cose.Key.ofJson? Cose.Key.IsPresentation ∧
    Json.AcceptsExactly Cose.Algorithm.ofJson? Cose.Algorithm.IsPresentation ∧
    Json.AcceptsExactly Metadata.ofJson? Metadata.IsPresentation ∧
    ∀ s uuid, Uuid.parse? s = some uuid ↔ uuid.IsSpelling s :=
  ⟨.of_iff AuthenticatorData.ofJson?_eq_some_iff, .of_iff Cose.Key.ofJson?_eq_some_iff,
    .of_iff Cose.Algorithm.ofJson?_eq_some_iff, .of_iff Metadata.ofJson?_eq_some_iff,
    fun _ _ => Uuid.parse?_eq_some_iff⟩

/-- Both notations of records, and a second name with null. -/
example :
    Cose.Key.ofJson? (.array [.object [("ECDSA_SHA256", .null)],
      .object [("RSA", .object [("e", .ofBytes [1, 0, 1]), ("d", .null), ("n", .ofBytes [7])])]]) =
      some ⟨.es256, .rsa ⟨[7], ⟨[1, 0, 1], rfl⟩⟩⟩ := by
  decide

namespace Specimen

/-- A model of authenticators. -/
def model : Aaguid :=
  ⟨[0xcb, 0x69, 0x48, 0x1e, 0x8f, 0xf7, 0x40, 0x39, 0x93, 0xec, 0x0a, 0x27, 0x29, 0xa1, 0x54, 0xa8],
    rfl⟩

/-- Packed metadata of the model with its content as an array. -/
def positional : Json :=
  .object [("Packed", .array [.string "cb69481e-8ff7-4039-93ec-0a2729a154a8"])]

/-- The array holds exactly the one field, so it presents the content as a record; but it is
refused. -/
theorem positional_refused :
    IsAlternative "Packed" (IsRecord [⟨"aaguid", IsUuid model⟩]) positional ∧
      Metadata.ofJson? positional = none := by
  have hread : Uuid.parse? "cb69481e-8ff7-4039-93ec-0a2729a154a8" = some model := by decide
  exact ⟨.object (.inr (.array (.cons ⟨_, rfl, hread⟩ .nil))), rfl⟩

end Specimen
end PackedAttestation
