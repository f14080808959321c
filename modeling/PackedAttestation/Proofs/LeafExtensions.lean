import PackedAttestation.Der.Element
import PackedAttestation.Proofs.Acceptance
import PackedAttestation.Proofs.AuthorityConstraints
import PackedAttestation.Proofs.FirstAccepted

/-! # What the extensions of an accepted leaf say

The certificate that a basic attestation is accepted with, its leaf, is judged by two
extensions.  Its basic constraints must not mark it as one of an authority, and its
AAGUID extension must tell the AAGUID of the authenticator data.  Both checks let
something pass.  Basic constraints that do not read say nothing, and neither do those
with a path length that is too large (`basicConstraints_of_accepted`).  Only the first
AAGUID extension is judged (`aaguidExtensions_of_accepted`).

The specimen is an attestation by a leaf with any extensions.  Who issued the leaf is not
looked at, so the same signature serves for all of them.
-/
namespace PackedAttestation

open Der
open Certificate (Outline Extension BasicConstraints Decodes)

/-! ### The leaf -/

/-- The value reads as a basic statement, and its attestation certificate decodes as `outline`
and `leaf`. -/
def PresentsLeaf (value : Cbor) (outline : Outline) (leaf : Certificate) : Prop :=
  ∃ statement, Statement.ofCbor value = .ok (.basic statement) ∧
    Decodes statement.leaf outline leaf

theorem PresentsLeaf.unique {value : Cbor} {outline outline' : Outline} {leaf leaf' : Certificate}
    (h : PresentsLeaf value outline leaf) (h' : PresentsLeaf value outline' leaf') :
    outline = outline' ∧ leaf = leaf' := by
  obtain ⟨statement, hstatement, houtline, hleaf⟩ := h
  obtain ⟨statement', hstatement', houtline', hleaf'⟩ := h'
  rw [hstatement] at hstatement'
  cases hstatement'
  rw [houtline] at houtline'
  rw [hleaf] at hleaf'
  cases houtline'
  cases hleaf'
  exact ⟨rfl, rfl⟩

/-- The check of the AAGUID extension sees the first one only. -/
theorem Certificate.Outline.checkAaguid_congr {outline outline' : Outline} {expected : Aaguid}
    (h : (outline'.extensionsWith Oid.aaguidExtension).head? =
      (outline.extensionsWith Oid.aaguidExtension).head?) :
    outline'.checkAaguid expected = outline.checkAaguid expected := by
  rw [Outline.extensionsWith, Outline.extensionsWith, List.head?_filter, List.head?_filter] at h
  rw [Outline.checkAaguid, Outline.checkAaguid, h]

theorem presentsLeaf_of_accepted {value : Cbor} {auth : AuthenticatorData} {clientDataHash : Bytes}
    {path : List Certificate} {metadata : Metadata}
    (h : (verifyPacked value auth clientDataHash).outcome = .ok ⟨.basic path, metadata⟩) :
    ∃ outline leaf, PresentsLeaf value outline leaf ∧ path.head? = some leaf ∧
      outline.DeniesAuthority ∧
      ∀ extension ∈ (outline.extensionsWith Oid.aaguidExtension).head?,
        extension.Tells auth.credential.aaguid := by
  obtain ⟨statement, hstatement, hverify⟩ := outcome_verifyPacked_eq_ok_basic_iff.mp h
  obtain ⟨outline, leaf, chain, algorithm, hleaf, -, -, hdenies, htells, -, heq⟩ :=
    BasicStatement.outcome_verify_eq_ok_iff.mp hverify
  cases heq
  refine ⟨outline, leaf, ⟨statement, hstatement, hleaf⟩, rfl, hdenies, ?_⟩
  rw [Outline.extensionsWith, List.head?_filter]
  exact htells

/-! ### The specimen -/

/-- Writes an extension. -/
def Certificate.Extension.encode (extension : Extension) : Bytes :=
  encodeSequence <|
    encodeUniversal false Tag.objectIdentifier extension.oid.content ++
      (if extension.critical then encodeUniversal false Tag.boolean [255] else []) ++
        encodeUniversal false Tag.octetString extension.value

namespace Specimen

/-- The coordinates of the key of the leaf, on P-256. -/
def x : Bytes :=
  Bytes.ofNatFixed 32 0x36e8b631dda68053ff9c16979b16948adb2de63c08e38d30430b51777ca3c6bd

def y : Bytes :=
  Bytes.ofNatFixed 32 0xd0d91425e99028eed7b9e2b8872e2f341ee4c9e3eff15076ca6c09e730a25d80

/-- A key on P-256. -/
def keyOf (x y : Bytes) : Certificate.PublicKey :=
  .ec Curve.p256 (.affine (Bytes.toNat x) (Bytes.toNat y))

def key : Certificate.PublicKey := keyOf x y

/-- An attribute of a name, of the type `2.5.4.number`. -/
def nameAttribute (number : UInt8) (tag text : Nat) : Bytes :=
  encodeUniversal true Tag.set <| encodeSequence <|
    encodeUniversal false Tag.objectIdentifier [0x55, 4, number] ++
      encodeUniversal false tag (Bytes.ofNat text)

/-- The name of the issuer and the subject: country, organisation, unit and common name. -/
def name : Bytes :=
  nameAttribute 6 Tag.printableString 0x5345 ++
    nameAttribute 10 Tag.utf8String 0x546573742056656e646f72204142 ++
      nameAttribute 11 Tag.utf8String 0x41757468656e74696361746f72204174746573746174696f6e ++
        nameAttribute 3 Tag.utf8String 0x54657374204174746573746174696f6e2042617463682031

/-- The start of a year of this century, given by its last two digits. -/
def newYear (hi lo : UInt8) : Bytes :=
  encodeUniversal false Tag.utcTime <|
    [48 + hi, 48 + lo] ++ [48, 49, 48, 49] ++ [48, 48, 48, 48, 48, 48] ++ [90]

def subjectKey (x y : Bytes) : Bytes :=
  encodeSequence <|
    Certificate.Algorithm.encode
        ⟨Oid.ecPublicKey, some (.value Tag.objectIdentifier Oid.curveP256.content)⟩ ++
      encodeUniversal false Tag.bitString (0 :: 4 :: (x ++ y))

/-- The body of a certificate of version 3 that is its own issuer. -/
def body (x y : Bytes) (extensions : List Extension) : Bytes :=
  encodeSequence <|
    encode ⟨.contextual, true, 0⟩ (encodeUnsigned [2]) ++ encodeUnsigned [7] ++
      Certificate.Algorithm.encode ⟨Oid.ecdsaWithSha256, none⟩ ++ encodeSequence name ++
        encodeSequence (newYear 2 4 ++ newYear 3 4) ++ encodeSequence name ++ subjectKey x y ++
          encode ⟨.contextual, true, 3⟩ (encodeSequence (extensions.flatMap Extension.encode))

/-- A leaf that declares an algorithm, with the key and the extensions given. The signature of its
issuer is made up. -/
def leafOf (declared : Oid) (x y : Bytes) (extensions : List Extension) : Certificate where
  body := body x y extensions
  signatureAlgorithm := ⟨declared, none⟩
  signature := ⟨0, encodeSequence (encodeUnsigned [1] ++ encodeUnsigned [1])⟩
  key := some (keyOf x y)

/-- A leaf with given extensions. -/
def leaf (extensions : List Extension) : Certificate :=
  leafOf Oid.ecdsaWithSha256 x y extensions

/-- The outline of all leaves with given extensions. -/
def outlineOf (extensions : List Extension) : Outline :=
  ⟨2, name, name, extensions⟩

def aaguid : Aaguid := ⟨Bytes.ofNatFixed 16 0xcb69481e8ff7403993ec0a2729a154a8, by decide⟩

def credentialId : Bytes := Bytes.ofNatFixed 16 0x4c2a0ee9cb1bd1fd5b5d7a4b5c1b8e26

def credentialX : Bytes :=
  Bytes.ofNatFixed 32 0x0b73c470d16f00103b6bda81dcf3a673958d20d3ecafe97bdb6c05c08f654e8b

def credentialY : Bytes :=
  Bytes.ofNatFixed 32 0xb712684ceee90674634b00746ce0a7addebfe11813c4256d5bb728e05750ab83

/-- Authenticator data of a credential on P-256. -/
def auth : AuthenticatorData where
  raw :=
    Bytes.ofNatFixed 32 0x49960de5880e8c687434170f6476605b8fe4aeb9a28632c7995cf3ba831d9763 ++
      [0x45, 0, 0, 0, 1] ++ aaguid.bytes ++ [0, 16] ++ credentialId
  credential := ⟨aaguid, credentialId, ⟨.es256, .ec2 ⟨.p256, credentialX, credentialY⟩⟩⟩

def clientDataHash : Bytes :=
  Bytes.ofNatFixed 32 0x6a1f3e0cd4f1a22a4e1b0a6c6bd5f2e8e8b3a6c1f0b2d4e6a8c0e2f4a6b8c0d2

/-- A signature by the key of the leaf over the authenticator data and the hash. -/
def sig : Bytes :=
  Ecdsa.Signature.encode
    ⟨Bytes.ofNatFixed 32 0x2d1ba460810d2df3e3ac02bb950f1c6bdd8f12154ed71372cec755f99d3e114a,
      Bytes.ofNatFixed 32 0x286d149b17266828ba3c2de1c42288e4402e5eb75f0e9a751bbc33ea59046056⟩

/-- A statement with a leaf that has given extensions. -/
def value (extensions : List Extension) : Cbor :=
  .map [(.text "alg", .integer (-7)), (.text "sig", .bytes sig),
    (.text "x5c", .array [.bytes (leaf extensions).toDer])]

/-- The leaf with the given extensions is well-formed: both decoders read it back. -/
def WellFormed (extensions : List Extension) : Prop :=
  Decodes (leaf extensions).toDer (outlineOf extensions) (leaf extensions)

instance (extensions : List Extension) : Decidable (WellFormed extensions) :=
  inferInstanceAs (Decidable (_ ∧ _))

/-- A statement with a signature, and with a leaf that is presented as `der`. -/
def signedValue (sig der : Bytes) : Cbor :=
  .map [(.text "alg", .integer (-7)), (.text "sig", .bytes sig), (.text "x5c", .array [.bytes der])]

/-- A statement with a leaf that is presented as `der`. -/
def valueOf (der : Bytes) : Cbor :=
  signedValue sig der

theorem ofCbor_signedValue {sig der : Bytes} :
    Statement.ofCbor (signedValue sig der) = .ok (.basic ⟨-7, sig, der, []⟩) := by
  rw [Statement.ofCbor_eq_ok_iff]
  exact ⟨_, rfl, rfl, rfl, rfl⟩

theorem ofCbor_valueOf {der : Bytes} :
    Statement.ofCbor (valueOf der) = .ok (.basic ⟨-7, sig, der, []⟩) :=
  ofCbor_signedValue

theorem ofCbor_value {extensions : List Extension} :
    Statement.ofCbor (value extensions) = .ok (.basic ⟨-7, sig, (leaf extensions).toDer, []⟩) :=
  ofCbor_valueOf

theorem presentsLeaf {extensions : List Extension} (h : WellFormed extensions) :
    PresentsLeaf (value extensions) (outlineOf extensions) (leaf extensions) :=
  ⟨_, ofCbor_value, h⟩

theorem accepts_ecdsaSha256 :
    SignatureAlgorithm.Accepts key sig (auth.raw ++ clientDataHash) .ecdsaSha256 := by
  decide +kernel

/-- Only the key of the leaf and the algorithm it declares matter to the signature. -/
theorem outcome_verifySignature {extensions : List Extension} :
    ((leaf extensions).verifySignature sig (auth.raw ++ clientDataHash)).outcome =
      .ok (some .ecdsaSha256) := by
  have hkey : (leaf extensions).key = some key := rfl
  have hcandidates : SignatureAlgorithm.candidates (leaf extensions).declaredAlgorithm? =
      [.ecdsaSha256] := by
    show SignatureAlgorithm.candidates (SignatureAlgorithm.ofOid? Oid.ecdsaWithSha256) = _
    decide
  rw [Certificate.outcome_verifySignature_of_key hkey, hcandidates,
    SignatureAlgorithm.firstAccepted?_cons_of_accepts accepts_ecdsaSha256]

/-- A basic constraints extension with a given value. -/
def constraintsExtension (value : Bytes) : Extension :=
  ⟨Oid.basicConstraints, false, value⟩

/-- An extension that tells an AAGUID. -/
def aaguidExtension (told : Aaguid) : Extension :=
  ⟨Oid.aaguidExtension, false, encodeUniversal false Tag.octetString told.bytes⟩

/-- Basic constraints with a given value, the AAGUID, and any extensions after these. -/
def extensions (constraints : Bytes) (later : List Extension) : List Extension :=
  constraintsExtension constraints :: aaguidExtension aaguid :: later

/-- The leaf may be presented in any form that decodes. -/
theorem outcome_verifyPacked_valueOf {der constraints : Bytes} {later : List Extension}
    (hdecodes : Decodes der (outlineOf (extensions constraints later))
      (leaf (extensions constraints later)))
    (hdenies : (outlineOf (extensions constraints later)).DeniesAuthority) :
    (verifyPacked (valueOf der) auth clientDataHash).outcome =
      .ok ⟨.basic [leaf (extensions constraints later)], .packed aaguid⟩ := by
  have hfind : (outlineOf (extensions constraints later)).extensions.find?
      (·.oid == Oid.aaguidExtension) = some (aaguidExtension aaguid) := rfl
  have htells : (aaguidExtension aaguid).Tells aaguid := ⟨rfl, rfl⟩
  refine outcome_verifyPacked_eq_ok_basic_iff.mpr ⟨_, ofCbor_valueOf, ?_⟩
  refine BasicStatement.outcome_verify_eq_ok_iff.mpr ⟨_, _, [], .ecdsaSha256, hdecodes, .nil, rfl,
    hdenies, ?_, outcome_verifySignature, rfl⟩
  rw [hfind]
  rintro extension ⟨⟩
  exact htells

theorem outcome_verifyPacked {constraints : Bytes} {later : List Extension}
    (hformed : WellFormed (extensions constraints later))
    (hdenies : (outlineOf (extensions constraints later)).DeniesAuthority) :
    (verifyPacked (value (extensions constraints later)) auth clientDataHash).outcome =
      .ok ⟨.basic [leaf (extensions constraints later)], .packed aaguid⟩ :=
  outcome_verifyPacked_valueOf hformed hdenies

/-- Basic constraints that leave everything out, and nothing after the AAGUID. -/
def plain : List Extension := extensions (encodeSequence []) []

theorem wellFormed_plain : WellFormed plain := by
  decide +kernel

theorem plain_accepted :
    (verifyPacked (value plain) auth clientDataHash).outcome =
      .ok ⟨.basic [leaf plain], .packed aaguid⟩ :=
  outcome_verifyPacked wellFormed_plain ⟨some ⟨false, none⟩, rfl, by simp⟩

end Specimen

/-! ### Basic constraints -/

/-- **An accepted leaf is not that of an authority if its basic constraints read.** It has the
extension once at most. The value of the extension says that the leaf is not that of an
authority exactly if it is of the type, and does not mark an authority with a path length of 33
bits or more. So an authority with a shorter path length, or with none, is never accepted. -/
theorem basicConstraints_of_accepted {value : Cbor} {auth : AuthenticatorData}
    {clientDataHash : Bytes} {path : List Certificate} {metadata : Metadata}
    (h : (verifyPacked value auth clientDataHash).outcome = .ok ⟨.basic path, metadata⟩) :
    ∃ outline leaf, PresentsLeaf value outline leaf ∧ path.head? = some leaf ∧
      (outline.extensionsWith Oid.basicConstraints).length ≤ 1 ∧
      ∀ extension ∈ outline.extensionsWith Oid.basicConstraints,
        ((∃ n, BasicConstraints.decode? extension.value = some ⟨false, n⟩) ↔
          ∃ c, BasicConstraints.decode? extension.value = some c ∧
            (c.ca = true → c.PathFits)) := by
  obtain ⟨outline, leaf, hleaf, hhead, hdenies, -⟩ := presentsLeaf_of_accepted h
  obtain ⟨hlength, hvalues⟩ := Outline.deniesAuthority_iff.mp hdenies
  refine ⟨outline, leaf, hleaf, hhead, hlength, fun extension hmem => ⟨?_, ?_⟩⟩
  · rintro ⟨n, hdecode⟩
    refine ⟨⟨false, n⟩, hdecode, fun hca => ?_⟩
    cases hca
  · rintro ⟨c, hdecode, hpath⟩
    obtain ⟨hfits, -⟩ := BasicConstraints.ofValue?_of_decode? hdecode
    -- A value that marks an authority would have been read, and denied.
    have hca : c.ca = false := by
      by_contra hne
      rw [Bool.not_eq_false] at hne
      have hfalse := hvalues extension hmem c (hfits (hpath hne))
      rw [hne] at hfalse
      cases hfalse
    refine ⟨c.pathLength, ?_⟩
    rw [hdecode, ← hca]

namespace Specimen

/-- The leaf with plain extensions has basic constraints once, and they are of the type and do not
mark an authority. -/
theorem plain_basicConstraints :
    (verifyPacked (value plain) auth clientDataHash).outcome =
        .ok ⟨.basic [leaf plain], .packed aaguid⟩ ∧
      (outlineOf plain).extensionsWith Oid.basicConstraints =
        [constraintsExtension (encodeSequence [])] ∧
      ∃ n, BasicConstraints.decode? (encodeSequence []) = some ⟨false, n⟩ := by
  have hdecode : BasicConstraints.decode? (encodeSequence []) = some ⟨false, none⟩ := by decide
  obtain ⟨outline, leaf', hleaf, -, -, hvalues⟩ := basicConstraints_of_accepted plain_accepted
  obtain ⟨rfl, -⟩ := hleaf.unique (presentsLeaf wellFormed_plain)
  have hconstraints := hvalues (constraintsExtension (encodeSequence [])) (by decide)
  exact ⟨plain_accepted, by decide, hconstraints.mpr ⟨_, hdecode, by rintro ⟨⟩⟩⟩

/-- An authority with a path length of `2 ^ 40`. -/
def authorityConstraints : Bytes :=
  encodeSequence <|
    encodeUniversal false Tag.boolean [255] ++ encodeUnsigned [1, 0, 0, 0, 0, 0]

/-- A mark of an authority, and then a NULL, which is not of the type. -/
def garbledConstraints : Bytes :=
  encodeSequence <| encodeUniversal false Tag.boolean [255] ++ encodeUniversal false Tag.null []

theorem decode?_authorityConstraints :
    BasicConstraints.decode? authorityConstraints = some ⟨true, some (1 <<< 40)⟩ := by
  decide

theorem decode?_garbledConstraints : BasicConstraints.decode? garbledConstraints = none := by
  decide

theorem wellFormed_authority : WellFormed (extensions authorityConstraints []) := by
  decide +kernel

theorem wellFormed_garbled : WellFormed (extensions garbledConstraints []) := by
  decide +kernel

/-- **An authority may be accepted.** So may a leaf whose basic constraints do not decode. -/
theorem authority_and_garbled_accepted :
    ((verifyPacked (value (extensions authorityConstraints [])) auth clientDataHash).outcome =
        .ok ⟨.basic [leaf (extensions authorityConstraints [])], .packed aaguid⟩ ∧
      ¬∃ outline leaf',
        PresentsLeaf (value (extensions authorityConstraints [])) outline leaf' ∧
        ∀ extension ∈ outline.extensionsWith Oid.basicConstraints,
          ∃ n, BasicConstraints.decode? extension.value = some ⟨false, n⟩) ∧
    ((verifyPacked (value (extensions garbledConstraints [])) auth clientDataHash).outcome =
        .ok ⟨.basic [leaf (extensions garbledConstraints [])], .packed aaguid⟩ ∧
      ¬∃ outline leaf', PresentsLeaf (value (extensions garbledConstraints [])) outline leaf' ∧
        ∀ extension ∈ outline.extensionsWith Oid.basicConstraints,
          ∃ n, BasicConstraints.decode? extension.value = some ⟨false, n⟩) := by
  refine ⟨⟨outcome_verifyPacked wellFormed_authority ?_, ?_⟩,
    outcome_verifyPacked wellFormed_garbled ?_, ?_⟩
  · rw [Outline.deniesAuthority_iff_of_decode? rfl decode?_authorityConstraints]
    intro _ hfits
    have hlt := hfits (1 <<< 40) rfl
    revert hlt
    decide
  · rintro ⟨outline, leaf', hleaf, hvalues⟩
    obtain ⟨rfl, -⟩ := hleaf.unique (presentsLeaf wellFormed_authority)
    obtain ⟨n, hdecode⟩ := hvalues (constraintsExtension authorityConstraints) (by decide)
    cases decode?_authorityConstraints.symm.trans hdecode
  · exact ⟨none, rfl, by simp⟩
  · rintro ⟨outline, leaf', hleaf, hvalues⟩
    obtain ⟨rfl, -⟩ := hleaf.unique (presentsLeaf wellFormed_garbled)
    obtain ⟨n, hdecode⟩ := hvalues (constraintsExtension garbledConstraints) (by decide)
    cases decode?_garbledConstraints.symm.trans hdecode

end Specimen

/-! ### AAGUID extensions -/

/-- **Only the first AAGUID extension of an accepted leaf is judged.** That one tells the AAGUID
of the authenticator data. All of them do exactly if the later ones do, and for the check a leaf
with other later ones is the same. -/
theorem aaguidExtensions_of_accepted {value : Cbor} {auth : AuthenticatorData}
    {clientDataHash : Bytes} {path : List Certificate} {metadata : Metadata}
    (h : (verifyPacked value auth clientDataHash).outcome = .ok ⟨.basic path, metadata⟩) :
    ∃ outline leaf, PresentsLeaf value outline leaf ∧ path.head? = some leaf ∧
      (∀ extension ∈ (outline.extensionsWith Oid.aaguidExtension).head?,
        extension.Tells auth.credential.aaguid) ∧
      ((∀ extension ∈ outline.extensionsWith Oid.aaguidExtension,
          extension.Tells auth.credential.aaguid) ↔
        ∀ extension ∈ (outline.extensionsWith Oid.aaguidExtension).tail,
          extension.Tells auth.credential.aaguid) ∧
      ∀ outline' : Outline,
        (outline'.extensionsWith Oid.aaguidExtension).head? =
          (outline.extensionsWith Oid.aaguidExtension).head? →
        outline'.checkAaguid auth.credential.aaguid =
          outline.checkAaguid auth.credential.aaguid := by
  obtain ⟨outline, leaf, hleaf, hhead, -, hfirst⟩ := presentsLeaf_of_accepted h
  refine ⟨outline, leaf, hleaf, hhead, hfirst, ?_, fun outline' hsame => ?_⟩
  · cases hlist : outline.extensionsWith Oid.aaguidExtension with
    | nil => simp
    | cons first rest =>
      rw [hlist] at hfirst
      rw [List.forall_mem_cons, List.tail_cons]
      exact and_iff_right (hfirst first rfl)
  · exact Outline.checkAaguid_congr hsame

namespace Specimen

def otherAaguid : Aaguid := ⟨Bytes.ofNatFixed 16 0xee882879721c491397753dfcce97072a, by decide⟩

/-- The AAGUID, and then another one. -/
def contradicting : List Extension := extensions (encodeSequence []) [aaguidExtension otherAaguid]

/-- The leaf with plain extensions tells the AAGUID, and as often as it has AAGUID extensions. One
that tells another AAGUID after it is the same for the check. -/
theorem plain_aaguidExtensions :
    (verifyPacked (value plain) auth clientDataHash).outcome =
        .ok ⟨.basic [leaf plain], .packed aaguid⟩ ∧
      (outlineOf plain).extensionsWith Oid.aaguidExtension = [aaguidExtension aaguid] ∧
      (aaguidExtension aaguid).Tells aaguid ∧
      (∀ extension ∈ (outlineOf plain).extensionsWith Oid.aaguidExtension,
        extension.Tells aaguid) ∧
      (outlineOf contradicting).checkAaguid aaguid = (outlineOf plain).checkAaguid aaguid := by
  have honly : (outlineOf plain).extensionsWith Oid.aaguidExtension =
      [aaguidExtension aaguid] := by decide
  obtain ⟨outline, leaf', hleaf, -, hfirst, hall, hsame⟩ :=
    aaguidExtensions_of_accepted plain_accepted
  obtain ⟨rfl, -⟩ := hleaf.unique (presentsLeaf wellFormed_plain)
  refine ⟨plain_accepted, honly, hfirst _ (by rw [honly]; rfl), hall.mpr ?_, hsame _ rfl⟩
  rw [honly]
  rintro extension ⟨⟩

/-- **A leaf that tells two AAGUIDs is accepted.** -/
theorem contradicting_accepted :
    (verifyPacked (value contradicting) auth clientDataHash).outcome =
        .ok ⟨.basic [leaf contradicting], .packed aaguid⟩ ∧
      ¬∃ outline leaf', PresentsLeaf (value contradicting) outline leaf' ∧
        ∀ extension ∈ outline.extensionsWith Oid.aaguidExtension,
          extension.Tells auth.credential.aaguid := by
  have hformed : WellFormed contradicting := by decide +kernel
  constructor
  · exact outcome_verifyPacked hformed ⟨some ⟨false, none⟩, rfl, by simp⟩
  · rintro ⟨outline, leaf', hleaf, htells⟩
    obtain ⟨rfl, -⟩ := hleaf.unique (presentsLeaf hformed)
    obtain ⟨-, hread⟩ := htells (aaguidExtension otherAaguid) (by decide)
    have hother : readOctetString (aaguidExtension otherAaguid).value =
        .ok (otherAaguid.bytes, []) := rfl
    rw [hother, Except.ok.injEq, Prod.mk.injEq] at hread
    revert hread
    decide

end Specimen
end PackedAttestation
