import PackedAttestation.Proofs.BasicVerification
import PackedAttestation.Proofs.SelfVerification
import PackedAttestation.Proofs.StatementFields
import PackedAttestation.Verify

/-! # Which attestations are accepted

Verification of an untyped value succeeds in two ways only: the value reads as a basic
statement that verifies, or as a self statement that verifies
(`outcome_verifyPacked_eq_ok_iff`).  The two main results unfold this into the whole
list of what is asked of the value, of the authenticator data and of the hash of the
client data: `verifyPacked_self_iff` for self attestation, `verifyPacked_basic_iff` for
basic attestation.
-/
namespace PackedAttestation

variable {value : Cbor} {auth : AuthenticatorData} {clientDataHash : Bytes} {a : Attestation}

/-- A statement of the ECDAA type is never accepted, so there are two ways to succeed. -/
theorem outcome_verifyPacked_eq_ok_iff :
    (verifyPacked value auth clientDataHash).outcome = .ok a ↔
      (∃ s, Statement.ofCbor value = .ok (.basic s) ∧
        (s.verify auth.credential.aaguid (auth.raw ++ clientDataHash)).outcome = .ok a) ∨
      (∃ s, Statement.ofCbor value = .ok (.self s) ∧
        (s.verify auth.credential.publicKey (auth.raw ++ clientDataHash)).outcome = .ok a) := by
  rw [verifyPacked, Trial.outcome_bind_eq_ok_iff, Trial.outcome_ofExcept]
  constructor
  · rintro ⟨s, hs, h⟩
    cases s with
    | basic s => exact .inl ⟨s, hs, h⟩
    | ecdaa s => cases h
    | self s => exact .inr ⟨s, hs, h⟩
  · rintro (⟨s, hs, h⟩ | ⟨s, hs, h⟩)
    · exact ⟨.basic s, hs, h⟩
    · exact ⟨.self s, hs, h⟩

/-- What is accepted without a trust path comes from a self statement. -/
theorem outcome_verifyPacked_eq_ok_self_iff :
    (verifyPacked value auth clientDataHash).outcome = .ok a ∧ a.trust = .self ↔
      ∃ s, Statement.ofCbor value = .ok (.self s) ∧
        (s.verify auth.credential.publicKey (auth.raw ++ clientDataHash)).outcome = .ok a := by
  rw [outcome_verifyPacked_eq_ok_iff]
  constructor
  · rintro ⟨⟨s, hs, h⟩ | h, htrust⟩
    · obtain ⟨_, _, _, _, -, -, -, -, -, -, rfl⟩ := BasicStatement.outcome_verify_eq_ok_iff.mp h
      cases htrust
    · exact h
  · rintro ⟨s, hs, h⟩
    obtain ⟨rfl, -⟩ := SelfStatement.outcome_verify_eq_ok_iff.mp h
    exact ⟨.inr ⟨s, hs, h⟩, rfl⟩

/-- What is accepted with a trust path comes from a basic statement. -/
theorem outcome_verifyPacked_eq_ok_basic_iff {path : List Certificate} {metadata : Metadata} :
    (verifyPacked value auth clientDataHash).outcome = .ok ⟨.basic path, metadata⟩ ↔
      ∃ s, Statement.ofCbor value = .ok (.basic s) ∧
        (s.verify auth.credential.aaguid (auth.raw ++ clientDataHash)).outcome =
          .ok ⟨.basic path, metadata⟩ := by
  rw [outcome_verifyPacked_eq_ok_iff]
  constructor
  · rintro (h | ⟨s, hs, h⟩)
    · exact h
    · obtain ⟨heq, -⟩ := SelfStatement.outcome_verify_eq_ok_iff.mp h
      cases heq
  · exact .inl

/-- **Self attestation is accepted exactly when it should be.** The value is a map without
`x5c` and without `ecdaaKeyId`, whatever these might hold; it names ES256; its signature
reads; the credential key is a P-256 key that declares ES256 and is a point of the curve; and
the signature verifies under it over the authenticator data and the hash. What is then
established has no metadata and no trust path. In particular no value with an entry `x5c` or
`ecdaaKeyId` is accepted as a self attestation. -/
theorem verifyPacked_self_iff (value : Cbor) (auth : AuthenticatorData) (clientDataHash : Bytes)
    (a : Attestation) :
    ((verifyPacked value auth clientDataHash).outcome = .ok a ∧ a.trust = .self ↔
      a.trust = .self ∧ a.metadata = .none ∧ a.trust.path = [] ∧
      ∃ entries sig signature ec2 point,
        value = .map entries ∧
        (∀ payload, (.text "x5c", payload) ∉ entries) ∧
        (∀ payload, (.text "ecdaaKeyId", payload) ∉ entries) ∧
        Cbor.lookup "alg" entries = some (.integer (-7)) ∧
        Cbor.lookup "sig" entries = some (.bytes sig) ∧
        Ecdsa.Signature.ofDer sig = .ok signature ∧
        auth.credential.publicKey.material = .ec2 ec2 ∧
        ec2.curve = .p256 ∧
        auth.credential.publicKey.algorithm = .es256 ∧
        Ecdsa.p256Key? ec2.x ec2.y = some point ∧
        (Ecdsa.verifyP256 point signature (auth.raw ++ clientDataHash)).outcome = .ok true) ∧
    ∀ entries key payload, value = .map entries → key = "x5c" ∨ key = "ecdaaKeyId" →
      (.text key, payload) ∈ entries →
      (verifyPacked value auth clientDataHash).outcome = .ok a → a.trust ≠ .self := by
  -- What is said about values with an entry `x5c` or `ecdaaKeyId` follows from the equivalence.
  refine (and_iff_left_of_imp fun hiff => ?_).mpr ?_
  · intro entries key payload hvalue hkey hmem hok htrust
    obtain ⟨-, -, -, entries', _, _, _, _, hvalue', hx5c, hecdaa, -⟩ := hiff.mp ⟨hok, htrust⟩
    rw [hvalue] at hvalue'
    cases hvalue'
    rcases hkey with rfl | rfl
    · exact hx5c payload hmem
    · exact hecdaa payload hmem
  · rw [outcome_verifyPacked_eq_ok_self_iff]
    constructor
    · rintro ⟨s, hs, h⟩
      obtain ⟨entries, rfl, halg, hsig, hx5c, hecdaa⟩ := Statement.ofCbor_eq_ok_iff.mp hs
      obtain ⟨rfl, hes256, ec2, signature, point, hmaterial, hcurve, hdeclared, hread, hpoint,
        hvalid⟩ := SelfStatement.outcome_verify_eq_ok_iff.mp h
      have halg' : Cbor.lookup "alg" entries = some (.integer (-7)) := by
        rw [halg, ← hes256]
        rfl
      exact ⟨rfl, rfl, rfl, entries, s.sig, signature, ec2, point, rfl,
        Cbor.lookup_eq_none_iff.mp hx5c, Cbor.lookup_eq_none_iff.mp hecdaa, halg', hsig, hread,
        hmaterial, hcurve, hdeclared, hpoint, hvalid⟩
    · rintro ⟨htrust, hmetadata, -, entries, sig, signature, ec2, point, rfl, hx5c, hecdaa, halg,
        hsig, hread, hmaterial, hcurve, hdeclared, hpoint, hvalid⟩
      have ha : a = ⟨.self, .none⟩ := by rw [← htrust, ← hmetadata]
      have hs : Statement.ofCbor (.map entries) = .ok (.self ⟨-7, sig⟩) :=
        Statement.ofCbor_eq_ok_iff.mpr ⟨entries, rfl, halg, hsig,
          Cbor.lookup_eq_none_iff.mpr hx5c, Cbor.lookup_eq_none_iff.mpr hecdaa⟩
      exact ⟨⟨-7, sig⟩, hs, SelfStatement.outcome_verify_eq_ok_iff.mpr ⟨ha, rfl, ec2, signature,
        point, hmaterial, hcurve, hdeclared, hread, hpoint, hvalid⟩⟩

/-- **Basic attestation is accepted exactly when it should be.** The value is a map with an
algorithm of 64 bits, a signature, and an array of at least one byte string under `x5c`; each
of these is a certificate for both decoders, with nothing after it; the first one is of
version 3, is not marked as an authority, and its first AAGUID extension, if it has one, tells
the AAGUID of the authenticator data; and its key verifies the signature over the
authenticator data and the hash. What is then established is the certificates in their order,
and the AAGUID. -/
theorem verifyPacked_basic_iff (value : Cbor) (auth : AuthenticatorData) (clientDataHash : Bytes)
    (path : List Certificate) (metadata : Metadata) :
    (verifyPacked value auth clientDataHash).outcome = .ok ⟨.basic path, metadata⟩ ↔
      metadata = .packed auth.credential.aaguid ∧
      ∃ entries alg sig x5c,
        value = .map entries ∧
        Cbor.lookup "alg" entries = some (.integer alg) ∧
        Int64.minValue.toInt ≤ alg ∧ alg ≤ Int64.maxValue.toInt ∧
        Cbor.lookup "sig" entries = some (.bytes sig) ∧
        Cbor.lookup "x5c" entries = some (.array (x5c.map .bytes)) ∧
        List.Forall₂ Certificate.DecodesAs x5c path ∧
        ∃ der leaf outline algorithm,
          x5c.head? = some der ∧ path.head? = some leaf ∧
          Certificate.Decodes der outline leaf ∧
          outline.version = 2 ∧
          outline.DeniesAuthority ∧
          (∀ extension, outline.extensions.find? (·.oid == Oid.aaguidExtension) = some extension →
            extension.Tells auth.credential.aaguid) ∧
          (leaf.verifySignature sig (auth.raw ++ clientDataHash)).outcome =
            .ok (some algorithm) := by
  rw [outcome_verifyPacked_eq_ok_basic_iff]
  constructor
  · rintro ⟨s, hs, h⟩
    obtain ⟨entries, rfl, halg, hsig, hx5c⟩ := Statement.ofCbor_eq_ok_iff.mp hs
    obtain ⟨outline, leaf, chain, algorithm, hleaf, hchain, hversion, hdenies, htells, hfound,
      heq⟩ := BasicStatement.outcome_verify_eq_ok_iff.mp h
    cases heq
    exact ⟨rfl, entries, s.alg.toInt, s.sig, s.x5c, rfl, halg, s.alg.minValue_le_toInt,
      s.alg.toInt_le, hsig, hx5c, .cons ⟨outline, hleaf⟩ hchain, s.leaf, leaf, outline,
      algorithm, rfl, rfl, hleaf, hversion, hdenies, htells, hfound⟩
  · rintro ⟨rfl, entries, alg, sig, x5c, rfl, halg, hlow, hhigh, hsig, hx5c, hpath, der, leaf,
      outline, algorithm, hder, hhead, hleaf, hversion, hdenies, htells, hfound⟩
    cases hpath with
    | nil => cases hder
    | @cons _ _ chainDer chain _ hchain =>
      cases hder
      cases hhead
      have halg' : Cbor.lookup "alg" entries = some (.integer (Int64.ofInt alg).toInt) := by
        rw [← Int64.ofIntLE_eq_ofInt hlow hhigh, Int64.toInt_ofIntLE, halg]
      have hs : Statement.ofCbor (.map entries) =
          .ok (.basic ⟨Int64.ofInt alg, sig, der, chainDer⟩) :=
        Statement.ofCbor_eq_ok_iff.mpr ⟨entries, rfl, halg', hsig, hx5c⟩
      exact ⟨_, hs, BasicStatement.outcome_verify_eq_ok_iff.mpr ⟨outline, leaf, chain, algorithm,
        hleaf, hchain, hversion, hdenies, htells, hfound, rfl⟩⟩

end PackedAttestation
