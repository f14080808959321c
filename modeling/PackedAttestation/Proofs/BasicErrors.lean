import PackedAttestation.Proofs.AuthorityConstraints
import PackedAttestation.Proofs.FirstAccepted
import PackedAttestation.Proofs.FirstFailure

/-! # Which error basic attestation reports

The checks of a basic statement read what they need straight from the certificates and the
signature, so a later check may fail whether or not an earlier one does.  Verification
reports the first check that fails (`BasicStatement.follows_verify`).
-/
namespace PackedAttestation

open Der
open Certificate (Outline Extension BasicConstraints)

/-! ### Certificates -/

/-- What is wrong with the bytes of a certificate: the outline is refused, or leaves bytes over, or
it reads but the certificate as a whole does not. -/
def CertificateFault.IsOf (der : Bytes) : CertificateFault → Prop
  | outline fault => Outline.read der = .error fault
  | trailing count => ∃ outline rest, Outline.read der = .ok (outline, rest) ∧ rest ≠ [] ∧
      count = rest.length
  | encoding => ∃ outline, Outline.read der = .ok (outline, []) ∧ Certificate.read? der = none

namespace Certificate

theorem isOf_of_decode {der : Bytes} {fault : CertificateFault} (h : decode der = .error fault) :
    fault.IsOf der := by
  rw [decode] at h
  split at h
  · rename_i hread
    cases h
    exact hread
  rename_i outline rest hread
  split at h
  · rename_i hrest
    cases h
    exact ⟨outline, rest, hread, hrest, rfl⟩
  rename_i hrest
  rw [Decidable.not_not] at hrest
  subst hrest
  split at h
  · rename_i hnone
    cases h
    exact ⟨outline, hread, hnone⟩
  · cases h

theorem decode_eq_error_iff {der : Bytes} {fault : CertificateFault} :
    decode der = .error fault ↔ fault.IsOf der := by
  refine ⟨isOf_of_decode, fun hfault => ?_⟩
  cases fault with
  | outline fault => simp [decode, show Outline.read der = .error fault from hfault]
  | trailing count =>
    obtain ⟨outline, rest, hread, hrest, rfl⟩ := hfault
    simp [decode, hread, hrest]
  | encoding =>
    obtain ⟨outline, hread, hnone⟩ := hfault
    simp [decode, hread, hnone]

/-- When the bytes of a certificate fail to decode, and with which error. -/
def DecodeFails (der : Bytes) (e : Error) : Prop :=
  ∃ fault : CertificateFault, fault.IsOf der ∧ e = .invalidCertificate fault

theorem DecodeFails.unique {der : Bytes} {e e' : Error} (h : DecodeFails der e)
    (h' : DecodeFails der e') : e = e' := by
  obtain ⟨fault, hfault, rfl⟩ := h
  obtain ⟨fault', hfault', rfl⟩ := h'
  rw [← decode_eq_error_iff] at hfault hfault'
  cases hfault.symm.trans hfault'
  rfl

theorem lift_decode_eq_error_iff {der : Bytes} {e : Error} :
    CertificateFault.lift (decode der) = .error e ↔ DecodeFails der e := by
  simp only [DecodeFails, ← decode_eq_error_iff]
  cases decode der <;> simp [CertificateFault.lift, eq_comm]

theorem lift_decodeChain_cons (der : Bytes) (ders : List Bytes) :
    CertificateFault.lift (decodeChain (der :: ders)) =
      (CertificateFault.lift (decode der)).bind fun (_, certificate) =>
        (CertificateFault.lift (decodeChain ders)).map (certificate :: ·) := by
  rw [decodeChain]
  cases decode der with
  | error fault => rfl
  | ok decoded => cases decodeChain ders <;> rfl

/-- The certificates of a chain are the checks that decoding it makes. -/
theorem follows_decodeChain (ders : List Bytes) :
    Follows (CertificateFault.lift (decodeChain ders)) DecodeFails ders := by
  induction ders with
  | nil => exact .nil []
  | cons der ders ih =>
    have hder : Follows (CertificateFault.lift (decode der)) DecodeFails [der] :=
      .single fun e => lift_decode_eq_error_iff
    rw [lift_decodeChain_cons]
    exact hder.bind fun decoded _ => ih.mapResult _

theorem lift_decodeChain_eq_error_iff {ders : List Bytes} {e : Error} :
    CertificateFault.lift (decodeChain ders) = .error e ↔ FirstError DecodeFails ders e :=
  (follows_decodeChain ders).eq_error_iff fun _ _ _ => DecodeFails.unique

/-- Whether a signature verifies is always decided. -/
theorem exists_outcome_verifySignature (certificate : Certificate) (signature message : Bytes) :
    ∃ found, (certificate.verifySignature signature message).outcome = .ok found := by
  cases hkey : certificate.key with
  | none => exact ⟨none, outcome_verifySignature_of_none hkey⟩
  | some key => exact ⟨_, outcome_verifySignature_of_key hkey⟩

end Certificate

namespace Certificate.Outline

variable {outline : Outline}

/-- Some basic constraints that read say that the certificate is one of an authority. -/
def MarksAuthority (outline : Outline) : Prop :=
  ∃ extension ∈ outline.extensionsWith Oid.basicConstraints,
    ∃ c, BasicConstraints.ofValue? extension.value = some c ∧ c.ca = true

theorem isAuthority_eq_error_iff {fault : CertificateFault} :
    outline.isAuthority = .error fault ↔
      1 < (outline.extensionsWith Oid.basicConstraints).length ∧
        fault = .outline .repeatedExtensions := by
  rw [isAuthority, basicConstraints]
  rcases outline.extensionsWith Oid.basicConstraints with _ | ⟨extension, _ | ⟨second, more⟩⟩
  · simp
  · simp
  · simp [eq_comm]

theorem length_le_one_of_isAuthority {authority : Bool} (h : outline.isAuthority = .ok authority) :
    (outline.extensionsWith Oid.basicConstraints).length ≤ 1 := by
  by_contra hlength
  have herror := isAuthority_eq_error_iff.mpr ⟨Nat.lt_of_not_le hlength, rfl⟩
  cases h.symm.trans herror

theorem isAuthority_eq_true_iff :
    outline.isAuthority = .ok true ↔
      (outline.extensionsWith Oid.basicConstraints).length ≤ 1 ∧ outline.MarksAuthority := by
  rw [isAuthority, basicConstraints, MarksAuthority]
  rcases outline.extensionsWith Oid.basicConstraints with _ | ⟨extension, _ | ⟨second, more⟩⟩
  · simp
  · cases h : BasicConstraints.ofValue? extension.value <;> simp [h]
  · simp

end Certificate.Outline

/-- What is wrong with the value of an AAGUID extension: no AAGUID can be read from it, or
something follows the AAGUID. -/
def Aaguid.FaultIs (value : Bytes) (fault : Fault) : Prop :=
  Aaguid.read value = .error fault ∨
    (∃ told rest, Aaguid.read value = .ok (told, rest) ∧ rest ≠ []) ∧ fault = .invalidLength

theorem Aaguid.FaultIs.unique {value : Bytes} {fault fault' : Fault} (h : FaultIs value fault)
    (h' : FaultIs value fault') : fault = fault' := by
  obtain hread | ⟨⟨told, rest, hread, -⟩, rfl⟩ := h <;>
    obtain hread' | ⟨⟨told', rest', hread', -⟩, rfl⟩ := h' <;>
    cases hread.symm.trans hread'
  · rfl
  · rfl

/-! ### Basic statements -/

namespace BasicStatement

/-- A check of a basic statement. -/
inductive Check where
  | leafDecodes
  | chainDecodes
  | versionThree
  /-- There are basic constraints once at most. -/
  | constraintsOnce
  | notAuthority
  | aaguidNotCritical
  | aaguidReads
  | aaguidMatches
  | signatureVerifies

/-- The checks of a basic statement, in order. -/
def Check.order : List Check :=
  [.leafDecodes, .chainDecodes, .versionThree, .constraintsOnce, .notAuthority,
    .aaguidNotCritical, .aaguidReads, .aaguidMatches, .signatureVerifies]

/-- The attestation certificate of a statement has the outline. -/
def HasOutline (s : BasicStatement) (outline : Outline) : Prop :=
  ∃ rest, Outline.read s.leaf = .ok (outline, rest)

/-- The attestation certificate of a statement has an AAGUID extension, and this is the first
one. -/
def HasAaguidExtension (s : BasicStatement) (extension : Extension) : Prop :=
  ∃ outline, s.HasOutline outline ∧
    (outline.extensionsWith Oid.aaguidExtension).head? = some extension

variable (s : BasicStatement) (aaguid : Aaguid) (message : Bytes)

/-- When a check of a basic statement fails, and with which error. -/
def Fails : Check → Error → Prop
  | .leafDecodes, e => Certificate.DecodeFails s.leaf e
  | .chainDecodes, e => FirstError Certificate.DecodeFails s.chain e
  | .versionThree, e => ∃ outline, s.HasOutline outline ∧ outline.version ≠ 2 ∧
      e = .unmetRequirement .versionThree
  | .constraintsOnce, e => ∃ outline, s.HasOutline outline ∧
      1 < (outline.extensionsWith Oid.basicConstraints).length ∧
      e = .invalidCertificate (.outline .repeatedExtensions)
  | .notAuthority, e => ∃ outline, s.HasOutline outline ∧ outline.MarksAuthority ∧
      e = .unmetRequirement .notAuthority
  | .aaguidNotCritical, e => ∃ extension, s.HasAaguidExtension extension ∧
      extension.critical = true ∧ e = .criticalExtension
  | .aaguidReads, e => ∃ extension, s.HasAaguidExtension extension ∧
      ∃ fault, Aaguid.FaultIs extension.value fault ∧ e = .invalidAaguid fault
  | .aaguidMatches, e => ∃ extension, s.HasAaguidExtension extension ∧
      (∃ told rest, Aaguid.read extension.value = .ok (told, rest) ∧ told ≠ aaguid) ∧
      e = .aaguidMismatch
  | .signatureVerifies, e => ∃ certificate rest,
      Certificate.read? s.leaf = some (certificate, rest) ∧
      (∀ algorithm, (certificate.verifySignature s.sig message).outcome ≠ .ok (some algorithm)) ∧
      e = .invalidSignature

variable {s aaguid message}

/-- A statement has one outline at most, so what is said of some outline is said of that one. -/
theorem HasOutline.exists_iff {outline : Outline} (h : s.HasOutline outline)
    {p : Outline → Prop} : (∃ outline', s.HasOutline outline' ∧ p outline') ↔ p outline := by
  refine ⟨?_, fun hp => ⟨outline, h, hp⟩⟩
  rintro ⟨outline', ⟨_, h'⟩, hp⟩
  obtain ⟨_, h⟩ := h
  cases h.symm.trans h'
  exact hp

/-- Which extension is the AAGUID extension is a matter of the outline. -/
theorem HasOutline.hasAaguidExtension_iff {outline : Outline} (h : s.HasOutline outline)
    {extension : Extension} : s.HasAaguidExtension extension ↔
      outline.extensions.find? (·.oid == Oid.aaguidExtension) = some extension := by
  rw [← List.head?_filter]
  exact h.exists_iff

theorem HasAaguidExtension.exists_iff {extension : Extension} (h : s.HasAaguidExtension extension)
    {p : Extension → Prop} :
    (∃ extension', s.HasAaguidExtension extension' ∧ p extension') ↔ p extension := by
  refine ⟨?_, fun hp => ⟨extension, h, hp⟩⟩
  rintro ⟨extension', h', hp⟩
  obtain ⟨outline, houtline, -⟩ := id h
  rw [houtline.hasAaguidExtension_iff] at h h'
  cases h.symm.trans h'
  exact hp

theorem Fails.unique {c : Check} {e e' : Error} (h : s.Fails aaguid message c e)
    (h' : s.Fails aaguid message c e') : e = e' := by
  cases c with
  | leafDecodes => exact Certificate.DecodeFails.unique h h'
  | chainDecodes =>
    have hunique : ∀ der e e', Certificate.DecodeFails der e → Certificate.DecodeFails der e' →
        e = e' := fun _ _ _ => Certificate.DecodeFails.unique
    exact FirstError.unique hunique h h'
  | versionThree | constraintsOnce | notAuthority | aaguidNotCritical | aaguidMatches =>
    obtain ⟨_, -, -, rfl⟩ := h
    obtain ⟨_, -, -, rfl⟩ := h'
    rfl
  | aaguidReads =>
    obtain ⟨extension, hextension, fault, hfault, rfl⟩ := h
    obtain ⟨fault', hfault', rfl⟩ := hextension.exists_iff.mp h'
    rw [hfault.unique hfault']
  | signatureVerifies =>
    obtain ⟨_, _, -, -, rfl⟩ := h
    obtain ⟨_, _, -, -, rfl⟩ := h'
    rfl

/-- The profile is judged by the outline of the attestation certificate. -/
theorem follows_checkProfile {outline : Outline} (h : s.HasOutline outline) :
    Follows outline.checkProfile.outcome (s.Fails aaguid message)
      [.versionThree, .constraintsOnce, .notAuthority] := by
  rw [Outline.checkProfile]
  by_cases hversion : outline.version = 2
  case neg =>
    rw [if_pos hversion]
    exact .head ⟨outline, h, hversion, rfl⟩
  rw [if_neg (not_not_intro hversion)]
  refine .skip (fun e hfails => (h.exists_iff.mp hfails).1 hversion) ?_
  cases hauthority : outline.isAuthority with
  | error fault =>
    obtain ⟨hlength, rfl⟩ := Outline.isAuthority_eq_error_iff.mp hauthority
    exact .head ⟨outline, h, hlength, rfl⟩
  | ok authority =>
    have hlength := Outline.length_le_one_of_isAuthority hauthority
    refine .skip (fun e hfails => Nat.not_le_of_lt (h.exists_iff.mp hfails).1 hlength) ?_
    cases authority with
    | true => exact .head ⟨outline, h, (Outline.isAuthority_eq_true_iff.mp hauthority).2, rfl⟩
    | false =>
      refine .skip ?_ (.nil ())
      intro e hfails
      obtain ⟨hmarks, -⟩ := h.exists_iff.mp hfails
      cases hauthority.symm.trans (Outline.isAuthority_eq_true_iff.mpr ⟨hlength, hmarks⟩)

/-- The value of an AAGUID extension that is not critical is read and compared. -/
theorem follows_judgeAaguid {extension : Extension} (h : s.HasAaguidExtension extension)
    (hcritical : extension.critical = false) {outline : Outline}
    (hfind : outline.extensions.find? (·.oid == Oid.aaguidExtension) = some extension) :
    Follows (outline.checkAaguid aaguid).outcome (s.Fails aaguid message)
      [.aaguidReads, .aaguidMatches] := by
  simp only [Outline.checkAaguid, hfind, hcritical]
  cases hread : Aaguid.read extension.value with
  | error fault => exact .head ⟨extension, h, fault, .inl hread, rfl⟩
  | ok result =>
  obtain ⟨told, rest⟩ := result
  by_cases hrest : rest = []
  case neg =>
    have hfault : Aaguid.FaultIs extension.value .invalidLength :=
      .inr ⟨⟨told, rest, hread, hrest⟩, rfl⟩
    simpa [hrest] using .head ⟨extension, h, _, hfault, rfl⟩
  subst hrest
  have hreads (e : Error) : ¬s.Fails aaguid message .aaguidReads e := by
    intro hfails
    obtain ⟨fault, hfault, -⟩ := h.exists_iff.mp hfails
    simp [Aaguid.FaultIs, hread] at hfault
  refine .skip hreads ?_
  by_cases heq : told = aaguid
  · subst heq
    have hmatches (e : Error) : ¬s.Fails told message .aaguidMatches e := by
      intro hfails
      obtain ⟨⟨told', rest', hread', hne⟩, -⟩ := h.exists_iff.mp hfails
      cases hread.symm.trans hread'
      exact hne rfl
    simpa using .skip hmatches (.nil true)
  · simpa [heq] using .head ⟨extension, h, ⟨told, [], hread, heq⟩, rfl⟩

/-- The first AAGUID extension is judged, if there is one. -/
theorem follows_checkAaguid {outline : Outline} (h : s.HasOutline outline) :
    Follows (outline.checkAaguid aaguid).outcome (s.Fails aaguid message)
      [.aaguidNotCritical, .aaguidReads, .aaguidMatches] := by
  cases hfind : outline.extensions.find? (·.oid == Oid.aaguidExtension) with
  | none =>
    have hnone {p : Extension → Prop} :
        ¬∃ extension, s.HasAaguidExtension extension ∧ p extension := by
      rintro ⟨extension, hextension, -⟩
      cases hfind.symm.trans (h.hasAaguidExtension_iff.mp hextension)
    rw [Outline.checkAaguid, hfind]
    exact .skip (fun e => hnone) (.skip (fun e => hnone) (.skip (fun e => hnone) (.nil false)))
  | some extension =>
    have hextension : s.HasAaguidExtension extension := h.hasAaguidExtension_iff.mpr hfind
    cases hcritical : extension.critical with
    | true =>
      rw [Outline.checkAaguid, hfind]
      simpa [hcritical] using .head ⟨extension, hextension, hcritical, rfl⟩
    | false =>
      refine .skip ?_ (follows_judgeAaguid hextension hcritical hfind)
      intro e hfails
      obtain ⟨htrue, -⟩ := hextension.exists_iff.mp hfails
      cases hcritical.symm.trans htrue

/-- The signature is the last thing to be judged. -/
theorem follows_judgeSignature {certificate : Certificate} {rest : Bytes}
    (h : Certificate.read? s.leaf = some (certificate, rest))
    {f : Option SignatureAlgorithm → Trial Attestation}
    (hnone : (f none).outcome = .error .invalidSignature)
    (hsome : ∀ algorithm, ∃ a, (f (some algorithm)).outcome = .ok a) :
    Follows (certificate.verifySignature s.sig message >>= f).outcome (s.Fails aaguid message)
      [.signatureVerifies] := by
  obtain ⟨found, hfound⟩ := certificate.exists_outcome_verifySignature s.sig message
  rw [Trial.outcome_bind, hfound]
  cases found with
  | none =>
    have hfails : s.Fails aaguid message .signatureVerifies .invalidSignature := by
      refine ⟨certificate, rest, h, fun algorithm hvalid => ?_, rfl⟩
      cases hfound.symm.trans hvalid
    simpa [Except.bind, hnone] using .head hfails
  | some algorithm =>
    obtain ⟨a, ha⟩ := hsome algorithm
    have hpasses (e : Error) : ¬s.Fails aaguid message .signatureVerifies e := by
      rintro ⟨certificate', rest', h', hinvalid, -⟩
      cases h.symm.trans h'
      exact hinvalid algorithm hfound
    simpa [Except.bind, ha] using .skip hpasses (.nil a)

/-- **Verification of a basic statement follows its checks.** -/
theorem follows_verify (s : BasicStatement) (aaguid : Aaguid) (message : Bytes) :
    Follows (s.verify aaguid message).outcome (s.Fails aaguid message) Check.order := by
  have hleaf : Follows (Trial.ofExcept (CertificateFault.lift (Certificate.decode s.leaf))).outcome
      (s.Fails aaguid message) [.leafDecodes] :=
    .single fun e => Certificate.lift_decode_eq_error_iff
  have hchain : Follows
      (Trial.ofExcept (CertificateFault.lift (Certificate.decodeChain s.chain))).outcome
      (s.Fails aaguid message) [.chainDecodes] :=
    .single fun e => Certificate.lift_decodeChain_eq_error_iff
  -- Each stage adds its checks at the end, and has the certificates that the ones before gave.
  rw [verify, Trial.outcome_note_bind]
  refine hleaf.trial ?_
  rintro ⟨outline, certificate⟩ hdecode
  rw [Trial.outcome_ofExcept, CertificateFault.lift_eq_ok_iff,
    Certificate.decode_eq_ok_iff] at hdecode
  obtain ⟨houtline, hread⟩ := hdecode
  rw [Trial.outcome_note_bind]
  refine hchain.trial fun chain _ => ?_
  refine (follows_checkProfile ⟨[], houtline⟩).trial fun _ _ => ?_
  refine (follows_checkAaguid ⟨[], houtline⟩).trial fun present _ => ?_
  rw [Trial.outcome_ite_note_bind]
  exact follows_judgeSignature hread rfl fun algorithm => ⟨_, rfl⟩

end BasicStatement
end PackedAttestation
