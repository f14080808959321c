import PackedAttestation.Proofs.BasicVerification
import PackedAttestation.Proofs.ElementFaults
import PackedAttestation.Proofs.LeafExtensions
import PackedAttestation.Proofs.SignatureFormat

/-! # The AAGUID extension

The value of the extension is an OCTET STRING of sixteen bytes.  Its header may be in any form, and
what follows the bytes is given back (`Aaguid.readsExactly`); values of another kind are refused for
the reason that `Aaguid.ReadFault` says.  Of the extensions of a certificate the first one with the
identifier decides, and the ones before and after it have no part in that
(`Outline.checkAaguid_judges_first`).
-/
namespace PackedAttestation

open Der
open Certificate (Outline Extension)

/-! ### The value -/

theorem Octets.bytes_inj {n : Nat} {a b : Octets n} : a.bytes = b.bytes ↔ a = b := by
  cases a
  cases b
  simp

namespace Aaguid

variable {bs rest content : Bytes} {fault : Fault}

/-- An OCTET STRING that holds an AAGUID: a header with the tag number of the type and the length
sixteen, of any class and in any form, and then the bytes. -/
def IsForm (aaguid : Aaguid) (form : Bytes) : Prop :=
  ∃ identifier head, identifier.number = Tag.octetString ∧
    Header.IsForm ⟨identifier, 16⟩ head ∧ form = head ++ aaguid.bytes

theorem isForm_iff_isTagged {aaguid : Aaguid} {form : Bytes} :
    aaguid.IsForm form ↔ IsTagged Tag.octetString aaguid.bytes form := by
  rw [IsForm, IsTagged, aaguid.length_eq]

/-- **The reader takes OCTET STRINGs of sixteen bytes.** -/
theorem readsExactly : ReadsExactly read IsForm := by
  intro bs aaguid rest
  rw [read_eq_ok_iff, readOctetString, readContent_readsExactly]
  simp only [StartsWith, isForm_iff_isTagged]

/-- Why bytes do not start with an AAGUID. -/
inductive ReadFault (bs : Bytes) : Fault → Prop where
  | content {fault : Fault} (h : ContentFault Tag.octetString bs fault) : ReadFault bs fault
  | otherLength {content rest : Bytes}
      (hcontent : StartsWith (IsTagged Tag.octetString) bs content rest)
      (hlength : content.length ≠ 16) : ReadFault bs .invalidLength

/-- **The faults of an AAGUID.** -/
theorem read_eq_error_iff : read bs = .error fault ↔ ReadFault bs fault := by
  rw [read]
  constructor
  · intro h
    split at h
    · rename_i hcontent
      cases h
      exact .content (readContent_eq_error_iff.mp hcontent)
    rename_i content rest hcontent
    split at h
    · cases h
    · rename_i hlength
      cases h
      refine .otherLength ((readContent_readsExactly _ _ _ _).mp hcontent) fun heq => ?_
      simp [Octets.ofBytes?, heq] at hlength
  · rintro (hfault | ⟨hcontent, hlength⟩)
    · rw [readOctetString, readContent_eq_error_iff.mpr hfault]
    · rw [← readContent_readsExactly] at hcontent
      simp [readOctetString, hcontent, Octets.ofBytes?, hlength]

end Aaguid

/-! ### The extensions of a certificate -/

namespace Certificate.Outline

variable {outline : Outline} {extension : Extension} {expected told : Aaguid}

/-- The first AAGUID extension of a certificate. -/
def FirstAaguidExtension (outline : Outline) (extension : Extension) : Prop :=
  extension.oid = Oid.aaguidExtension ∧ ∃ before after,
    outline.extensions = before ++ extension :: after ∧
      ∀ earlier ∈ before, earlier.oid ≠ Oid.aaguidExtension

theorem firstAaguidExtension_iff :
    outline.FirstAaguidExtension extension ↔
      outline.extensions.find? (·.oid == Oid.aaguidExtension) = some extension := by
  simp [FirstAaguidExtension, List.find?_eq_some_iff_append]

theorem exists_firstAaguidExtension (hmem : extension ∈ outline.extensions)
    (hoid : extension.oid = Oid.aaguidExtension) :
    ∃ first, outline.FirstAaguidExtension first := by
  simp only [firstAaguidExtension_iff, ← Option.isSome_iff_exists, List.find?_isSome]
  exact ⟨extension, hmem, beq_iff_eq.mpr hoid⟩

theorem outcome_checkAaguid_of_critical (h : outline.FirstAaguidExtension extension)
    (hcritical : extension.critical = true) :
    (outline.checkAaguid expected).outcome = .error .criticalExtension := by
  rw [firstAaguidExtension_iff] at h
  simp [checkAaguid, h, hcritical]

theorem outcome_checkAaguid_of_fault (h : outline.FirstAaguidExtension extension)
    (hcritical : extension.critical = false) {fault : Fault}
    (hread : Aaguid.read extension.value = .error fault) :
    (outline.checkAaguid expected).outcome = .error (.invalidAaguid fault) := by
  rw [firstAaguidExtension_iff] at h
  simp [checkAaguid, h, hcritical, hread]

theorem outcome_checkAaguid_of_trailing (h : outline.FirstAaguidExtension extension)
    (hcritical : extension.critical = false) {rest : Bytes}
    (hread : Aaguid.read extension.value = .ok (told, rest)) (hrest : rest ≠ []) :
    (outline.checkAaguid expected).outcome = .error (.invalidAaguid .invalidLength) := by
  rw [firstAaguidExtension_iff] at h
  simp [checkAaguid, h, hcritical, hread, hrest]

theorem outcome_checkAaguid_of_read (h : outline.FirstAaguidExtension extension)
    (hcritical : extension.critical = false)
    (hread : Aaguid.read extension.value = .ok (told, [])) :
    (outline.checkAaguid expected).outcome =
      if told = expected then .ok true else .error .aaguidMismatch := by
  rw [firstAaguidExtension_iff] at h
  by_cases heq : told = expected <;> simp [checkAaguid, h, hcritical, hread, heq]

/-- An extension that is there is never passed over. -/
theorem outcome_checkAaguid_ne_ok_false (h : outline.FirstAaguidExtension extension) :
    (outline.checkAaguid expected).outcome ≠ .ok false := by
  cases hcritical : extension.critical with
  | true => simp [outcome_checkAaguid_of_critical h hcritical]
  | false =>
    rcases hread : Aaguid.read extension.value with fault | ⟨told, rest⟩
    · simp [outcome_checkAaguid_of_fault h hcritical hread]
    · by_cases hrest : rest = []
      · subst hrest
        rw [outcome_checkAaguid_of_read h hcritical hread]
        split <;> simp
      · simp [outcome_checkAaguid_of_trailing h hcritical hread hrest]

theorem outcome_checkAaguid_eq_ok_false_iff :
    (outline.checkAaguid expected).outcome = .ok false ↔
      ∀ extension ∈ outline.extensions, extension.oid ≠ Oid.aaguidExtension := by
  constructor
  · intro hfalse extension hmem hoid
    obtain ⟨first, hfirst⟩ := exists_firstAaguidExtension hmem hoid
    exact outcome_checkAaguid_ne_ok_false hfirst hfalse
  · intro hnone
    have hfind : outline.extensions.find? (·.oid == Oid.aaguidExtension) = none := by
      simpa using hnone
    rw [checkAaguid, hfind]
    rfl

/-- **The AAGUID extension is read and judged exactly.** An AAGUID is read from a header with the
tag number of OCTET STRING and the length sixteen, and the sixteen bytes after it; what follows is
left over. Else the fault is that of the element, or of its length. In a list of extensions the
check finds that there is no AAGUID extension exactly if none has the identifier. Where there is
one, the first one decides: if it is critical that is the error, whatever the value is; then a value
that is refused is, for its fault, and one with bytes left over, whatever AAGUID it tells; and the
rest is a comparison of the sixteen bytes. -/
theorem checkAaguid_judges_first :
    (∀ value told rest, Aaguid.read value = .ok (told, rest) ↔
      ∃ identifier head, identifier.number = Tag.octetString ∧
        Header.IsForm ⟨identifier, 16⟩ head ∧ value = head ++ told.bytes ++ rest) ∧
    (∀ value fault, Aaguid.read value = .error fault ↔ Aaguid.ReadFault value fault) ∧
    ∀ (outline : Outline) (expected : Aaguid),
      ((outline.checkAaguid expected).outcome = .ok false ↔
        ∀ extension ∈ outline.extensions, extension.oid ≠ Oid.aaguidExtension) ∧
      ∀ listed ∈ outline.extensions, listed.oid = Oid.aaguidExtension →
        ∃ extension, outline.FirstAaguidExtension extension ∧
          (extension.critical = true →
            (outline.checkAaguid expected).outcome = .error .criticalExtension) ∧
          (extension.critical = false →
            (∀ fault, Aaguid.read extension.value = .error fault →
              (outline.checkAaguid expected).outcome = .error (.invalidAaguid fault)) ∧
            (∀ told rest, Aaguid.read extension.value = .ok (told, rest) → rest ≠ [] →
              (outline.checkAaguid expected).outcome = .error (.invalidAaguid .invalidLength)) ∧
            ∀ told, Aaguid.read extension.value = .ok (told, []) →
              ((outline.checkAaguid expected).outcome = .ok true ↔
                told.bytes = expected.bytes) ∧
              ((outline.checkAaguid expected).outcome = .error .aaguidMismatch ↔
                told.bytes ≠ expected.bytes)) := by
  refine ⟨?reads, fun value fault => Aaguid.read_eq_error_iff, fun outline expected => ?judges⟩
  case reads =>
    intro value told rest
    rw [Aaguid.readsExactly, StartsWith]
    constructor
    · rintro ⟨_, ⟨identifier, head, hnumber, hhead, rfl⟩, rfl⟩
      exact ⟨identifier, head, hnumber, hhead, rfl⟩
    · rintro ⟨identifier, head, hnumber, hhead, rfl⟩
      exact ⟨_, ⟨identifier, head, hnumber, hhead, rfl⟩, rfl⟩
  case judges =>
    refine ⟨outcome_checkAaguid_eq_ok_false_iff, fun listed hmem hoid => ?_⟩
    obtain ⟨extension, hfirst⟩ := exists_firstAaguidExtension hmem hoid
    refine ⟨extension, hfirst, outcome_checkAaguid_of_critical hfirst, fun hcritical => ?_⟩
    refine ⟨fun fault => outcome_checkAaguid_of_fault hfirst hcritical,
      fun told rest => outcome_checkAaguid_of_trailing hfirst hcritical, fun told hread => ?_⟩
    rw [outcome_checkAaguid_of_read hfirst hcritical hread, Ne, Octets.bytes_inj]
    by_cases heq : told = expected <;> simp [heq]

end Certificate.Outline

namespace Specimen

/-- An AAGUID under a header that is longer than needed. -/
def longValue : Bytes :=
  [0x04, 0x81, 0x10] ++ aaguid.bytes

/-- The AAGUID of the specimen with a byte after it, and then without one. -/
def followed : Outline :=
  outlineOf [⟨Oid.aaguidExtension, false, longValue ++ [0]⟩, aaguidExtension aaguid]

/-- The AAGUID is read from the longer header, and refused for the byte after it, although it is the
one expected, and although the next extension is as it should be. -/
theorem followed_refused :
    Aaguid.read (longValue ++ [0]) = .ok (aaguid, [0]) ∧
      (followed.checkAaguid aaguid).outcome = .error (.invalidAaguid .invalidLength) := by
  obtain ⟨hreads, -, hjudges⟩ := Outline.checkAaguid_judges_first
  have hlength : IsLengthForm 16 [0x81, 0x10] :=
    .inr ⟨[0x10], by decide, by decide, rfl, by decide, rfl⟩
  have hhead : Header.IsForm ⟨⟨.universal, false, Tag.octetString⟩, 16⟩ [0x04, 0x81, 0x10] :=
    ⟨[0x04], [0x81, 0x10], Identifier.isForm_singleton rfl (by decide), hlength, rfl⟩
  have hread : Aaguid.read (longValue ++ [0]) = .ok (aaguid, [0]) :=
    (hreads _ _ _).mpr ⟨_, _, rfl, hhead, rfl⟩
  obtain ⟨extension, hfirst, -, hjudged⟩ :=
    (hjudges followed aaguid).2 _ List.mem_cons_self rfl
  obtain rfl : (⟨Oid.aaguidExtension, false, longValue ++ [0]⟩ : Extension) = extension :=
    Option.some.inj (Outline.firstAaguidExtension_iff.mp hfirst)
  exact ⟨hread, (hjudged rfl).2.1 aaguid [0] hread (by decide)⟩

end Specimen
end PackedAttestation
