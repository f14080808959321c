import PackedAttestation.Proofs.ElementForms

/-! # Why an element does not read

Bytes that do not start with an element are refused with a fault.  Which fault it is can be said
without the readers, from the forms that the bytes do start with: `HeaderFault` for a header,
`ContentFault` for an element with a given tag number, and `IntegerFault` for an INTEGER.  The
readers give exactly these faults (`Header.read_eq_error_iff`, `readContent_eq_error_iff`,
`readInteger_eq_error_iff`).

In particular, an INTEGER that is cut short has an invalid length, unless the cut is inside a
tag number of several octets, where the tag is invalid (`readInteger_of_cut`).
-/
namespace PackedAttestation.Der

variable {bs more rest content : Bytes} {fault : Fault} {number : Nat}

/-! ### Faults of a header -/

/-- A tag number of several octets is announced, and none of the octets that are there is its
last one, up to the five that it may have. -/
def IsEndlessTag (bs : Bytes) : Prop :=
  ∃ lead more, bs = lead :: more ∧ lead.toNat % 32 = 31 ∧ ∀ b ∈ more.take 5, 128 ≤ b

/-- No length is told: there is no octet, or the first one counts further octets and is reserved,
or counts more of them than there are, or their value does not fit 64 bits. -/
def LacksLength (bs : Bytes) : Prop :=
  bs = [] ∨ ∃ b more, bs = b :: more ∧ 128 < b.toNat ∧
    (b.toNat = 255 ∨ more.length < b.toNat - 128 ∨
      UInt64.size ≤ Bytes.toNat (more.take (b.toNat - 128)))

/-- Why bytes do not start with a header. -/
inductive HeaderFault (bs : Bytes) : Fault → Prop where
  | empty (h : bs = []) : HeaderFault bs .invalidLength
  | endlessTag (h : IsEndlessTag bs) : HeaderFault bs .invalidTag
  | lacksLength {i : Identifier} {rest : Bytes}
      (hidentifier : StartsWith Identifier.IsForm bs i rest) (hlength : LacksLength rest) :
      HeaderFault bs .invalidLength
  | indefinite {i : Identifier} {rest : Bytes}
      (hidentifier : StartsWith Identifier.IsForm bs i (128 :: rest)) : HeaderFault bs .constraint

theorem Identifier.readNumber_eq_error_iff {fuel acc : Nat} :
    readNumber fuel acc bs = .error fault ↔
      fault = .invalidTag ∧ ∀ b ∈ bs.take fuel, 128 ≤ b := by
  induction fuel generalizing acc bs with
  | zero => simp [readNumber, eq_comm]
  | succ fuel ih =>
    cases bs with
    | nil => simp [readNumber, eq_comm]
    | cons b bs =>
      simp only [readNumber, List.take_succ_cons, List.forall_mem_cons]
      by_cases hb : b < 128
      · simp [hb]
      · rw [if_neg hb, ih]
        simp [UInt8.not_lt.mp hb]

theorem Identifier.read_eq_error_iff :
    read bs = .error fault ↔
      bs = [] ∧ fault = .invalidLength ∨ IsEndlessTag bs ∧ fault = .invalidTag := by
  cases bs with
  | nil => simp [read, IsEndlessTag, eq_comm]
  | cons lead bs =>
    simp only [read]
    by_cases hlead : lead.toNat % 32 = 31
    · rw [if_pos hlead]
      cases hnumber : readNumber 5 0 bs with
      | error fault' =>
        obtain ⟨rfl, hmore⟩ := readNumber_eq_error_iff.mp hnumber
        have hendless : IsEndlessTag (lead :: bs) := ⟨lead, bs, rfl, hlead, hmore⟩
        simp [hendless, eq_comm]
      | ok result =>
        have hends : ¬∀ b ∈ bs.take 5, 128 ≤ b := by
          intro hmore
          cases hnumber.symm.trans (readNumber_eq_error_iff.mpr ⟨rfl, hmore⟩)
        simp [IsEndlessTag, hends]
    · simp [hlead, IsEndlessTag]

theorem lacksLength_cons_iff {b : UInt8} :
    LacksLength (b :: more) ↔ 128 < b.toNat ∧ ¬(b ≠ 255 ∧ b.toNat - 128 ≤ more.length ∧
      Bytes.toNat (more.take (b.toNat - 128)) < UInt64.size) := by
  have hreserved : b = 255 ↔ b.toNat = 255 := UInt8.toNat_inj.symm
  simp [LacksLength, hreserved, Classical.or_iff_not_imp_left]

theorem Extent.read_eq_error_iff :
    read bs = .error fault ↔ LacksLength bs ∧ fault = .invalidLength := by
  cases bs with
  | nil => simp [read, LacksLength, eq_comm]
  | cons b bs =>
    have hlow : b < 128 ↔ b.toNat < 128 := UInt8.lt_iff_toNat_lt
    have hindefinite : b = 128 ↔ b.toNat = 128 := UInt8.toNat_inj.symm
    rw [lacksLength_cons_iff]
    simp only [read]
    split
    · rename_i hb
      have hnot : ¬128 < b.toNat := (hlow.mp hb).not_gt
      simp [hnot]
    rename_i hhigh
    split
    · rename_i hb
      have hnot : ¬128 < b.toNat := (hindefinite.mp hb).not_gt
      simp [hnot]
    rename_i hdefinite
    rw [hlow] at hhigh
    rw [hindefinite] at hdefinite
    split
    · rename_i hfits
      simp [hfits]
    · rename_i hlacks
      have hcounts : 128 < b.toNat := by omega
      rw [Except.error.injEq]
      exact ⟨fun h => ⟨⟨hcounts, hlacks⟩, h.symm⟩, fun h => h.2.symm⟩

theorem Extent.read_eq_ok_indefinite_iff :
    read bs = .ok (.indefinite, rest) ↔ bs = 128 :: rest := by
  cases bs with
  | nil => simp [read]
  | cons b bs =>
    simp only [read]
    constructor
    · intro h
      split at h
      · cases h
      split at h
      · rename_i hb
        cases h
        rw [hb]
      split at h <;> cases h
    · rintro ⟨⟩
      rfl

/-- **The faults of a header.** -/
theorem Header.read_eq_error_iff : read bs = .error fault ↔ HeaderFault bs fault := by
  rw [read]
  constructor
  · intro h
    split at h
    · rename_i hidentifier
      cases h
      obtain ⟨rfl, rfl⟩ | ⟨hendless, rfl⟩ := Identifier.read_eq_error_iff.mp hidentifier
      · exact .empty rfl
      · exact .endlessTag hendless
    rename_i hidentifier
    rw [Identifier.readsExactly] at hidentifier
    split at h
    · rename_i hextent
      cases h
      obtain ⟨hlacks, rfl⟩ := Extent.read_eq_error_iff.mp hextent
      exact .lacksLength hidentifier hlacks
    · rename_i hextent
      cases h
      obtain rfl := Extent.read_eq_ok_indefinite_iff.mp hextent
      exact .indefinite hidentifier
    · cases h
  · rintro (rfl | hendless | ⟨hidentifier, hlacks⟩ | hidentifier)
    · rfl
    · rw [Identifier.read_eq_error_iff.mpr (.inr ⟨hendless, rfl⟩)]
    · rw [← Identifier.readsExactly] at hidentifier
      simp only [hidentifier, Extent.read_eq_error_iff.mpr ⟨hlacks, rfl⟩]
    · rw [← Identifier.readsExactly] at hidentifier
      simp only [hidentifier, Extent.read_eq_ok_indefinite_iff.mpr rfl]

theorem HeaderFault.unique {fault' : Fault} (h : HeaderFault bs fault)
    (h' : HeaderFault bs fault') : fault = fault' := by
  rw [← Header.read_eq_error_iff] at h h'
  cases h.symm.trans h'
  rfl

/-! ### Faults of an element -/

/-- Why bytes do not start with an element with the tag number `number`. -/
inductive ContentFault (number : Nat) (bs : Bytes) : Fault → Prop where
  | header {fault : Fault} (h : HeaderFault bs fault) : ContentFault number bs fault
  | otherTag {header : Header} {rest : Bytes} (hheader : StartsWith Header.IsForm bs header rest)
      (hnumber : header.identifier.number ≠ number) : ContentFault number bs .unexpectedTag
  | cut {header : Header} {rest : Bytes} (hheader : StartsWith Header.IsForm bs header rest)
      (hnumber : header.identifier.number = number) (hlength : rest.length < header.length) :
      ContentFault number bs .invalidLength

/-- Why bytes do not start with an INTEGER. -/
inductive IntegerFault (bs : Bytes) : Fault → Prop where
  | content {fault : Fault} (h : ContentFault Tag.integer bs fault) : IntegerFault bs fault
  | notMinimal {content rest : Bytes} (hcontent : StartsWith (IsTagged Tag.integer) bs content rest)
      (hminimal : ¬IsIntegerContent content) : IntegerFault bs .constraint

/-- **The faults of an element.** -/
theorem readContent_eq_error_iff :
    readContent number bs = .error fault ↔ ContentFault number bs fault := by
  rw [readContent]
  constructor
  · intro h
    split at h
    · rename_i hheader
      cases h
      exact .header (Header.read_eq_error_iff.mp hheader)
    rename_i header rest hheader
    rw [Header.readsExactly] at hheader
    split at h
    · rename_i hnumber
      cases h
      exact .otherTag hheader hnumber
    rename_i hnumber
    rw [Decidable.not_not] at hnumber
    split at h
    · cases h
    · rename_i hlength
      cases h
      exact .cut hheader hnumber (Nat.lt_of_not_le hlength)
  · rintro (hfault | ⟨hheader, hnumber⟩ | ⟨hheader, hnumber, hlength⟩)
    · rw [Header.read_eq_error_iff.mpr hfault]
    · rw [← Header.readsExactly] at hheader
      simp [hheader, hnumber]
    · rw [← Header.readsExactly] at hheader
      simp [hheader, hnumber, Nat.not_le_of_lt hlength]

/-- **The faults of an INTEGER.** -/
theorem readInteger_eq_error_iff : readInteger bs = .error fault ↔ IntegerFault bs fault := by
  rw [readInteger]
  constructor
  · intro h
    split at h
    · rename_i hcontent
      cases h
      exact .content (readContent_eq_error_iff.mp hcontent)
    rename_i hcontent
    rw [readContent_readsExactly] at hcontent
    split at h
    · cases h
    · rename_i hminimal
      cases h
      exact .notMinimal hcontent (hminimal ∘ integerContentOk_iff.mpr)
  · rintro (hfault | ⟨hcontent, hminimal⟩)
    · rw [readContent_eq_error_iff.mpr hfault]
    · rw [← readContent_readsExactly] at hcontent
      simp [hcontent, integerContentOk_iff, hminimal]

theorem IntegerFault.unique {fault' : Fault} (h : IntegerFault bs fault)
    (h' : IntegerFault bs fault') : fault = fault' := by
  rw [← readInteger_eq_error_iff] at h h'
  cases h.symm.trans h'
  rfl

/-! ### INTEGERs that are cut short -/

/-- Of a header that is cut short the length cannot be read, if the tag number can. -/
theorem HeaderFault.eq_of_cut {header : Header} (hfault : HeaderFault bs fault)
    (hheader : StartsWith Header.IsForm (bs ++ more) header rest) (hends : ¬IsEndlessTag bs) :
    fault = .invalidLength := by
  cases hfault with
  | empty => rfl
  | endlessTag hendless => exact absurd hendless hends
  | lacksLength => rfl
  | indefinite hidentifier =>
    -- More bytes would not make the length a definite one.
    rw [← Header.readsExactly] at hheader
    cases hheader.symm.trans (Header.read_eq_error_iff.mpr (.indefinite (hidentifier.append more)))

/-- **An INTEGER that is cut short** has an invalid length, unless the cut is inside a tag number
of several octets, where the tag is invalid. -/
theorem readInteger_of_cut (hmore : more ≠ []) (hinteger : IsInteger content (bs ++ more)) :
    (IsEndlessTag bs → readInteger bs = .error .invalidTag) ∧
      (¬IsEndlessTag bs → readInteger bs = .error .invalidLength) := by
  refine ⟨?_, fun hends => ?_⟩
  · intro hendless
    exact readInteger_eq_error_iff.mpr (.content (.header (.endlessTag hendless)))
  have hwhole : StartsWith IsInteger (bs ++ more) content [] := ⟨_, hinteger, by simp⟩
  obtain ⟨hcontent, hminimal⟩ := startsWith_isInteger_iff.mp hwhole
  obtain ⟨header, after, hheader, hnumber, -, -⟩ := startsWith_isTagged_iff.mp hcontent
  -- What is read of the beginning is read of the whole, so only the ways to end early remain.
  cases hread : readInteger bs with
  | ok result =>
    obtain ⟨content', rest⟩ := result
    have hlonger := ((readInteger_readsExactly _ _ _).mp hread).append more
    obtain ⟨-, hnil⟩ := readInteger_readsExactly.unique hlonger hwhole
    exact absurd (List.append_eq_nil_iff.mp hnil).2 hmore
  | error fault =>
    obtain ((hfault | ⟨hheader', hnumber'⟩ | ⟨-, -, -⟩) | ⟨hcontent', hminimal'⟩) :=
      readInteger_eq_error_iff.mp hread
    · rw [hfault.eq_of_cut hheader hends]
    · obtain ⟨rfl, -⟩ := Header.readsExactly.unique (hheader'.append more) hheader
      exact absurd hnumber hnumber'
    · rfl
    · obtain ⟨rfl, -⟩ := (readContent_readsExactly _).unique (hcontent'.append more) hcontent
      exact absurd hminimal hminimal'

end PackedAttestation.Der
