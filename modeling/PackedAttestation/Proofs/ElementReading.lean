import PackedAttestation.Der.Element

/-! # Reading one element

Reading an element is reading identifier octets, then length octets, then as many bytes
as these say (`Element.read_eq_ok_iff`).  What is left is the end of the input
(`Element.suffix_of_read`), and shorter by one byte at least, so a reader of several elements
needs no more steps than there are bytes (`Element.length_lt_of_read`).
-/
namespace PackedAttestation.Der

theorem Identifier.suffix_of_readNumber {fuel acc n : Nat} {bs rest : Bytes}
    (h : readNumber fuel acc bs = .ok (n, rest)) : rest <:+ bs := by
  induction bs generalizing fuel acc with
  | nil => cases fuel <;> cases h
  | cons b bs ih =>
    cases fuel with
    | zero => cases h
    | succ fuel =>
      simp only [readNumber] at h
      split at h
      · cases h
        exact List.suffix_cons b rest
      · exact (ih h).trans (List.suffix_cons b bs)

/-- Identifier octets are one octet at least. -/
theorem Identifier.suffix_of_read {i : Identifier} {bs rest : Bytes}
    (h : read bs = .ok (i, rest)) : ∃ b after, bs = b :: after ∧ rest <:+ after := by
  cases bs with
  | nil => cases h
  | cons b bs =>
    refine ⟨b, bs, rfl, ?_⟩
    simp only [read] at h
    split at h
    · split at h
      · cases h
      rename_i hnumber
      cases h
      exact suffix_of_readNumber hnumber
    · cases h
      exact List.suffix_refl rest

theorem Extent.suffix_of_read {e : Extent} {bs rest : Bytes} (h : read bs = .ok (e, rest)) :
    rest <:+ bs := by
  cases bs with
  | nil => cases h
  | cons b bs =>
    simp only [read] at h
    split at h
    · cases h
      exact List.suffix_cons b rest
    split at h
    · cases h
      exact List.suffix_cons b rest
    split at h
    · cases h
      exact (List.drop_suffix _ bs).trans (List.suffix_cons b bs)
    · cases h

/-- A length that is read fits 64 bits, and takes up 128 octets at most. -/
theorem Extent.bounds_of_read {bs rest : Bytes} {n : Nat}
    (h : read bs = .ok (.definite n, rest)) :
    n < UInt64.size ∧ bs.length ≤ rest.length + 128 := by
  cases bs with
  | nil => cases h
  | cons b bs =>
    simp only [read] at h
    split at h
    · rename_i hlow
      cases h
      have hb : b.toNat < 128 := UInt8.lt_iff_toNat_lt.mp hlow
      refine ⟨Nat.lt_trans hb (by decide), ?_⟩
      rw [List.length_cons]
      omega
    split at h
    · cases h
    split at h
    · rename_i hfits
      rw [Except.ok.injEq, Prod.mk.injEq, Extent.definite.injEq] at h
      obtain ⟨rfl, rfl⟩ := h
      have hb : b.toNat < 256 := b.toNat_lt
      refine ⟨hfits.2.2, ?_⟩
      rw [List.length_drop, List.length_cons]
      omega
    · cases h

theorem Header.read_eq_ok_iff {bs rest : Bytes} {header : Header} :
    read bs = .ok (header, rest) ↔ ∃ after,
      Identifier.read bs = .ok (header.identifier, after) ∧
      Extent.read after = .ok (.definite header.length, rest) := by
  rw [read]
  constructor
  · intro h
    split at h
    · cases h
    rename_i identifier after hidentifier
    split at h
    · cases h
    · cases h
    rename_i length after' hextent
    cases h
    exact ⟨after, hidentifier, hextent⟩
  · rintro ⟨after, hidentifier, hextent⟩
    simp [hidentifier, hextent]

theorem Element.read_eq_ok_iff {bs rest : Bytes} {element : Element} :
    read bs = .ok (element, rest) ↔ ∃ after length body,
      Identifier.read bs = .ok (element.identifier, after) ∧
      Extent.read after = .ok (.definite length, body) ∧ length ≤ body.length ∧
      element.content = body.take length ∧ rest = body.drop length := by
  rw [read]
  constructor
  · intro h
    split at h
    · cases h
    rename_i header body hheader
    obtain ⟨after, hidentifier, hextent⟩ := Header.read_eq_ok_iff.mp hheader
    split at h
    · rename_i hlength
      cases h
      exact ⟨after, header.length, body, hidentifier, hextent, hlength, rfl, rfl⟩
    · cases h
  · rintro ⟨after, length, body, hidentifier, hextent, hlength, hcontent, rfl⟩
    have hheader : Header.read bs = .ok (⟨element.identifier, length⟩, body) :=
      Header.read_eq_ok_iff.mpr ⟨after, hidentifier, hextent⟩
    simp [hheader, hlength, ← hcontent]

/-- What is left of the input is its end, and shorter by one byte at least. -/
theorem Element.suffix_of_read {bs rest : Bytes} {element : Element}
    (h : read bs = .ok (element, rest)) : ∃ b after, bs = b :: after ∧ rest <:+ after := by
  obtain ⟨_, length, body, hidentifier, hextent, -, -, rfl⟩ := read_eq_ok_iff.mp h
  obtain ⟨b, after, rfl, hafter⟩ := Identifier.suffix_of_read hidentifier
  exact ⟨b, after, rfl,
    (List.drop_suffix length body).trans ((Extent.suffix_of_read hextent).trans hafter)⟩

theorem Element.length_lt_of_read {bs rest : Bytes} {element : Element}
    (h : read bs = .ok (element, rest)) : rest.length < bs.length := by
  obtain ⟨b, after, rfl, hafter⟩ := suffix_of_read h
  exact Nat.lt_succ_of_le hafter.length_le

theorem Element.length_content_lt_of_read {bs rest : Bytes} {element : Element}
    (h : read bs = .ok (element, rest)) : element.content.length < UInt64.size := by
  obtain ⟨_, length, body, -, hextent, -, hcontent, -⟩ := read_eq_ok_iff.mp h
  rw [hcontent, List.length_take]
  exact Nat.lt_of_le_of_lt (Nat.min_le_left length body.length) (Extent.bounds_of_read hextent).1

/-- The content of an element with a given tag number is that of an element of any type. -/
theorem readContent_eq_ok_iff {number : Nat} {bs content rest : Bytes} :
    readContent number bs = .ok (content, rest) ↔
      ∃ element, Element.read bs = .ok (element, rest) ∧
        element.identifier.number = number ∧ element.content = content := by
  rw [readContent, Element.read]
  cases Header.read bs with
  | error fault => simp
  | ok result =>
    obtain ⟨header, after⟩ := result
    dsimp only
    constructor
    · intro h
      split at h
      · cases h
      rename_i hnumber
      split at h
      · rename_i hlength
        cases h
        exact ⟨_, if_pos hlength, Decidable.not_not.mp hnumber, rfl⟩
      · cases h
    · rintro ⟨element, h, rfl, rfl⟩
      split at h
      · rename_i hlength
        cases h
        simp [hlength]
      · cases h

end PackedAttestation.Der
