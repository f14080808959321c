import PackedAttestation.Der.Element
import PackedAttestation.Proofs.ElementReading
import PackedAttestation.Proofs.ShortestBytes

/-! # Reading what was written

A header is read back if its tag number takes one octet and its length fits 64 bits
(`Header.read_written`), and so is an element (`Element.read_encode`).  A length that does not
fit is refused (`Extent.read_lengthOctets`), unless it takes so many octets that the first of
them tells something else.  Even then an element that is read and ends where the written one
does is the one that was written (`Element.eq_of_written`).
-/
namespace PackedAttestation.Der

open Bytes (Shortest)

/-! ### Headers -/

@[simp] theorem TagClass.ofBits_toBits (cls : TagClass) : ofBits cls.toBits = cls := by
  cases cls <;> rfl

theorem TagClass.toBits_lt (cls : TagClass) : cls.toBits < 4 := by
  cases cls <;> decide

/-- The first identifier octet: class, constructed bit, and five bits more. -/
theorem leadingOctet (cls : TagClass) (constructed : Bool) {k : Nat} (hk : k < 32) :
    let octet := UInt8.ofNat (cls.toBits * 64 + (if constructed then 32 else 0) + k)
    TagClass.ofBits (octet.toNat / 64) = cls ∧ (octet.toNat / 32 % 2 == 1) = constructed ∧
      octet.toNat % 32 = k := by
  intro octet
  obtain ⟨bit, hbit, hconstructed, htells⟩ : ∃ bit, bit < 2 ∧
      (if constructed then 32 else 0) = bit * 32 ∧ (bit == 1) = constructed := by
    cases constructed
    · exact ⟨0, by decide, rfl, rfl⟩
    · exact ⟨1, by decide, rfl, rfl⟩
  have hcls := cls.toBits_lt
  have hoctet : octet.toNat = cls.toBits * 64 + bit * 32 + k := by
    rw [UInt8.toNat_ofNat', hconstructed, Nat.mod_eq_of_lt (by omega)]
  have hhigh : octet.toNat / 64 = cls.toBits := by omega
  have hmiddle : octet.toNat / 32 % 2 = bit := by omega
  have hlow : octet.toNat % 32 = k := by omega
  rw [hhigh, hmiddle, hlow, htells, TagClass.ofBits_toBits]
  exact ⟨rfl, rfl, rfl⟩

/-- The one octet of a tag number below 31 is read back. -/
theorem Identifier.read_identifierOctets {i : Identifier} (h : i.number < 31) (rest : Bytes) :
    read (identifierOctets i ++ rest) = .ok (i, rest) := by
  obtain ⟨hcls, hconstructed, hnumber⟩ := leadingOctet i.cls i.constructed (h.trans (by decide))
  rw [identifierOctets, if_pos h, List.singleton_append, read]
  simp only [hcls, hconstructed, hnumber]
  rw [if_neg (Nat.ne_of_lt h)]

/-- The first octet tells on its own whether an element is constructed. -/
theorem Identifier.constructed_of_written {i j : Identifier} {rest after : Bytes}
    (h : read (identifierOctets i ++ rest) = .ok (j, after)) : j.constructed = i.constructed := by
  by_cases hi : i.number < 31
  · rw [read_identifierOctets hi] at h
    cases h
    rfl
  · obtain ⟨-, hconstructed, hnumber⟩ := leadingOctet i.cls i.constructed (k := 31) (by decide)
    rw [identifierOctets, if_neg hi, List.cons_append, read] at h
    simp only [hconstructed, hnumber, ite_true] at h
    split at h
    · cases h
    · cases h
      rfl

theorem lengthOctets_of_lt {n : Nat} (h : n < 128) : lengthOctets n = [UInt8.ofNat n] :=
  if_pos h

theorem lengthOctets_of_le {n : Nat} (h : 128 ≤ n) :
    lengthOctets n = UInt8.ofNat (128 + (Bytes.ofNat n).length) :: Bytes.ofNat n :=
  if_neg (Nat.not_lt_of_le h)

/-- The octet that tells the count of further length octets. -/
theorem toNat_countOctet {k : Nat} (h : k < 128) : (UInt8.ofNat (128 + k)).toNat = 128 + k := by
  rw [UInt8.toNat_ofNat', Nat.mod_eq_of_lt (by omega)]

theorem countOctet_not_lt {k : Nat} (h : k < 128) : ¬UInt8.ofNat (128 + k) < 128 := by
  rw [UInt8.lt_iff_toNat_lt, toNat_countOctet h]
  exact Nat.not_lt_of_le (Nat.le_add_right 128 k)

/-- The octet of a length below 128. -/
theorem toNat_lengthOctet {n : Nat} (h : n < 128) : (UInt8.ofNat n).toNat = n := by
  rw [UInt8.toNat_ofNat', Nat.mod_eq_of_lt (by omega)]

theorem lengthOctet_lt {n : Nat} (h : n < 128) : UInt8.ofNat n < 128 := by
  rwa [UInt8.lt_iff_toNat_lt, toNat_lengthOctet h]

/-- Length octets are read back if the length fits 64 bits, and refused if it does not. -/
theorem Extent.read_lengthOctets {n : Nat} (h : n < 256 ^ 126) (rest : Bytes) :
    read (lengthOctets n ++ rest) =
      if n < UInt64.size then .ok (.definite n, rest) else .error .invalidLength := by
  by_cases hshort : n < 128
  · have hsize : n < UInt64.size := hshort.trans (by decide)
    rw [lengthOctets_of_lt hshort, List.singleton_append, read, if_pos (lengthOctet_lt hshort),
      toNat_lengthOctet hshort, if_pos hsize]
  · have hcount : (Bytes.ofNat n).length ≤ 126 := Bytes.length_ofNat_le h
    have hpos : 0 < (Bytes.ofNat n).length := Bytes.length_ofNat_pos (by omega)
    have hoctet := toNat_countOctet (Nat.lt_of_le_of_lt hcount (by decide))
    have hlong := countOctet_not_lt (Nat.lt_of_le_of_lt hcount (by decide))
    have hdefinite : UInt8.ofNat (128 + (Bytes.ofNat n).length) ≠ 128 := by
      rw [Ne, ← UInt8.toNat_inj, hoctet]
      exact Nat.ne_of_gt (Nat.lt_add_of_pos_right hpos)
    have hreserved : UInt8.ofNat (128 + (Bytes.ofNat n).length) ≠ 255 := by
      rw [Ne, ← UInt8.toNat_inj, hoctet]
      exact Nat.ne_of_lt (Nat.lt_of_le_of_lt (Nat.add_le_add_left hcount 128) (by decide))
    have hlength : (Bytes.ofNat n).length ≤ (Bytes.ofNat n ++ rest).length := by
      rw [List.length_append]
      exact Nat.le_add_right _ _
    rw [lengthOctets_of_le (Nat.le_of_not_lt hshort), List.cons_append, read, if_neg hlong,
      if_neg hdefinite]
    simp only [hoctet, Nat.add_sub_cancel_left, List.take_left, List.drop_left,
      Bytes.toNat_ofNat, hreserved, hlength, ne_eq, not_false_eq_true, true_and]

theorem Header.read_written {i : Identifier} {n : Nat} (hi : i.number < 31)
    (hn : n < UInt64.size) (rest : Bytes) :
    read (identifierOctets i ++ (lengthOctets n ++ rest)) = .ok (⟨i, n⟩, rest) := by
  have hlt : n < 256 ^ 126 := hn.trans (by decide)
  refine read_eq_ok_iff.mpr ⟨_, Identifier.read_identifierOctets hi _, ?_⟩
  rw [Extent.read_lengthOctets hlt, if_pos hn]

/-- Length octets of more than 64 bits may be read as another length, but the content does not
end where this length says: what is read is not much longer than 64 bits tell. -/
theorem Header.length_lt_of_written {i : Identifier} {content rest body : Bytes} {header : Header}
    (hi : i.number < 31)
    (h : read (identifierOctets i ++ (lengthOctets content.length ++ (content ++ rest))) =
      .ok (header, body))
    (hbody : body.length = header.length + rest.length) : content.length < UInt64.size := by
  obtain ⟨after, hidentifier, hextent⟩ := read_eq_ok_iff.mp h
  rw [Identifier.read_identifierOctets hi, Except.ok.injEq, Prod.mk.injEq] at hidentifier
  obtain ⟨-, rfl⟩ := hidentifier
  obtain ⟨hfits, hbound⟩ := Extent.bounds_of_read hextent
  have hlt : content.length < 256 ^ 126 := by
    have hlarge : UInt64.size + 128 < 256 ^ 126 := by decide
    rw [List.length_append, List.length_append, hbody] at hbound
    omega
  rw [Extent.read_lengthOctets hlt] at hextent
  split at hextent
  · assumption
  · cases hextent

/-! ### Elements -/

section Written

variable {i : Identifier} {content rest : Bytes} {element : Element}

theorem encode_append (rest : Bytes) :
    encode i content ++ rest =
      identifierOctets i ++ (lengthOctets content.length ++ (content ++ rest)) := by
  simp [encode]

theorem Element.read_encode (hi : i.number < 31) (hsize : content.length < UInt64.size)
    (rest : Bytes) : read (encode i content ++ rest) = .ok (⟨i, content⟩, rest) := by
  rw [encode_append, read, Header.read_written hi hsize]
  simp

theorem Element.constructed_of_written {after : Bytes}
    (h : read (encode i content ++ rest) = .ok (element, after)) :
    element.identifier.constructed = i.constructed := by
  obtain ⟨_, _, _, hidentifier, -⟩ := read_eq_ok_iff.mp h
  rw [encode_append] at hidentifier
  exact Identifier.constructed_of_written hidentifier

/-- **What is read is what was written.** -/
theorem Element.eq_of_written (hi : i.number < 31)
    (h : read (encode i content ++ rest) = .ok (element, rest)) : element = ⟨i, content⟩ := by
  have hsize : content.length < UInt64.size := by
    obtain ⟨_, length, body, hidentifier, hextent, hlength, -, hrest⟩ := read_eq_ok_iff.mp h
    have hheader : Header.read (encode i content ++ rest) =
        .ok (⟨element.identifier, length⟩, body) :=
      Header.read_eq_ok_iff.mpr ⟨_, hidentifier, hextent⟩
    rw [encode_append] at hheader
    have hbody : body.length = length + rest.length := by
      rw [hrest, List.length_drop]
      omega
    exact Header.length_lt_of_written hi hheader hbody
  have hread := read_encode hi hsize rest
  rw [h, Except.ok.injEq, Prod.mk.injEq] at hread
  exact hread.1

/-- In an input that is not too long, the end of what was written is found too. -/
theorem Element.eq_of_written_of_lt {after : Bytes} (hi : i.number < 31)
    (hsize : (encode i content ++ rest).length < UInt64.size)
    (h : read (encode i content ++ rest) = .ok (element, after)) :
    element = ⟨i, content⟩ ∧ after = rest := by
  have hcontent : content.length < UInt64.size := by
    rw [encode_append] at hsize
    simp only [List.length_append] at hsize
    omega
  rw [read_encode hi hcontent, Except.ok.injEq, Prod.mk.injEq] at h
  exact ⟨h.1.symm, h.2.symm⟩

end Written

section Universal

variable {constructed : Bool} {number : Nat} {content : Bytes}

theorem encodeUniversal_append (rest : Bytes) :
    encodeUniversal constructed number content ++ rest =
      identifierOctets ⟨.universal, constructed, number⟩ ++
        (lengthOctets content.length ++ (content ++ rest)) :=
  encode_append rest

theorem encodeSequence_append (rest : Bytes) :
    encodeSequence content ++ rest =
      0x30 :: (lengthOctets content.length ++ (content ++ rest)) :=
  encodeUniversal_append rest

theorem readContent_encodeUniversal (hnumber : number < 31) (hsize : content.length < UInt64.size)
    (rest : Bytes) :
    readContent number (encodeUniversal constructed number content ++ rest) =
      .ok (content, rest) :=
  readContent_eq_ok_iff.mpr ⟨_, Element.read_encode hnumber hsize rest, rfl, rfl⟩

end Universal

/-! ### Numbers -/

section Unsigned

variable {m : Bytes}

theorem encodeUnsigned_append (rest : Bytes) :
    encodeUnsigned m ++ rest =
      0x02 :: (lengthOctets (unsignedContent m).length ++ (unsignedContent m ++ rest)) :=
  encodeUniversal_append rest

theorem integerContentOk_unsignedContent (h : Shortest m) :
    integerContentOk (unsignedContent m) = true := by
  cases m with
  | nil => rfl
  | cons b bs =>
    rw [unsignedContent]
    split
    case isTrue hsign => simpa [integerContentOk] using hsign
    case isFalse =>
      have hb : b ≠ 0 := by simpa [Shortest] using h
      rw [integerContentOk.eq_def]
      split <;> simp_all

theorem isNegative_unsignedContent : isNegative (unsignedContent m) = false := by
  cases m with
  | nil => rfl
  | cons b bs =>
    rw [unsignedContent]
    split
    case isTrue => rfl
    case isFalse hsign => simpa [isNegative] using hsign

theorem dropZeros_unsignedContent (h : Shortest m) : Bytes.dropZeros (unsignedContent m) = m := by
  cases m with
  | nil => rfl
  | cons b bs =>
    rw [unsignedContent]
    split
    · exact Bytes.dropZeros_of_shortest h
    · exact Bytes.dropZeros_of_shortest h

/-- The content of a number in its shortest form is what is written for its magnitude. -/
theorem eq_unsignedContent_of_ok {content : Bytes} (hok : integerContentOk content = true)
    (hsign : isNegative content = false) :
    content = unsignedContent (Bytes.dropZeros content) := by
  cases content with
  | nil => cases hok
  | cons b bs =>
  by_cases hb : b = 0
  · subst hb
    cases bs with
    | nil => rfl
    | cons c cs =>
      have hc : 128 ≤ c := by simpa [integerContentOk] using hok
      have hshortest : Shortest (c :: cs) := by
        rintro ⟨⟩
        exact absurd hc (by decide)
      have hdrop : Bytes.dropZeros (0 :: c :: cs) = c :: cs := Bytes.dropZeros_of_shortest hshortest
      rw [hdrop, unsignedContent, if_pos hc]
  · have hshortest : Shortest (b :: bs) := by simpa [Shortest] using hb
    have hlow : ¬128 ≤ b := by simpa [isNegative] using hsign
    rw [Bytes.dropZeros_of_shortest hshortest, unsignedContent, if_neg hlow]

theorem length_unsignedContent_le (m : Bytes) :
    (unsignedContent m).length ≤ (encodeUnsigned m).length := by
  rw [encodeUnsigned, encodeUniversal, encode, List.length_append]
  exact Nat.le_add_left _ _

/-- A number of fewer than 127 bytes takes three bytes more. -/
theorem length_encodeUnsigned_le (h : m.length < 127) :
    (encodeUnsigned m).length ≤ m.length + 3 := by
  have hcontent : (unsignedContent m).length ≤ m.length + 1 := by
    cases m with
    | nil => rfl
    | cons b bs =>
      rw [unsignedContent]
      split <;> simp
  rw [← List.append_nil (encodeUnsigned m), encodeUnsigned_append, lengthOctets_of_lt (by omega)]
  simp only [List.length_cons, List.length_append, List.length_nil]
  omega

theorem readInteger_encodeUnsigned (h : Shortest m)
    (hsize : (unsignedContent m).length < UInt64.size) (rest : Bytes) :
    readInteger (encodeUnsigned m ++ rest) = .ok (unsignedContent m, rest) := by
  rw [readInteger, encodeUnsigned, readContent_encodeUniversal (by decide) hsize]
  simp [integerContentOk_unsignedContent h]

theorem magnitude_unsignedContent (h : Shortest m) : magnitude (unsignedContent m) = .ok m := by
  rw [magnitude, isNegative_unsignedContent, dropZeros_unsignedContent h]
  rfl

end Unsigned

end PackedAttestation.Der
