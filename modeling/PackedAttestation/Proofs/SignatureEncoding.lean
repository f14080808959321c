import PackedAttestation.Ecdsa
import PackedAttestation.Proofs.ElementWriting
import PackedAttestation.Proofs.SelfVerification

/-! # Two readers of signatures

A signature is written in one form.  The lenient reader reads it back from this form as long
as its length fits 64 bits (`Signature.ofDer_encode`), and no longer one
(`Signature.length_content_lt_of_ofDer`).  The strict reader reads nothing but this form
(`Signature.eq_encode_of_readStrict?`), and reads it back up to the largest length with two
octets (`Signature.readStrict?_encode`).
-/
namespace PackedAttestation

open Der
open Bytes (Shortest)

namespace Ecdsa

namespace Signature

variable {signature : Signature}

/-- Neither number has a zero byte in front. -/
def IsShortest (signature : Signature) : Prop :=
  Shortest signature.r ∧ Shortest signature.s

/-- The content of the sequence that is written for a signature. -/
def content (signature : Signature) : Bytes :=
  encodeUnsigned signature.r ++ encodeUnsigned signature.s

theorem length_unsignedContent_lt {k : Nat} (h : signature.content.length < k) :
    (unsignedContent signature.r).length < k ∧ (unsignedContent signature.s).length < k := by
  rw [content, List.length_append] at h
  exact ⟨Nat.lt_of_le_of_lt (length_unsignedContent_le _) (Nat.lt_of_add_right_lt h),
    Nat.lt_of_le_of_lt (length_unsignedContent_le _) (Nat.lt_of_add_left_lt h)⟩

theorem encode_eq : signature.encode = encodeSequence signature.content := rfl

/-! ### The lenient reader -/

theorem ofContent_content (h : signature.IsShortest)
    (hsize : signature.content.length < UInt64.size) :
    ofContent signature.content = .ok signature := by
  obtain ⟨hr, hs⟩ := length_unsignedContent_lt hsize
  have hread := readInteger_encodeUnsigned h.2 hs []
  rw [List.append_nil] at hread
  simp [ofContent, content, readInteger_encodeUnsigned h.1 hr, hread,
    magnitude_unsignedContent h.1, magnitude_unsignedContent h.2]

theorem encode_append (rest : Bytes) :
    signature.encode ++ rest = identifierOctets ⟨.universal, true, Tag.sequence⟩ ++
      (lengthOctets signature.content.length ++ (signature.content ++ rest)) :=
  encodeUniversal_append rest

theorem read_encode (h : signature.IsShortest)
    (hsize : signature.content.length < UInt64.size) (rest : Bytes) :
    read (signature.encode ++ rest) = .ok (signature, rest) := by
  rw [encode_append, read, Header.read_written (by decide) hsize]
  simp [ofContent_content h hsize]

/-- **The lenient reader reads back what was written.** -/
theorem ofDer_encode (h : signature.IsShortest)
    (hsize : signature.content.length < UInt64.size) : ofDer signature.encode = .ok signature := by
  have hread := read_encode h hsize []
  rw [List.append_nil] at hread
  exact ofDer_eq_ok_iff.mpr hread

/-- What fills its input has a header, and its length is that of what follows the header. -/
theorem exists_header_of_ofDer {bs : Bytes} (h : ofDer bs = .ok signature) :
    ∃ header rest, Header.read bs = .ok (header, rest) ∧ rest.length = header.length := by
  rw [ofDer_eq_ok_iff, read] at h
  split at h
  · cases h
  rename_i header rest hheader
  split at h
  · cases h
  rename_i hle
  split at h
  · cases h
  split at h
  · cases h
  rw [Except.ok.injEq, Prod.mk.injEq, List.drop_eq_nil_iff] at h
  exact ⟨header, rest, hheader, Nat.le_antisymm h.2 (Nat.le_of_not_lt hle)⟩

/-- It reads nothing that was written with a length of more than 64 bits. -/
theorem length_content_lt_of_ofDer {signature' : Signature}
    (h : ofDer signature.encode = .ok signature') :
    signature.content.length < UInt64.size := by
  obtain ⟨header, rest, hheader, hlength⟩ := exists_header_of_ofDer h
  rw [← List.append_nil signature.encode, encode_append] at hheader
  exact Header.length_lt_of_written (by decide) hheader hlength

/-! ### The strict reader -/

theorem readStrictLength?_lengthOctets {n : Nat} (h : n < 256 ^ 2) (rest : Bytes) :
    readStrictLength? (lengthOctets n ++ rest) = some (n, rest) := by
  by_cases hshort : n < 128
  · rw [lengthOctets_of_lt hshort, List.singleton_append, readStrictLength?,
      if_pos (lengthOctet_lt hshort), toNat_lengthOctet hshort]
  · have hfew : (Bytes.ofNat n).length ≤ 2 := Bytes.length_ofNat_le h
    have hcount : (Bytes.ofNat n).length < 128 := Nat.lt_of_le_of_lt hfew (by decide)
    rw [lengthOctets_of_le (Nat.le_of_not_lt hshort), List.cons_append, readStrictLength?,
      if_neg (countOctet_not_lt hcount)]
    simp only [toNat_countOctet hcount, Nat.add_sub_cancel_left, List.take_left, List.drop_left,
      Bytes.toNat_ofNat]
    rw [if_pos ⟨hfew, trivial, Nat.le_of_not_lt hshort, Bytes.shortest_ofNat n⟩]

theorem eq_lengthOctets_of_readStrictLength? {bs rest : Bytes} {n : Nat}
    (h : readStrictLength? bs = some (n, rest)) : bs = lengthOctets n ++ rest := by
  cases bs with
  | nil => cases h
  | cons b bs =>
    simp only [readStrictLength?] at h
    split at h
    · rename_i hlow
      cases h
      have hb : b.toNat < 128 := UInt8.lt_iff_toNat_lt.mp hlow
      rw [lengthOctets_of_lt hb, UInt8.ofNat_toNat, List.singleton_append]
    rename_i hlong
    split at h
    · rename_i hform
      obtain ⟨-, hcount, hmin, hshortest⟩ := hform
      rw [Option.some.injEq, Prod.mk.injEq] at h
      obtain ⟨rfl, rfl⟩ := h
      have hb : 128 + (b.toNat - 128) = b.toNat := by
        rw [UInt8.lt_iff_toNat_lt] at hlong
        exact Nat.add_sub_cancel' (Nat.le_of_not_lt hlong)
      rw [lengthOctets_of_le hmin, Bytes.ofNat_toNat hshortest, hcount, hb,
        UInt8.ofNat_toNat, List.cons_append, List.take_append_drop]
    · cases h

theorem readStrictContent?_written {lead : UInt8} {content : Bytes}
    (h : content.length < 256 ^ 2) (rest : Bytes) :
    readStrictContent? lead (lead :: (lengthOctets content.length ++ (content ++ rest))) =
      some (content, rest) := by
  simp [readStrictContent?, readStrictLength?_lengthOctets h]

theorem eq_written_of_readStrictContent? {lead : UInt8} {bs content rest : Bytes}
    (h : readStrictContent? lead bs = some (content, rest)) :
    bs = lead :: (lengthOctets content.length ++ (content ++ rest)) := by
  cases bs with
  | nil => cases h
  | cons b bs =>
    rw [readStrictContent?] at h
    split at h
    · cases h
    rename_i hlead
    rw [Decidable.not_not] at hlead
    subst hlead
    obtain ⟨⟨length, after⟩, hlength, h⟩ := Option.bind_eq_some_iff.mp h
    rw [eq_lengthOctets_of_readStrictLength? hlength]
    dsimp only at h
    split at h
    · rename_i hle
      cases h
      rw [List.length_take, Nat.min_eq_left hle, List.take_append_drop]
    · cases h

theorem strictMagnitude?_eq_some_iff {content m : Bytes} :
    strictMagnitude? content = some m ↔ Shortest m ∧ content = unsignedContent m := by
  rw [strictMagnitude?]
  constructor
  · intro h
    split at h
    · rename_i hok
      rw [Bool.and_eq_true, Bool.not_eq_true'] at hok
      cases h
      exact ⟨Bytes.shortest_dropZeros content, eq_unsignedContent_of_ok hok.1 hok.2⟩
    · cases h
  · rintro ⟨h, rfl⟩
    simp [integerContentOk_unsignedContent h, isNegative_unsignedContent,
      dropZeros_unsignedContent h]

/-- **The strict reader reads only what was written.** -/
theorem eq_encode_of_readStrict? {bs : Bytes} (h : readStrict? bs = some signature) :
    signature.IsShortest ∧ bs = signature.encode := by
  obtain ⟨⟨body, rest⟩, hbody, h⟩ := Option.bind_eq_some_iff.mp h
  dsimp only at h
  split at h
  · cases h
  rename_i hrest
  rw [Decidable.not_not] at hrest
  subst hrest
  obtain ⟨⟨rContent, after⟩, hr, h⟩ := Option.bind_eq_some_iff.mp h
  obtain ⟨⟨sContent, rest⟩, hs, h⟩ := Option.bind_eq_some_iff.mp h
  dsimp only at hs h
  split at h
  · cases h
  rename_i hrest
  rw [Decidable.not_not] at hrest
  subst hrest
  obtain ⟨r, hr', h⟩ := Option.bind_eq_some_iff.mp h
  obtain ⟨s, hs', h⟩ := Option.bind_eq_some_iff.mp h
  cases h
  obtain ⟨hrShortest, rfl⟩ := strictMagnitude?_eq_some_iff.mp hr'
  obtain ⟨hsShortest, rfl⟩ := strictMagnitude?_eq_some_iff.mp hs'
  refine ⟨⟨hrShortest, hsShortest⟩, ?_⟩
  have hbytes := eq_written_of_readStrictContent? hbody
  have hrBytes := eq_written_of_readStrictContent? hr
  have hsBytes := eq_written_of_readStrictContent? hs
  rw [← encodeUnsigned_append, List.append_nil] at hsBytes
  rw [← encodeUnsigned_append, hsBytes] at hrBytes
  rw [← encodeSequence_append, List.append_nil, hrBytes] at hbytes
  exact hbytes

/-- It reads back what was written, if the length takes two further octets at most. -/
theorem readStrict?_encode (h : signature.IsShortest)
    (hsize : signature.content.length < 256 ^ 2) :
    readStrict? signature.encode = some signature := by
  obtain ⟨hr, hs⟩ := length_unsignedContent_lt hsize
  have hbody : readStrictContent? 0x30 signature.encode = some (signature.content, []) := by
    rw [encode_eq, ← List.append_nil (encodeSequence _), encodeSequence_append]
    exact readStrictContent?_written hsize []
  have hrRead : readStrictContent? 0x02 signature.content =
      some (unsignedContent signature.r, encodeUnsigned signature.s) := by
    rw [content, encodeUnsigned_append]
    exact readStrictContent?_written hr _
  have hsRead : readStrictContent? 0x02 (encodeUnsigned signature.s) =
      some (unsignedContent signature.s, []) := by
    rw [← List.append_nil (encodeUnsigned signature.s), encodeUnsigned_append]
    exact readStrictContent?_written hs []
  have hrMagnitude := strictMagnitude?_eq_some_iff.mpr ⟨h.1, rfl⟩
  have hsMagnitude := strictMagnitude?_eq_some_iff.mpr ⟨h.2, rfl⟩
  simp [readStrict?, hbody, hrRead, hsRead, hrMagnitude, hsMagnitude]

end Signature
end Ecdsa
end PackedAttestation
