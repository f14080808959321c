import PackedAttestation.Proofs.SignatureEncoding

/-! # The distinguished encoding of a signature

The distinguished encoding leaves one way to write a signature.  `IsEncoding` says which, rule
by rule, without a writer, and `encode` writes it (`Signature.isEncoding_iff`).  Reading undoes
this for numbers of any size (`Signature.encode_roundTrip`): the sign byte, and the length
octets at the three places where there are some.
-/
namespace PackedAttestation

open Bytes (Shortest)

namespace Der

/-- The length octets of content of `n` bytes: the length itself below 128, and else the count
of the bytes of the length, with the top bit set, followed by these bytes. -/
def IsLength (n : Nat) (octets : Bytes) : Prop :=
  n < 128 ∧ octets = [UInt8.ofNat n] ∨
    128 ≤ n ∧ ∃ digits, Shortest digits ∧ Bytes.toNat digits = n ∧
      octets = UInt8.ofNat (128 + digits.length) :: digits

/-- An element with the identifier octet `lead`. -/
def IsElement (lead : UInt8) (content bs : Bytes) : Prop :=
  ∃ octets, IsLength content.length octets ∧ bs = lead :: (octets ++ content)

/-- A number that would be read as no number, or as a negative one, if it stood alone. -/
def NeedsSignByte (m : Bytes) : Prop :=
  m = [] ∨ ∃ b ∈ m.head?, 128 ≤ b

/-- The content of an INTEGER with the magnitude `m`. -/
def IsUnsignedContent (m content : Bytes) : Prop :=
  NeedsSignByte m ∧ content = 0 :: m ∨ ¬NeedsSignByte m ∧ content = m

/-- An INTEGER with the magnitude `m`. -/
def IsUnsigned (m bs : Bytes) : Prop :=
  ∃ content, IsUnsignedContent m content ∧ IsElement 0x02 content bs

theorem isLength_iff {n : Nat} {octets : Bytes} : IsLength n octets ↔ octets = lengthOctets n := by
  constructor
  · rintro (⟨hlt, rfl⟩ | ⟨hle, digits, hshortest, rfl, rfl⟩)
    · exact (lengthOctets_of_lt hlt).symm
    · rw [lengthOctets_of_le hle, Bytes.ofNat_toNat hshortest]
  · rintro rfl
    rcases Nat.lt_or_ge n 128 with hlt | hle
    · exact .inl ⟨hlt, lengthOctets_of_lt hlt⟩
    · exact .inr ⟨hle, Bytes.ofNat n, Bytes.shortest_ofNat n, Bytes.toNat_ofNat n,
        lengthOctets_of_le hle⟩

theorem isElement_iff {constructed : Bool} {number : Nat} {lead : UInt8} {content bs : Bytes}
    (hlead : identifierOctets ⟨.universal, constructed, number⟩ = [lead]) :
    IsElement lead content bs ↔ bs = encodeUniversal constructed number content := by
  simp [IsElement, isLength_iff, encodeUniversal, encode, hlead]

theorem isUnsignedContent_iff {m content : Bytes} :
    IsUnsignedContent m content ↔ content = unsignedContent m := by
  cases m with
  | nil => simp [IsUnsignedContent, NeedsSignByte, unsignedContent]
  | cons b bs =>
    have hneeds : NeedsSignByte (b :: bs) ↔ 128 ≤ b := by simp [NeedsSignByte]
    rw [IsUnsignedContent, hneeds, unsignedContent]
    split
    case isTrue hsign => simp [hsign]
    case isFalse hsign => simp [hsign]

theorem isUnsigned_iff {m bs : Bytes} : IsUnsigned m bs ↔ bs = encodeUnsigned m := by
  have hinteger : identifierOctets ⟨.universal, false, Tag.integer⟩ = [0x02] := rfl
  simp [IsUnsigned, isUnsignedContent_iff, isElement_iff hinteger, encodeUnsigned]

end Der

namespace Ecdsa.Signature

open Der

variable {signature : Signature}

/-- A SEQUENCE of the two numbers of a signature, each an INTEGER. -/
def IsEncoding (signature : Signature) (bs : Bytes) : Prop :=
  ∃ r s, IsUnsigned signature.r r ∧ IsUnsigned signature.s s ∧ IsElement 0x30 (r ++ s) bs

/-- **There is one way to write a signature.** -/
theorem isEncoding_iff {bs : Bytes} : signature.IsEncoding bs ↔ bs = signature.encode := by
  have hsequence : identifierOctets ⟨.universal, true, Tag.sequence⟩ = [0x30] := rfl
  simp [IsEncoding, isUnsigned_iff, isElement_iff hsequence, encode, encodeSequence]

theorem length_content_lt_encode : signature.content.length < signature.encode.length := by
  have hencode : encodeSequence signature.content ++ [] = _ := encodeSequence_append []
  rw [List.append_nil, List.append_nil] at hencode
  rw [encode_eq, hencode, List.length_cons, List.length_append]
  exact Nat.lt_succ_of_le (Nat.le_add_left _ _)

/-- **Reading undoes writing.** Let `r` and `s` have no zero byte in front, where no byte at all
stands for zero. What is written for them is the one distinguished encoding of the pair, and as
long as it has fewer than `2 ^ 32` bytes it is read as exactly `r` and `s`. -/
theorem encode_roundTrip {r s : Bytes} (hr : Shortest r) (hs : Shortest s)
    (hlength : (encode ⟨r, s⟩).length < 2 ^ 32) :
    (∀ bs, IsEncoding ⟨r, s⟩ bs ↔ bs = encode ⟨r, s⟩) ∧ ofDer (encode ⟨r, s⟩) = .ok ⟨r, s⟩ := by
  have hsize : (content ⟨r, s⟩).length < UInt64.size :=
    calc (content ⟨r, s⟩).length
        < (encode ⟨r, s⟩).length := length_content_lt_encode
      _ < 2 ^ 32 := hlength
      _ < UInt64.size := by decide
  exact ⟨fun bs => isEncoding_iff, ofDer_encode ⟨hr, hs⟩ hsize⟩

/-- A number of 1600 bits, all of them ones, and zero: both need the sign byte, and the first
one has its length in two octets. -/
theorem encode_roundTrip_long :
    Shortest (List.replicate 200 255) ∧ Shortest [] ∧
      (encode ⟨List.replicate 200 255, []⟩).length < 2 ^ 32 ∧
      (∀ bs, IsEncoding ⟨List.replicate 200 255, []⟩ bs ↔
        bs = encode ⟨List.replicate 200 255, []⟩) ∧
      ofDer (encode ⟨List.replicate 200 255, []⟩) = .ok ⟨List.replicate 200 255, []⟩ := by
  have hr : Shortest (List.replicate 200 255) := by simp [Shortest]
  have hs : Shortest [] := by simp [Shortest]
  have hlength : (encode ⟨List.replicate 200 255, []⟩).length < 2 ^ 32 := by
    decide +kernel
  exact ⟨hr, hs, hlength, encode_roundTrip hr hs hlength⟩

end Ecdsa.Signature
end PackedAttestation
