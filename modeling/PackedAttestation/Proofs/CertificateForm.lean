import PackedAttestation.Proofs.BasicVerification
import PackedAttestation.Proofs.ElementWriting

/-! # Certificates that are written back as presented

A certificate is kept as its body, an algorithm and the bits of its signature, and written
from these.  The body is kept byte for byte, but what stands around it is written in one form,
in whatever form it was presented: headers are as short as they can be, values other than
sequences and sets are in one piece, and their unused bits are zero.  So a certificate is
written back as presented exactly if it was presented in this form (`Certificate.toDer_eq_iff`).

The form is told from the inside out: that of a bit string, of a value of any type, of an
algorithm and of a certificate.
-/
namespace PackedAttestation

open Der
open Ber
open Certificate (Outline Algorithm)

/-! ### Bit strings -/

/-- Clearing the unused bits keeps a byte exactly if they are zero. -/
theorem and_mask_eq_self_iff {unused last : UInt8} (h : unused ≤ 7) :
    last &&& UInt8.ofNat (256 - (1 <<< unused.toNat)) = last ↔
      last.toNat % (1 <<< unused.toNat) = 0 := by
  have hall : ∀ u < 8, ∀ b < 256,
      UInt8.ofNat b &&& UInt8.ofNat (256 - (1 <<< u)) = UInt8.ofNat b ↔ b % (1 <<< u) = 0 := by
    decide +kernel
  have hunused : unused.toNat < 8 := Nat.lt_succ_of_le (UInt8.le_iff_toNat_le.mp h)
  have hlast := hall unused.toNat hunused last.toNat last.toNat_lt
  rwa [UInt8.ofNat_toNat] at hlast

theorem Ber.BitString.content_eq_iff {content : Bytes} {bits : BitString}
    (h : ofContent? content = some bits) :
    bits.content = content ↔ Outline.bitStringOk content = true := by
  cases content with
  | nil => cases h
  | cons unused bytes =>
    rw [ofContent?] at h
    split at h
    · rename_i hunused
      cases h
      obtain rfl | ⟨init, last, rfl⟩ := List.eq_nil_or_concat' bytes
      · simp only [BitString.content, Outline.bitStringOk, List.dropLast_nil, List.getLast?_nil,
          Option.map_none, Option.toList_none, List.append_nil, List.isEmpty_nil, ite_true,
          List.cons.injEq, and_true, beq_iff_eq]
        exact eq_comm
      · have hsmall : unused ≤ 8 := UInt8.le_trans hunused (by decide)
        simp [BitString.content, Outline.bitStringOk, hsmall, and_mask_eq_self_iff hunused]
    · cases h

/-! ### Values of any type -/

/-- The form in which a value is written: as presented if its type is one of those, or else in
one piece, under the shortest header, and with no unused bit set. -/
def Ber.Any.HasWrittenForm (bs : Bytes) : Prop :=
  ∃ element, Element.read bs = .ok (element, []) ∧
    (IsOpen element.identifier ∨
      element.identifier.constructed = false ∧
        bs = Der.encode element.identifier element.content ∧
        (element.identifier.number = Tag.bitString → Outline.bitStringOk element.content = true))

/-- The check of the content changes nothing but unused bits. -/
theorem Ber.Any.content?_eq_self_iff {number : Nat} {presented content : Bytes}
    (h : content? number presented = some content) :
    content = presented ↔ (number = Tag.bitString → Outline.bitStringOk presented = true) := by
  by_cases hnumber : number = Tag.bitString
  · subst hnumber
    obtain ⟨bits, hbits, rfl⟩ := Option.map_eq_some_iff.mp h
    rw [BitString.content_eq_iff hbits]
    exact ⟨fun hok _ => hok, fun hok => hok rfl⟩
  · exact iff_of_true (content?_of_ne_bitString h hnumber) fun heq => absurd heq hnumber

/-- A value that is not kept as presented is written in primitive form. -/
theorem Ber.Any.encode_value_eq_iff {bs presented content : Bytes} {element : Element}
    (hder : Element.read bs = .ok (element, [])) (hclosed : ¬IsOpen element.identifier)
    (hpresented : element.identifier.constructed = false → presented = element.content)
    (hcontent : content? element.identifier.number presented = some content) :
    (value element.identifier.number content).encode = bs ↔
      element.identifier.constructed = false ∧
        bs = Der.encode element.identifier element.content ∧
        (element.identifier.number = Tag.bitString →
          Outline.bitStringOk element.content = true) := by
  have hcls : element.identifier.cls = .universal := by
    simp only [IsOpen, not_or, ne_eq, Decidable.not_not] at hclosed
    exact hclosed.1
  rw [encode, encodeUniversal]
  constructor
  · intro hwritten
    have hread := hder
    rw [← hwritten, ← List.append_nil (Der.encode _ _)] at hread
    have hprimitive : element.identifier.constructed = false :=
      Element.constructed_of_written hread
    obtain rfl := hpresented hprimitive
    -- A tag number of several octets is not read back here, so only bit strings are: all other
    -- content is not changed in the first place.
    have hkept : content = element.content := by
      by_cases hnumber : element.identifier.number = Tag.bitString
      · have hsmall : element.identifier.number < 31 := by
          rw [hnumber]
          decide
        have heq := Element.eq_of_written
          (i := ⟨.universal, false, element.identifier.number⟩) hsmall hread
        rw [heq]
      · exact content?_of_ne_bitString hcontent hnumber
    refine ⟨hprimitive, ?_, (content?_eq_self_iff hcontent).mp hkept⟩
    rw [← hkept, identifier_eq hcls hprimitive rfl]
    exact hwritten.symm
  · rintro ⟨hprimitive, hwritten, hbits⟩
    obtain rfl := hpresented hprimitive
    rw [(content?_eq_self_iff hcontent).mpr hbits, ← identifier_eq hcls hprimitive rfl]
    exact hwritten.symm

/-- **A value is written back as presented exactly if it was presented as one is written.** -/
theorem Ber.Any.encode_eq_iff {bs : Bytes} {element : Element} {value : Any}
    (hder : Element.read bs = .ok (element, [])) (hber : read? bs = some (value, [])) :
    value.encode = bs ↔ HasWrittenForm bs := by
  obtain ⟨frame, hframe, h⟩ := Option.bind_eq_some_iff.mp hber
  have := frame_of_element hder hframe
  subst this
  by_cases hopen : IsOpen element.identifier
  · obtain ⟨rfl, -⟩ := ofFrame?_of_open hopen h
    exact iff_of_true List.take_length ⟨element, hder, .inl hopen⟩
  · obtain ⟨presented, content, hpresented, hcontent, rfl⟩ := ofFrame?_of_not_open hopen h
    rw [encode_value_eq_iff hder hopen (presented?_of_primitive · hpresented) hcontent]
    constructor
    · intro hform
      exact ⟨element, hder, .inr hform⟩
    · rintro ⟨element', hder', hform⟩
      rw [hder] at hder'
      cases hder'
      exact hform.resolve_left hopen

namespace Certificate

/-! ### Algorithms -/

/-- The form in which an algorithm is written: under the shortest headers, with parameters that
are written back as presented. -/
def Algorithm.HasWrittenForm (bs : Bytes) : Prop :=
  ∃ oid parameters,
    bs = encodeSequence (encodeUniversal false Tag.objectIdentifier oid ++ parameters) ∧
      (parameters = [] ∨ Any.HasWrittenForm parameters)

namespace Algorithm

/-- What is written for the parameters, if there are any. -/
def encodedParameters (algorithm : Algorithm) : Bytes :=
  (algorithm.parameters.map Any.encode).getD []

theorem encode_eq (algorithm : Algorithm) :
    algorithm.encode = encodeSequence
      (encodeUniversal false Tag.objectIdentifier algorithm.oid.content ++
        algorithm.encodedParameters) :=
  rfl

/-- What follows a written sequence follows the algorithm that is read from it. -/
theorem rest_of_sequence {content rest after : Bytes}
    (hsize : (encodeSequence content ++ rest).length < UInt64.size)
    (h : Outline.readAlgorithm (encodeSequence content ++ rest) = .ok after) : after = rest := by
  obtain ⟨_, _, _, hcontent, -, -⟩ := Outline.exists_of_readAlgorithm h
  obtain ⟨element, hread, -, -⟩ := readContent_eq_ok_iff.mp hcontent
  exact (Element.eq_of_written_of_lt (by decide) hsize hread).2

/-- Both readers find the same identifier and the same parameters. -/
theorem exists_parts {bs rest after : Bytes} {algorithm : Algorithm}
    (hder : Outline.readAlgorithm bs = .ok rest) (hber : read? bs = some (algorithm, after)) :
    after = rest ∧ ∃ content parameters,
      Element.read bs = .ok (⟨⟨.universal, true, Tag.sequence⟩, content⟩, rest) ∧
      Element.read content =
        .ok (⟨⟨.universal, false, Tag.objectIdentifier⟩, algorithm.oid.content⟩, parameters) ∧
      (algorithm.encodedParameters = parameters ↔
        parameters = [] ∨ Any.HasWrittenForm parameters) := by
  obtain ⟨content, element, parameters, hcontent, helement, hparameter⟩ :=
    Outline.exists_of_readAlgorithm hder
  obtain ⟨hsequence, hfields, hafter⟩ := fields?_of_readContent hcontent hber
  obtain ⟨⟨oid, parameters'⟩, hoid, hfields⟩ := Option.bind_eq_some_iff.mp hfields
  obtain ⟨hidentifier, hsame⟩ := objectIdentifier?_of_element helement hoid
  subst hidentifier hsame
  dsimp only at hfields
  split at hfields
  · cases hfields
    exact ⟨hafter, content, [], hsequence, helement, iff_of_true rfl (.inl rfl)⟩
  · rename_i hend
    have hne : parameters' ≠ [] := by
      rintro rfl
      exact hend rfl
    obtain ⟨⟨value, left⟩, hvalue, heq⟩ := Option.bind_eq_some_iff.mp hfields
    cases heq
    obtain ⟨parameter, left, hread⟩ := hparameter hne
    obtain rfl := Any.rest_of_read? hread hvalue
    refine ⟨hafter, content, parameters', hsequence, helement, ?_⟩
    rw [or_iff_right hne]
    exact Any.encode_eq_iff hread hvalue

/-- **An algorithm is written back as presented exactly if it was presented as one is written.** -/
theorem encode_append_eq_iff {bs rest after : Bytes} {algorithm : Algorithm}
    (hder : Outline.readAlgorithm bs = .ok rest) (hber : read? bs = some (algorithm, after)) :
    algorithm.encode ++ rest = bs ↔ ∃ written, bs = written ++ rest ∧ HasWrittenForm written := by
  obtain ⟨-, content, parameters, hsequence, hoid, hparameters⟩ := exists_parts hder hber
  have hsize : content.length < UInt64.size := Element.length_content_lt_of_read hsequence
  rw [encode_eq]
  constructor
  · rintro rfl
    obtain ⟨⟩ := Element.eq_of_written (by decide) hsequence
    obtain ⟨-, rfl⟩ := Element.eq_of_written_of_lt (by decide) hsize hoid
    exact ⟨_, rfl, _, _, rfl, hparameters.mp rfl⟩
  · rintro ⟨_, rfl, oid, written, rfl, hwritten⟩
    obtain ⟨⟩ := Element.eq_of_written (by decide) hsequence
    obtain ⟨hsame, rfl⟩ := Element.eq_of_written_of_lt (by decide) hsize hoid
    have hoid : algorithm.oid.content = oid := congrArg Element.content hsame
    rw [hoid, hparameters.mpr hwritten]

end Algorithm

/-! ### Signatures -/

/-- The outline asks for a primitive element whose unused bits are zero, so the bits of a
signature are kept as presented. -/
theorem bitString_of_outline {bs rest after : Bytes} {bits : BitString}
    (hder : Outline.bitString? bs = some rest) (hber : bitString? bs = some (bits, after)) :
    Element.read bs = .ok (⟨⟨.universal, false, Tag.bitString⟩, bits.content⟩, rest) ∧
      after = rest := by
  obtain ⟨⟨element, rest'⟩, helement, h⟩ := Option.bind_eq_some_iff.mp hder
  obtain ⟨hread, hprimitive⟩ := Outline.primitive?_eq_some_iff.mp helement
  obtain ⟨⟨-, hok⟩, heq⟩ := Option.ite_none_right_eq_some.mp h
  cases heq
  obtain ⟨hidentifier, hbits, hafter⟩ := bitString?_of_element hread hprimitive hber
  rw [(BitString.content_eq_iff hbits).mpr hok, ← hidentifier]
  exact ⟨hread, hafter⟩

/-! ### Certificates -/

/-- The form in which a certificate is written: under the shortest headers, except for the
body, which may be any element. -/
def HasWrittenForm (der : Bytes) : Prop :=
  ∃ content body algorithm signature,
    der = encodeSequence content ∧
      Element.read content =
        .ok (body, algorithm ++ encodeUniversal false Tag.bitString signature) ∧
      Algorithm.HasWrittenForm algorithm

/-- A certificate as it was presented: the content of its sequence, what follows the body, and
what follows the algorithm. -/
structure Presents (der content afterBody afterAlgorithm : Bytes) (certificate : Certificate) :
    Prop where
  sequence : Element.read der = .ok (⟨⟨.universal, true, Tag.sequence⟩, content⟩, [])
  body : ∃ element, Element.read content = .ok (element, afterBody)
  body_append : certificate.body ++ afterBody = content
  algorithm : Outline.readAlgorithm afterBody = .ok afterAlgorithm ∧
    Algorithm.read? afterBody = some (certificate.signatureAlgorithm, afterAlgorithm)
  signature : Element.read afterAlgorithm =
    .ok (⟨⟨.universal, false, Tag.bitString⟩, certificate.signature.content⟩, [])

/-- **Both readers cut a certificate in the same places.** Its body is kept byte for byte. -/
theorem Decodes.exists_presents {der : Bytes} {outline : Outline} {certificate : Certificate}
    (h : Decodes der outline certificate) :
    ∃ content afterBody afterAlgorithm,
      Presents der content afterBody afterAlgorithm certificate := by
  obtain ⟨houtline, hread⟩ := h
  -- The outline is walked first, and then the other reader is led along the same cuts.
  obtain ⟨content, afterBody, afterAlgorithm, left, hcontent, hbody, halgorithm, hsignature⟩ :=
    Outline.read_eq_ok_iff.mp houtline
  obtain ⟨bodyContent, hbodyContent⟩ := Outline.exists_of_readBody hbody
  obtain ⟨hsequence, hfields, -⟩ := fields?_of_readContent hcontent hread
  simp only [Option.bind_eq_bind, Option.bind_eq_some_iff, Prod.exists] at hfields
  obtain ⟨key, rest', hkey, algorithm, after, halgorithm', signature, after', hsignature', heq⟩ :=
    hfields
  obtain ⟨hbodySequence, -, rfl⟩ := fields?_of_readContent hbodyContent hkey
  obtain ⟨rfl, -⟩ := Algorithm.exists_parts halgorithm halgorithm'
  obtain ⟨hsignature, rfl⟩ := bitString_of_outline hsignature hsignature'
  cases heq
  have hsuffix : rest' <:+ content := by
    obtain ⟨b, tail, rfl, hsuffix⟩ := Element.suffix_of_read hbodySequence
    exact hsuffix.trans (List.suffix_cons b tail)
  exact ⟨content, rest', after, hsequence, ⟨_, hbodySequence⟩,
    List.suffix_iff_eq_append.mp hsuffix, ⟨halgorithm, halgorithm'⟩, hsignature⟩

namespace Presents

variable {der content afterBody afterAlgorithm : Bytes} {certificate : Certificate}

theorem length_afterBody_lt (h : Presents der content afterBody afterAlgorithm certificate) :
    afterBody.length < UInt64.size := by
  have hsize : content.length < UInt64.size := Element.length_content_lt_of_read h.sequence
  rw [← h.body_append, List.length_append] at hsize
  exact Nat.lt_of_add_left_lt hsize

/-- What is written is what was presented exactly if each part is. -/
theorem toDer_eq_iff (h : Presents der content afterBody afterAlgorithm certificate) :
    certificate.toDer = der ↔
      der = encodeSequence content ∧
      certificate.signatureAlgorithm.encode ++ afterAlgorithm = afterBody ∧
      afterAlgorithm = encodeUniversal false Tag.bitString certificate.signature.content := by
  have hsize := h.length_afterBody_lt
  rw [toDer, List.append_assoc]
  constructor
  · intro hder
    have hread := h.sequence
    rw [← hder, ← List.append_nil (encodeSequence _)] at hread
    have hcontent := congrArg Element.content (Element.eq_of_written (by decide) hread)
    have hafter := h.body_append.trans hcontent
    rw [List.append_cancel_left_eq] at hafter
    subst hafter
    obtain rfl := Algorithm.rest_of_sequence hsize h.algorithm.1
    exact ⟨hder.symm.trans (congrArg _ hcontent.symm), rfl, rfl⟩
  · rintro ⟨hder, halgorithm, hsignature⟩
    rw [← hsignature, halgorithm, h.body_append, hder]

end Presents

/-- **A certificate is written back as presented exactly if it was presented as one is written.** -/
theorem toDer_eq_iff {der : Bytes} {outline : Outline} {certificate : Certificate}
    (h : Decodes der outline certificate) :
    certificate.toDer = der ↔ HasWrittenForm der := by
  obtain ⟨content, afterBody, afterAlgorithm, hpresents⟩ := h.exists_presents
  obtain ⟨element, hbody⟩ := hpresents.body
  obtain ⟨halgorithm, halgorithm'⟩ := hpresents.algorithm
  rw [hpresents.toDer_eq_iff, Algorithm.encode_append_eq_iff halgorithm halgorithm']
  constructor
  · rintro ⟨hder, ⟨algorithm, rfl, hform⟩, rfl⟩
    exact ⟨content, element, algorithm, _, hder, hbody, hform⟩
  · rintro ⟨content', body, algorithm, signature, rfl, hbody', hform⟩
    have hsequence := hpresents.sequence
    rw [← List.append_nil (encodeSequence _)] at hsequence
    have hcontent : content = content' :=
      congrArg Element.content (Element.eq_of_written (by decide) hsequence)
    subst hcontent
    rw [hbody] at hbody'
    cases hbody'
    obtain rfl : afterAlgorithm = encodeUniversal false Tag.bitString signature := by
      obtain ⟨oid, parameters, rfl, -⟩ := hform
      exact Algorithm.rest_of_sequence hpresents.length_afterBody_lt halgorithm
    have hsignature := hpresents.signature
    rw [← List.append_nil (encodeUniversal _ _ _)] at hsignature
    have hbits : certificate.signature.content = signature :=
      congrArg Element.content (Element.eq_of_written (by decide) hsignature)
    exact ⟨rfl, ⟨algorithm, rfl, hform⟩, by rw [hbits]⟩

end Certificate
end PackedAttestation
