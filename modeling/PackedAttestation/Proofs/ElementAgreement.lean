import PackedAttestation.Ber.Value
import PackedAttestation.Proofs.HeaderAgreement

/-! # Two readers of one element

Where both readers read an element, they find the same content and the same end of it
(`frame_of_element`).  So the fields of a sequence are read from the same bytes
(`fields?_of_readContent`), and so are object identifiers, bit strings and values of any type.
-/
namespace PackedAttestation

open Der
open Ber

/-! ### Elements that both read -/

section Agreement

variable {bs rest after : Bytes} {element : Element}

/-- An element as the other reader finds it: its content is not yet cut off from the rest. -/
def Ber.Frame.ofElement (element : Element) (rest : Bytes) : Frame :=
  ⟨element.identifier, .definite element.content.length, element.content ++ rest⟩

@[simp] theorem Ber.Frame.identifier_ofElement :
    (Frame.ofElement element rest).identifier = element.identifier :=
  rfl

theorem frame_of_element {frame : Frame} (hder : Element.read bs = .ok (element, rest))
    (hber : Frame.read? bs = some frame) : frame = Frame.ofElement element rest := by
  obtain ⟨after, length, body, hidentifier, hextent, hlength, hcontent, rfl⟩ :=
    Element.read_eq_ok_iff.mp hder
  have hheader : Header.read bs = .ok (⟨element.identifier, length⟩, body) :=
    Header.read_eq_ok_iff.mpr ⟨after, hidentifier, hextent⟩
  rw [frame_of_header hheader hber, Frame.ofElement, hcontent, List.length_take,
    Nat.min_eq_left hlength, List.take_append_drop]

theorem isUniversal_ofElement_iff {number : Nat} :
    (Frame.ofElement element rest).isUniversal number = true ↔
      element.identifier.cls = .universal ∧ element.identifier.number = number := by
  simp [Frame.isUniversal, Frame.ofElement]

theorem within?_ofElement_eq_some_iff {α : Type} {f : Bytes → Option (α × Bytes)} {a : α} :
    (Frame.ofElement element rest).within? f = some (a, after) ↔
      f element.content = some (a, []) ∧ after = rest := by
  simp only [Frame.within?, Frame.ofElement, List.take_left, List.drop_left]
  split
  · rename_i h
    simp [h, eq_comm]
  · rename_i hother
    constructor
    · rintro ⟨⟩
    · rintro ⟨h, -⟩
      exact absurd h (hother a)

theorem primitive?_ofElement_eq_some_iff {content : Bytes} :
    (Frame.ofElement element rest).primitive? = some (content, after) ↔
      element.identifier.constructed = false ∧ content = element.content ∧ after = rest := by
  simp only [Frame.primitive?, Frame.ofElement, List.take_left, List.drop_left]
  cases element.identifier.constructed <;> simp [eq_comm]

/-- A string in one piece. -/
theorem string?_ofElement (h : element.identifier.constructed = false) :
    string? (Frame.ofElement element rest) = some (element.content, rest) := by
  rw [string?, pieces?, Frame.identifier_ofElement, h, if_neg Bool.false_ne_true]
  exact primitive?_ofElement_eq_some_iff.mpr ⟨h, rfl, rfl⟩

/-- The pieces of a string that is split fill its element. -/
theorem rest_of_string? {content : Bytes}
    (h : string? (Frame.ofElement element rest) = some (content, after)) : after = rest := by
  rw [string?, pieces?] at h
  split at h
  · obtain ⟨⟨contents, after'⟩, hwithin, heq⟩ := Option.bind_eq_some_iff.mp h
    cases heq
    exact (within?_ofElement_eq_some_iff.mp hwithin).2
  · exact (primitive?_ofElement_eq_some_iff.mp h).2.2

theorem skip?_ofElement : (Frame.ofElement element rest).skip? = some rest := by
  simp [Frame.skip?, Frame.ofElement]

theorem identifier_eq {i : Identifier} {constructed : Bool} {number : Nat}
    (hcls : i.cls = .universal) (hconstructed : i.constructed = constructed)
    (hnumber : i.number = number) : i = ⟨.universal, constructed, number⟩ := by
  obtain ⟨_, _, _⟩ := i
  subst hcls hconstructed hnumber
  rfl

theorem fields?_of_element {α : Type} {f : Bytes → Option (α × Bytes)} {a : α}
    (hder : Element.read bs = .ok (element, rest)) (hber : fields? f bs = some (a, after)) :
    element.identifier = ⟨.universal, true, Tag.sequence⟩ ∧
      f element.content = some (a, []) ∧ after = rest := by
  obtain ⟨frame, hframe, h⟩ := Option.bind_eq_some_iff.mp hber
  have := frame_of_element hder hframe
  subst this
  split at h
  · rename_i hidentifier
    obtain ⟨huniversal, hconstructed⟩ := hidentifier
    obtain ⟨hcls, hnumber⟩ := isUniversal_ofElement_iff.mp huniversal
    exact ⟨identifier_eq hcls hconstructed hnumber, within?_ofElement_eq_some_iff.mp h⟩
  · cases h

/-- **Both readers find one sequence.** The fields are read from its content and have to use it
up, and what follows it is the same. -/
theorem fields?_of_readContent {α : Type} {f : Bytes → Option (α × Bytes)} {a : α} {number : Nat}
    {content : Bytes} (hder : readContent number bs = .ok (content, rest))
    (hber : fields? f bs = some (a, after)) :
    Element.read bs = .ok (⟨⟨.universal, true, Tag.sequence⟩, content⟩, rest) ∧
      f content = some (a, []) ∧ after = rest := by
  obtain ⟨element, hread, -, rfl⟩ := readContent_eq_ok_iff.mp hder
  obtain ⟨hidentifier, hfields⟩ := fields?_of_element hread hber
  rw [← hidentifier]
  exact ⟨hread, hfields⟩

/-! ### Values that both read -/

/-- Only the content of a bit string is changed by the check. -/
theorem Ber.Any.content?_of_ne_bitString {number : Nat} {presented content : Bytes}
    (h : content? number presented = some content) (hnumber : number ≠ Tag.bitString) :
    content = presented := by
  grind [Any.content?]

/-- The types whose values are kept as presented. -/
def Ber.Any.IsOpen (i : Identifier) : Prop :=
  i.cls ≠ .universal ∨ i.number = Tag.sequence ∨ i.number = Tag.set

theorem Ber.Any.ofFrame?_of_open {value : Any} (hopen : IsOpen element.identifier)
    (h : ofFrame? bs (Frame.ofElement element rest) = some (value, after)) :
    value = .asPresented (bs.take (bs.length - rest.length)) ∧ after = rest := by
  simp only [ofFrame?, skip?_ofElement, Frame.identifier_ofElement, Option.pure_def,
    Option.bind_eq_bind, Option.bind_some] at h
  split at h
  · cases h
    exact ⟨rfl, rfl⟩
  rename_i huniversal
  rw [if_pos (hopen.resolve_left huniversal)] at h
  split at h
  · cases h
    exact ⟨rfl, rfl⟩
  · cases h

/-- The content of a value of another type, before it is checked. -/
def Ber.Any.presented? (frame : Frame) : Option (Bytes × Bytes) :=
  if alwaysPrimitive frame.identifier.number then frame.primitive? else string? frame

theorem Ber.Any.presented?_of_primitive {presented : Bytes}
    (hprimitive : element.identifier.constructed = false)
    (h : presented? (Frame.ofElement element rest) = some (presented, after)) :
    presented = element.content := by
  rw [presented?] at h
  split at h
  · exact (primitive?_ofElement_eq_some_iff.mp h).2.1
  · rw [string?_ofElement hprimitive] at h
    cases h
    rfl

theorem Ber.Any.rest_of_presented? {presented : Bytes}
    (h : presented? (Frame.ofElement element rest) = some (presented, after)) : after = rest := by
  rw [presented?] at h
  split at h
  · exact (primitive?_ofElement_eq_some_iff.mp h).2.2
  · exact rest_of_string? h

theorem Ber.Any.ofFrame?_of_not_open {value : Any} (hclosed : ¬IsOpen element.identifier)
    (h : ofFrame? bs (Frame.ofElement element rest) = some (value, after)) :
    ∃ presented content, presented? (Frame.ofElement element rest) = some (presented, after) ∧
      Any.content? element.identifier.number presented = some content ∧
      value = .value element.identifier.number content := by
  simp only [IsOpen, not_or, ne_eq, Decidable.not_not] at hclosed
  obtain ⟨hcls, hsequence, hset⟩ := hclosed
  by_cases halways : alwaysPrimitive element.identifier.number
  all_goals
    simp only [ofFrame?, presented?, Frame.identifier_ofElement, hcls, hsequence, hset, halways,
      ne_eq, not_true_eq_false, or_self, ite_true, ite_false, Bool.false_eq_true, Option.pure_def,
      Option.bind_eq_bind, Option.bind_eq_some_iff] at h ⊢
    obtain ⟨⟨presented, after'⟩, hpresented, content, hcontent, heq⟩ := h
    cases heq
    exact ⟨presented, content, hpresented, hcontent, rfl⟩

/-- Both readers find the same end of a value. -/
theorem Ber.Any.rest_of_read? {value : Any} (hder : Element.read bs = .ok (element, rest))
    (hber : read? bs = some (value, after)) : after = rest := by
  obtain ⟨frame, hframe, h⟩ := Option.bind_eq_some_iff.mp hber
  have := frame_of_element hder hframe
  subst this
  by_cases hopen : IsOpen element.identifier
  · exact (ofFrame?_of_open hopen h).2
  · obtain ⟨_, _, hpresented, -, -⟩ := ofFrame?_of_not_open hopen h
    exact rest_of_presented? hpresented

theorem objectIdentifier?_of_element {oid : Oid} (hder : Element.read bs = .ok (element, rest))
    (hber : objectIdentifier? bs = some (oid, after)) :
    element = ⟨⟨.universal, false, Tag.objectIdentifier⟩, oid.content⟩ ∧ after = rest := by
  obtain ⟨⟨content, after'⟩, hcontent, heq⟩ := Option.map_eq_some_iff.mp hber
  cases heq
  obtain ⟨frame, hframe, h⟩ := Option.bind_eq_some_iff.mp hcontent
  have := frame_of_element hder hframe
  subst this
  split at h
  · rename_i huniversal
    obtain ⟨hcls, hnumber⟩ := isUniversal_ofElement_iff.mp huniversal
    obtain ⟨⟨value, after''⟩, hvalue, h⟩ := Option.bind_eq_some_iff.mp h
    have hclosed : ¬Any.IsOpen element.identifier := by
      rw [Any.IsOpen, hcls, hnumber]
      decide
    obtain ⟨presented, content', hpresented, hcontent', rfl⟩ :=
      Any.ofFrame?_of_not_open hclosed hvalue
    cases h
    rw [hnumber] at hcontent'
    rw [Any.presented?, Frame.identifier_ofElement, hnumber] at hpresented
    obtain ⟨hprimitive, rfl, rfl⟩ := primitive?_ofElement_eq_some_iff.mp hpresented
    rw [Any.content?_of_ne_bitString hcontent' (by decide),
      ← identifier_eq hcls hprimitive hnumber]
    exact ⟨rfl, rfl⟩
  · cases h

theorem bitString?_of_element {bits : BitString} (hder : Element.read bs = .ok (element, rest))
    (hprimitive : element.identifier.constructed = false)
    (hber : bitString? bs = some (bits, after)) :
    element.identifier = ⟨.universal, false, Tag.bitString⟩ ∧
      BitString.ofContent? element.content = some bits ∧ after = rest := by
  obtain ⟨frame, hframe, h⟩ := Option.bind_eq_some_iff.mp hber
  have := frame_of_element hder hframe
  subst this
  split at h
  · rename_i huniversal
    obtain ⟨hcls, hnumber⟩ := isUniversal_ofElement_iff.mp huniversal
    rw [bitStringOf?, string?_ofElement hprimitive] at h
    simp only [Option.pure_def, Option.bind_eq_bind, Option.bind_some,
      Option.bind_eq_some_iff] at h
    obtain ⟨bits', hbits, heq⟩ := h
    cases heq
    exact ⟨identifier_eq hcls hprimitive hnumber, hbits, rfl⟩
  · cases h

end Agreement

end PackedAttestation
