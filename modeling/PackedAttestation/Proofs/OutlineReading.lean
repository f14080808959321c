import PackedAttestation.Certificate.Outline
import PackedAttestation.Proofs.ElementReading

/-! # Reading the outline of a certificate

A reader of the outline succeeds exactly if the reader of elements under it does, and only the
fault it fails with is its own (`Outline.readElement_eq_ok_iff`,
`Outline.readSequence_eq_ok_iff`).  So a certificate reads exactly if its parts do, one after the
other, and it ends where its outermost sequence does (`Outline.read_eq_ok_iff`).
-/
namespace PackedAttestation

open Der

theorem toOption_eq_some_iff {ε α : Type} {x : Except ε α} {a : α} :
    x.toOption = some a ↔ x = .ok a := by
  cases x <;> simp [Except.toOption]

/-- Two steps succeed exactly if the first does, and then the second. -/
theorem bind_eq_ok_iff {ε α β : Type} {x : Except ε α} {f : α → Except ε β} {b : β} :
    x >>= f = .ok b ↔ ∃ a, x = .ok a ∧ f a = .ok b := by
  cases x <;> simp [bind, Except.bind]

namespace Certificate.Outline

variable {bs rest : Bytes} {element : Element} {fault : OutlineFault}

/-! ### Elements -/

theorem orFault_eq_ok_iff {ε α : Type} {x : Except ε α} {a : α} :
    orFault fault x = .ok a ↔ x = .ok a := by
  cases x <;> simp [orFault]

theorem orMalformed_eq_ok_iff {α : Type} {x : Option α} {a : α} :
    orMalformed x = .ok a ↔ x = some a := by
  cases x <;> simp [orMalformed]

theorem readElement_eq_ok_iff :
    readElement bs = .ok (element, rest) ↔ Element.read bs = .ok (element, rest) :=
  orFault_eq_ok_iff

theorem readSequence_eq_ok_iff {content : Bytes} :
    readSequence bs = .ok (content, rest) ↔ readContent Tag.sequence bs = .ok (content, rest) :=
  orFault_eq_ok_iff

theorem element?_eq_some_iff :
    element? bs = some (element, rest) ↔ Element.read bs = .ok (element, rest) :=
  toOption_eq_some_iff

theorem primitive?_eq_some_iff :
    primitive? bs = some (element, rest) ↔
      Element.read bs = .ok (element, rest) ∧ element.identifier.constructed = false := by
  simp only [primitive?, Option.bind_eq_bind, Option.bind_eq_some_iff, Prod.exists,
    element?_eq_some_iff, Option.ite_none_left_eq_some, Option.some.injEq, Prod.mk.injEq,
    Bool.not_eq_true]
  constructor
  · rintro ⟨_, _, hread, hprimitive, rfl, rfl⟩
    exact ⟨hread, hprimitive⟩
  · rintro ⟨hread, hprimitive⟩
    exact ⟨element, rest, hread, hprimitive, rfl, rfl⟩

/-! ### Fields -/

/-- An algorithm is a sequence of an identifier and, perhaps, parameters. -/
theorem exists_of_readAlgorithm (h : readAlgorithm bs = .ok rest) :
    ∃ content element parameters, readContent Tag.sequence bs = .ok (content, rest) ∧
      Element.read content = .ok (element, parameters) ∧
      (parameters ≠ [] →
        ∃ parameter after, Element.read parameters = .ok (parameter, after)) := by
  obtain ⟨⟨content, rest'⟩, hcontent, h⟩ := bind_eq_ok_iff.mp h
  obtain ⟨⟨element, parameters⟩, helement, h⟩ := bind_eq_ok_iff.mp h
  rw [orFault_eq_ok_iff] at hcontent
  rw [readElement_eq_ok_iff] at helement
  dsimp only at h
  split at h
  · cases h
  split at h
  · rename_i hempty
    cases h
    exact ⟨content, element, parameters, hcontent, helement,
      fun hne => absurd (List.isEmpty_iff.mp hempty) hne⟩
  · obtain ⟨⟨parameter, after⟩, hparameter, heq⟩ := bind_eq_ok_iff.mp h
    cases heq
    exact ⟨content, element, parameters, hcontent, helement,
      fun _ => ⟨parameter, after, readElement_eq_ok_iff.mp hparameter⟩⟩

/-- The body of a certificate is a sequence, whatever its fields are. -/
theorem exists_of_readBody {outline : Outline} (h : readBody bs = .ok (outline, rest)) :
    ∃ content, readContent Tag.sequence bs = .ok (content, rest) := by
  obtain ⟨⟨content, rest'⟩, hcontent, h⟩ := bind_eq_ok_iff.mp h
  simp only [bind_eq_ok_iff] at h
  -- Of the ten fields of the body none is looked at here.
  obtain ⟨_, -, _, -, _, -, _, -, _, -, _, -, _, -, _, -, _, -, _, -, heq⟩ := h
  cases heq
  exact ⟨content, readSequence_eq_ok_iff.mp hcontent⟩

/-! ### Certificates -/

variable {outline : Outline} {more : Bytes}

/-- A certificate is a sequence of a body, an algorithm and bits, and ends where the sequence
does. -/
theorem read_eq_ok_iff :
    read bs = .ok (outline, rest) ↔ ∃ content afterBody afterAlgorithm left,
      readContent Tag.sequence bs = .ok (content, rest) ∧
        readBody content = .ok (outline, afterBody) ∧
        readAlgorithm afterBody = .ok afterAlgorithm ∧ bitString? afterAlgorithm = some left := by
  simp only [read, bind_eq_ok_iff, Prod.exists, readSequence_eq_ok_iff, orMalformed_eq_ok_iff]
  constructor
  · rintro ⟨content, rest', hcontent, outline', afterBody, hbody, afterAlgorithm, halgorithm,
      left, hbits, heq⟩
    cases heq
    exact ⟨content, afterBody, afterAlgorithm, left, hcontent, hbody, halgorithm, hbits⟩
  · rintro ⟨content, afterBody, afterAlgorithm, left, hcontent, hbody, halgorithm, hbits⟩
    exact ⟨content, rest, hcontent, outline, afterBody, hbody, afterAlgorithm, halgorithm, left,
      hbits, rfl⟩

end Certificate.Outline
end PackedAttestation
