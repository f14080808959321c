import PackedAttestation.Certificate.BasicConstraints
import PackedAttestation.Proofs.BasicVerification
import PackedAttestation.Proofs.ElementReading

/-! # What basic constraints say

The type of basic constraints is `SEQUENCE { cA BOOLEAN DEFAULT FALSE, pathLenConstraint
INTEGER (0..MAX) OPTIONAL }`, with no bound on the path length.  `decode?` reads a value
as just that.  The reader that the profile of an attestation certificate relies on
(`ofValue?`) agrees with it on path lengths of 32 bits, and takes a value with a
larger one for a value that says nothing (`ofValue?_of_decode?`).  So a certificate that
passes for none of an authority may still be one
(`Outline.deniesAuthority_iff_of_decode?`).
-/
namespace PackedAttestation.Certificate

open Der

namespace BasicConstraints

/-! ### The type -/

/-- Reads the content of a universal element, primitive or constructed as asked. -/
def universal? (constructed : Bool) (number : Nat) (bs : Bytes) : Option (Bytes × Bytes) :=
  match Element.read bs with
  | .error _ => none
  | .ok (element, rest) =>
    if element.identifier = ⟨.universal, constructed, number⟩ then some (element.content, rest)
    else none

/-- Reads a BOOLEAN that is false where it is left out. Any byte but zero means true. -/
def cA? (bs : Bytes) : Option (Bool × Bytes) :=
  match universal? false Tag.boolean bs with
  | none => some (false, bs)
  | some ([b], rest) => some (b != 0, rest)
  | some _ => none

/-- Reads an INTEGER that is not negative, of any size, or nothing where it is left out. -/
def pathLength? (bs : Bytes) : Option (Option Nat × Bytes) :=
  match universal? false Tag.integer bs with
  | none => some (none, bs)
  | some (content, rest) =>
    if integerContentOk content ∧ isNegative content = false then
      some (some (Bytes.toNat content), rest)
    else none

/-- Reads a value that is of the type and has nothing after it. -/
def decode? (value : Bytes) : Option BasicConstraints := do
  let (content, after) ← universal? true Tag.sequence value
  let (ca, rest) ← cA? content
  let (pathLength, rest) ← pathLength? rest
  if after = [] ∧ rest = [] then some ⟨ca, pathLength⟩ else none

/-- The path length, if there is one, fits 32 bits. -/
def PathFits (constraints : BasicConstraints) : Prop :=
  ∀ n ∈ constraints.pathLength, n < UInt32.size

theorem pathFits_none {ca : Bool} : PathFits ⟨ca, none⟩ := by
  rintro n ⟨⟩

theorem pathFits_some {ca : Bool} {n : Nat} : PathFits ⟨ca, some n⟩ ↔ n < UInt32.size := by
  constructor
  · intro h
    exact h n rfl
  · rintro h m ⟨⟩
    exact h

theorem universal?_eq_some_iff {constructed : Bool} {number : Nat} {bs content rest : Bytes} :
    universal? constructed number bs = some (content, rest) ↔
      Element.read bs = .ok (⟨⟨.universal, constructed, number⟩, content⟩, rest) := by
  rw [universal?]
  cases Element.read bs with
  | error fault => simp
  | ok result =>
    obtain ⟨⟨identifier, content'⟩, rest'⟩ := result
    simp only [Option.ite_none_right_eq_some, Option.some.injEq, Except.ok.injEq, Prod.mk.injEq,
      Element.mk.injEq, and_assoc]

/-- A BOOLEAN is left out, or it is the first element. -/
theorem cA?_eq_some {bs rest : Bytes} {ca : Bool} (h : cA? bs = some (ca, rest)) :
    ca = false ∧ rest = bs ∨
      ∃ b, Element.read bs = .ok (⟨⟨.universal, false, Tag.boolean⟩, [b]⟩, rest) ∧
        ca = (b != 0) := by
  rw [cA?] at h
  split at h
  · cases h
    exact .inl ⟨rfl, rfl⟩
  · rename_i b rest' hread
    cases h
    exact .inr ⟨b, universal?_eq_some_iff.mp hread, rfl⟩
  · cases h

/-- An INTEGER is left out, or it is the first element. -/
theorem pathLength?_eq_some {bs rest : Bytes} {pathLength : Option Nat}
    (h : pathLength? bs = some (pathLength, rest)) :
    pathLength = none ∧ rest = bs ∨
      ∃ content, Element.read bs = .ok (⟨⟨.universal, false, Tag.integer⟩, content⟩, rest) ∧
        isNegative content = false ∧ pathLength = some (Bytes.toNat content) := by
  rw [pathLength?] at h
  split at h
  · cases h
    exact .inl ⟨rfl, rfl⟩
  · rename_i content rest' hread
    split at h
    · rename_i hcontent
      cases h
      exact .inr ⟨content, universal?_eq_some_iff.mp hread, hcontent.2, rfl⟩
    · cases h

/-! ### The two readers -/

/-- Elements of definite length that fill their input. -/
inductive Elements : Bytes → List Element → Prop where
  | nil : Elements [] []
  | cons {bs rest : Bytes} {element : Element} {elements : List Element}
      (head : Element.read bs = .ok (element, rest)) (tail : Elements rest elements) :
      Elements bs (element :: elements)

theorem elements?_eq_some {fuel : Nat} {bs : Bytes} {elements : List Element}
    (h : Elements bs elements) (hfuel : bs.length ≤ fuel) : elements? fuel bs = some elements := by
  induction h generalizing fuel with
  | nil => rw [elements?]
  | @cons bs rest element elements head tail ih =>
    -- Each element takes up a byte at least, so the fuel lasts as long as the bytes do.
    have hlength := Element.length_lt_of_read head
    cases fuel with
    | zero => omega
    | succ fuel =>
      cases bs with
      | nil => cases head
      | cons b bs =>
        obtain ⟨after, length, body, hidentifier, hextent, hle, hcontent, rfl⟩ :=
          Element.read_eq_ok_iff.mp head
        have htail := ih (by omega : (body.drop length).length ≤ fuel)
        simp only [elements?, hidentifier, hextent, Except.toOption, Option.bind_eq_bind,
          Option.bind_some, hle, if_true, htail, ← hcontent]
        rfl

theorem boolean?_boolean (constructed : Bool) (b : UInt8) :
    boolean? ⟨⟨.universal, constructed, Tag.boolean⟩, [b]⟩ = some (b != 0) := by
  simp [boolean?]

theorem boolean?_integer (constructed : Bool) (content : Bytes) :
    boolean? ⟨⟨.universal, constructed, Tag.integer⟩, content⟩ = none := by
  have hne : Tag.integer ≠ Tag.boolean := by decide
  rw [boolean?]
  split
  · simp [hne]
  · rfl

theorem number?_integer (constructed : Bool) {content : Bytes} (h : isNegative content = false) :
    number? ⟨⟨.universal, constructed, Tag.integer⟩, content⟩ =
      if Bytes.toNat content < UInt32.size then some (Bytes.toNat content) else none := by
  simp only [number?, h, ne_eq, not_true_eq_false, ite_false, ite_true, Bool.false_eq_true,
    not_false_eq_true, true_and]

/-- **On values of the type, the reader of the profile misses large path lengths only.** -/
theorem ofValue?_of_decode? {value : Bytes} {constraints : BasicConstraints}
    (h : decode? value = some constraints) :
    (constraints.PathFits → ofValue? value = some constraints) ∧
      (¬constraints.PathFits → ofValue? value = none) := by
  simp only [decode?, Option.bind_eq_bind, Option.bind_eq_some_iff] at h
  obtain ⟨⟨content, after⟩, hsequence, ⟨ca, rest⟩, hca, ⟨pathLength, rest'⟩, hpath, hends⟩ := h
  simp only [Option.ite_none_right_eq_some, Option.some.injEq] at hends
  obtain ⟨⟨rfl, rfl⟩, rfl⟩ := hends
  have hread := universal?_eq_some_iff.mp hsequence
  have hvalue {elements : List Element} (helements : Elements content elements) :
      ofValue? value = ofElements? elements := by
    simp [ofValue?, Outline.element?, hread, Except.toOption,
      elements?_eq_some helements (Nat.le_refl _)]
  rcases cA?_eq_some hca with ⟨rfl, rfl⟩ | ⟨b, hboolean, rfl⟩
  · rcases pathLength?_eq_some hpath with ⟨rfl, rfl⟩ | ⟨digits, hinteger, hsign, rfl⟩
    · rw [hvalue .nil]
      exact ⟨fun _ => rfl, fun hfits => absurd pathFits_none hfits⟩
    · rw [hvalue (.cons hinteger .nil), ofElements?, boolean?_integer, number?_integer _ hsign,
        pathFits_some]
      constructor
      · intro hfits
        rw [if_pos hfits]
        rfl
      · intro hfits
        rw [if_neg hfits]
        rfl
  · rcases pathLength?_eq_some hpath with ⟨rfl, rfl⟩ | ⟨digits, hinteger, hsign, rfl⟩
    · rw [hvalue (.cons hboolean .nil), ofElements?, boolean?_boolean]
      exact ⟨fun _ => rfl, fun hfits => absurd pathFits_none hfits⟩
    · rw [hvalue (.cons hboolean (.cons hinteger .nil)), ofElements?, boolean?_boolean,
        number?_integer _ hsign, pathFits_some]
      constructor
      · intro hfits
        rw [if_pos hfits]
        rfl
      · intro hfits
        rw [if_neg hfits]
        rfl

end BasicConstraints

/-! ### Certificates of authorities -/

namespace Outline

/-- A certificate denies that it is one of an authority if it has no basic constraints twice, and
none that read and say so. -/
theorem deniesAuthority_iff {outline : Outline} :
    outline.DeniesAuthority ↔
      (outline.extensionsWith Oid.basicConstraints).length ≤ 1 ∧
      ∀ extension ∈ outline.extensionsWith Oid.basicConstraints,
        ∀ c, BasicConstraints.ofValue? extension.value = some c → c.ca = false := by
  rw [DeniesAuthority, basicConstraints]
  rcases outline.extensionsWith Oid.basicConstraints with _ | ⟨extension, _ | ⟨second, rest⟩⟩
  · simp
  · simp [Option.mem_def]
  · simp

/-- **A value of the type that names an authority is denied exactly if its path length is too
large.** -/
theorem deniesAuthority_iff_of_decode? {outline : Outline} {extension : Extension}
    {constraints : BasicConstraints}
    (honly : outline.extensionsWith Oid.basicConstraints = [extension])
    (hdecode : BasicConstraints.decode? extension.value = some constraints) :
    outline.DeniesAuthority ↔ (constraints.ca = true → ¬constraints.PathFits) := by
  obtain ⟨hfits, hlarge⟩ := BasicConstraints.ofValue?_of_decode? hdecode
  rw [deniesAuthority_iff, honly]
  simp only [List.length_singleton, Nat.le_refl, true_and, List.mem_singleton, forall_eq]
  constructor
  · intro hdenies hca hpath
    have hfalse := hdenies constraints (hfits hpath)
    rw [hca] at hfalse
    cases hfalse
  · intro hpath c hc
    by_cases hpathFits : constraints.PathFits
    · obtain rfl : constraints = c := Option.some.inj ((hfits hpathFits).symm.trans hc)
      exact Bool.eq_false_iff.mpr fun hca => hpath hca hpathFits
    · rw [hlarge hpathFits] at hc
      cases hc

end Outline
end PackedAttestation.Certificate
