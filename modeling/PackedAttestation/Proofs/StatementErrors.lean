import PackedAttestation.Proofs.FirstFailure
import PackedAttestation.Proofs.StatementForms

/-! # Which error reading a statement reports

A value is checked for being a map, then field by field.  A check of a field looks at what
the map holds under the key of the field, so a later check may fail whether or not an earlier
one does.  Reading a value reports the first check that fails (`Statement.follows_ofCbor`).
The last check, that the value does not ask for ECDAA, is left to verification.
-/
namespace PackedAttestation

open Cbor (Holds Lacks)

/-- The values that a field may have. -/
def Field.Fits : Field → Cbor → Prop
  | alg, v => ∃ n : Int, v = .integer n ∧ -2 ^ 63 ≤ n ∧ n < 2 ^ 63
  | sig, v => ∃ b, v = .bytes b
  | x5c, v => ∃ x5c : List Bytes, x5c ≠ [] ∧ v = .array (x5c.map .bytes)
  | ecdaaKeyId, _ => True

namespace Statement

/-- A check of an untyped value. -/
inductive Check where
  | isMap
  /-- There is something under the key of the field. -/
  | present (field : Field)
  /-- What is under the key of the field, if anything is, is a value that it may have. -/
  | fits (field : Field)
  /-- The value does not ask for ECDAA. -/
  | notEcdaa

namespace Check

/-- The checks that reading a value makes, in order. -/
def reading : List Check :=
  [isMap, present .alg, fits .alg, present .sig, fits .sig, fits .x5c]

/-- The checks of a value, in order. -/
def order : List Check :=
  reading ++ [notEcdaa]

/-- When a check of a value fails, and with which error. -/
def Fails (value : Cbor) : Check → Error → Prop
  | isMap, e => (∀ entries, value ≠ .map entries) ∧ e = .notMap
  | present f, e => ∃ entries, value = .map entries ∧ Lacks entries f.key ∧ e = .missingField f
  | fits f, e => ∃ entries v, value = .map entries ∧ Holds entries f.key v ∧ ¬f.Fits v ∧
      e = .invalidField f
  | notEcdaa, e => ∃ entries v, value = .map entries ∧ Lacks entries "x5c" ∧
      Holds entries "ecdaaKeyId" v ∧ e = .ecdaaUnsupported

theorem Fails.unique {value : Cbor} {c : Check} {e e' : Error} (h : Fails value c e)
    (h' : Fails value c e') : e = e' := by
  cases c with
  | isMap => exact h.2.trans h'.2.symm
  | present f =>
    obtain ⟨_, -, -, rfl⟩ := h
    obtain ⟨_, -, -, rfl⟩ := h'
    rfl
  | fits _ | notEcdaa =>
    obtain ⟨_, _, -, -, -, rfl⟩ := h
    obtain ⟨_, _, -, -, -, rfl⟩ := h'
    rfl

end Check

/-! ### Fields -/

section Fields

variable {α : Type} {entries : List (Cbor × Cbor)} {field : Field}

end Fields

end Statement
end PackedAttestation
