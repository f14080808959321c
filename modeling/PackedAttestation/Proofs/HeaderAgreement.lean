import PackedAttestation.Ber.Frame
import PackedAttestation.Proofs.ElementReading

/-! # Two readers of one header

A certificate is read once in the distinguished and once in the basic encoding.  The
two readers of headers accept different ones: each bounds multi-byte tag numbers and
lengths in its own way, and only one knows indefinite lengths.  On a header that both
accept they agree about everything it says and where it ends (`readIdentifier_agrees`,
`readExtent_agrees`), and so about the extent of an element (`frame_of_header`).
-/
namespace PackedAttestation

open Der
open Ber

/-- The reader of the distinguished encoding keeps a tag number to 32 bits. The other one
stops before a number gets that large, so the cut never shows. -/
theorem readNumber_agrees {fuel acc : Nat} {bs : Bytes} {r s : Nat × Bytes} (hacc : acc < 1 <<< 24)
    (hder : Identifier.readNumber fuel acc bs = .ok r) (hber : readNumber? acc bs = some s) :
    r = s := by
  induction bs generalizing fuel acc with
  | nil => simp [readNumber?] at hber
  | cons b bs ih =>
    cases fuel with
    | zero => simp [Identifier.readNumber] at hder
    | succ fuel =>
      -- One more digit adds seven bits to at most 24 of them.
      have hsize : UInt32.size = 1 <<< 32 := rfl
      have hlt : acc * 128 + b.toNat % 128 < UInt32.size := by omega
      have hcut := Nat.mod_eq_of_lt hlt
      simp only [Identifier.readNumber, hcut] at hder
      simp only [readNumber?] at hber
      by_cases hb : b < 128
      · rw [if_pos hb] at hder hber
        cases hder
        cases hber
        rfl
      · rw [if_neg hb] at hder hber
        split at hber
        · rename_i hsmall
          exact ih hsmall hder hber
        · cases hber

theorem readIdentifier_agrees {bs : Bytes} {r s : Identifier × Bytes}
    (hder : Identifier.read bs = .ok r) (hber : readIdentifier? bs = some s) : r = s := by
  cases bs with
  | nil => simp [readIdentifier?] at hber
  | cons b bs =>
    simp only [Identifier.read] at hder
    simp only [readIdentifier?] at hber
    by_cases hb : b.toNat % 32 = 31
    · rw [if_pos hb] at hder hber
      split at hder
      · cases hder
      rename_i number rest hnumber
      obtain ⟨s', hs', heq⟩ := Option.bind_eq_some_iff.mp hber
      have := readNumber_agrees (by decide) hnumber hs'
      subst this
      cases hder
      cases heq
      rfl
    · rw [if_neg hb] at hder hber
      cases hder
      cases hber
      rfl

theorem readExtent_agrees {bs : Bytes} {r s : Extent × Bytes}
    (hder : Extent.read bs = .ok r) (hber : readExtent? bs = some s) : r = s := by
  cases bs with
  | nil => simp [readExtent?] at hber
  | cons b bs =>
    simp only [Extent.read] at hder
    simp only [readExtent?] at hber
    split at hber
    · rename_i hshort
      rw [if_pos hshort] at hder
      cases hder
      cases hber
      rfl
    rename_i hshort
    rw [if_neg hshort] at hder
    split at hber
    · rename_i hindefinite
      rw [if_pos hindefinite] at hder
      cases hder
      cases hber
      rfl
    rename_i hindefinite
    rw [if_neg hindefinite] at hder
    split at hber
    · split at hder
      · cases hder
        cases hber
        rfl
      · cases hder
    · cases hber

/-- A header of definite length is where the other reader finds it too. -/
theorem frame_of_header {bs rest : Bytes} {header : Header} {frame : Frame}
    (hder : Header.read bs = .ok (header, rest)) (hber : Frame.read? bs = some frame) :
    frame = ⟨header.identifier, .definite header.length, rest⟩ := by
  obtain ⟨after, hidentifier, hextent⟩ := Header.read_eq_ok_iff.mp hder
  simp only [Frame.read?, Option.bind_eq_bind, Option.bind_eq_some_iff] at hber
  obtain ⟨i, hi, e, he, hframe⟩ := hber
  have := readIdentifier_agrees hidentifier hi
  subst this
  have := readExtent_agrees hextent he
  subst this
  simp only [Option.ite_none_right_eq_some, Option.some.injEq] at hframe
  exact hframe.2.symm

end PackedAttestation
