import PackedAttestation.Octets

/-! # The text of a UUID

A byte is written as two digits, and a UUID as thirty-two digits with four hyphens among
them.  Reading undoes each of these: digits (`Bytes.hexValue?_hexDigit`), byte strings of any
length (`Bytes.ofHexChars?_toHexChars`), hyphens (`Uuid.unhyphenate?_hyphenate`), and so the text
of a UUID (`Uuid.parse?_text`).
-/
namespace PackedAttestation

namespace Bytes

theorem hexValue?_hexDigit {n : Nat} (h : n < 16) : hexValue? (hexDigit n) = some n := by
  have hall : ∀ k < 16, hexValue? (hexDigit k) = some k := by decide
  exact hall n h

theorem ofHexChars?_toHexChars (bs : Bytes) : ofHexChars? (toHexChars bs) = some bs := by
  induction bs with
  | nil => rfl
  | cons b bs ih =>
    have hb : b.toNat < 256 := b.toNat_lt
    have hhigh : hexValue? (hexDigit (b.toNat / 16)) = some (b.toNat / 16) :=
      hexValue?_hexDigit (Nat.div_lt_of_lt_mul hb)
    have hlow : hexValue? (hexDigit (b.toNat % 16)) = some (b.toNat % 16) :=
      hexValue?_hexDigit (Nat.mod_lt _ (by decide))
    have hbyte : UInt8.ofNat (b.toNat / 16 * 16 + b.toNat % 16) = b := by
      rw [Nat.div_add_mod', UInt8.ofNat_toNat]
    have hread : ofHexChars? (toHexChars (b :: bs)) = (ofHexChars? (toHexChars bs)).map
        (UInt8.ofNat (b.toNat / 16 * 16 + b.toNat % 16) :: ·) := by
      simp only [toHexChars, List.flatMap_cons, hexOfByte, List.cons_append, List.nil_append,
        ofHexChars?, hhigh, hlow]
      cases ofHexChars? (bs.flatMap hexOfByte) <;> rfl
    rw [hread, ih, hbyte, Option.map_some]

theorem length_toHexChars (bs : Bytes) : (toHexChars bs).length = 2 * bs.length := by
  induction bs with
  | nil => rfl
  | cons b bs ih =>
    rw [toHexChars, List.flatMap_cons, List.length_append, ← toHexChars, ih, List.length_cons,
      Nat.mul_succ, Nat.add_comm]
    rfl

end Bytes

namespace Uuid

theorem length_hyphenate {digits : List Char} (h : digits.length = 32) :
    (hyphenate digits).length = 36 := by
  simp [hyphenate, h]

/-- Five groups between hyphens are put together again. -/
theorem unhyphenate?_groups {a b c d e : List Char} (ha : a.length = 8) (hb : b.length = 4)
    (hc : c.length = 4) (hd : d.length = 4) (he : e.length = 12) :
    unhyphenate? (a ++ '-' :: (b ++ '-' :: (c ++ '-' :: (d ++ '-' :: e)))) =
      some (a ++ (b ++ (c ++ (d ++ e)))) := by
  simp [unhyphenate?, List.drop_append, List.drop_eq_nil_of_le, ha, hb, hc, hd, he]

theorem unhyphenate?_hyphenate {digits : List Char} (h : digits.length = 32) :
    unhyphenate? (hyphenate digits) = some digits := by
  have hgroups : digits.take 8 ++ ((digits.drop 8).take 4 ++ ((digits.drop 12).take 4 ++
      ((digits.drop 16).take 4 ++ digits.drop 20))) = digits := by
    have hjoin : ∀ n, (digits.drop n).take 4 ++ digits.drop (n + 4) = digits.drop n := fun n => by
      rw [← List.drop_drop, List.take_append_drop]
    rw [hjoin 16, hjoin 12, hjoin 8, List.take_append_drop]
  rw [hyphenate, unhyphenate?_groups, hgroups] <;> simp [h]

theorem parse?_text (uuid : Uuid) : parse? (text uuid) = some uuid := by
  have hdigits : (Bytes.toHexChars uuid.bytes).length = 32 := by
    rw [Bytes.length_toHexChars, uuid.length_eq]
  have hlength := length_hyphenate hdigits
  have hread : digits? (hyphenate (Bytes.toHexChars uuid.bytes)) =
      some (Bytes.toHexChars uuid.bytes) := by
    simp [digits?, hlength, unhyphenate?_hyphenate hdigits]
  simp [parse?, text, hread, Bytes.ofHexChars?_toHexChars, Octets.ofBytes?_bytes]

end Uuid
end PackedAttestation
