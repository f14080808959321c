import Mathlib.Data.String.Basic
import PackedAttestation.Bytes

/-! # The order of texts and of their bytes

Texts are compared character by character, by the numbers of the characters.  A character is
written in UTF-8 as a leading byte, which also tells how many bytes follow, and these: the digits
of its number in base 64.  So the bytes of two texts compare as the texts do (`lt_iff_utf8_lt`).
-/
namespace PackedAttestation.Text

/-- The bytes of a text in UTF-8. -/
def utf8 (s : String) : Bytes :=
  s.toUTF8.data.toList

theorem utf8_eq (s : String) : utf8 s = s.toList.flatMap String.utf8EncodeChar := by
  rw [utf8, String.toUTF8, ← String.utf8Encode_toList, List.utf8Encode, List.data_toByteArray]

/-! ### The bytes of a character -/

/-- The last `count` digits of `n` in base 64, as bytes that continue a character. -/
def continuation : (count n : Nat) → Bytes
  | 0, _ => []
  | count + 1, n => continuation count (n / 64) ++ [UInt8.ofNat (n % 64 + 128)]

/-- How many bytes continue the character with the number `n`. -/
def continuationCount (n : Nat) : Nat :=
  if n ≤ 0x7f then 0 else if n ≤ 0x7ff then 1 else if n ≤ 0xffff then 2 else 3

/-- The leading byte of the character with the number `n`. -/
def leadingByte (n : Nat) : Nat :=
  if n ≤ 0x7f then n
  else if n ≤ 0x7ff then n / 64 + 192
  else if n ≤ 0xffff then n / 4096 + 224
  else n / 262144 + 240

theorem toNat_lt (c : Char) : c.toNat < 0x110000 := by
  have hvalid := c.valid
  simp only [UInt32.isValidChar, Nat.isValidChar] at hvalid
  rw [Char.toNat]
  omega

theorem leadingByte_lt {n : Nat} (h : n < 0x110000) : leadingByte n < 256 := by
  simp only [leadingByte]
  split_ifs <;> omega

theorem utf8EncodeChar_eq (c : Char) :
    String.utf8EncodeChar c =
      UInt8.ofNat (leadingByte c.toNat) :: continuation (continuationCount c.toNat) c.toNat := by
  have hlt := toNat_lt c
  have hdigit : c.toNat / 64 / 64 = c.toNat / 4096 := Nat.div_div_eq_div_mul _ _ _
  rw [String.utf8EncodeChar, leadingByte, continuationCount, ← Char.toNat]
  split_ifs with h1 h2 h3
  · rfl
  · rw [Nat.mod_eq_of_lt (by omega : c.toNat / 64 < 32)]
    rfl
  · rw [Nat.mod_eq_of_lt (by omega : c.toNat / 4096 < 16)]
    rfl
  · rw [Nat.mod_eq_of_lt (by omega : c.toNat / 262144 < 8)]
    simp [continuation, hdigit]

/-- The digits of two numbers compare as the numbers do, where the digits before them agree. -/
theorem continuation_append_lt {count m n : Nat} (h : m < n)
    (hlead : m / 64 ^ count = n / 64 ^ count) (s t : Bytes) :
    continuation count m ++ s < continuation count n ++ t := by
  induction count generalizing m n s t with
  | zero =>
    rw [Nat.pow_zero, Nat.div_one, Nat.div_one] at hlead
    exact absurd hlead (Nat.ne_of_lt h)
  | succ count ih =>
    have hdiv : ∀ k, k / 64 ^ (count + 1) = k / 64 / 64 ^ count := fun k => by
      rw [Nat.pow_succ', Nat.div_div_eq_div_mul]
    rw [hdiv, hdiv] at hlead
    rw [continuation, continuation, List.append_assoc, List.append_assoc]
    rcases Nat.lt_or_ge (m / 64) (n / 64) with hlt | hge
    · exact ih hlt hlead _ _
    · -- Only the last digits differ.
      have heq : m / 64 = n / 64 := by omega
      have hdigit : UInt8.ofNat (m % 64 + 128) < UInt8.ofNat (n % 64 + 128) := by
        rw [UInt8.lt_iff_toNat_lt, UInt8.toNat_ofNat', UInt8.toNat_ofNat']
        omega
      rw [heq]
      exact List.append_left_lt (List.cons_lt_cons_iff.mpr (.inl hdigit))

/-- The leading byte does not fall as the number grows. Where it stays, so do the count of
further bytes and the digits in the leading byte. -/
theorem leadingByte_lt_or_eq {m n : Nat} (h : m < n) :
    leadingByte m < leadingByte n ∨
      leadingByte m = leadingByte n ∧ continuationCount m = continuationCount n ∧
        m / 64 ^ continuationCount m = n / 64 ^ continuationCount m := by
  simp only [leadingByte, continuationCount]
  split_ifs <;> simp only [pow_zero, pow_one, Nat.reducePow, Nat.div_one, true_and] <;> omega

theorem utf8EncodeChar_append_lt {c d : Char} (h : c < d) (s t : Bytes) :
    String.utf8EncodeChar c ++ s < String.utf8EncodeChar d ++ t := by
  have hlt : c.toNat < d.toNat := h
  have hc := leadingByte_lt (toNat_lt c)
  have hd := leadingByte_lt (toNat_lt d)
  rw [utf8EncodeChar_eq, utf8EncodeChar_eq, List.cons_append, List.cons_append,
    List.cons_lt_cons_iff]
  rcases leadingByte_lt_or_eq hlt with hlead | ⟨hlead, hcount, hdigits⟩
  · left
    rwa [UInt8.lt_iff_toNat_lt, UInt8.toNat_ofNat', UInt8.toNat_ofNat', Nat.mod_eq_of_lt hc,
      Nat.mod_eq_of_lt hd]
  · right
    rw [← hcount]
    exact ⟨congrArg UInt8.ofNat hlead, continuation_append_lt hlt hdigits s t⟩

/-! ### The bytes of a text -/

theorem flatMap_utf8EncodeChar_lt {l m : List Char} (h : l < m) :
    l.flatMap String.utf8EncodeChar < m.flatMap String.utf8EncodeChar := by
  induction h with
  | @nil c m =>
    rw [List.flatMap_nil, List.flatMap_cons, utf8EncodeChar_eq, List.cons_append]
    exact List.Lex.nil
  | @cons c l m _ ih => exact List.append_left_lt ih
  | @rel c l d m hlt => exact utf8EncodeChar_append_lt hlt _ _

/-- **Texts compare as their bytes do.** -/
theorem lt_iff_utf8_lt {s t : String} : s < t ↔ utf8 s < utf8 t := by
  have hmono : ∀ {s t : String}, s < t → utf8 s < utf8 t := fun {s t} h => by
    rw [utf8_eq, utf8_eq]
    exact flatMap_utf8EncodeChar_lt (String.lt_iff_toList_lt.mp h)
  refine ⟨hmono, fun h => ?_⟩
  rcases lt_trichotomy s t with hlt | rfl | hgt
  · exact hlt
  · exact absurd h (List.lt_irrefl _)
  · exact absurd h (List.lt_asymm (hmono hgt))

end PackedAttestation.Text
