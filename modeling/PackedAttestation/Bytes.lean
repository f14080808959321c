/-! # Byte strings and the numbers they spell

Every encoding of this library is a list of bytes.  A byte string is read as a
number with its most significant byte first, so bytes `0` in front change
nothing (`toNat_zero_cons`), and a byte string without them is the one shortest
spelling of its number.
-/
namespace PackedAttestation

/-- A byte string. -/
abbrev Bytes := List UInt8

namespace Bytes

/-- The number that a byte string spells, most significant byte first. The empty
string spells zero. -/
def toNat (bs : Bytes) : Nat :=
  bs.foldl (fun n b => n * 256 + b.toNat) 0

@[simp] theorem toNat_nil : toNat [] = 0 := rfl

/-- A zero byte in front does not change the number. -/
@[simp] theorem toNat_zero_cons (bs : Bytes) : toNat (0 :: bs) = toNat bs := by
  simp [toNat]

/-- The byte string without the zero bytes in front of it. -/
def dropZeros (bs : Bytes) : Bytes :=
  bs.dropWhile (· == 0)

@[simp] theorem dropZeros_nil : dropZeros [] = [] := rfl

@[simp] theorem toNat_dropZeros (bs : Bytes) : toNat (dropZeros bs) = toNat bs := by
  induction bs with
  | nil => rfl
  | cons b bs ih =>
    by_cases hb : b = 0
    · subst hb
      rw [toNat_zero_cons, ← ih]
      rfl
    · have : (b == 0) = false := by simpa using hb
      simp [dropZeros, this]

/-- The last `k` base-256 digits of `n`, most significant first, stopping early
where only zeros are left. -/
def digits : Nat → Nat → Bytes
  | 0, _ => []
  | k + 1, n => if n = 0 then [] else digits k (n / 256) ++ [UInt8.ofNat n]

/-- The shortest byte string that spells `n`. -/
def ofNat (n : Nat) : Bytes :=
  digits (n.log2 / 8 + 1) n

/-- `n` as exactly `k` bytes, most significant first. Higher digits are dropped. -/
def ofNatFixed : Nat → Nat → Bytes
  | 0, _ => []
  | k + 1, n => ofNatFixed k (n / 256) ++ [UInt8.ofNat n]

/-- The characters of the hexadecimal digits. -/
def hexDigits : List Char :=
  ['0', '1', '2', '3', '4', '5', '6', '7', '8', '9', 'a', 'b', 'c', 'd', 'e', 'f']

/-- The lower-case character of a hexadecimal digit. -/
def hexDigit (n : Nat) : Char :=
  hexDigits.getD n '0'

/-- The two hexadecimal digits of a byte. -/
def hexOfByte (b : UInt8) : List Char :=
  [hexDigit (b.toNat / 16), hexDigit (b.toNat % 16)]

/-- The value of a hexadecimal digit in either case. -/
def hexValue? (c : Char) : Option Nat :=
  if '0' ≤ c ∧ c ≤ '9' then some (c.toNat - 48)
  else if 'a' ≤ c ∧ c ≤ 'f' then some (c.toNat - 87)
  else if 'A' ≤ c ∧ c ≤ 'F' then some (c.toNat - 55)
  else none

/-- Two lower-case hexadecimal digits for each byte. -/
def toHexChars (bs : Bytes) : List Char :=
  bs.flatMap hexOfByte

/-- Two lower-case hexadecimal digits for each byte, as text. -/
def toHex (bs : Bytes) : String :=
  String.ofList (toHexChars bs)

/-- Reads pairs of hexadecimal digits, in either case. -/
def ofHexChars? : List Char → Option Bytes
  | [] => some []
  | [_] => none
  | h :: l :: rest => do
    let hi ← hexValue? h
    let lo ← hexValue? l
    let bs ← ofHexChars? rest
    return UInt8.ofNat (hi * 16 + lo) :: bs

/-- Reads text made of pairs of hexadecimal digits. -/
def ofHex? (s : String) : Option Bytes :=
  ofHexChars? s.toList

end Bytes
end PackedAttestation
