import Mathlib.Tactic.Ring
import PackedAttestation.Bytes

/-! # Shortest byte strings

A byte string is the shortest one that spells its number if it does not start with a zero
byte.  Numbers and shortest byte strings are the same thing: `ofNat` writes the shortest byte
string of a number (`toNat_ofNat`, `shortest_ofNat`), and each shortest byte string is written
by it (`ofNat_toNat`).
-/
namespace PackedAttestation.Bytes

/-- There is no zero byte in front. -/
def Shortest (bs : Bytes) : Prop :=
  bs.head? ≠ some 0

/-! ### The number of a byte string -/

theorem foldl_eq (bs : Bytes) (n : Nat) :
    bs.foldl (fun n b => n * 256 + b.toNat) n = n * 256 ^ bs.length + toNat bs := by
  induction bs generalizing n with
  | nil => simp
  | cons b bs ih =>
    rw [toNat, List.foldl_cons, List.foldl_cons, ih, ih, List.length_cons]
    ring

theorem toNat_append (bs cs : Bytes) :
    toNat (bs ++ cs) = toNat bs * 256 ^ cs.length + toNat cs := by
  rw [toNat, List.foldl_append, foldl_eq]
  rfl

theorem toNat_cons (b : UInt8) (bs : Bytes) :
    toNat (b :: bs) = b.toNat * 256 ^ bs.length + toNat bs := by
  rw [toNat, List.foldl_cons, foldl_eq, Nat.zero_mul, Nat.zero_add]

theorem toNat_concat (bs : Bytes) (b : UInt8) : toNat (bs ++ [b]) = toNat bs * 256 + b.toNat := by
  rw [toNat_append, toNat_cons]
  simp

theorem toNat_lt (bs : Bytes) : toNat bs < 256 ^ bs.length := by
  induction bs with
  | nil => simp
  | cons b bs ih =>
    have hb : b.toNat + 1 ≤ 256 := b.toNat_lt
    calc toNat (b :: bs)
        < b.toNat * 256 ^ bs.length + 256 ^ bs.length := by
          rw [toNat_cons]
          exact Nat.add_lt_add_left ih _
      _ = (b.toNat + 1) * 256 ^ bs.length := by ring
      _ ≤ 256 * 256 ^ bs.length := Nat.mul_le_mul_right _ hb
      _ = 256 ^ (b :: bs).length := by
          rw [List.length_cons]
          ring

/-- A shortest byte string spells a number that no shorter one could. -/
theorem Shortest.pow_le_toNat {b : UInt8} {bs : Bytes} (h : Shortest (b :: bs)) :
    256 ^ bs.length ≤ toNat (b :: bs) := by
  have hb : b ≠ 0 := by simpa [Shortest] using h
  have hpos : 1 ≤ b.toNat := Nat.pos_of_ne_zero fun hzero => hb (UInt8.toNat_inj.mp hzero)
  calc 256 ^ bs.length
      = 1 * 256 ^ bs.length := (Nat.one_mul _).symm
    _ ≤ b.toNat * 256 ^ bs.length := Nat.mul_le_mul_right _ hpos
    _ ≤ toNat (b :: bs) := by
        rw [toNat_cons]
        exact Nat.le_add_right _ _

theorem Shortest.toNat_ne_zero {bs : Bytes} (h : Shortest bs) (hne : bs ≠ []) : toNat bs ≠ 0 := by
  cases bs with
  | nil => exact absurd rfl hne
  | cons b bs => exact Nat.ne_of_gt (h.pow_le_toNat.trans_lt' (Nat.pow_pos (by decide)))

theorem Shortest.length_le {bs : Bytes} {k : Nat} (h : Shortest bs) (hlt : toNat bs < 256 ^ k) :
    bs.length ≤ k := by
  cases bs with
  | nil => exact Nat.zero_le k
  | cons b bs => exact (Nat.pow_lt_pow_iff_right (by decide)).mp (h.pow_le_toNat.trans_lt hlt)

theorem dropZeros_of_shortest {bs : Bytes} (h : Shortest bs) : dropZeros bs = bs := by
  cases bs with
  | nil => rfl
  | cons b bs =>
    have hb : b ≠ 0 := by simpa [Shortest] using h
    simp [dropZeros, hb]

theorem shortest_dropZeros (bs : Bytes) : Shortest (dropZeros bs) := by
  intro h
  have hzero := List.head?_dropWhile_not (· == 0) bs
  rw [dropZeros] at h
  simp [h] at hzero

/-! ### The byte string of a number -/

theorem toNat_digits {k n : Nat} (h : n < 256 ^ k) : toNat (digits k n) = n := by
  induction k generalizing n with
  | zero =>
    obtain rfl : n = 0 := by simpa using h
    rfl
  | succ k ih =>
    have hdiv : n / 256 < 256 ^ k := Nat.div_lt_of_lt_mul (by rwa [← Nat.pow_succ'])
    rw [digits]
    split
    case isTrue hzero => rw [hzero, toNat_nil]
    case isFalse hzero =>
      rw [toNat_concat, ih hdiv, UInt8.toNat_ofNat']
      exact Nat.div_add_mod' n 256

theorem shortest_digits {k n : Nat} (h : n < 256 ^ k) : Shortest (digits k n) := by
  induction k generalizing n with
  | zero => simp [digits, Shortest]
  | succ k ih =>
    have hdiv : n / 256 < 256 ^ k := Nat.div_lt_of_lt_mul (by rwa [← Nat.pow_succ'])
    rw [digits]
    split
    case isTrue hzero => simp [Shortest]
    case isFalse hzero =>
      have hshortest := ih hdiv
      have hnumber := toNat_digits hdiv
      cases hdigits : digits k (n / 256) with
      | nil =>
        -- The last digit is the only one, so it is the number.
        rw [hdigits, toNat_nil] at hnumber
        have hlt : n < 256 := by omega
        have hdigit : UInt8.ofNat n ≠ 0 := by
          intro h0
          have := congrArg UInt8.toNat h0
          rw [UInt8.toNat_ofNat', Nat.mod_eq_of_lt hlt] at this
          exact hzero this
        simpa [Shortest] using hdigit
      | cons b bs =>
        rw [hdigits] at hshortest
        exact hshortest

theorem lt_pow_log2 (n : Nat) : n < 256 ^ (n.log2 / 8 + 1) := by
  rcases Nat.eq_zero_or_pos n with rfl | hpos
  · simp
  calc n
      < 2 ^ (n.log2 + 1) := Nat.lt_log2_self
    _ ≤ 2 ^ (8 * (n.log2 / 8 + 1)) := Nat.pow_le_pow_right (by decide) (by omega)
    _ = 256 ^ (n.log2 / 8 + 1) := Nat.pow_mul 2 8 _

@[simp] theorem toNat_ofNat (n : Nat) : toNat (ofNat n) = n :=
  toNat_digits (lt_pow_log2 n)

theorem shortest_ofNat (n : Nat) : Shortest (ofNat n) :=
  shortest_digits (lt_pow_log2 n)

theorem length_ofNat_pos {n : Nat} (h : n ≠ 0) : 0 < (ofNat n).length := by
  refine List.length_pos_iff.mpr fun hnil => h ?_
  rw [← toNat_ofNat n, hnil, toNat_nil]

theorem length_ofNat_le {n k : Nat} (h : n < 256 ^ k) : (ofNat n).length ≤ k :=
  (shortest_ofNat n).length_le (by rwa [toNat_ofNat])

theorem digits_toNat {k : Nat} {bs : Bytes} (h : Shortest bs) (hk : bs.length ≤ k) :
    digits k (toNat bs) = bs := by
  induction k generalizing bs with
  | zero =>
    obtain rfl := List.eq_nil_of_length_eq_zero (Nat.le_zero.mp hk)
    rfl
  | succ k ih =>
    obtain rfl | ⟨cs, b, rfl⟩ := List.eq_nil_or_concat bs
    · rfl
    rw [List.concat_eq_append] at h hk ⊢
    have hcs : Shortest cs := by
      cases cs with
      | nil => simp [Shortest]
      | cons c cs => exact h
    have hlength : cs.length ≤ k := by simpa using hk
    have hb : b.toNat < 256 := b.toNat_lt
    have hdiv : (toNat cs * 256 + b.toNat) / 256 = toNat cs := by omega
    have hlast : UInt8.ofNat (toNat cs * 256 + b.toNat) = b := by
      rw [← UInt8.toNat_inj, UInt8.toNat_ofNat']
      omega
    rw [digits, if_neg (h.toNat_ne_zero (by simp)), toNat_concat, hdiv, hlast, ih hcs hlength]

theorem ofNat_toNat {bs : Bytes} (h : Shortest bs) : ofNat (toNat bs) = bs :=
  digits_toNat h (h.length_le (lt_pow_log2 _))

end PackedAttestation.Bytes
