import Mathlib.Data.List.Basic
import PackedAttestation.Proofs.UuidText

/-! # The spellings of a UUID

The thirty-two digits of a UUID may have letters of either case, and stand without hyphens, with
hyphens, or with hyphens in braces or after `urn:uuid:` (`Uuid.IsSpelling`).  Reading finds the
digits of these forms (`Uuid.digits?_eq_some_iff`) and of each pair the byte it is written for
(`Bytes.ofHexChars?_eq_some_iff`), so a text reads as a UUID exactly if it is one of its spellings
(`Uuid.parse?_eq_some_iff`).  One of them has lower-case digits in hyphenated groups, and that is
the one that is written (`Uuid.eq_text_iff`).
-/
namespace PackedAttestation

theorem Octets.ofBytes?_eq_some_iff {n : Nat} {bs : Bytes} {o : Octets n} :
    ofBytes? n bs = some o ↔ bs = o.bytes := by
  constructor
  · intro h
    unfold ofBytes? at h
    split at h
    · cases h
      rfl
    · cases h
  · rintro rfl
    exact ofBytes?_bytes o

/-! ### Digits -/

namespace Bytes

variable {c : Char} {n : Nat}

theorem bounds_of_hexValue? (h : hexValue? c = some n) : c.toNat < 128 ∧ n < 16 := by
  simp only [hexValue?, Char.le_def, UInt32.le_iff_toNat_le, Char.toNat_val, Char.reduceToNat] at h
  grind

theorem toLower_of_le (h : 128 ≤ c.toNat) : c.toLower = c := by
  refine dif_neg fun hupper => ?_
  have hle : c.toNat ≤ 90 := hupper.2
  omega

theorem hexValue?_toLower (c : Char) : hexValue? c.toLower = hexValue? c := by
  by_cases hc : c.toNat < 128
  · have hascii : ∀ k < 128, hexValue? (Char.ofNat k).toLower = hexValue? (Char.ofNat k) := by
      decide
    simpa only [Char.ofNat_toNat] using hascii c.toNat hc
  · rw [toLower_of_le (Nat.not_lt.mp hc)]

theorem toLower_of_hexValue? (h : hexValue? c = some n) : c.toLower = hexDigit n := by
  have hascii : ∀ k < 128, ∀ m ∈ hexValue? (Char.ofNat k),
      (Char.ofNat k).toLower = hexDigit m := by decide
  have hlower := hascii c.toNat (bounds_of_hexValue? h).1
  rw [Char.ofNat_toNat] at hlower
  exact hlower n h

/-- A digit is read in either case. -/
theorem hexValue?_eq_some_iff : hexValue? c = some n ↔ n < 16 ∧ c.toLower = hexDigit n := by
  constructor
  · intro h
    exact ⟨(bounds_of_hexValue? h).2, toLower_of_hexValue? h⟩
  · rintro ⟨hn, h⟩
    rw [← hexValue?_toLower, h, hexValue?_hexDigit hn]

theorem toHexChars_nil : toHexChars [] = [] := rfl

theorem toHexChars_cons (b : UInt8) (bs : Bytes) :
    toHexChars (b :: bs) =
      hexDigit (b.toNat / 16) :: hexDigit (b.toNat % 16) :: toHexChars bs := rfl

/-- Pairs of digits read as the bytes that they are written for, up to case. -/
theorem ofHexChars?_eq_some_iff {cs : List Char} {bs : Bytes} :
    ofHexChars? cs = some bs ↔ cs.map Char.toLower = toHexChars bs := by
  induction cs using ofHexChars?.induct generalizing bs with
  | case1 => cases bs <;> simp [ofHexChars?, toHexChars_nil, toHexChars_cons]
  | case2 c => cases bs <;> simp [ofHexChars?, toHexChars_nil, toHexChars_cons]
  | case3 high low rest ih =>
    cases bs with
    | nil => simp [ofHexChars?, toHexChars_nil, Option.bind_eq_some_iff]
    | cons b bs =>
      have hb : b.toNat < 256 := b.toNat_lt
      simp only [ofHexChars?, Option.bind_eq_bind, Option.bind_eq_some_iff, hexValue?_eq_some_iff,
        ih, Option.pure_def, Option.some.injEq, List.cons.injEq, toHexChars_cons, List.map_cons]
      constructor
      · rintro ⟨hi, ⟨hhi, hhigh⟩, lo, ⟨hlo, hlow⟩, _, hrest, rfl, rfl⟩
        have hvalue : (UInt8.ofNat (hi * 16 + lo)).toNat = hi * 16 + lo := by
          rw [UInt8.toNat_ofNat', Nat.mod_eq_of_lt (by omega)]
        have hdiv : (hi * 16 + lo) / 16 = hi := by omega
        have hmod : (hi * 16 + lo) % 16 = lo := by omega
        rw [hvalue, hdiv, hmod]
        exact ⟨hhigh, hlow, hrest⟩
      · rintro ⟨hhigh, hlow, hrest⟩
        refine ⟨_, ⟨by omega, hhigh⟩, _, ⟨by omega, hlow⟩, bs, hrest, ?_, rfl⟩
        rw [Nat.div_add_mod', UInt8.ofNat_toNat]

end Bytes

/-! ### Hyphens -/

namespace Uuid

variable {cs digits : List Char} {s : String} {uuid : Uuid}

theorem hyphenate_groups {a b c d e : List Char} (ha : a.length = 8) (hb : b.length = 4)
    (hc : c.length = 4) (hd : d.length = 4) :
    hyphenate (a ++ (b ++ (c ++ (d ++ e)))) =
      a ++ '-' :: (b ++ '-' :: (c ++ '-' :: (d ++ '-' :: e))) := by
  simp [hyphenate, List.drop_append, List.drop_eq_nil_of_le, ha, hb, hc, hd]

/-- A group of `k` characters from place `n` on, and the hyphen after it. -/
theorem drop_eq_group (n k : Nat) (h : cs[n + k]? = some '-') :
    cs.drop n = (cs.drop n).take k ++ '-' :: cs.drop (n + k + 1) := by
  obtain ⟨hlt, hget⟩ := List.getElem?_eq_some_iff.mp h
  rw [← hget, ← List.drop_eq_getElem_cons, ← List.drop_drop, List.take_append_drop]

theorem unhyphenate?_eq_some_iff :
    unhyphenate? cs = some digits ↔ digits.length = 32 ∧ cs = hyphenate digits := by
  constructor
  · intro h
    unfold unhyphenate? at h
    split at h
    · rename_i hform
      obtain ⟨hlength, h8, h13, h18, h23⟩ := hform
      cases h
      have hgroups : cs = cs.take 8 ++ '-' :: ((cs.drop 9).take 4 ++ '-' :: ((cs.drop 14).take 4 ++
          '-' :: ((cs.drop 19).take 4 ++ '-' :: cs.drop 24))) := by
        rw [← drop_eq_group 19 4 h23, ← drop_eq_group 14 4 h18, ← drop_eq_group 9 4 h13]
        exact drop_eq_group 0 8 h8
      rw [hyphenate_groups, ← hgroups] <;> simp [hlength]
    · cases h
  · rintro ⟨hlength, rfl⟩
    exact unhyphenate?_hyphenate hlength

/-! ### Forms -/

/-- The forms in which the digits of a UUID stand: alone, with hyphens, and with hyphens in braces
or after the name of the scheme in either case. -/
inductive IsForm (digits : List Char) : List Char → Prop where
  | plain : IsForm digits digits
  | hyphenated : IsForm digits (hyphenate digits)
  | braced : IsForm digits ('\x7b' :: (hyphenate digits ++ ['\x7d']))
  | named {scheme : List Char} (hscheme : scheme.map Char.toLower = "urn:uuid:".toList) :
      IsForm digits (scheme ++ hyphenate digits)

theorem isForm_of_digits? (h : digits? cs = some digits) :
    digits.length = 32 ∧ IsForm digits cs := by
  unfold digits? at h
  split at h
  · rename_i hlength
    cases h
    exact ⟨hlength, .plain⟩
  split at h
  · split at h
    · rename_i hbraces
      obtain ⟨tail, rfl⟩ := List.head?_eq_some_iff.mp hbraces.1
      obtain ⟨_ | ⟨_, middle⟩, hends⟩ := List.getLast?_eq_some_iff.mp hbraces.2
      · cases hends
      · rw [List.cons_append, List.cons.injEq] at hends
        obtain ⟨rfl, rfl⟩ := hends
        rw [List.drop_one, List.tail_cons, List.dropLast_concat] at h
        obtain ⟨hlength, rfl⟩ := unhyphenate?_eq_some_iff.mp h
        exact ⟨hlength, .braced⟩
    · cases h
  split at h
  · split at h
    · rename_i hscheme
      obtain ⟨hlength, heq⟩ := unhyphenate?_eq_some_iff.mp h
      rw [← List.take_append_drop 9 cs, heq]
      exact ⟨hlength, .named hscheme⟩
    · cases h
  · obtain ⟨hlength, rfl⟩ := unhyphenate?_eq_some_iff.mp h
    exact ⟨hlength, .hyphenated⟩

/-- The four forms have different lengths, so that each is read for what it is. -/
theorem IsForm.digits? (h : IsForm digits cs) (hlength : digits.length = 32) :
    digits? cs = some digits := by
  have hlong := length_hyphenate hlength
  have hread := unhyphenate?_hyphenate hlength
  cases h with
  | plain => simp [Uuid.digits?, hlength]
  | hyphenated => simp [Uuid.digits?, hlong, hread]
  | braced => simp [Uuid.digits?, hlong, hread, List.getLast?_cons]
  | @named scheme hscheme =>
    have hsize : scheme.length = 9 := by
      rw [← List.length_map (f := Char.toLower), hscheme]
      rfl
    rw [Uuid.digits?, List.length_append, hsize, hlong, List.take_left' hsize,
      List.drop_left' hsize, if_neg (by decide), if_neg (by decide), if_pos rfl, if_pos hscheme,
      hread]

theorem digits?_eq_some_iff : digits? cs = some digits ↔ digits.length = 32 ∧ IsForm digits cs :=
  ⟨isForm_of_digits?, fun h => h.2.digits? h.1⟩

/-- The spellings of a UUID: its digits in either case, in one of the forms. -/
def IsSpelling (uuid : Uuid) (s : String) : Prop :=
  ∃ digits, digits.map Char.toLower = Bytes.toHexChars uuid.bytes ∧ IsForm digits s.toList

/-- **The text of a UUID is read in all its spellings, and nothing else is.** -/
theorem parse?_eq_some_iff : parse? s = some uuid ↔ uuid.IsSpelling s := by
  simp only [parse?, Option.bind_eq_bind, Option.bind_eq_some_iff, digits?_eq_some_iff,
    Bytes.ofHexChars?_eq_some_iff, Octets.ofBytes?_eq_some_iff, IsSpelling]
  constructor
  · rintro ⟨digits, ⟨-, hform⟩, _, hdigits, rfl⟩
    exact ⟨digits, hdigits, hform⟩
  · rintro ⟨digits, hdigits, hform⟩
    have hlength : digits.length = 32 := by
      rw [← List.length_map (f := Char.toLower), hdigits, Bytes.length_toHexChars, uuid.length_eq]
    exact ⟨digits, ⟨hlength, hform⟩, _, hdigits, rfl⟩

/-! ### The spelling that is written -/

/-- A group of `k` hexadecimal digits without upper-case letters. -/
def IsGroup (k : Nat) (cs : List Char) : Prop :=
  cs.length = k ∧ ∀ c ∈ cs, '0' ≤ c ∧ c ≤ '9' ∨ 'a' ≤ c ∧ c ≤ 'f'

/-- Groups of 8, 4, 4, 4 and 12 lower-case digits, with a hyphen between each two of them. -/
def IsGrouped (s : String) : Prop :=
  ∃ a b c d e, IsGroup 8 a ∧ IsGroup 4 b ∧ IsGroup 4 c ∧ IsGroup 4 d ∧ IsGroup 12 e ∧
    s.toList = a ++ '-' :: (b ++ '-' :: (c ++ '-' :: (d ++ '-' :: e)))

theorem isGroup_append {k l : Nat} {cs ds : List Char} (hc : IsGroup k cs) (hd : IsGroup l ds) :
    IsGroup (k + l) (cs ++ ds) := by
  refine ⟨by rw [List.length_append, hc.1, hd.1], fun c hmem => ?_⟩
  exact (List.mem_append.mp hmem).elim (hc.2 c) (hd.2 c)

theorem isGroup_take {k : Nat} (h : IsGroup k cs) {n : Nat} (hn : n ≤ k) :
    IsGroup n (cs.take n) :=
  ⟨by rw [List.length_take, h.1, Nat.min_eq_left hn],
    fun c hmem => h.2 c (List.mem_of_mem_take hmem)⟩

theorem isGroup_drop {k : Nat} (h : IsGroup k cs) (n : Nat) : IsGroup (k - n) (cs.drop n) :=
  ⟨by rw [List.length_drop, h.1], fun c hmem => h.2 c (List.mem_of_mem_drop hmem)⟩

theorem map_toLower_of_isGroup {k : Nat} (h : IsGroup k cs) : cs.map Char.toLower = cs := by
  refine (List.map_congr_left fun c hmem => ?_).trans (List.map_id cs)
  refine dif_neg fun hupper => ?_
  rcases h.2 c hmem with hdigit | hletter
  · exact absurd (Char.le_trans hupper.1 hdigit.2) (by decide)
  · exact absurd (Char.le_trans hletter.1 hupper.2) (by decide)

theorem isGroup_toHexChars (bs : Bytes) : IsGroup (2 * bs.length) (Bytes.toHexChars bs) := by
  have hdigit : ∀ n < 16, '0' ≤ Bytes.hexDigit n ∧ Bytes.hexDigit n ≤ '9' ∨
      'a' ≤ Bytes.hexDigit n ∧ Bytes.hexDigit n ≤ 'f' := by decide
  refine ⟨Bytes.length_toHexChars bs, ?_⟩
  induction bs with
  | nil => simp [Bytes.toHexChars_nil]
  | cons b bs ih =>
    have hb : b.toNat < 256 := b.toNat_lt
    intro c hmem
    rw [Bytes.toHexChars_cons, List.mem_cons, List.mem_cons] at hmem
    rcases hmem with rfl | rfl | hmem
    · exact hdigit (b.toNat / 16) (by omega)
    · exact hdigit (b.toNat % 16) (by omega)
    · exact ih c hmem

theorem isGrouped_text (uuid : Uuid) : IsGrouped uuid.text := by
  have hdigits : IsGroup 32 (Bytes.toHexChars uuid.bytes) := by
    have hgroup := isGroup_toHexChars uuid.bytes
    rwa [uuid.length_eq] at hgroup
  exact ⟨_, _, _, _, _, isGroup_take hdigits (by decide),
    isGroup_take (isGroup_drop hdigits 8) (by decide),
    isGroup_take (isGroup_drop hdigits 12) (by decide),
    isGroup_take (isGroup_drop hdigits 16) (by decide), isGroup_drop hdigits 20,
    String.toList_ofList⟩

/-- **The text of a UUID is its one spelling in groups of lower-case digits.** -/
theorem eq_text_iff : s = uuid.text ↔ IsGrouped s ∧ parse? s = some uuid := by
  constructor
  · rintro rfl
    exact ⟨isGrouped_text uuid, parse?_text uuid⟩
  · rintro ⟨⟨a, b, c, d, e, ha, hb, hc, hd, he, hs⟩, hparse⟩
    have hdigits : IsGroup 32 (a ++ (b ++ (c ++ (d ++ e)))) :=
      isGroup_append ha (isGroup_append hb (isGroup_append hc (isGroup_append hd he)))
    -- The digits are read in either case, and these are in lower case already.
    rw [← hyphenate_groups ha.1 hb.1 hc.1 hd.1] at hs
    have hread := IsForm.hyphenated.digits? hdigits.1
    simp only [parse?, hs, hread, Option.bind_eq_bind, Option.bind_some, Option.bind_eq_some_iff,
      Bytes.ofHexChars?_eq_some_iff, Octets.ofBytes?_eq_some_iff,
      map_toLower_of_isGroup hdigits] at hparse
    obtain ⟨_, hchars, rfl⟩ := hparse
    rw [text, ← hchars, ← hs, String.ofList_toList]

end Uuid
end PackedAttestation
