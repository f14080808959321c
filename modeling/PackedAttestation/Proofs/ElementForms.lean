import PackedAttestation.Proofs.ElementWriting

/-! # The forms of an element

The readers of elements are lenient: a tag number and a length may each be spelled in more ways
than one.  The forms are described here byte by byte, without the readers, and each reader is
shown to take exactly the forms off the front of its input (`ReadsExactly`): those of a header
(`Header.readsExactly`), of an element with a given tag number (`readContent_readsExactly`) and
of an INTEGER (`readInteger_readsExactly`).  Such a reader never looks past the form that it
takes (`ReadsExactly.read_append`), and of two forms neither is the beginning of the other
(`ReadsExactly.unique`).
-/
namespace PackedAttestation.Der

/-! ### Readers and forms -/

section Readers

variable {α : Type} {IsForm : α → Bytes → Prop} {read : Bytes → Except Fault (α × Bytes)}
  {a b : α} {bs rest rest' : Bytes}

/-- The bytes are a form of `a`, and then `rest`. -/
def StartsWith (IsForm : α → Bytes → Prop) (bs : Bytes) (a : α) (rest : Bytes) : Prop :=
  ∃ form, IsForm a form ∧ bs = form ++ rest

theorem StartsWith.append (h : StartsWith IsForm bs a rest) (more : Bytes) :
    StartsWith IsForm (bs ++ more) a (rest ++ more) := by
  obtain ⟨form, hform, rfl⟩ := h
  exact ⟨form, hform, List.append_assoc form rest more⟩

/-- A reader takes the forms of values off the front of its input, and nothing else. -/
def ReadsExactly (read : Bytes → Except Fault (α × Bytes)) (IsForm : α → Bytes → Prop) : Prop :=
  ∀ bs a rest, read bs = .ok (a, rest) ↔ StartsWith IsForm bs a rest

namespace ReadsExactly

theorem read_form (h : ReadsExactly read IsForm) {form : Bytes} (hform : IsForm a form)
    (rest : Bytes) : read (form ++ rest) = .ok (a, rest) :=
  (h _ a rest).mpr ⟨form, hform, rfl⟩

/-- What follows a form makes no difference. -/
theorem read_append (h : ReadsExactly read IsForm) (hread : read bs = .ok (a, rest))
    (more : Bytes) : read (bs ++ more) = .ok (a, rest ++ more) :=
  (h _ _ _).mpr (((h bs a rest).mp hread).append more)

/-- Bytes start with one form at most. -/
theorem unique (h : ReadsExactly read IsForm) (hstarts : StartsWith IsForm bs a rest)
    (hstarts' : StartsWith IsForm bs b rest') : a = b ∧ rest = rest' := by
  rw [← h] at hstarts hstarts'
  cases hstarts.symm.trans hstarts'
  exact ⟨rfl, rfl⟩

/-- Of two inputs that are read to their end, neither is the beginning of the other. -/
theorem eq_of_prefix (h : ReadsExactly read IsForm) {bs' : Bytes} (hread : read bs = .ok (a, []))
    (hread' : read bs' = .ok (b, [])) (hbegins : bs <+: bs') : bs = bs' := by
  obtain ⟨more, rfl⟩ := hbegins
  cases (h.read_append hread more).symm.trans hread'
  rw [List.append_nil]

/-- What is said of some form that bytes start with is said of the one that they do. -/
theorem exists_iff (h : ReadsExactly read IsForm) (hstarts : StartsWith IsForm bs a rest)
    {p : α → Bytes → Prop} :
    (∃ b rest', StartsWith IsForm bs b rest' ∧ p b rest') ↔ p a rest := by
  refine ⟨?_, fun hp => ⟨a, rest, hstarts, hp⟩⟩
  rintro ⟨b, rest', hstarts', hp⟩
  obtain ⟨rfl, rfl⟩ := h.unique hstarts hstarts'
  exact hp

end ReadsExactly
end Readers

/-! ### Tag numbers -/

/-- The number that octets spell after `acc`, with seven bits from each. -/
def base128 (acc : Nat) (octets : Bytes) : Nat :=
  octets.foldl (fun n b => n * 128 + b.toNat % 128) acc

/-- The octets of a multi-byte tag number, five at most: the last one, and no other, has its top
bit clear. Of the number that they spell the last 32 bits count. -/
def IsTagNumber (number : Nat) (octets : Bytes) : Prop :=
  ∃ more last, octets = more ++ [last] ∧ more.length < 5 ∧ (∀ b ∈ more, 128 ≤ b) ∧ last < 128 ∧
    number = base128 0 octets % UInt32.size

/-- Identifier octets: the class in two bits, the constructed bit, and the tag number in five
bits, or in further octets if all five bits are set. -/
def Identifier.IsForm (i : Identifier) (form : Bytes) : Prop :=
  ∃ lead more, form = lead :: more ∧ i.cls = TagClass.ofBits (lead.toNat / 64) ∧
    i.constructed = (lead.toNat / 32 % 2 == 1) ∧
    (lead.toNat % 32 ≠ 31 ∧ more = [] ∧ i.number = lead.toNat % 32 ∨
      lead.toNat % 32 = 31 ∧ IsTagNumber i.number more)

theorem base128_cons (acc : Nat) (b : UInt8) (octets : Bytes) :
    base128 acc (b :: octets) = base128 (acc * 128 + b.toNat % 128) octets :=
  rfl

/-- Cutting off the high bits on the way makes no difference in the end. -/
theorem base128_mod (acc : Nat) (octets : Bytes) :
    base128 (acc % UInt32.size) octets % UInt32.size = base128 acc octets % UInt32.size := by
  induction octets generalizing acc with
  | nil => exact Nat.mod_mod acc UInt32.size
  | cons b octets ih =>
    have hstep : (acc % UInt32.size * 128 + b.toNat % 128) % UInt32.size =
        (acc * 128 + b.toNat % 128) % UInt32.size := by
      rw [show UInt32.size = 2 ^ 32 from rfl]
      omega
    rw [base128_cons, base128_cons, ← ih, hstep, ih]

theorem Identifier.readNumber_eq_ok_iff {fuel acc n : Nat} {bs rest : Bytes} :
    readNumber fuel acc bs = .ok (n, rest) ↔
      ∃ more last, bs = more ++ last :: rest ∧ more.length < fuel ∧ (∀ b ∈ more, 128 ≤ b) ∧
        last < 128 ∧ n = base128 acc (more ++ [last]) % UInt32.size := by
  -- The reader cuts to 32 bits at each octet, the form at the end: `base128_mod` both ways.
  induction fuel generalizing acc bs with
  | zero => simp [readNumber]
  | succ fuel ih =>
    cases bs with
    | nil => simp [readNumber]
    | cons b bs =>
      simp only [readNumber]
      by_cases hb : b < 128
      · rw [if_pos hb]
        constructor
        · rintro ⟨⟩
          exact ⟨[], b, rfl, Nat.succ_pos fuel, by simp, hb, rfl⟩
        · rintro ⟨_ | ⟨c, more⟩, last, heq, -, hmore, -, rfl⟩
          · cases heq
            rfl
          · cases heq
            exact absurd hb (UInt8.not_lt.mpr (hmore b List.mem_cons_self))
      · rw [if_neg hb, ih]
        constructor
        · rintro ⟨more, last, rfl, hlength, hmore, hlast, rfl⟩
          refine ⟨b :: more, last, rfl, Nat.succ_lt_succ hlength, ?_, hlast, base128_mod _ _⟩
          exact List.forall_mem_cons.mpr ⟨UInt8.not_lt.mp hb, hmore⟩
        · rintro ⟨_ | ⟨c, more⟩, last, heq, hlength, hmore, hlast, rfl⟩
          · cases heq
            exact absurd hlast hb
          · cases heq
            refine ⟨more, last, rfl, Nat.lt_of_succ_lt_succ hlength,
              (List.forall_mem_cons.mp hmore).2, hlast, ?_⟩
            rw [base128_mod, List.cons_append, base128_cons]

theorem Identifier.readNumber_readsExactly : ReadsExactly (readNumber 5 0) IsTagNumber := by
  intro bs n rest
  rw [readNumber_eq_ok_iff]
  constructor
  · rintro ⟨more, last, rfl, hlength, hmore, hlast, rfl⟩
    exact ⟨more ++ [last], ⟨more, last, rfl, hlength, hmore, hlast, rfl⟩, by simp⟩
  · rintro ⟨_, ⟨more, last, rfl, hlength, hmore, hlast, rfl⟩, rfl⟩
    exact ⟨more, last, by simp, hlength, hmore, hlast, rfl⟩

theorem Identifier.readsExactly : ReadsExactly read IsForm := by
  intro bs i rest
  cases bs with
  | nil => simp [read, StartsWith, IsForm]
  | cons lead bs =>
    simp only [read]
    constructor
    · intro h
      split at h
      · rename_i hlead
        split at h
        · cases h
        rename_i number after hnumber
        cases h
        obtain ⟨more, hmore, rfl⟩ := (readNumber_readsExactly _ _ _).mp hnumber
        exact ⟨lead :: more, ⟨lead, more, rfl, rfl, rfl, .inr ⟨hlead, hmore⟩⟩, rfl⟩
      · rename_i hlead
        cases h
        exact ⟨[lead], ⟨lead, [], rfl, rfl, rfl, .inl ⟨hlead, rfl, rfl⟩⟩, rfl⟩
    · obtain ⟨cls, constructed, number⟩ := i
      rintro ⟨_, ⟨lead', more, rfl, hcls, hconstructed, hnumber⟩, heq⟩
      dsimp only at hcls hconstructed hnumber
      rw [List.cons_append, List.cons.injEq] at heq
      obtain ⟨rfl, rfl⟩ := heq
      obtain ⟨hlead, rfl, rfl⟩ | ⟨hlead, hnumber⟩ := hnumber
      · rw [if_neg hlead, hcls, hconstructed]
        rfl
      · have hread := readNumber_readsExactly.read_form hnumber rest
        rw [if_pos hlead, hread, hcls, hconstructed]

/-! ### Lengths -/

/-- Length octets for content of `n` bytes: one octet below 128, or the count of further octets
with the top bit set, and then these, from one to 126 of them, with zeros in front or without.
A length fits 64 bits. -/
def IsLengthForm (n : Nat) (form : Bytes) : Prop :=
  n < 128 ∧ form = [UInt8.ofNat n] ∨
    ∃ digits, digits ≠ [] ∧ digits.length ≤ 126 ∧ Bytes.toNat digits = n ∧ n < UInt64.size ∧
      form = UInt8.ofNat (128 + digits.length) :: digits

/-- Identifier octets, then length octets. -/
def Header.IsForm (header : Header) (form : Bytes) : Prop :=
  ∃ identifier length, header.identifier.IsForm identifier ∧ IsLengthForm header.length length ∧
    form = identifier ++ length

/-- An octet that tells the count of further ones. -/
theorem isCountOctet_iff {b : UInt8} :
    ¬b < 128 ∧ b ≠ 128 ∧ b ≠ 255 ↔ 128 < b.toNat ∧ b.toNat < 255 := by
  have hb : b.toNat < 256 := b.toNat_lt
  rw [UInt8.lt_iff_toNat_lt, Ne, Ne, ← UInt8.toNat_inj, ← UInt8.toNat_inj]
  change ¬b.toNat < 128 ∧ ¬b.toNat = 128 ∧ ¬b.toNat = 255 ↔ _
  omega

theorem Extent.read_eq_ok_definite_iff {bs rest : Bytes} {n : Nat} :
    read bs = .ok (.definite n, rest) ↔ StartsWith IsLengthForm bs n rest := by
  constructor
  · intro h
    cases bs with
    | nil => cases h
    | cons b bs =>
      simp only [read] at h
      split at h
      · rename_i hlow
        cases h
        exact ⟨[b], .inl ⟨UInt8.lt_iff_toNat_lt.mp hlow, by rw [UInt8.ofNat_toNat]⟩, rfl⟩
      rename_i hhigh
      split at h
      · cases h
      rename_i hdefinite
      split at h
      · rename_i hfits
        obtain ⟨hreserved, hcount, hsize⟩ := hfits
        rw [Except.ok.injEq, Prod.mk.injEq, Extent.definite.injEq] at h
        obtain ⟨rfl, rfl⟩ := h
        obtain ⟨hmany, hfew⟩ := isCountOctet_iff.mp ⟨hhigh, hdefinite, hreserved⟩
        have hlength : (bs.take (b.toNat - 128)).length = b.toNat - 128 :=
          List.length_take_of_le hcount
        refine ⟨b :: bs.take (b.toNat - 128), .inr ⟨_, ?_, ?_, rfl, hsize, ?_⟩, ?_⟩
        · rw [← List.length_pos_iff, hlength]
          omega
        · rw [hlength]
          omega
        · rw [hlength, Nat.add_sub_cancel' hmany.le, UInt8.ofNat_toNat]
        · rw [List.cons_append, List.take_append_drop]
      · cases h
  · rintro ⟨form, ⟨hlow, rfl⟩ | ⟨digits, hne, hcount, rfl, hsize, rfl⟩, rfl⟩
    · rw [List.singleton_append, read, if_pos (lengthOctet_lt hlow), toNat_lengthOctet hlow]
    · have hoctet := toNat_countOctet (Nat.lt_of_le_of_lt hcount (by decide))
      have hpos : 0 < digits.length := List.length_pos_iff.mpr hne
      obtain ⟨hhigh, hdefinite, hreserved⟩ := isCountOctet_iff.mpr
        (show 128 < (UInt8.ofNat (128 + digits.length)).toNat ∧ _ by omega)
      have hlength : digits.length ≤ (digits ++ rest).length := by simp
      rw [List.cons_append, read, if_neg hhigh, if_neg hdefinite]
      simp only [hoctet, Nat.add_sub_cancel_left, List.take_left, List.drop_left]
      rw [if_pos ⟨hreserved, hlength, hsize⟩]

theorem Header.readsExactly : ReadsExactly read IsForm := by
  intro bs header rest
  rw [read_eq_ok_iff]
  constructor
  · rintro ⟨after, hidentifier, hextent⟩
    obtain ⟨identifier, hform, rfl⟩ := (Identifier.readsExactly _ _ _).mp hidentifier
    obtain ⟨length, hlength, rfl⟩ := Extent.read_eq_ok_definite_iff.mp hextent
    exact ⟨identifier ++ length, ⟨identifier, length, hform, hlength, rfl⟩, by simp⟩
  · rintro ⟨_, ⟨identifier, length, hidentifier, hlength, rfl⟩, rfl⟩
    rw [List.append_assoc]
    exact ⟨length ++ rest, Identifier.readsExactly.read_form hidentifier _,
      Extent.read_eq_ok_definite_iff.mpr ⟨length, hlength, rfl⟩⟩

/-! ### Elements -/

/-- An element with the tag number `number`, of any class, around `content`. -/
def IsTagged (number : Nat) (content form : Bytes) : Prop :=
  ∃ identifier head, identifier.number = number ∧
    Header.IsForm ⟨identifier, content.length⟩ head ∧ form = head ++ content

/-- The content follows the header, and is as long as the header says. -/
theorem startsWith_isTagged_iff {number : Nat} {bs content rest : Bytes} :
    StartsWith (IsTagged number) bs content rest ↔
      ∃ header after, StartsWith Header.IsForm bs header after ∧
        header.identifier.number = number ∧ content.length = header.length ∧
        after = content ++ rest := by
  constructor
  · rintro ⟨_, ⟨identifier, head, hnumber, hhead, rfl⟩, rfl⟩
    exact ⟨_, _, ⟨head, hhead, List.append_assoc head content rest⟩, hnumber, rfl, rfl⟩
  · rintro ⟨⟨identifier, length⟩, _, ⟨head, hhead, rfl⟩, hnumber, rfl, rfl⟩
    exact ⟨_, ⟨identifier, head, hnumber, hhead, rfl⟩, (List.append_assoc head content rest).symm⟩

theorem readContent_readsExactly (number : Nat) :
    ReadsExactly (readContent number) (IsTagged number) := by
  intro bs content rest
  rw [readContent, startsWith_isTagged_iff]
  constructor
  · intro h
    split at h
    · cases h
    rename_i header after hheader
    rw [Header.readsExactly] at hheader
    split at h
    · cases h
    rename_i hnumber
    rw [Decidable.not_not] at hnumber
    split at h
    · rename_i hlength
      cases h
      exact ⟨header, after, hheader, hnumber, List.length_take_of_le hlength,
        (List.take_append_drop header.length after).symm⟩
    · cases h
  · rintro ⟨header, _, hheader, hnumber, hlength, rfl⟩
    rw [← Header.readsExactly] at hheader
    simp [hheader, hnumber, ← hlength]

/-! ### Numbers -/

/-- The content of an INTEGER: at least one byte, and no byte `00` in front of one whose top bit
is clear. -/
structure IsIntegerContent (content : Bytes) : Prop where
  ne_nil : content ≠ []
  minimal : ∀ b rest, content = 0 :: b :: rest → 128 ≤ b

/-- The first bit is set, which marks a negative number. -/
def TopBitSet (content : Bytes) : Prop :=
  ∃ b ∈ content.head?, 128 ≤ b

/-- An INTEGER of any class, around its content. -/
def IsInteger (content form : Bytes) : Prop :=
  IsTagged Tag.integer content form ∧ IsIntegerContent content

theorem integerContentOk_iff {content : Bytes} :
    integerContentOk content = true ↔ IsIntegerContent content := by
  constructor
  · intro h
    refine ⟨?_, ?_⟩
    · rintro rfl
      cases h
    · rintro b rest rfl
      simpa [integerContentOk] using h
  · rintro ⟨hne, hminimal⟩
    rw [integerContentOk.eq_def]
    split
    · exact absurd rfl hne
    · rename_i b rest
      simpa using hminimal b rest rfl
    · rfl

theorem isNegative_iff {content : Bytes} : isNegative content = true ↔ TopBitSet content := by
  cases content <;> simp [isNegative, TopBitSet]

theorem startsWith_isInteger_iff {bs content rest : Bytes} :
    StartsWith IsInteger bs content rest ↔
      StartsWith (IsTagged Tag.integer) bs content rest ∧ IsIntegerContent content := by
  simp only [StartsWith, IsInteger, and_right_comm, exists_and_right]

theorem readInteger_readsExactly : ReadsExactly readInteger IsInteger := by
  intro bs content rest
  rw [readInteger, startsWith_isInteger_iff, ← readContent_readsExactly, ← integerContentOk_iff]
  cases readContent Tag.integer bs with
  | error fault => simp
  | ok result =>
    obtain ⟨content', rest'⟩ := result
    dsimp only
    constructor
    · intro h
      split at h
      · rename_i hok
        cases h
        exact ⟨rfl, hok⟩
      · cases h
    · rintro ⟨heq, hok⟩
      cases heq
      rw [if_pos hok]

end PackedAttestation.Der
