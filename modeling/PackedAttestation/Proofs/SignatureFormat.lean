import PackedAttestation.Proofs.ElementForms
import PackedAttestation.Proofs.SelfVerification

/-! # The format of a signature

The lenient reader of signatures takes a sequence of two INTEGERs that are not negative, with
every spelling of the three tag numbers and of the three lengths (`Signature.readsExactly`).
`Signature.ofDer_format` says this of inputs that the reader takes to their end, and what
follows: the contents of the two INTEGERs are decided by the numbers, and no such input is the
beginning of another one.
-/
namespace PackedAttestation

open Bytes (Shortest)

namespace Der

variable {content m : Bytes} {fault : Fault}

theorem magnitude_eq_ok_iff :
    magnitude content = .ok m ↔ ¬TopBitSet content ∧ m = Bytes.dropZeros content := by
  rw [magnitude, ← isNegative_iff]
  split
  · rename_i hnegative
    simp [hnegative]
  · rename_i hpositive
    simp [hpositive, eq_comm]

theorem magnitude_eq_error_iff :
    magnitude content = .error fault ↔ TopBitSet content ∧ fault = .invalidValue := by
  rw [magnitude, ← isNegative_iff]
  split
  · rename_i hnegative
    simp [hnegative, eq_comm]
  · rename_i hpositive
    simp [hpositive]

/-- Without a sign, the content of an INTEGER is decided by the magnitude. -/
theorem IsIntegerContent.eq_of_dropZeros {content' : Bytes} (h : IsIntegerContent content)
    (h' : IsIntegerContent content') (hsign : ¬TopBitSet content) (hsign' : ¬TopBitSet content')
    (heq : Bytes.dropZeros content = Bytes.dropZeros content') : content = content' := by
  rw [← integerContentOk_iff] at h h'
  rw [← isNegative_iff, Bool.not_eq_true] at hsign hsign'
  rw [eq_unsignedContent_of_ok h hsign, heq, ← eq_unsignedContent_of_ok h' hsign']

/-- The identifier octet of a universal type with a tag number in five bits. -/
theorem Identifier.isForm_singleton {lead : UInt8} {number : Nat}
    (hlead : lead.toNat % 32 = number) (hnumber : number ≠ 31) :
    IsForm ⟨TagClass.ofBits (lead.toNat / 64), lead.toNat / 32 % 2 == 1, number⟩ [lead] :=
  ⟨lead, [], rfl, rfl, rfl, .inl ⟨hlead ▸ hnumber, rfl, hlead.symm⟩⟩

/-- An element with the identifier octet `lead`, and any spelling of its length. -/
def IsLedBy (lead : UInt8) (content form : Bytes) : Prop :=
  ∃ length, IsLengthForm content.length length ∧ form = lead :: (length ++ content)

theorem IsLedBy.isTagged {lead : UInt8} {number : Nat} {form : Bytes}
    (h : IsLedBy lead content form) (hlead : lead.toNat % 32 = number) (hnumber : number ≠ 31) :
    IsTagged number content form := by
  obtain ⟨length, hlength, rfl⟩ := h
  exact ⟨_, lead :: length, rfl,
    ⟨[lead], length, Identifier.isForm_singleton hlead hnumber, hlength, rfl⟩, rfl⟩

end Der

namespace Ecdsa.Signature

open Der

variable {signature : Signature} {bs rest content : Bytes}

/-- A sequence of two INTEGERs with the contents `r` and `s`, neither of them negative. -/
def IsSequence (r s form : Bytes) : Prop :=
  (∃ first second, IsInteger r first ∧ IsInteger s second ∧
    IsTagged Tag.sequence (first ++ second) form) ∧ ¬TopBitSet r ∧ ¬TopBitSet s

/-- A sequence of two INTEGERs whose magnitudes are the numbers of a signature. -/
def IsForm (signature : Signature) (form : Bytes) : Prop :=
  ∃ r s, IsSequence r s form ∧ signature = ⟨Bytes.dropZeros r, Bytes.dropZeros s⟩

theorem ofContent_eq_ok_iff :
    ofContent content = .ok signature ↔ ∃ r s rest,
      readInteger content = .ok (r, rest) ∧ readInteger rest = .ok (s, []) ∧
      magnitude r = .ok signature.r ∧ magnitude s = .ok signature.s := by
  rw [ofContent]
  constructor
  · intro h
    split at h
    · cases h
    rename_i r rest hr
    split at h
    · cases h
    rename_i s left hs
    split at h
    · cases h
    rename_i hleft
    obtain rfl := Decidable.not_not.mp hleft
    split at h
    · cases h
    rename_i hmagnitude
    split at h
    · cases h
    rename_i hmagnitude'
    cases h
    exact ⟨r, s, rest, hr, hs, hmagnitude, hmagnitude'⟩
  · rintro ⟨r, s, rest, hr, hs, hmagnitude, hmagnitude'⟩
    simp [hr, hs, hmagnitude, hmagnitude']

/-- In a whole sequence the content decides. -/
theorem read_of_readContent (h : readContent Tag.sequence bs = .ok (content, rest)) :
    read bs = (ofContent content).map fun signature => (signature, rest) := by
  rw [readContent] at h
  split at h
  · cases h
  rename_i hheader
  split at h
  · cases h
  rename_i hnumber
  split at h
  · rename_i hlength
    cases h
    simp only [read, hheader, if_neg (Nat.not_lt_of_le hlength), if_neg hnumber]
    cases ofContent _ <;> rfl
  · cases h

theorem read_eq_ok_iff :
    read bs = .ok (signature, rest) ↔ ∃ content,
      readContent Tag.sequence bs = .ok (content, rest) ∧ ofContent content = .ok signature := by
  constructor
  · intro h
    rw [read] at h
    split at h
    · cases h
    rename_i hheader
    split at h
    · cases h
    rename_i hlength
    split at h
    · cases h
    rename_i hnumber
    split at h
    · cases h
    rename_i hcontent
    cases h
    simp only [readContent, hheader, if_neg hnumber, if_pos (Nat.le_of_not_lt hlength)]
    exact ⟨_, rfl, hcontent⟩
  · rintro ⟨content, h, hcontent⟩
    rw [read_of_readContent h, hcontent]
    rfl

/-- **The reader takes sequences of two INTEGERs that are not negative.** -/
theorem readsExactly : ReadsExactly read IsForm := by
  intro bs signature rest
  rw [read_eq_ok_iff]
  constructor
  · rintro ⟨content, hcontent, hok⟩
    obtain ⟨form, hform, rfl⟩ := (readContent_readsExactly _ _ _ _).mp hcontent
    obtain ⟨r, s, rest', hr, hs, hmagnitude, hmagnitude'⟩ := ofContent_eq_ok_iff.mp hok
    obtain ⟨first, hfirst, rfl⟩ := (readInteger_readsExactly _ _ _).mp hr
    obtain ⟨second, hsecond, rfl⟩ := (readInteger_readsExactly _ _ _).mp hs
    rw [List.append_nil] at hform
    obtain ⟨hsign, hr⟩ := magnitude_eq_ok_iff.mp hmagnitude
    obtain ⟨hsign', hs⟩ := magnitude_eq_ok_iff.mp hmagnitude'
    refine ⟨form, ⟨r, s, ⟨⟨first, second, hfirst, hsecond, hform⟩, hsign, hsign'⟩, ?_⟩, rfl⟩
    rw [← hr, ← hs]
  · rintro ⟨form, ⟨r, s, ⟨⟨first, second, hfirst, hsecond, hform⟩, hsign, hsign'⟩, rfl⟩, rfl⟩
    refine ⟨first ++ second, (readContent_readsExactly _).read_form hform rest, ?_⟩
    have hs := readInteger_readsExactly.read_form hsecond []
    rw [List.append_nil] at hs
    exact ofContent_eq_ok_iff.mpr ⟨r, s, second, readInteger_readsExactly.read_form hfirst second,
      hs, magnitude_eq_ok_iff.mpr ⟨hsign, rfl⟩, magnitude_eq_ok_iff.mpr ⟨hsign', rfl⟩⟩

theorem ofDer_eq_ok_iff_isForm : ofDer bs = .ok signature ↔ signature.IsForm bs := by
  rw [ofDer_eq_ok_iff, readsExactly, StartsWith]
  simp

theorem IsSequence.ofDer {r s : Bytes} (h : IsSequence r s bs) :
    ofDer bs = .ok ⟨Bytes.dropZeros r, Bytes.dropZeros s⟩ :=
  ofDer_eq_ok_iff_isForm.mpr ⟨r, s, h, rfl⟩

theorem IsSequence.isIntegerContent {r s : Bytes} (h : IsSequence r s bs) :
    IsIntegerContent r ∧ IsIntegerContent s := by
  obtain ⟨⟨first, second, ⟨-, hr⟩, ⟨-, hs⟩, -⟩, -⟩ := h
  exact ⟨hr, hs⟩

/-- Sequences that are read as the same signature have the same contents of the INTEGERs. -/
theorem IsSequence.eq_of_ofDer {r s r' s' bs' : Bytes} (h : IsSequence r s bs)
    (h' : IsSequence r' s' bs') (heq : Signature.ofDer bs = Signature.ofDer bs') :
    r = r' ∧ s = s' := by
  rw [h.ofDer, h'.ofDer, Except.ok.injEq, mk.injEq] at heq
  obtain ⟨hr, hs⟩ := h.isIntegerContent
  obtain ⟨hr', hs'⟩ := h'.isIntegerContent
  obtain ⟨-, hsign, hsign'⟩ := h
  obtain ⟨-, hsign'', hsign'''⟩ := h'
  exact ⟨hr.eq_of_dropZeros hr' hsign hsign'' heq.1, hs.eq_of_dropZeros hs' hsign' hsign''' heq.2⟩

/-- `number` is the number that `content` spells, without zero bytes in front. -/
def Tells (content number : Bytes) : Prop :=
  Shortest number ∧ Bytes.toNat number = Bytes.toNat content

theorem tells_dropZeros (content : Bytes) : Tells content (Bytes.dropZeros content) :=
  ⟨Bytes.shortest_dropZeros content, Bytes.toNat_dropZeros content⟩

/-- **The reader accepts exactly its format.** What it takes to the end is a sequence of two
INTEGERs that are not negative, and it tells their numbers. Where the identifier octets are `30`
and `02`, all such sequences of fewer than `2 ^ 32` bytes are accepted, with every spelling of
the lengths. Inputs for the same numbers have the same contents of the INTEGERs, so they differ
in headers only, and of two different inputs that are accepted neither is the beginning of the
other. -/
theorem ofDer_format :
    (∀ sig signature, ofDer sig = .ok signature → ∃ r s, IsSequence r s sig ∧
      Tells r signature.r ∧ Tells s signature.s) ∧
    (∀ r s first second sig,
      IsIntegerContent r → ¬TopBitSet r → IsIntegerContent s → ¬TopBitSet s →
      IsLedBy 0x02 r first → IsLedBy 0x02 s second → IsLedBy 0x30 (first ++ second) sig →
      sig.length < 2 ^ 32 →
      ∃ signature, ofDer sig = .ok signature ∧ Tells r signature.r ∧ Tells s signature.s) ∧
    (∀ sig sig' r s r' s', IsSequence r s sig → IsSequence r' s' sig' → ofDer sig = ofDer sig' →
      r = r' ∧ s = s') ∧
    (∀ sig sig' signature signature', ofDer sig = .ok signature → ofDer sig' = .ok signature' →
      sig <+: sig' → sig = sig') := by
  refine ⟨?sound, ?complete, ?contents, ?selfDelimiting⟩
  case sound =>
    intro sig signature h
    obtain ⟨r, s, hsequence, rfl⟩ := ofDer_eq_ok_iff_isForm.mp h
    exact ⟨r, s, hsequence, tells_dropZeros r, tells_dropZeros s⟩
  case complete =>
    intro r s first second sig hr hsign hs hsign' hfirst hsecond hsig _
    have hsequence : IsSequence r s sig :=
      ⟨⟨first, second, ⟨hfirst.isTagged (by decide) (by decide), hr⟩,
        ⟨hsecond.isTagged (by decide) (by decide), hs⟩,
        hsig.isTagged (by decide) (by decide)⟩, hsign, hsign'⟩
    exact ⟨_, hsequence.ofDer, tells_dropZeros r, tells_dropZeros s⟩
  case contents =>
    intro sig sig' r s r' s' h h' heq
    exact h.eq_of_ofDer h' heq
  case selfDelimiting =>
    intro sig sig' signature signature' h h' hbegins
    rw [ofDer_eq_ok_iff] at h h'
    exact readsExactly.eq_of_prefix h h' hbegins

/-- Other headers around the same two numbers: a tag number in a further octet, other classes,
and lengths in more octets than they need. -/
example : ofDer [0x3f, 0x10, 0x81, 0x08, 0x02, 0x82, 0x00, 0x01, 0x07, 0xc2, 0x01, 0x09] =
    ofDer [0x30, 0x06, 0x02, 0x01, 0x07, 0x02, 0x01, 0x09] := by
  rfl

end Ecdsa.Signature
end PackedAttestation
