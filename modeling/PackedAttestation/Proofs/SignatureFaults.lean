import PackedAttestation.Proofs.ElementFaults
import PackedAttestation.Proofs.ErrorOrder
import PackedAttestation.Proofs.Noninterference
import PackedAttestation.Proofs.SignatureFormat

/-! # Why a signature is malformed

The reader of signatures makes nine checks, and its fault is that of the first one that fails
(`Signature.ofDer_eq_error_iff`).  Which faults there are is said of each check on its own, from
the forms of headers, contents and INTEGERs.
-/
namespace PackedAttestation

namespace Ecdsa.Signature

open Der

variable {bs rest content after left r s : Bytes} {header : Header} {fault : Fault}

/-! ### The checks -/

/-- A check of an encoded signature. -/
inductive Check where
  | headerReads
  /-- The content is as long as the header says. -/
  | contentPresent
  | isSequence
  | rReads
  | sReads
  /-- Nothing is left of the content after the two INTEGERs. -/
  | contentEnds
  | rNotNegative
  | sNotNegative
  /-- Nothing comes after the sequence. -/
  | inputEnds

/-- The checks of an encoded signature, in order. -/
def Check.order : List Check :=
  [.headerReads, .contentPresent, .isSequence, .rReads, .sReads, .contentEnds, .rNotNegative,
    .sNotNegative, .inputEnds]

/-- When a check fails, and with which fault. What a check looks at must be there, and whether
the other checks fail makes no difference. -/
def FailsWith (bs : Bytes) : Check → Fault → Prop
  | .headerReads, fault => HeaderFault bs fault
  | .contentPresent, fault => ∃ header rest, StartsWith Header.IsForm bs header rest ∧
      rest.length < header.length ∧ fault = .overrun
  | .isSequence, fault => ∃ header rest, StartsWith Header.IsForm bs header rest ∧
      header.identifier.number ≠ Tag.sequence ∧ fault = .wrongType
  | .rReads, fault => ∃ content after, StartsWith (IsTagged Tag.sequence) bs content after ∧
      IntegerFault content fault
  | .sReads, fault => ∃ content after, StartsWith (IsTagged Tag.sequence) bs content after ∧
      ∃ r rest, StartsWith IsInteger content r rest ∧ IntegerFault rest fault
  | .contentEnds, fault => ∃ content after, StartsWith (IsTagged Tag.sequence) bs content after ∧
      ∃ r rest, StartsWith IsInteger content r rest ∧ ∃ s left, StartsWith IsInteger rest s left ∧
      left ≠ [] ∧ fault = .invalidLength
  | .rNotNegative, fault => ∃ content after, StartsWith (IsTagged Tag.sequence) bs content after ∧
      ∃ r rest, StartsWith IsInteger content r rest ∧ TopBitSet r ∧ fault = .invalidValue
  | .sNotNegative, fault => ∃ content after, StartsWith (IsTagged Tag.sequence) bs content after ∧
      ∃ r rest, StartsWith IsInteger content r rest ∧ ∃ s left, StartsWith IsInteger rest s left ∧
      TopBitSet s ∧ fault = .invalidValue
  | .inputEnds, fault => ∃ content after, StartsWith (IsTagged Tag.sequence) bs content after ∧
      after ≠ [] ∧ fault = .invalidLength

/-- When a check fails, and with which error. -/
def Fails (bs : Bytes) (c : Check) (e : Error) : Prop :=
  ∃ fault, FailsWith bs c fault ∧ e = .malformedSignature fault

/-! ### Each check, where what it looks at is there -/

section Parts

variable (hheader : StartsWith Header.IsForm bs header rest)
  (hcontent : StartsWith (IsTagged Tag.sequence) bs content after)
  (hr : StartsWith IsInteger content r rest) (hs : StartsWith IsInteger rest s left)

include hheader

theorem failsWith_contentPresent_iff :
    FailsWith bs .contentPresent fault ↔ rest.length < header.length ∧ fault = .overrun :=
  Header.readsExactly.exists_iff hheader

theorem failsWith_isSequence_iff :
    FailsWith bs .isSequence fault ↔
      header.identifier.number ≠ Tag.sequence ∧ fault = .wrongType :=
  Header.readsExactly.exists_iff hheader

omit hheader
include hcontent

theorem failsWith_rReads_iff : FailsWith bs .rReads fault ↔ IntegerFault content fault :=
  (readContent_readsExactly _).exists_iff hcontent

theorem failsWith_inputEnds_iff :
    FailsWith bs .inputEnds fault ↔ after ≠ [] ∧ fault = .invalidLength :=
  (readContent_readsExactly _).exists_iff hcontent

include hr

theorem failsWith_sReads_iff : FailsWith bs .sReads fault ↔ IntegerFault rest fault := by
  rw [FailsWith, (readContent_readsExactly _).exists_iff hcontent,
    readInteger_readsExactly.exists_iff hr]

theorem failsWith_rNotNegative_iff :
    FailsWith bs .rNotNegative fault ↔ TopBitSet r ∧ fault = .invalidValue := by
  rw [FailsWith, (readContent_readsExactly _).exists_iff hcontent,
    readInteger_readsExactly.exists_iff hr]

include hs

theorem failsWith_contentEnds_iff :
    FailsWith bs .contentEnds fault ↔ left ≠ [] ∧ fault = .invalidLength := by
  rw [FailsWith, (readContent_readsExactly _).exists_iff hcontent,
    readInteger_readsExactly.exists_iff hr, readInteger_readsExactly.exists_iff hs]

theorem failsWith_sNotNegative_iff :
    FailsWith bs .sNotNegative fault ↔ TopBitSet s ∧ fault = .invalidValue := by
  rw [FailsWith, (readContent_readsExactly _).exists_iff hcontent,
    readInteger_readsExactly.exists_iff hr, readInteger_readsExactly.exists_iff hs]

end Parts

theorem FailsWith.unique {c : Check} {fault' : Fault} (h : FailsWith bs c fault)
    (h' : FailsWith bs c fault') : fault = fault' := by
  cases c with
  | headerReads => exact HeaderFault.unique h h'
  | contentPresent | isSequence | inputEnds =>
    obtain ⟨_, _, -, -, rfl⟩ := h
    obtain ⟨_, _, -, -, rfl⟩ := h'
    rfl
  | rReads =>
    obtain ⟨content, after, hcontent, hfault⟩ := h
    exact hfault.unique ((failsWith_rReads_iff hcontent).mp h')
  | sReads =>
    obtain ⟨content, after, hcontent, r, rest, hr, hfault⟩ := h
    exact hfault.unique ((failsWith_sReads_iff hcontent hr).mp h')
  | rNotNegative =>
    obtain ⟨_, _, -, _, _, -, -, rfl⟩ := h
    obtain ⟨_, _, -, _, _, -, -, rfl⟩ := h'
    rfl
  | contentEnds | sNotNegative =>
    obtain ⟨_, _, -, _, _, -, _, _, -, -, rfl⟩ := h
    obtain ⟨_, _, -, _, _, -, _, _, -, -, rfl⟩ := h'
    rfl

theorem Fails.unique {c : Check} {e e' : Error} (h : Fails bs c e) (h' : Fails bs c e') :
    e = e' := by
  obtain ⟨fault, hfails, rfl⟩ := h
  obtain ⟨fault', hfails', rfl⟩ := h'
  rw [hfails.unique hfails']

/-! ### The fault is that of the first check that fails -/

/-- Reading the content of the sequence follows the checks of the content. -/
theorem follows_ofContent (hcontent : StartsWith (IsTagged Tag.sequence) bs content after) :
    Follows ((ofContent content).mapError .malformedSignature) (Fails bs)
      [.rReads, .sReads, .contentEnds, .rNotNegative, .sNotNegative] := by
  rw [ofContent]
  -- The cases are in the order of the checks: where one fails that is it, else it is skipped.
  cases hr : readInteger content with
  | error fault =>
    rw [readInteger_eq_error_iff, ← failsWith_rReads_iff hcontent] at hr
    exact .head ⟨fault, hr, rfl⟩
  | ok result =>
  obtain ⟨r, rest⟩ := result
  refine .skip ?_ ?_
  · simp [Fails, failsWith_rReads_iff hcontent, ← readInteger_eq_error_iff, hr]
  rw [readInteger_readsExactly] at hr
  dsimp only
  cases hs : readInteger rest with
  | error fault =>
    rw [readInteger_eq_error_iff, ← failsWith_sReads_iff hcontent hr] at hs
    exact .head ⟨fault, hs, rfl⟩
  | ok result =>
  obtain ⟨s, left⟩ := result
  refine .skip ?_ ?_
  · simp [Fails, failsWith_sReads_iff hcontent hr, ← readInteger_eq_error_iff, hs]
  rw [readInteger_readsExactly] at hs
  dsimp only
  by_cases hleft : left = []
  case neg =>
    rw [if_pos hleft]
    exact .head ⟨_, (failsWith_contentEnds_iff hcontent hr hs).mpr ⟨hleft, rfl⟩, rfl⟩
  rw [if_neg (not_not_intro hleft)]
  refine .skip ?_ ?_
  · simp [Fails, failsWith_contentEnds_iff hcontent hr hs, hleft]
  cases hmagnitude : magnitude r with
  | error fault =>
    rw [magnitude_eq_error_iff, ← failsWith_rNotNegative_iff hcontent hr] at hmagnitude
    exact .head ⟨fault, hmagnitude, rfl⟩
  | ok r' =>
  refine .skip ?_ ?_
  · simp [Fails, failsWith_rNotNegative_iff hcontent hr, (magnitude_eq_ok_iff.mp hmagnitude).1]
  dsimp only
  cases hmagnitude' : magnitude s with
  | error fault =>
    rw [magnitude_eq_error_iff, ← failsWith_sNotNegative_iff hcontent hr hs] at hmagnitude'
    exact .head ⟨fault, hmagnitude', rfl⟩
  | ok s' =>
  refine .skip ?_ (.nil _)
  simp [Fails, failsWith_sNotNegative_iff hcontent hr hs, (magnitude_eq_ok_iff.mp hmagnitude').1]

/-- In a whole sequence the content decides, and then what follows. -/
theorem mapError_ofDer (h : readContent Tag.sequence bs = .ok (content, after)) :
    (ofDer bs).mapError Error.malformedSignature =
      ((ofContent content).mapError .malformedSignature).bind fun signature =>
        if after = [] then .ok signature else .error (.malformedSignature .invalidLength) := by
  rw [ofDer, read_of_readContent h]
  cases ofContent content with
  | error fault => rfl
  | ok signature =>
    by_cases hafter : after = []
    · simp [hafter, Except.mapError, Except.map, Except.bind]
    · simp [hafter, Except.mapError, Except.map, Except.bind]

/-- **Reading a signature follows its checks.** -/
theorem follows_ofDer (bs : Bytes) :
    Follows ((ofDer bs).mapError .malformedSignature) (Fails bs) Check.order := by
  cases hheader : Header.read bs with
  | error fault =>
    have hread : ofDer bs = .error fault := by simp [ofDer, read, hheader]
    rw [hread]
    exact .head ⟨fault, Header.read_eq_error_iff.mp hheader, rfl⟩
  | ok result =>
  obtain ⟨header, rest⟩ := result
  refine .skip ?_ ?_
  · simp [Fails, FailsWith, ← Header.read_eq_error_iff, hheader]
  have hstarts := (Header.readsExactly _ _ _).mp hheader
  by_cases hlength : rest.length < header.length
  case pos =>
    have hread : ofDer bs = .error .overrun := by simp [ofDer, read, hheader, hlength]
    rw [hread]
    exact .head ⟨_, (failsWith_contentPresent_iff hstarts).mpr ⟨hlength, rfl⟩, rfl⟩
  refine .skip ?_ ?_
  · simp [Fails, failsWith_contentPresent_iff hstarts, hlength]
  by_cases hnumber : header.identifier.number = Tag.sequence
  case neg =>
    have hread : ofDer bs = .error .wrongType := by simp [ofDer, read, hheader, hlength, hnumber]
    rw [hread]
    exact .head ⟨_, (failsWith_isSequence_iff hstarts).mpr ⟨hnumber, rfl⟩, rfl⟩
  refine .skip ?_ ?_
  · simp [Fails, failsWith_isSequence_iff hstarts, hnumber]
  have hread : readContent Tag.sequence bs =
      .ok (rest.take header.length, rest.drop header.length) := by
    simp [readContent, hheader, hnumber, Nat.le_of_not_lt hlength]
  have hcontent := (readContent_readsExactly _ _ _ _).mp hread
  rw [mapError_ofDer hread]
  refine (follows_ofContent hcontent).bind fun signature _ => .single fun e => ?_
  simp only [Fails, failsWith_inputEnds_iff hcontent]
  by_cases hafter : rest.drop header.length = []
  · simp [hafter]
  · simp [hafter, eq_comm]

/-- **The fault is that of the first check that fails.** -/
theorem ofDer_eq_error_iff :
    ofDer bs = .error fault ↔ FirstError (Fails bs) Check.order (.malformedSignature fault) := by
  rw [← (follows_ofDer bs).eq_error_iff fun c e e' => Fails.unique]
  cases ofDer bs <;> simp [Except.mapError]

/-! ### Signatures that are cut short, negative, or followed by something -/

theorem ofDer_of_ofContent (hcontent : StartsWith (IsTagged Tag.sequence) bs content after)
    (h : ofContent content = .error fault) : ofDer bs = .error fault := by
  rw [← readContent_readsExactly] at hcontent
  rw [ofDer, read_of_readContent hcontent, h]
  rfl

/-- The content is cut inside the INTEGER that is to be read from `part`, the first or the
second one. -/
def IsCut (content part : Bytes) : Prop :=
  (part = content ∨ ∃ r, StartsWith IsInteger content r part) ∧
    ∃ integer more, more ≠ [] ∧ IsInteger integer (part ++ more)

theorem ofContent_of_readInteger {part : Bytes}
    (hpart : part = content ∨ ∃ r, StartsWith IsInteger content r part)
    (h : readInteger part = .error fault) : ofContent content = .error fault := by
  obtain rfl | ⟨r, hr⟩ := hpart
  · simp [ofContent, h]
  · rw [← readInteger_readsExactly] at hr
    simp [ofContent, hr, h]

/-- Of a number that is cut short the length is invalid, unless its tag number is. -/
theorem ofDer_of_isCut {part : Bytes}
    (hcontent : StartsWith (IsTagged Tag.sequence) bs content after) (hcut : IsCut content part) :
    (ofDer bs = .error .invalidLength ↔ ¬IsEndlessTag part) ∧
      (ofDer bs = .error .invalidTag ↔ IsEndlessTag part) := by
  obtain ⟨hpart, integer, more, hmore, hinteger⟩ := hcut
  obtain ⟨hendless, hends⟩ := readInteger_of_cut hmore hinteger
  by_cases h : IsEndlessTag part
  · have hread := ofDer_of_ofContent hcontent (ofContent_of_readInteger hpart (hendless h))
    simp [hread, h]
  · have hread := ofDer_of_ofContent hcontent (ofContent_of_readInteger hpart (hends h))
    simp [hread, h]

theorem ofDer_of_negative (hcontent : StartsWith (IsTagged Tag.sequence) bs content after)
    (hr : StartsWith IsInteger content r rest) (hs : StartsWith IsInteger rest s left)
    (hsign : TopBitSet r ∨ TopBitSet s) :
    ofDer bs = .error (if left = [] then .invalidValue else .invalidLength) := by
  apply ofDer_of_ofContent hcontent
  rw [← readInteger_readsExactly] at hr hs
  by_cases hleft : left = []
  case neg => simp [ofContent, hr, hs, hleft]
  by_cases hsign' : TopBitSet r
  · simp [ofContent, hr, hs, hleft, magnitude_eq_error_iff.mpr ⟨hsign', rfl⟩]
  · have hsign := hsign.resolve_left hsign'
    simp [ofContent, hr, hs, hleft, magnitude_eq_error_iff.mpr ⟨hsign, rfl⟩,
      magnitude_eq_ok_iff.mpr ⟨hsign', rfl⟩]

theorem ofDer_append {signature : Signature} (h : ofDer bs = .ok signature) (hafter : after ≠ []) :
    ofDer (bs ++ after) = .error .invalidLength := by
  rw [ofDer_eq_ok_iff] at h
  rw [ofDer, readsExactly.read_append h after]
  simp [hafter]

end Ecdsa.Signature

/-! ### Self statements with a malformed signature -/

/-- Past the gate on key and algorithm, the fault of the signature is the error. -/
theorem SelfStatement.outcome_verify_of_ofDer {statement : SelfStatement} {key : Cose.Key}
    {ec2 : Cose.Ec2Key} {message : Bytes} {fault : Der.Fault} (halg : statement.alg.toInt = -7)
    (hdeclared : key.algorithm = .es256) (hmaterial : key.material = .ec2 ec2)
    (hcurve : ec2.curve = .p256) (h : Ecdsa.Signature.ofDer statement.sig = .error fault) :
    (statement.verify key message).outcome = .error (.malformedSignature fault) := by
  have hkey := Cose.Key.es256?_eq_some_iff.mpr ⟨hmaterial, hcurve, hdeclared⟩
  have hnamed : Cose.Algorithm.ofId? statement.alg.toInt = some .es256 :=
    Cose.Algorithm.ofId?_eq_some_iff.mpr halg
  rw [Ecdsa.Signature.ofDer] at h
  split at h
  · rename_i hread
    cases h
    simp [verify, hkey, hnamed, hread]
  · rename_i hread
    split at h
    · cases h
    · rename_i hrest
      cases h
      simp [verify, hkey, hnamed, hread, hrest]

open Der Ecdsa.Signature in
/-- **A malformed signature is classified by the first check that fails.** The faults are those of
`Ecdsa.Signature.FailsWith`. So a number that is cut short is an invalid length, unless it is cut
inside a tag number of several octets; a negative number is an invalid length if the content goes
on after the two numbers, and else an invalid value, whatever comes after the sequence; and what
is accepted is an invalid length as soon as it is followed by anything. The verification of a self
statement reports the fault if the key and the algorithm are supported. -/
theorem malformedSignature_classified (sig : Bytes) :
    (∀ fault, ofDer sig = .error fault ↔
      FirstError (Fails sig) Ecdsa.Signature.Check.order (.malformedSignature fault)) ∧
    (∀ content after part, StartsWith (IsTagged Tag.sequence) sig content after →
      IsCut content part →
      (ofDer sig = .error .invalidLength ↔ ¬IsEndlessTag part) ∧
        (ofDer sig = .error .invalidTag ↔ IsEndlessTag part)) ∧
    (∀ content after r rest s left, StartsWith (IsTagged Tag.sequence) sig content after →
      StartsWith IsInteger content r rest → StartsWith IsInteger rest s left →
      TopBitSet r ∨ TopBitSet s →
      ofDer sig = .error (if left = [] then .invalidValue else .invalidLength)) ∧
    (∀ signature after, ofDer sig = .ok signature → after ≠ [] →
      ofDer (sig ++ after) = .error .invalidLength) ∧
    (∀ value auth clientDataHash alg ec2 fault,
      Statement.ofCbor value = .ok (.self ⟨alg, sig⟩) → alg.toInt = -7 →
      auth.credential.publicKey.algorithm = .es256 →
      auth.credential.publicKey.material = .ec2 ec2 → ec2.curve = .p256 →
      ofDer sig = .error fault →
      (verifyPacked value auth clientDataHash).outcome = .error (.malformedSignature fault)) := by
  refine ⟨fun fault => ofDer_eq_error_iff, ?cut, ?negative, ?trailing, ?reported⟩
  case cut =>
    intro content after part hcontent hcut
    exact ofDer_of_isCut hcontent hcut
  case negative =>
    intro content after r rest s left hcontent hr hs hsign
    exact ofDer_of_negative hcontent hr hs hsign
  case trailing =>
    intro signature after h hafter
    exact ofDer_append h hafter
  case reported =>
    intro value auth clientDataHash alg ec2 fault hs halg hdeclared hmaterial hcurve h
    rw [outcome_verifyPacked_of_self hs]
    exact SelfStatement.outcome_verify_of_ofDer halg hdeclared hmaterial hcurve h

open Der Ecdsa.Signature in
/-- The content of the sequence is the first octet `1f` of an INTEGER with the tag number in a
further octet. It is cut short, but that is no invalid length. -/
theorem unfinishedTag_malformed :
    StartsWith (IsTagged Tag.sequence) [0x30, 0x01, 0x1f] [0x1f] [] ∧ IsCut [0x1f] [0x1f] ∧
      ofDer [0x30, 0x01, 0x1f] ≠ .error .invalidLength ∧
      ofDer [0x30, 0x01, 0x1f] = .error .invalidTag := by
  have hcontent : StartsWith (IsTagged Tag.sequence) [0x30, 0x01, 0x1f] [0x1f] [] :=
    (readContent_readsExactly _ _ _ _).mp rfl
  have hwhole : StartsWith IsInteger ([0x1f] ++ [0x02, 0x01, 0x01]) [0x01] [] :=
    (readInteger_readsExactly _ _ _).mp rfl
  have hcut : IsCut [0x1f] [0x1f] := by
    obtain ⟨form, hform, heq⟩ := hwhole
    rw [List.append_nil] at heq
    exact ⟨.inl rfl, [0x01], [0x02, 0x01, 0x01], by decide, heq ▸ hform⟩
  have hread : ofDer [0x30, 0x01, 0x1f] = .error .invalidTag := rfl
  refine ⟨hcontent, hcut, ?_, hread⟩
  rw [hread]
  rintro ⟨⟩

end PackedAttestation
