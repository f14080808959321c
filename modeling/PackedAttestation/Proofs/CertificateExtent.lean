import PackedAttestation.Proofs.ElementForms
import PackedAttestation.Proofs.ErrorOrder
import PackedAttestation.Proofs.Noninterference

/-! # Where a certificate ends

The outermost header of a certificate says where it ends.  So bytes after a certificate do not
change what is read, and are counted exactly (`Certificate.isOf_append`), and a certificate that
is cut short does not read at all (`Certificate.isOf_of_append`).  The certificates of a basic
statement are decoded in order and before anything else is looked at, so the first one that does
not decode decides the outcome (`BasicStatement.outcome_verify_of_isOf`), and an element of `x5c`
that is not exactly one certificate is reported as such
(`outcome_verifyPacked_of_inexact_certificate`).
-/
namespace PackedAttestation

open Der
open Certificate (Outline Decodes DecodesAs)

/-! ### One certificate -/

namespace Certificate

variable {der more rest : Bytes} {outline : Outline} {certificate : Certificate}

namespace Outline

/-- Bytes after a certificate are left over. -/
theorem read_append (h : read der = .ok (outline, rest)) (more : Bytes) :
    read (der ++ more) = .ok (outline, rest ++ more) := by
  obtain ⟨content, afterBody, afterAlgorithm, left, hcontent, hinside⟩ := read_eq_ok_iff.mp h
  have hmore := (readContent_readsExactly _).read_append hcontent more
  exact read_eq_ok_iff.mpr ⟨content, afterBody, afterAlgorithm, left, hmore, hinside⟩

/-- A certificate that is cut short does not read, and the fault is told by its header. -/
theorem read_of_append (h : read (der ++ more) = .ok (outline, [])) (hmore : more ≠ []) :
    read der = .error (headerFault der) := by
  obtain ⟨content, _, _, _, hcontent, -⟩ := read_eq_ok_iff.mp h
  unfold read readSequence
  cases hread : readContent Tag.sequence der with
  | error fault => rfl
  | ok result =>
    obtain ⟨content', rest'⟩ := result
    have happend := (readContent_readsExactly _).read_append hread more
    rw [hcontent, Except.ok.injEq, Prod.mk.injEq] at happend
    exact absurd (List.append_eq_nil_iff.mp happend.2.symm).2 hmore

end Outline

theorem isOf_append (h : DecodesAs der certificate) (hmore : more ≠ []) :
    CertificateFault.IsOf (der ++ more) (.trailing more.length) := by
  obtain ⟨outline, houtline, -⟩ := h
  exact ⟨outline, more, Outline.read_append houtline more, hmore, rfl⟩

theorem isOf_of_append (h : DecodesAs (der ++ more) certificate) (hmore : more ≠ []) :
    CertificateFault.IsOf der (.outline (Outline.headerFault der)) := by
  obtain ⟨outline, houtline, -⟩ := h
  exact Outline.read_of_append houtline hmore

theorem DecodesAs.not_decodeFails (h : DecodesAs der certificate) (e : Error) :
    ¬DecodeFails der e := by
  rintro ⟨fault, hfault, -⟩
  obtain ⟨outline, hdecodes⟩ := h
  cases (decode_eq_error_iff.mpr hfault).symm.trans (decode_eq_ok_iff.mpr hdecodes)

end Certificate

/-! ### The certificates of a statement -/

/-- The first certificate that does not decode decides the outcome, whatever the others and the
rest of the statement are. -/
theorem BasicStatement.outcome_verify_of_isOf {s : BasicStatement} {before after : List Bytes}
    {der : Bytes} {fault : CertificateFault} {aaguid : Aaguid} {message : Bytes}
    (hx5c : s.x5c = before ++ der :: after)
    (hbefore : ∀ d ∈ before, ∃ certificate, DecodesAs d certificate) (hfault : fault.IsOf der) :
    (s.verify aaguid message).outcome = .error (.invalidCertificate fault) := by
  rw [(s.follows_verify aaguid message).eq_error_iff fun _ _ _ => Fails.unique]
  have hfails : Certificate.DecodeFails der (.invalidCertificate fault) := ⟨fault, hfault, rfl⟩
  have hnone : ∀ d ∈ before, ∀ e, ¬Certificate.DecodeFails d e := by
    intro d hd
    obtain ⟨certificate, hdecodes⟩ := hbefore d hd
    exact hdecodes.not_decodeFails
  cases before with
  | nil =>
    obtain ⟨hleaf, -⟩ := List.cons.inj hx5c
    rw [← hleaf] at hfails
    exact .head hfails
  | cons leaf before =>
    obtain ⟨hleaf, hchain⟩ := List.cons.inj hx5c
    obtain ⟨hfirst, hnone⟩ := List.forall_mem_cons.mp hnone
    rw [← hleaf] at hfirst
    refine ⟨[.leafDecodes], .chainDecodes, _, rfl, ?_, before, der, after, hchain, hnone, hfails⟩
    rintro _ (_ | ⟨_, ⟨⟩⟩)
    exact hfirst

/-- A map with an algorithm of 64 bits, a signature and certificates is a basic statement. -/
theorem Statement.exists_ofCbor_basic {entries : List (Cbor × Cbor)} {alg : Int} {sig : Bytes}
    {x5c : List Bytes} (halg : Cbor.lookup "alg" entries = some (.integer alg))
    (hlow : Int64.minValue.toInt ≤ alg) (hhigh : alg ≤ Int64.maxValue.toInt)
    (hsig : Cbor.lookup "sig" entries = some (.bytes sig))
    (hx5c : Cbor.lookup "x5c" entries = some (.array (x5c.map .bytes))) (hne : x5c ≠ []) :
    ∃ s : BasicStatement, ofCbor (.map entries) = .ok (.basic s) ∧ s.sig = sig ∧ s.x5c = x5c := by
  obtain ⟨leaf, chain, rfl⟩ := List.exists_cons_of_ne_nil hne
  have halg' : Cbor.lookup "alg" entries = some (.integer (Int64.ofInt alg).toInt) := by
    rw [← Int64.ofIntLE_eq_ofInt hlow hhigh, Int64.toInt_ofIntLE, halg]
  exact ⟨⟨Int64.ofInt alg, sig, leaf, chain⟩,
    ofCbor_eq_ok_iff.mpr ⟨entries, rfl, halg', hsig, hx5c⟩, rfl, rfl⟩

/-- **Every element of `x5c` must be exactly one certificate.** Let the elements before the one
at `k` be certificates, and `d` be one. If the element at `k` is `d` and more bytes, these are
counted exactly, and if it is a proper beginning of `d`, its outline is refused for the fault that
its header tells. Neither is accepted, whatever the algorithm, the signature, the authenticator
data, the hash, the later elements and the outline of the first one are. -/
theorem outcome_verifyPacked_of_inexact_certificate {entries : List (Cbor × Cbor)} {alg : Int}
    {sig : Bytes} {x5c : List Bytes}
    (halg : Cbor.lookup "alg" entries = some (.integer alg))
    (hlow : Int64.minValue.toInt ≤ alg) (hhigh : alg ≤ Int64.maxValue.toInt)
    (hsig : Cbor.lookup "sig" entries = some (.bytes sig))
    (hx5c : Cbor.lookup "x5c" entries = some (.array (x5c.map .bytes)))
    {k : Nat} {der : Bytes} (hder : x5c[k]? = some der)
    (hbefore : ∀ d ∈ x5c.take k, ∃ certificate, DecodesAs d certificate)
    {d more : Bytes} {certificate : Certificate} (hd : DecodesAs d certificate)
    (hmore : more ≠ []) (auth : AuthenticatorData) (clientDataHash : Bytes) :
    (der = d ++ more → (verifyPacked (.map entries) auth clientDataHash).outcome =
      .error (.invalidCertificate (.trailing more.length))) ∧
    (d = der ++ more → (verifyPacked (.map entries) auth clientDataHash).outcome =
      .error (.invalidCertificate (.outline (Outline.headerFault der)))) := by
  obtain ⟨hk, hget⟩ := List.getElem?_eq_some_iff.mp hder
  obtain ⟨s, hs, -, rfl⟩ := Statement.exists_ofCbor_basic halg hlow hhigh hsig hx5c
    (List.ne_nil_of_length_pos (Nat.zero_lt_of_lt hk))
  have hsplit : s.x5c = s.x5c.take k ++ der :: s.x5c.drop (k + 1) := by
    rw [← hget, ← List.drop_eq_getElem_cons, List.take_append_drop]
  rw [outcome_verifyPacked_of_basic hs]
  constructor
  · rintro rfl
    exact s.outcome_verify_of_isOf hsplit hbefore (Certificate.isOf_append hd hmore)
  · rintro rfl
    exact s.outcome_verify_of_isOf hsplit hbefore (Certificate.isOf_of_append hd hmore)

namespace Specimen

theorem decodesAs_plain : DecodesAs (leaf plain).toDer (leaf plain) :=
  ⟨outlineOf plain, wellFormed_plain⟩

/-- A statement with the plain leaf, and then another element. -/
def entriesOf (second : Bytes) : List (Cbor × Cbor) :=
  [(.text "alg", .integer (-7)), (.text "sig", .bytes sig),
    (.text "x5c", .array ([(leaf plain).toDer, second].map .bytes))]

theorem decodesAs_before {second : Bytes} :
    ∀ d ∈ [(leaf plain).toDer, second].take 1, ∃ certificate, DecodesAs d certificate := by
  intro d hd
  obtain rfl := List.mem_singleton.mp hd
  exact ⟨leaf plain, decodesAs_plain⟩

/-- After the plain leaf comes the leaf again, with one byte more or with one byte less. -/
theorem inexact_second :
    DecodesAs (leaf plain).toDer (leaf plain) ∧
      (verifyPacked (.map (entriesOf ((leaf plain).toDer ++ [0]))) auth clientDataHash).outcome =
        .error (.invalidCertificate (.trailing 1)) ∧
      (verifyPacked (.map (entriesOf (leaf plain).toDer.dropLast)) auth clientDataHash).outcome =
        .error (.invalidCertificate (.outline .malformed)) := by
  have hfault : Outline.headerFault (leaf plain).toDer.dropLast = .malformed := by decide +kernel
  have hne : (leaf plain).toDer ≠ [] := by decide +kernel
  have hlast : (leaf plain).toDer =
      (leaf plain).toDer.dropLast ++ [(leaf plain).toDer.getLast hne] :=
    (List.dropLast_append_getLast hne).symm
  refine ⟨decodesAs_plain, ?more, ?less⟩
  case more =>
    exact (outcome_verifyPacked_of_inexact_certificate rfl (by decide) (by decide) rfl rfl
      (show [(leaf plain).toDer, (leaf plain).toDer ++ [0]][1]? = some _ from rfl) decodesAs_before
      decodesAs_plain (List.cons_ne_nil 0 []) auth clientDataHash).1 rfl
  case less =>
    rw [← hfault]
    exact (outcome_verifyPacked_of_inexact_certificate rfl (by decide) (by decide) rfl rfl
      (show [(leaf plain).toDer, (leaf plain).toDer.dropLast][1]? = some _ from rfl)
      decodesAs_before decodesAs_plain (List.cons_ne_nil _ []) auth clientDataHash).2 hlast

end Specimen
end PackedAttestation
