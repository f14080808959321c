import PackedAttestation.Statement

/-! # Which values read as which statement

A value reads as a statement when its four fields, looked up under their text keys,
hold what the type of the statement asks for, and the type is decided by which of
`x5c` and `ecdaaKeyId` are there (`ofCbor_eq_ok_iff`).  Nothing else in the value is
looked at.
-/
namespace PackedAttestation

namespace Cbor

/-- A key is not found exactly if no entry has it. -/
theorem lookup_eq_none_iff {key : String} {entries : List (Cbor × Cbor)} :
    lookup key entries = none ↔ ∀ v, (text key, v) ∉ entries := by
  induction entries with
  | nil => simp [lookup]
  | cons entry entries ih =>
    obtain ⟨k, v⟩ := entry
    rw [lookup]
    -- A later entry with the key wins, so the first one counts only where none is found after it.
    cases h : lookup key entries with
    | some w =>
      have hmem : ¬∀ v, (text key, v) ∉ entries := by
        rw [← ih, h]
        simp
      simp only [reduceCtorEq, false_iff, List.mem_cons, not_or]
      exact fun hall => hmem fun v => (hall v).2
    | none =>
      have hnone := ih.mp h
      cases k with
      | text t =>
        by_cases ht : t = key
        · subst ht
          simp only [isText, beq_self_eq_true, ite_true, reduceCtorEq, false_iff]
          exact fun hall => hall v List.mem_cons_self
        · have hne : key ≠ t := fun he => ht he.symm
          simpa [isText, ht, hne] using hnone
      | _ => simpa [isText] using hnone

end Cbor

namespace Statement

/-! ### The fields one by one -/

theorem readAlg_eq_ok_iff {field : Option Cbor} {alg : Int64} :
    readAlg field = .ok alg ↔ field = some (.integer alg.toInt) := by
  constructor
  · intro h
    match field with
    | some (.integer n) =>
      rw [readAlg] at h
      split at h
      · rename_i hn
        cases h
        rw [← Int64.ofIntLE_eq_ofInt hn.1 hn.2, Int64.toInt_ofIntLE]
      · cases h
  · rintro rfl
    have hlow : Int64.minValue.toInt ≤ alg.toInt := alg.minValue_le_toInt
    have hhigh : alg.toInt ≤ Int64.maxValue.toInt := alg.toInt_le
    rw [readAlg, if_pos ⟨hlow, hhigh⟩, Int64.ofInt_toInt]

theorem readSig_eq_ok_iff {field : Option Cbor} {sig : Bytes} :
    readSig field = .ok sig ↔ field = some (.bytes sig) := by
  constructor
  · intro h
    match field with
    | some (.bytes _) =>
      cases h
      rfl
  · rintro rfl
    rfl

theorem byteStrings?_eq_some_iff {items : List Cbor} {strings : List Bytes} :
    byteStrings? items = some strings ↔ items = strings.map .bytes := by
  induction items generalizing strings with
  | nil => cases strings <;> simp [byteStrings?]
  | cons item items ih =>
    cases item with
    | bytes b =>
      cases strings with
      | nil => simp [byteStrings?]
      | cons c strings =>
        rw [byteStrings?, Option.map_eq_some_iff]
        constructor
        · rintro ⟨rest, hrest, heq⟩
          cases heq
          rw [ih.mp hrest, List.map_cons]
        · intro h
          cases h
          exact ⟨strings, ih.mpr rfl, rfl⟩
    | _ => cases strings <;> simp [byteStrings?]

theorem readCertificates_eq_ok_iff {value : Cbor} {leaf : Bytes} {chain : List Bytes} :
    readCertificates value = .ok (leaf, chain) ↔
      value = .array ((leaf :: chain).map .bytes) := by
  constructor
  · intro h
    match value with
    | .array items =>
      rw [readCertificates] at h
      split at h
      · rename_i hitems
        cases h
        rw [byteStrings?_eq_some_iff.mp hitems]
      · cases h
  · rintro rfl
    rw [readCertificates, byteStrings?_eq_some_iff.mpr rfl]

/-! ### The type of a statement -/

/-- What a map holds under `x5c` and `ecdaaKeyId` for each type of statement. -/
def TypeFits (entries : List (Cbor × Cbor)) : Statement → Prop
  | basic s => Cbor.lookup "x5c" entries = some (.array (s.x5c.map .bytes))
  | ecdaa s => Cbor.lookup "x5c" entries = none ∧
      ∃ keyId, Cbor.lookup "ecdaaKeyId" entries = some keyId ∧ s.keyId = keyIdOf keyId
  | self _ => Cbor.lookup "x5c" entries = none ∧ Cbor.lookup "ecdaaKeyId" entries = none

/-- **Reading is exact.** A value reads as a statement exactly if it is a map that holds the
algorithm and the signature of the statement and fits its type. -/
theorem ofCbor_eq_ok_iff {value : Cbor} {s : Statement} :
    ofCbor value = .ok s ↔ ∃ entries, value = .map entries ∧
      Cbor.lookup "alg" entries = some (.integer s.alg.toInt) ∧
      Cbor.lookup "sig" entries = some (.bytes s.sig) ∧ s.TypeFits entries := by
  constructor
  · intro h
    match value with
    | .map entries =>
      simp only [ofCbor, Field.key] at h
      refine ⟨entries, rfl, ?_⟩
      -- The splits follow the order of the checks: `alg`, `sig`, `x5c`, `ecdaaKeyId`.
      split at h
      · cases h
      rename_i alg halg
      split at h
      · cases h
      rename_i sig hsig
      rw [readAlg_eq_ok_iff] at halg
      rw [readSig_eq_ok_iff] at hsig
      split at h
      · rename_i x5c hx5c
        split at h
        · cases h
        rename_i leaf chain hread
        cases h
        rw [readCertificates_eq_ok_iff] at hread
        exact ⟨halg, hsig, hx5c.trans (congrArg some hread)⟩
      · rename_i hx5c
        split at h
        · rename_i keyId hkeyId
          cases h
          exact ⟨halg, hsig, hx5c, keyId, hkeyId, rfl⟩
        · rename_i hkeyId
          cases h
          exact ⟨halg, hsig, hx5c, hkeyId⟩
  · rintro ⟨entries, rfl, halg, hsig, hfits⟩
    simp only [ofCbor, Field.key, readAlg_eq_ok_iff.mpr halg, readSig_eq_ok_iff.mpr hsig]
    cases s with
    | basic s =>
      have hread : readCertificates (.array (s.x5c.map .bytes)) = .ok (s.leaf, s.chain) :=
        readCertificates_eq_ok_iff.mpr rfl
      simp only [TypeFits] at hfits
      simp only [hfits, hread]
      rfl
    | ecdaa s =>
      obtain ⟨hx5c, keyId, hkeyId, heq⟩ := hfits
      simp only [hx5c, hkeyId, ← heq]
      rfl
    | self s =>
      obtain ⟨hx5c, hkeyId⟩ := hfits
      simp only [hx5c, hkeyId]
      rfl

end Statement
end PackedAttestation
