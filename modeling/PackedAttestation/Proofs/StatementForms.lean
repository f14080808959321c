import Mathlib.Algebra.Group.Int.Defs
import PackedAttestation.Proofs.StatementFields

/-! # Statements and the maps that spell them

A map holds a value under a text key when the last entry with the key has it.  Reading a
map depends on what it holds under the four keys of a statement, and on nothing else
(`ofCbor_congr`): not on the order of the entries, not on replaced entries, and not on
entries under other keys, be they other texts or no texts at all.  A statement is written as
a map with its own fields only (`Statement.written`), and is read back from these entries in
any order and among any others (`ofCbor_eq_ok_of_perm`).  The main result is
`ofCbor_map_exact`.
-/
namespace PackedAttestation

namespace Cbor

/-- The entries hold `v` under a text key: the last entry with the key has this value. -/
def Holds (entries : List (Cbor × Cbor)) (key : String) (v : Cbor) : Prop :=
  ∃ before after, entries = before ++ (text key, v) :: after ∧ ∀ w, (text key, w) ∉ after

/-- No entry has the text key. -/
def Lacks (entries : List (Cbor × Cbor)) (key : String) : Prop :=
  ∀ v, (text key, v) ∉ entries

variable {entries : List (Cbor × Cbor)} {key : String} {v : Cbor}

theorem isText_iff : isText key v = true ↔ v = text key := by
  cases v with
  | text t => simp [isText]
  | _ => simp [isText]

theorem lookup_eq_none_iff_lacks : lookup key entries = none ↔ Lacks entries key :=
  lookup_eq_none_iff

theorem holds_cons {k w : Cbor} :
    Holds ((k, w) :: entries) key v ↔
      Holds entries key v ∨ Lacks entries key ∧ k = text key ∧ w = v := by
  constructor
  · rintro ⟨before, after, heq, hafter⟩
    cases before with
    | nil =>
      cases heq
      exact .inr ⟨hafter, rfl, rfl⟩
    | cons entry before =>
      cases heq
      exact .inl ⟨before, after, rfl, hafter⟩
  · rintro (⟨before, after, rfl, hafter⟩ | ⟨hlacks, rfl, rfl⟩)
    · exact ⟨(k, w) :: before, after, rfl, hafter⟩
    · exact ⟨[], entries, rfl, hlacks⟩

/-- Looking a key up finds what is held under it. -/
theorem lookup_eq_some_iff_holds : lookup key entries = some v ↔ Holds entries key v := by
  induction entries with
  | nil => simp [lookup, Holds]
  | cons entry entries ih =>
    obtain ⟨k, w⟩ := entry
    rw [holds_cons, ← ih, ← lookup_eq_none_iff_lacks, lookup]
    cases lookup key entries with
    | some u => simp
    | none => simp [isText_iff]

theorem Holds.mem (h : Holds entries key v) : (text key, v) ∈ entries := by
  obtain ⟨before, after, rfl, -⟩ := h
  exact List.mem_append_right before List.mem_cons_self

theorem Holds.unique {w : Cbor} (h : Holds entries key v) (h' : Holds entries key w) : v = w := by
  rw [← lookup_eq_some_iff_holds] at h h'
  exact Option.some.inj (h.symm.trans h')

/-- A key is missing, or something is held under it. -/
theorem lacks_or_holds (entries : List (Cbor × Cbor)) (key : String) :
    Lacks entries key ∨ ∃ v, Holds entries key v := by
  cases h : lookup key entries with
  | none => exact .inl (lookup_eq_none_iff_lacks.mp h)
  | some v => exact .inr ⟨v, lookup_eq_some_iff_holds.mp h⟩

/-- Where only one value stands under a key, the order of the entries does not matter. -/
theorem holds_of_mem (hmem : (text key, v) ∈ entries)
    (honly : ∀ w, (text key, w) ∈ entries → w = v) : Holds entries key v := by
  obtain hlacks | ⟨w, hw⟩ := lacks_or_holds entries key
  · exact absurd hmem (hlacks v)
  · exact honly w hw.mem ▸ hw

end Cbor

namespace Statement

open Cbor (Holds Lacks)

variable {entries entries' : List (Cbor × Cbor)} {alg : Int64} {sig : Bytes}

/-! ### Reading -/

/-- The entries name an algorithm, by an integer of 64 bits with a sign, and a signature. -/
def Names (entries : List (Cbor × Cbor)) (alg : Int64) (sig : Bytes) : Prop :=
  (∃ n : Int, Holds entries "alg" (.integer n) ∧ -2 ^ 63 ≤ n ∧ n < 2 ^ 63 ∧ n = alg.toInt) ∧
    Holds entries "sig" (.bytes sig)

theorem names_iff_lookup : Names entries alg sig ↔
    Cbor.lookup "alg" entries = some (.integer alg.toInt) ∧
      Cbor.lookup "sig" entries = some (.bytes sig) := by
  rw [Names, Cbor.lookup_eq_some_iff_holds, Cbor.lookup_eq_some_iff_holds]
  constructor
  · rintro ⟨⟨n, halg, -, -, rfl⟩, hsig⟩
    exact ⟨halg, hsig⟩
  · rintro ⟨halg, hsig⟩
    exact ⟨⟨alg.toInt, halg, alg.le_toInt, alg.toInt_lt, rfl⟩, hsig⟩

/-- A map reads as a statement exactly if it names the algorithm and the signature of the
statement and fits its type. -/
theorem ofCbor_map_eq_ok_iff {s : Statement} :
    ofCbor (.map entries) = .ok s ↔ Names entries s.alg s.sig ∧ s.TypeFits entries := by
  rw [ofCbor_eq_ok_iff, names_iff_lookup]
  constructor
  · rintro ⟨_, ⟨⟩, halg, hsig, hfits⟩
    exact ⟨⟨halg, hsig⟩, hfits⟩
  · rintro ⟨⟨halg, hsig⟩, hfits⟩
    exact ⟨entries, rfl, halg, hsig, hfits⟩

theorem keyIdOf_eq_iff {v : Cbor} {keyId : Option Bytes} :
    keyId = keyIdOf v ↔ ∀ b, keyId = some b ↔ v = .bytes b := by
  have hv : ∀ b, keyIdOf v = some b ↔ v = .bytes b := by
    intro b
    cases v <;> simp [keyIdOf]
  constructor
  · rintro rfl
    exact hv
  · intro h
    apply Option.ext
    intro b
    rw [h b, hv b]

theorem ofCbor_map_eq_basic_iff {x5c : List Bytes} :
    (∃ s : BasicStatement, ofCbor (.map entries) = .ok (.basic s) ∧
        s.alg = alg ∧ s.sig = sig ∧ s.x5c = x5c) ↔
      Names entries alg sig ∧ x5c ≠ [] ∧ Holds entries "x5c" (.array (x5c.map .bytes)) := by
  constructor
  · rintro ⟨s, h, rfl, rfl, rfl⟩
    obtain ⟨hnames, hx5c⟩ := ofCbor_map_eq_ok_iff.mp h
    exact ⟨hnames, List.cons_ne_nil _ _, Cbor.lookup_eq_some_iff_holds.mp hx5c⟩
  · rintro ⟨hnames, hne, hx5c⟩
    cases x5c with
    | nil => exact absurd rfl hne
    | cons leaf chain =>
      have hfits := Cbor.lookup_eq_some_iff_holds.mpr hx5c
      exact ⟨⟨alg, sig, leaf, chain⟩, ofCbor_map_eq_ok_iff.mpr ⟨hnames, hfits⟩, rfl, rfl, rfl⟩

theorem ofCbor_map_eq_ecdaa_iff {keyId : Option Bytes} :
    ofCbor (.map entries) = .ok (.ecdaa ⟨alg, sig, keyId⟩) ↔
      Names entries alg sig ∧ Lacks entries "x5c" ∧
        ∃ v, Holds entries "ecdaaKeyId" v ∧ ∀ b, keyId = some b ↔ v = .bytes b := by
  rw [ofCbor_map_eq_ok_iff]
  simp only [TypeFits, Cbor.lookup_eq_none_iff_lacks, Cbor.lookup_eq_some_iff_holds,
    keyIdOf_eq_iff]
  exact Iff.rfl

theorem ofCbor_map_eq_self_iff :
    ofCbor (.map entries) = .ok (.self ⟨alg, sig⟩) ↔
      Names entries alg sig ∧ Lacks entries "x5c" ∧ Lacks entries "ecdaaKeyId" := by
  rw [ofCbor_map_eq_ok_iff]
  simp only [TypeFits, Cbor.lookup_eq_none_iff_lacks]
  exact Iff.rfl

/-- A map is refused exactly if it does not name an algorithm and a signature, or holds
something under `x5c` that is no array of byte strings or an empty one. -/
theorem ofCbor_map_eq_error_iff :
    (∃ e, ofCbor (.map entries) = .error e) ↔
      ¬∃ alg sig, Names entries alg sig ∧
        (Lacks entries "x5c" ∨
          ∃ x5c : List Bytes, x5c ≠ [] ∧ Holds entries "x5c" (.array (x5c.map .bytes))) := by
  constructor
  · rintro ⟨e, he⟩ ⟨alg, sig, hnames, hlacks | ⟨x5c, hne, hx5c⟩⟩
    · obtain hself | ⟨v, hv⟩ := Cbor.lacks_or_holds entries "ecdaaKeyId"
      · rw [ofCbor_map_eq_self_iff.mpr ⟨hnames, hlacks, hself⟩] at he
        cases he
      · have hkeyId := keyIdOf_eq_iff.mp (Eq.refl (keyIdOf v))
        rw [ofCbor_map_eq_ecdaa_iff.mpr ⟨hnames, hlacks, v, hv, hkeyId⟩] at he
        cases he
    · obtain ⟨s, hs, -⟩ := ofCbor_map_eq_basic_iff.mpr ⟨hnames, hne, hx5c⟩
      rw [hs] at he
      cases he
  · intro hnone
    cases h : ofCbor (.map entries) with
    | error e => exact ⟨e, rfl⟩
    | ok s =>
      refine absurd ?_ hnone
      cases s with
      | basic s =>
        obtain ⟨hnames, hne, hx5c⟩ := ofCbor_map_eq_basic_iff.mp ⟨s, h, rfl, rfl, rfl⟩
        exact ⟨s.alg, s.sig, hnames, .inr ⟨s.x5c, hne, hx5c⟩⟩
      | ecdaa s =>
        obtain ⟨hnames, hlacks, -⟩ := ofCbor_map_eq_ecdaa_iff.mp h
        exact ⟨s.alg, s.sig, hnames, .inl hlacks⟩
      | self s =>
        obtain ⟨hnames, hlacks, -⟩ := ofCbor_map_eq_self_iff.mp h
        exact ⟨s.alg, s.sig, hnames, .inl hlacks⟩

/-! ### What matters in a map -/

/-- Two maps hold the same under each of the four keys of a statement. -/
def AgreeOnFields (entries entries' : List (Cbor × Cbor)) : Prop :=
  ∀ (f : Field) (v : Cbor), Holds entries f.key v ↔ Holds entries' f.key v

theorem AgreeOnFields.lookup_eq (h : AgreeOnFields entries entries') (f : Field) :
    Cbor.lookup f.key entries = Cbor.lookup f.key entries' := by
  apply Option.ext
  intro v
  rw [Cbor.lookup_eq_some_iff_holds, Cbor.lookup_eq_some_iff_holds, h f v]

/-- Maps that agree on the four keys read the same, and where they are refused, for the same
reason. -/
theorem ofCbor_congr (h : AgreeOnFields entries entries') :
    ofCbor (.map entries) = ofCbor (.map entries') := by
  simp only [ofCbor, h.lookup_eq]

/-! ### Writing -/

/-- What is written for the identifier of an issuer key. One that is not a byte string is
written as null. -/
def keyIdValue : Option Bytes → Cbor
  | some b => .bytes b
  | none => .null

theorem keyIdOf_keyIdValue (keyId : Option Bytes) : keyIdOf (keyIdValue keyId) = keyId := by
  cases keyId <;> rfl

/-- The entries of the map that spells a statement. -/
def written (s : Statement) : List (Cbor × Cbor) :=
  (.text "alg", .integer s.alg.toInt) :: (.text "sig", .bytes s.sig) ::
    match s with
    | basic s => [(.text "x5c", .array (s.x5c.map .bytes))]
    | ecdaa s => [(.text "ecdaaKeyId", keyIdValue s.keyId)]
    | self _ => []

/-- A statement is read back from the entries written for it, in any order and among any
entries under other keys. -/
theorem ofCbor_eq_ok_of_perm {s : Statement} {further : List (Cbor × Cbor)}
    (hfurther : ∀ f : Field, Lacks further f.key) (hperm : entries'.Perm (s.written ++ further)) :
    ofCbor (.map entries') = .ok s := by
  -- Under a key of a statement there are the entries written for the statement only.
  have hmem (f : Field) (v : Cbor) :
      (.text f.key, v) ∈ entries' ↔ (.text f.key, v) ∈ s.written := by
    rw [hperm.mem_iff, List.mem_append]
    exact or_iff_left (hfurther f v)
  have hholds {f : Field} {v : Cbor} (h : ∀ w, (.text f.key, w) ∈ s.written ↔ w = v) :
      Holds entries' f.key v :=
    Cbor.holds_of_mem ((hmem f v).mpr ((h v).mpr rfl)) fun w hw => (h w).mp ((hmem f w).mp hw)
  have hlacks {f : Field} (h : ∀ w, (.text f.key, w) ∉ s.written) : Lacks entries' f.key :=
    fun w hw => h w ((hmem f w).mp hw)
  have hnames : Names entries' s.alg s.sig := by
    have halg : Holds entries' Field.alg.key (.integer s.alg.toInt) := hholds (by
      intro w
      cases s <;> simp [written, Field.key])
    have hsig : Holds entries' Field.sig.key (.bytes s.sig) := hholds (by
      intro w
      cases s <;> simp [written, Field.key])
    exact ⟨⟨s.alg.toInt, halg, s.alg.le_toInt, s.alg.toInt_lt, rfl⟩, hsig⟩
  refine ofCbor_map_eq_ok_iff.mpr ⟨hnames, ?_⟩
  cases s with
  | basic s =>
    have hx5c : Holds entries' Field.x5c.key (.array (s.x5c.map .bytes)) :=
      hholds (by simp [written, Field.key])
    exact Cbor.lookup_eq_some_iff_holds.mpr hx5c
  | ecdaa s =>
    have hx5c : Lacks entries' Field.x5c.key := hlacks (by simp [written, Field.key])
    have hkeyId : Holds entries' Field.ecdaaKeyId.key (keyIdValue s.keyId) :=
      hholds (by simp [written, Field.key])
    exact ⟨Cbor.lookup_eq_none_iff_lacks.mpr hx5c, _, Cbor.lookup_eq_some_iff_holds.mpr hkeyId,
      (keyIdOf_keyIdValue s.keyId).symm⟩
  | self s =>
    have hx5c : Lacks entries' Field.x5c.key := hlacks (by simp [written, Field.key])
    have hkeyId : Lacks entries' Field.ecdaaKeyId.key := hlacks (by simp [written, Field.key])
    exact ⟨Cbor.lookup_eq_none_iff_lacks.mpr hx5c, Cbor.lookup_eq_none_iff_lacks.mpr hkeyId⟩

/-- **Reading a map is exact and sees its four fields only.** A map reads as a basic statement
exactly if it names an algorithm and a signature and holds an array of at least one byte
string under `x5c`, whatever is under `ecdaaKeyId`; as an ECDAA statement exactly if `x5c` is
missing and something is held under `ecdaaKeyId`, which counts if it is a byte string; and as a
self statement exactly if both are missing. In all other cases it is refused. So maps that
agree on the four keys read the same, and a statement is read back from the entries written for
it. -/
theorem ofCbor_map_exact (entries : List (Cbor × Cbor)) :
    (∀ alg sig x5c,
      (∃ s : BasicStatement, ofCbor (.map entries) = .ok (.basic s) ∧
          s.alg = alg ∧ s.sig = sig ∧ s.x5c = x5c) ↔
        Names entries alg sig ∧ x5c ≠ [] ∧ Holds entries "x5c" (.array (x5c.map .bytes))) ∧
    (∀ alg sig keyId,
      ofCbor (.map entries) = .ok (.ecdaa ⟨alg, sig, keyId⟩) ↔
        Names entries alg sig ∧ Lacks entries "x5c" ∧
          ∃ v, Holds entries "ecdaaKeyId" v ∧ ∀ b, keyId = some b ↔ v = .bytes b) ∧
    (∀ alg sig,
      ofCbor (.map entries) = .ok (.self ⟨alg, sig⟩) ↔
        Names entries alg sig ∧ Lacks entries "x5c" ∧ Lacks entries "ecdaaKeyId") ∧
    ((∃ e, ofCbor (.map entries) = .error e) ↔
      ¬∃ alg sig, Names entries alg sig ∧
        (Lacks entries "x5c" ∨
          ∃ x5c : List Bytes, x5c ≠ [] ∧ Holds entries "x5c" (.array (x5c.map .bytes)))) ∧
    (∀ entries', AgreeOnFields entries entries' →
      ofCbor (.map entries) = ofCbor (.map entries')) ∧
    ∀ (s : Statement) (further : List (Cbor × Cbor)), (∀ f : Field, Lacks further f.key) →
      entries.Perm (s.written ++ further) → ofCbor (.map entries) = .ok s := by
  refine ⟨?basic, ?ecdaa, ?self, ?refused, ?agreement, ?written⟩
  case basic => exact fun alg sig x5c => ofCbor_map_eq_basic_iff
  case ecdaa => exact fun alg sig keyId => ofCbor_map_eq_ecdaa_iff
  case self => exact fun alg sig => ofCbor_map_eq_self_iff
  case refused => exact ofCbor_map_eq_error_iff
  case agreement => exact fun entries' h => ofCbor_congr h
  case written => exact fun s further hfurther hperm => ofCbor_eq_ok_of_perm hfurther hperm

/-- The last entry under a key counts, and a key that is not a text is another key. -/
example :
    ofCbor (.map [(.text "alg", .integer 0), (.bytes [0x78, 0x35, 0x63], .null),
      (.text "sig", .bytes [1]), (.text "alg", .integer (-7))]) = .ok (.self ⟨-7, [1]⟩) :=
  rfl

end Statement
end PackedAttestation
