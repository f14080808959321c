import PackedAttestation.Text
import PackedAttestation.Verify

/-! # Registries of formats

A registry finds the verifier for a format by the name of the format.  It is a finite
map whose entries are kept in strictly increasing order of their names, so a name has
one verifier and the names are listed in order.  Registering a name again replaces
its verifier.
-/
namespace PackedAttestation

/-- What judges the statements of a format, given the authenticator data and the hash of the
client data. -/
abbrev Verifier := Cbor → AuthenticatorData → Bytes → Trial Attestation

namespace Verifier

/-- Takes every statement for a self attestation. -/
def always : Verifier := fun _ _ _ => Trial.succeed ⟨.self, .none⟩

/-- Finds every signature invalid. -/
def never : Verifier := fun _ _ _ => Trial.fail .invalidSignature

end Verifier

/-- A map from names of formats to verifiers. -/
structure Registry where
  entries : List (String × Verifier)
  /-- The names increase. -/
  sorted : entries.Pairwise fun a b => a.1 < b.1

namespace Registry

/-- Puts an entry in its place, in the place of one with the same name. -/
def insertEntry (name : String) (verifier : Verifier) :
    List (String × Verifier) → List (String × Verifier)
  | [] => [(name, verifier)]
  | (key, value) :: rest =>
    if name < key then (name, verifier) :: (key, value) :: rest
    else if name = key then (name, verifier) :: rest
    else (key, value) :: insertEntry name verifier rest

theorem mem_insertEntry {name : String} {verifier : Verifier} {e : String × Verifier}
    {entries : List (String × Verifier)} (h : e ∈ insertEntry name verifier entries) :
    e = (name, verifier) ∨ e ∈ entries := by
  induction entries with
  | nil => exact Or.inl (List.mem_singleton.mp h)
  | cons entry rest ih =>
    obtain ⟨key, value⟩ := entry
    simp only [insertEntry] at h
    split at h
    · exact List.mem_cons.mp h
    · split at h
      · exact (List.mem_cons.mp h).imp id (List.mem_cons_of_mem _)
      · rcases List.mem_cons.mp h with h | h
        · exact Or.inr (h ▸ List.mem_cons_self)
        · exact (ih h).imp id (List.mem_cons_of_mem _)

/-- Inserting keeps the names in order. -/
theorem insertEntry_sorted (name : String) (verifier : Verifier)
    {entries : List (String × Verifier)} (h : entries.Pairwise fun a b => a.1 < b.1) :
    (insertEntry name verifier entries).Pairwise fun a b => a.1 < b.1 := by
  induction entries with
  | nil => exact List.pairwise_singleton _ _
  | cons entry rest ih =>
    obtain ⟨key, value⟩ := entry
    obtain ⟨hkey, hrest⟩ := List.pairwise_cons.mp h
    simp only [insertEntry]
    split
    · rename_i hlt
      refine List.pairwise_cons.mpr ⟨fun e he => ?_, h⟩
      rcases List.mem_cons.mp he with rfl | he
      · exact hlt
      · exact String.lt_trans hlt (hkey e he)
    · rename_i hge
      split
      · rename_i heq
        exact List.pairwise_cons.mpr ⟨fun e he => heq ▸ hkey e he, hrest⟩
      · rename_i hne
        refine List.pairwise_cons.mpr ⟨fun e he => ?_, ih hrest⟩
        rcases mem_insertEntry he with rfl | he
        · exact Classical.byContradiction fun hle =>
            hne (String.le_antisymm (String.not_lt.mp hle) (String.not_lt.mp hge))
        · exact hkey e he

/-- The verifier under a name in a list of entries. -/
def findEntry (name : String) : List (String × Verifier) → Option Verifier
  | [] => none
  | (key, value) :: rest => if key = name then some value else findEntry name rest

/-- The registry without entries. -/
def empty : Registry := ⟨[], List.Pairwise.nil⟩

/-- The registry with a verifier under a name, in the place of one that was there. -/
def insert (registry : Registry) (name : String) (verifier : Verifier) : Registry :=
  ⟨insertEntry name verifier registry.entries,
    insertEntry_sorted name verifier registry.sorted⟩

/-- The verifier under a name. -/
def get? (registry : Registry) (name : String) : Option Verifier :=
  findEntry name registry.entries

/-- The names, in increasing order. -/
def formats (registry : Registry) : List String :=
  registry.entries.map Prod.fst

/-- The names as quoted text in braces. -/
def text (registry : Registry) : String :=
  "\x7b" ++ ", ".intercalate (registry.formats.map Text.quote) ++ "\x7d"

/-- What is said when a verifier takes the place of another one under a name. -/
def replacementText (name : String) : String :=
  "attestation format " ++ name ++ " registered more than once"

/-- The registry with all formats of this library. -/
def standard : Registry := empty.insert "packed" verifyPacked

/-- Verifies a statement with the verifier for its format. -/
def verify (registry : Registry) (format : String) (value : Cbor) (auth : AuthenticatorData)
    (clientDataHash : Bytes) : Trial Attestation :=
  match registry.get? format with
  | none => do
    Trial.note (.noVerifier format)
    Trial.fail (.unknownFormat format)
  | some verifier => verifier value auth clientDataHash

/-! ### The view as a map -/

theorem findEntry_insertEntry_self (name : String) (verifier : Verifier)
    (entries : List (String × Verifier)) :
    findEntry name (insertEntry name verifier entries) = some verifier := by
  induction entries with
  | nil => simp [insertEntry, findEntry]
  | cons entry rest ih =>
    obtain ⟨key, value⟩ := entry
    simp only [insertEntry]
    split
    · simp [findEntry]
    · split
      · simp [findEntry]
      · rename_i hne
        simp [findEntry, Ne.symm hne, ih]

theorem findEntry_insertEntry_of_ne {name other : String} (hne : other ≠ name)
    (verifier : Verifier) (entries : List (String × Verifier)) :
    findEntry other (insertEntry name verifier entries) = findEntry other entries := by
  induction entries with
  | nil => simp [insertEntry, findEntry, Ne.symm hne]
  | cons entry rest ih =>
    obtain ⟨key, value⟩ := entry
    simp only [insertEntry]
    split
    · simp [findEntry, Ne.symm hne]
    · split
      · rename_i heq
        simp [findEntry, ← heq, Ne.symm hne]
      · simp [findEntry, ih]

@[simp] theorem get?_empty (name : String) : empty.get? name = none := rfl

/-- A registry finds the verifier last put under a name, and other names are not touched. -/
theorem get?_insert (registry : Registry) (name other : String) (verifier : Verifier) :
    (registry.insert name verifier).get? other =
      if other = name then some verifier else registry.get? other := by
  split
  · rename_i h
    rw [h]
    exact findEntry_insertEntry_self name verifier registry.entries
  · rename_i h
    exact findEntry_insertEntry_of_ne h verifier registry.entries

end Registry
end PackedAttestation
