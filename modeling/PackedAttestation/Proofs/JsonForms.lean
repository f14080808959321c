import Mathlib.Data.List.Forall2
import PackedAttestation.Proofs.JsonRoundTrip
import PackedAttestation.Proofs.UuidSpellings

/-! # Presentations in JSON

What it takes for a JSON value to be a record, an alternative, a bare name, a byte string or a
UUID is said here without a reader, over what the parts have to be (`Json.IsRecord`,
`Json.IsAlternative`, `Json.IsBareName`, `Json.IsBytes`, `Json.IsUuid`).  As the names in an object
differ, the order of its members has no part in this (`Json.isObject_iff_of_perm`).

The common readers find exactly these forms.  A reader of records takes the presentations of a
record as soon as it takes those of the fields (`Json.readTwo_iff`, `Json.readThree_iff`).
-/
namespace PackedAttestation.Json

variable {json value content : Json} {members others : List (String × Json)} {values : List Json}
variable {name : String} {names : List String}

/-! ### Members -/

/-- An object has a value under a name: the first member with the name has it. -/
def IsMember (members : List (String × Json)) (name : String) (value : Json) : Prop :=
  ∃ before after, members = before ++ (name, value) :: after ∧ ∀ earlier ∈ before, earlier.1 ≠ name

theorem member?_eq_find? :
    member? name members = (members.find? (·.1 == name)).map Prod.snd := by
  induction members with
  | nil => rfl
  | cons entry rest ih =>
    obtain ⟨key, held⟩ := entry
    by_cases hkey : key = name <;> simp [member?, hkey, ih]

theorem member?_eq_some_iff : member? name members = some value ↔ IsMember members name value := by
  simp [member?_eq_find?, List.find?_eq_some_iff_append, IsMember]

/-- As the names of an object differ, a member counts wherever it stands. -/
theorem isMember_iff_mem (hnames : (members.map Prod.fst).Nodup) :
    IsMember members name value ↔ (name, value) ∈ members := by
  constructor
  · rintro ⟨before, after, rfl, -⟩
    exact List.mem_append_right before List.mem_cons_self
  · intro hmem
    obtain ⟨before, after, rfl⟩ := List.append_of_mem hmem
    refine ⟨before, after, rfl, fun earlier hearlier heq => ?_⟩
    rw [List.map_append, List.nodup_append] at hnames
    exact hnames.2.2 earlier.1 (List.mem_map_of_mem hearlier) name (by simp) heq

theorem members?_eq_some_iff :
    members? members names = some values ↔ List.Forall₂ (IsMember members) names values := by
  induction names generalizing values with
  | nil => simp [members?, eq_comm]
  | cons name names ih =>
    simp only [members?, Option.bind_eq_bind, Option.bind_eq_some_iff, member?_eq_some_iff, ih,
      Option.pure_def, Option.some.injEq, List.forall₂_cons_left_iff]
    constructor
    · rintro ⟨value, hvalue, rest, hrest, rfl⟩
      exact ⟨value, rest, hvalue, hrest, rfl⟩
    · rintro ⟨value, rest, hvalue, hrest, rfl⟩
      exact ⟨value, hvalue, rest, hrest, rfl⟩

/-! ### Records -/

/-- A field of a record: its name, and which values present what it holds. -/
structure Field where
  name : String
  IsPresentation : Json → Prop

variable {fields : List Field}

/-- An object that has all the fields. It may have further members, and the order of the fields
does not matter. -/
inductive IsObject (fields : List Field) : Json → Prop where
  | object {members : List (String × Json)}
      (h : ∀ field ∈ fields, ∃ value,
        IsMember members field.name value ∧ field.IsPresentation value) :
      IsObject fields (.object members)

/-- An array of exactly the fields in order. -/
inductive IsRow (fields : List Field) : Json → Prop where
  | array {items : List Json} (h : List.Forall₂ Field.IsPresentation fields items) :
      IsRow fields (.array items)

/-- The presentations of a record. -/
def IsRecord (fields : List Field) (json : Json) : Prop :=
  IsObject fields json ∨ IsRow fields json

/-- The members of an object may come in any order. -/
theorem isObject_iff_of_perm (hnames : (members.map Prod.fst).Nodup) (hperm : members.Perm others) :
    IsObject fields (.object members) ↔ IsObject fields (.object others) := by
  have hothers : (others.map Prod.fst).Nodup := (hperm.map Prod.fst).nodup hnames
  have hmember : ∀ name value, IsMember members name value ↔ IsMember others name value := by
    intro name value
    rw [isMember_iff_mem hnames, isMember_iff_mem hothers, hperm.mem_iff]
  constructor
  · rintro ⟨h⟩
    exact .object (by simpa only [hmember] using h)
  · rintro ⟨h⟩
    exact .object (by simpa only [hmember] using h)

theorem isObject_object_iff : IsObject fields (.object members) ↔
    ∃ values, List.Forall₂ (IsMember members) (fields.map Field.name) values ∧
      List.Forall₂ Field.IsPresentation fields values := by
  constructor
  · rintro ⟨h⟩
    induction fields with
    | nil => exact ⟨[], .nil, .nil⟩
    | cons field fields ih =>
      rw [List.forall_mem_cons] at h
      obtain ⟨⟨value, hmember, hvalue⟩, hrest⟩ := h
      obtain ⟨values, hmembers, hvalues⟩ := ih hrest
      exact ⟨value :: values, .cons hmember hmembers, .cons hvalue hvalues⟩
  · rintro ⟨values, hmembers, hvalues⟩
    refine .object fun field hfield => ?_
    induction hvalues with
    | nil => cases hfield
    | cons hvalue hvalues ih =>
      cases hmembers with
      | cons hmember hmembers =>
        rcases List.mem_cons.mp hfield with rfl | hfield
        · exact ⟨_, hmember, hvalue⟩
        · exact ih hmembers hfield

theorem fields?_eq_some_iff : json.fields? names = some values ↔
    (∃ members, json = .object members ∧ List.Forall₂ (IsMember members) names values) ∨
      json = .array values ∧ values.length = names.length := by
  cases json with
  | object members => simp [fields?, members?_eq_some_iff]
  | array items =>
    simp only [fields?, Option.ite_none_right_eq_some, Option.some.injEq, reduceCtorEq, false_and,
      exists_false, false_or, array.injEq]
    constructor
    · rintro ⟨hlength, rfl⟩
      exact ⟨rfl, hlength⟩
    · rintro ⟨rfl, hlength⟩
      exact ⟨hlength, rfl⟩
  | _ => simp [fields?]

/-- A record is read field by field. -/
theorem isRecord_iff : IsRecord fields json ↔
    ∃ values, json.fields? (fields.map Field.name) = some values ∧
      List.Forall₂ Field.IsPresentation fields values := by
  simp only [fields?_eq_some_iff]
  constructor
  · rintro (hobject | hrow)
    · cases hobject with
      | object h =>
        obtain ⟨values, hmembers, hvalues⟩ := isObject_object_iff.mp (.object h)
        exact ⟨values, .inl ⟨_, rfl, hmembers⟩, hvalues⟩
    · cases hrow with
      | array h => exact ⟨_, .inr ⟨rfl, by rw [List.length_map, h.length_eq]⟩, h⟩
  · rintro ⟨values, ⟨members, rfl, hmembers⟩ | ⟨rfl, -⟩, hvalues⟩
    · exact .inl (isObject_object_iff.mpr ⟨values, hmembers, hvalues⟩)
    · exact .inr (.array hvalues)

section readers

variable {α : Type} {a : α} {k l m : String} {P Q R : Json → Prop}

/-- A record of two fields is read if each field is, with the values found for them. -/
theorem readTwo_iff {read : Json → Json → Option α}
    (hread : ∀ x y, read x y = some a ↔ P x ∧ Q y) :
    (match json.fields? [k, l] with
      | some [x, y] => read x y
      | _ => none) = some a ↔ IsRecord [⟨k, P⟩, ⟨l, Q⟩] json := by
  have hrecord : IsRecord [⟨k, P⟩, ⟨l, Q⟩] json ↔
      ∃ x y, json.fields? [k, l] = some [x, y] ∧ read x y = some a := by
    simp [isRecord_iff, List.forall₂_cons_left_iff, hread]
  rw [hrecord]
  split
  · rename_i hfields
    simp [hfields]
  · rename_i hother
    simp only [reduceCtorEq, false_iff]
    rintro ⟨x, y, hfields, -⟩
    exact hother x y hfields

theorem readThree_iff {read : Json → Json → Json → Option α}
    (hread : ∀ x y z, read x y z = some a ↔ P x ∧ Q y ∧ R z) :
    (match json.fields? [k, l, m] with
      | some [x, y, z] => read x y z
      | _ => none) = some a ↔ IsRecord [⟨k, P⟩, ⟨l, Q⟩, ⟨m, R⟩] json := by
  have hrecord : IsRecord [⟨k, P⟩, ⟨l, Q⟩, ⟨m, R⟩] json ↔
      ∃ x y z, json.fields? [k, l, m] = some [x, y, z] ∧ read x y z = some a := by
    simp [isRecord_iff, List.forall₂_cons_left_iff, hread]
  rw [hrecord]
  split
  · rename_i hfields
    simp [hfields]
  · rename_i hother
    simp only [reduceCtorEq, false_iff]
    rintro ⟨x, y, z, hfields, -⟩
    exact hother x y z hfields

end readers

/-! ### Alternatives -/

/-- The presentations of an alternative with content: an object whose only member has the name of
the alternative. -/
inductive IsAlternative (name : String) (IsContent : Json → Prop) : Json → Prop where
  | object {content : Json} (h : IsContent content) :
      IsAlternative name IsContent (.object [(name, content)])

/-- The presentations of an alternative without content: its name alone, or as the only member of
an object, with null. -/
inductive IsBareName (name : String) : Json → Prop where
  | alone : IsBareName name (.string name)
  | withNull : IsBareName name (.object [(name, .null)])

theorem alternative?_eq_some_iff :
    json.alternative? = some (name, content) ↔ json = .object [(name, content)] := by
  constructor
  · intro h
    unfold alternative? at h
    split at h
    · cases h
      rfl
    · cases h
  · rintro rfl
    rfl

theorem bareName?_eq_some_iff : json.bareName? = some name ↔ IsBareName name json := by
  constructor
  · intro h
    unfold bareName? at h
    split at h
    · cases h
      exact .alone
    · cases h
      exact .withNull
    · cases h
  · rintro (_ | _) <;> rfl

/-! ### Byte strings and UUIDs -/

/-- The presentation of a byte string: the array of its bytes as integers. -/
def IsBytes (bs : Bytes) (json : Json) : Prop :=
  json = .array (bs.map fun b => .integer b.toNat)

/-- The presentations of a UUID: any text that reads as the UUID. -/
def IsUuid (uuid : Uuid) (json : Json) : Prop :=
  ∃ s, json = .string s ∧ Uuid.parse? s = some uuid

theorem byte?_eq_some_iff {b : UInt8} : value.byte? = some b ↔ value = .integer b.toNat := by
  constructor
  · intro h
    unfold byte? at h
    split at h
    · rename_i n
      split at h
      · rename_i hn
        cases h
        have hmod : n.toNat % 2 ^ 8 = n.toNat := Nat.mod_eq_of_lt (by omega)
        rw [UInt8.toNat_ofNat', hmod, Int.toNat_of_nonneg hn.1]
      · cases h
    · cases h
  · rintro rfl
    exact byte?_ofByte b

theorem byteList?_eq_some_iff {bs : Bytes} :
    byteList? values = some bs ↔ values = bs.map fun b => .integer b.toNat := by
  induction values generalizing bs with
  | nil => cases bs <;> simp [byteList?]
  | cons value values ih =>
    cases bs <;> simp [byteList?, Option.bind_eq_some_iff, byte?_eq_some_iff, ih]

theorem bytes?_eq_some_iff {bs : Bytes} : json.bytes? = some bs ↔ IsBytes bs json := by
  cases json with
  | array items => simp [bytes?, IsBytes, byteList?_eq_some_iff]
  | _ => simp [bytes?, IsBytes]

theorem octets?_eq_some_iff {n : Nat} {o : Octets n} :
    json.octets? n = some o ↔ IsBytes o.bytes json := by
  simp only [octets?, Option.bind_eq_bind, Option.bind_eq_some_iff, bytes?_eq_some_iff,
    Octets.ofBytes?_eq_some_iff, exists_eq_right]

theorem uuid?_eq_some_iff {uuid : Uuid} : json.uuid? = some uuid ↔ IsUuid uuid json := by
  cases json <;> simp [uuid?, IsUuid]

end PackedAttestation.Json
