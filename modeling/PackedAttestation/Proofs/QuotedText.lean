import Mathlib.Data.List.Basic
import PackedAttestation.Bytes
import PackedAttestation.Text

/-! # Quoted text can be read off

Names are shown in quotes, one after the other, and a name may hold quotes, commas and braces of
its own.  What is shown tells the names all the same.  A character between quotes is written in
one of three ways, told apart by their first two characters (`escape_cases`), so its end is known
whatever comes after it (`selfDelimiting_escape`).  None of them starts with a quote, so the same
holds of a whole quoted text (`selfDelimiting_quote`), and a list of quoted texts in braces has
one reading (`braced_inj`).
-/
namespace PackedAttestation.Text

/-- What is written ends in one place, whatever comes after it. -/
def SelfDelimiting {α : Type} (write : α → List Char) : Prop :=
  ∀ a b rest rest', write a ++ rest = write b ++ rest' → a = b ∧ rest = rest'

/-- Up to a mark that stands in neither of them, lists are told apart. -/
theorem append_cons_inj {α : Type} {mark : α} {xs ys rest rest' : List α} (hxs : mark ∉ xs)
    (hys : mark ∉ ys) (h : xs ++ mark :: rest = ys ++ mark :: rest') :
    xs = ys ∧ rest = rest' := by
  induction xs generalizing ys with
  | nil =>
    cases ys with
    | nil => exact ⟨rfl, (List.cons.inj h).2⟩
    | cons y ys => exact absurd (List.cons.inj h).1 (List.ne_of_not_mem_cons hys)
  | cons x xs ih =>
    cases ys with
    | nil => exact absurd (List.cons.inj h).1.symm (List.ne_of_not_mem_cons hxs)
    | cons y ys =>
      obtain ⟨rfl, htail⟩ := List.cons.inj h
      obtain ⟨rfl, hrest⟩ := ih (List.not_mem_of_not_mem_cons hxs)
        (List.not_mem_of_not_mem_cons hys) htail
      exact ⟨rfl, hrest⟩

/-! ### Hexadecimal numbers -/

/-- The number that hexadecimal digits spell. -/
def ofHexDigits (cs : List Char) : Nat :=
  cs.foldl (fun n c => n * 16 + (Bytes.hexValue? c).getD 0) 0

theorem hexValue?_digitChar {n : Nat} (h : n < 16) : Bytes.hexValue? n.digitChar = some n := by
  have hall : ∀ k < 16, Bytes.hexValue? k.digitChar = some k := by decide
  exact hall n h

theorem ofHexDigits_toDigits (n : Nat) : ofHexDigits (Nat.toDigits 16 n) = n := by
  induction n using Nat.strongRecOn with
  | ind n ih =>
    rw [Nat.toDigits_eq_if (by decide)]
    split
    · rename_i hn
      simp [ofHexDigits, hexValue?_digitChar hn]
    · rename_i hn
      rw [ofHexDigits, List.foldl_append, ← ofHexDigits, ih (n / 16) (by omega)]
      simp [hexValue?_digitChar (n.mod_lt (by decide)), Nat.div_add_mod']

theorem brace_not_mem_toDigits (n : Nat) : '\x7d' ∉ Nat.toDigits 16 n := by
  have hdigit : ∀ k < 16, '\x7d' ∉ [Nat.digitChar k] := by decide
  induction n using Nat.strongRecOn with
  | ind n ih =>
    rw [Nat.toDigits_eq_if (by decide)]
    split
    · rename_i hn
      exact hdigit n hn
    · rename_i hn
      rw [List.mem_append, not_or]
      exact ⟨ih (n / 16) (by omega), hdigit _ (n.mod_lt (by decide))⟩

theorem selfDelimiting_escapeNumber : SelfDelimiting escapeNumber := by
  intro a b rest rest' h
  simp only [escapeNumber, List.cons_append, List.cons.injEq, true_and, List.append_assoc,
    List.nil_append] at h
  obtain ⟨hdigits, rfl⟩ :=
    append_cons_inj (brace_not_mem_toDigits _) (brace_not_mem_toDigits _) h
  have hnumber : a.toNat = b.toNat := calc
    a.toNat = ofHexDigits (Nat.toDigits 16 a.toNat) := (ofHexDigits_toDigits a.toNat).symm
    _ = ofHexDigits (Nat.toDigits 16 b.toNat) := by rw [hdigits]
    _ = b.toNat := ofHexDigits_toDigits b.toNat
  exact ⟨Char.toNat_inj.mp hnumber, rfl⟩

/-! ### Characters between quotes -/

/-- The character that another one stands for after a backslash. -/
def named : Char → Char
  | 'n' => '\n'
  | 'r' => '\r'
  | 't' => '\t'
  | '0' => '\x00'
  | c => c

/-- A character stands for itself, or follows a backslash by its name or by its number. -/
theorem escape_cases (c : Char) :
    (escape c = [c] ∧ c ≠ '"' ∧ c ≠ '\\') ∨
      (∃ name, escape c = ['\\', name] ∧ name ≠ 'u' ∧ named name = c) ∨
      escape c = escapeNumber c := by
  by_cases hquote : c = '"' ∨ c = '\\'
  · refine .inr (.inl ⟨c, by rw [escape, if_pos hquote], ?_⟩)
    rcases hquote with rfl | rfl <;> decide
  rw [escape, if_neg hquote]
  split
  · rename_i hc
    exact .inr (.inl ⟨'n', rfl, by decide, hc.symm⟩)
  split
  · rename_i hc
    exact .inr (.inl ⟨'r', rfl, by decide, hc.symm⟩)
  split
  · rename_i hc
    exact .inr (.inl ⟨'t', rfl, by decide, hc.symm⟩)
  split
  · rename_i hc
    exact .inr (.inl ⟨'0', rfl, by decide, hc.symm⟩)
  split
  · exact .inl ⟨rfl, not_or.mp hquote⟩
  · exact .inr (.inr rfl)

/-- The first character tells a plain one from the others, and the second a number from a name. -/
theorem selfDelimiting_escape : SelfDelimiting escape := by
  intro a b rest rest' h
  rcases escape_cases a with ⟨ha, -, hplain⟩ | ⟨name, ha, hname, rfl⟩ | ha <;>
    rcases escape_cases b with ⟨hb, -, hplain'⟩ | ⟨name', hb, hname', rfl⟩ | hb <;>
    rw [ha, hb] at h
  -- For each way in which `a` is written, the three ways of `b`.
  · exact List.cons.inj h
  · exact absurd (List.cons.inj h).1 hplain
  · exact absurd (List.cons.inj h).1 hplain
  · exact absurd (List.cons.inj h).1.symm hplain'
  · obtain ⟨rfl, hrest⟩ := List.cons.inj (List.cons.inj h).2
    exact ⟨rfl, hrest⟩
  · exact absurd (List.cons.inj (List.cons.inj h).2).1 hname
  · exact absurd (List.cons.inj h).1.symm hplain'
  · exact absurd (List.cons.inj (List.cons.inj h).2).1.symm hname'
  · exact selfDelimiting_escapeNumber a b rest rest' h

theorem escape_append_ne_quote (c : Char) (rest rest' : List Char) :
    escape c ++ rest ≠ '"' :: rest' := by
  intro h
  rcases escape_cases c with ⟨hc, hquote, -⟩ | ⟨name, hc, -⟩ | hc <;> rw [hc] at h
  · exact hquote (List.cons.inj h).1
  · exact absurd (List.cons.inj h).1 (by decide)
  · exact absurd (List.cons.inj h).1 (by decide)

theorem flatMap_escape_inj {cs ds rest rest' : List Char}
    (h : cs.flatMap escape ++ '"' :: rest = ds.flatMap escape ++ '"' :: rest') :
    cs = ds ∧ rest = rest' := by
  induction cs generalizing ds with
  | nil =>
    cases ds with
    | nil => exact ⟨rfl, (List.cons.inj h).2⟩
    | cons d ds =>
      rw [List.flatMap_cons, List.append_assoc] at h
      exact absurd h.symm (escape_append_ne_quote d _ _)
  | cons c cs ih =>
    rw [List.flatMap_cons, List.append_assoc] at h
    cases ds with
    | nil => exact absurd h (escape_append_ne_quote c _ _)
    | cons d ds =>
      rw [List.flatMap_cons, List.append_assoc] at h
      obtain ⟨rfl, htail⟩ := selfDelimiting_escape c d _ _ h
      obtain ⟨rfl, hrest⟩ := ih htail
      exact ⟨rfl, hrest⟩

/-! ### Quoted texts -/

theorem selfDelimiting_quote : SelfDelimiting fun s => (quote s).toList := by
  intro s t rest rest' h
  simp only [quote, String.toList_ofList, List.cons_append, List.append_assoc,
    List.nil_append] at h
  obtain ⟨hchars, hrest⟩ := flatMap_escape_inj (List.cons.inj h).2
  exact ⟨String.toList_inj.mp hchars, hrest⟩

/-- Further quoted texts, each after a comma. -/
def more (names : List String) : List Char :=
  names.flatMap fun s => ',' :: ' ' :: (quote s).toList

theorem toList_intercalate_quote (name : String) (names : List String) :
    (", ".intercalate ((name :: names).map quote)).toList = (quote name).toList ++ more names := by
  induction names generalizing name with
  | nil => simp [more]
  | cons next names ih =>
    rw [List.map_cons, List.map_cons, String.intercalate_cons_cons, ← List.map_cons,
      String.toList_append, ih]
    simp [more]

theorem head?_intercalate_quote (name : String) (names : List String) (rest : List Char) :
    ((", ".intercalate ((name :: names).map quote)).toList ++ rest).head? = some '"' := by
  rw [toList_intercalate_quote]
  simp [quote]

theorem more_inj {names names' : List String}
    (h : more names ++ ['\x7d'] = more names' ++ ['\x7d']) : names = names' := by
  induction names generalizing names' with
  | nil =>
    cases names' with
    | nil => rfl
    | cons name' names' => exact absurd (List.cons.inj h).1 (by decide)
  | cons name names ih =>
    cases names' with
    | nil => exact absurd (List.cons.inj h).1 (by decide)
    | cons name' names' =>
      simp only [more, List.flatMap_cons, List.cons_append, List.append_assoc] at h
      obtain ⟨rfl, htail⟩ :=
        selfDelimiting_quote name name' _ _ (List.cons.inj (List.cons.inj h).2).2
      rw [ih htail]

/-- **Quoted texts in braces have one reading.** -/
theorem braced_inj {names names' : List String} :
    "\x7b" ++ ", ".intercalate (names.map quote) ++ "\x7d" =
      "\x7b" ++ ", ".intercalate (names'.map quote) ++ "\x7d" ↔ names = names' := by
  refine ⟨fun h => ?_, fun h => by rw [h]⟩
  have hchars : (", ".intercalate (names.map quote)).toList ++ ['\x7d'] =
      (", ".intercalate (names'.map quote)).toList ++ ['\x7d'] := by
    simpa [String.append_assoc] using congrArg String.toList h
  -- Names start with a quote, and no names with the closing brace.
  have hhead := congrArg List.head? hchars
  cases names with
  | nil =>
    cases names' with
    | nil => rfl
    | cons name' names' =>
      rw [head?_intercalate_quote] at hhead
      exact absurd hhead (by decide)
  | cons name names =>
    cases names' with
    | nil =>
      rw [head?_intercalate_quote] at hhead
      exact absurd hhead (by decide)
    | cons name' names' =>
      rw [toList_intercalate_quote, toList_intercalate_quote, List.append_assoc,
        List.append_assoc] at hchars
      obtain ⟨rfl, hmore⟩ := selfDelimiting_quote name name' _ _ hchars
      rw [more_inj hmore]

end PackedAttestation.Text
