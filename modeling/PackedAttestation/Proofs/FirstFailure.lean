import PackedAttestation.Trial

/-! # The first check that fails

A verification makes its checks in an order, and its error is to be that of the first
check that fails.  What it means for a check to fail is said on its own, by a relation
between checks and errors that does not look at the other checks, so several may fail
at once (`FirstError`).  A result follows a list of checks if an error is that of the
first one that fails, and where all goes well none does (`Follows`).  Each part of a
verification follows its own checks, and one part after the other follows the checks
of the one, then those of the other (`Follows.bind`).
-/
namespace PackedAttestation

/-- The outcome of a trial and a further one is decided by the outcomes of both. -/
theorem Trial.outcome_bind {α β : Type} (x : Trial α) (f : α → Trial β) :
    (x >>= f).outcome = x.outcome.bind fun a => (f a).outcome := by
  rw [bind_eq_andThen, andThen]
  cases x.outcome <;> rfl

variable {Check Check' α β : Type} {fails : Check → Error → Prop} {checks later : List Check}
  {c : Check} {e e' : Error}

/-- `e` is the error of the first of the checks that fails: one check fails with `e`, and none
before it fails. -/
def FirstError (fails : Check → Error → Prop) (checks : List Check) (e : Error) : Prop :=
  ∃ before check after, checks = before ++ check :: after ∧
    (∀ earlier ∈ before, ∀ e', ¬fails earlier e') ∧ fails check e

namespace FirstError

theorem head (h : fails c e) : FirstError fails (c :: checks) e :=
  ⟨[], c, checks, rfl, by simp, h⟩

theorem append_left (h : FirstError fails checks e) : FirstError fails (checks ++ later) e := by
  obtain ⟨before, check, after, rfl, hbefore, hcheck⟩ := h
  refine ⟨before, check, after ++ later, ?_, hbefore, hcheck⟩
  rw [List.append_assoc, List.cons_append]

theorem append_right (h : FirstError fails later e) (hnone : ∀ c ∈ checks, ∀ e, ¬fails c e) :
    FirstError fails (checks ++ later) e := by
  obtain ⟨before, check, after, rfl, hbefore, hcheck⟩ := h
  refine ⟨checks ++ before, check, after, (List.append_assoc ..).symm, ?_, hcheck⟩
  intro earlier hmem
  rcases List.mem_append.mp hmem with hmem | hmem
  · exact hnone earlier hmem
  · exact hbefore earlier hmem

/-- A check that fails first keeps its place when the checks are seen as those of a larger
kind. -/
theorem map {fails' : Check' → Error → Prop} {f : Check → Check'}
    (hfails : ∀ c e, fails' (f c) e ↔ fails c e) (h : FirstError fails checks e) :
    FirstError fails' (checks.map f) e := by
  obtain ⟨before, check, after, rfl, hbefore, hcheck⟩ := h
  refine ⟨before.map f, f check, after.map f, by simp, ?_, (hfails check e).mpr hcheck⟩
  intro earlier hmem e' hearlier
  obtain ⟨c, hc, rfl⟩ := List.mem_map.mp hmem
  exact hbefore c hc e' ((hfails c e').mp hearlier)

/-- Some check of the list fails. -/
theorem exists_mem (h : FirstError fails checks e) : ∃ c ∈ checks, fails c e := by
  obtain ⟨before, check, after, rfl, -, hcheck⟩ := h
  exact ⟨check, List.mem_append_right before List.mem_cons_self, hcheck⟩

theorem of_cons (h : FirstError fails (c :: checks) e) :
    fails c e ∨ (∀ e', ¬fails c e') ∧ FirstError fails checks e := by
  obtain ⟨before, check, after, heq, hbefore, hcheck⟩ := h
  cases before with
  | nil =>
    cases heq
    exact .inl hcheck
  | cons first before =>
    cases heq
    refine .inr ⟨hbefore c List.mem_cons_self, before, check, after, rfl, ?_, hcheck⟩
    exact fun earlier hmem => hbefore earlier (List.mem_cons_of_mem c hmem)

/-- There is only one first error, if each check fails with one error only. -/
theorem unique (hfails : ∀ c e e', fails c e → fails c e' → e = e')
    (h : FirstError fails checks e) (h' : FirstError fails checks e') : e = e' := by
  induction checks with
  | nil =>
    obtain ⟨c, hmem, -⟩ := h.exists_mem
    cases hmem
  | cons c checks ih =>
    rcases h.of_cons with hc | ⟨hnot, hrest⟩ <;> rcases h'.of_cons with hc' | ⟨hnot', hrest'⟩
    · exact hfails c e e' hc hc'
    · exact absurd hc (hnot' e)
    · exact absurd hc' (hnot e')
    · exact ih hrest hrest'

end FirstError

/-- A result follows a list of checks: an error is that of the first check that fails, and where
all goes well no check fails. -/
structure Follows (r : Except Error α) (fails : Check → Error → Prop) (checks : List Check) :
    Prop where
  error : ∀ e, r = .error e → FirstError fails checks e
  ok : ∀ a, r = .ok a → ∀ c ∈ checks, ∀ e, ¬fails c e

namespace Follows

variable {r : Except Error α}

/-- Where no checks are made there is no error. -/
theorem nil (a : α) : Follows (.ok a) fails ([] : List Check) where
  error := by
    rintro e ⟨⟩
  ok := by
    rintro a - c ⟨⟩

/-- The first check fails. -/
theorem head (h : fails c e) : Follows (.error e : Except Error α) fails (c :: checks) where
  error := by
    rintro e' ⟨⟩
    exact .head h
  ok := by
    rintro a ⟨⟩

/-- There is one check, and it fails exactly where there is an error. -/
theorem single (h : ∀ e, r = .error e ↔ fails c e) : Follows r fails [c] where
  error e he := .head ((h e).mp he)
  ok := by
    rintro a rfl c' hmem e hc
    obtain rfl := List.mem_singleton.mp hmem
    cases (h e).mpr hc

/-- Checks that do not fail may stand before those that are followed. -/
theorem prepend (hnone : ∀ c ∈ checks, ∀ e, ¬fails c e) (h : Follows r fails later) :
    Follows r fails (checks ++ later) where
  error e he := (h.error e he).append_right hnone
  ok a ha c hmem := by
    rcases List.mem_append.mp hmem with hmem | hmem
    · exact hnone c hmem
    · exact h.ok a ha c hmem

/-- Checks that do not fail may stand after them. -/
theorem append (h : Follows r fails checks) (hnone : ∀ c ∈ later, ∀ e, ¬fails c e) :
    Follows r fails (checks ++ later) where
  error e he := (h.error e he).append_left
  ok a ha c hmem := by
    rcases List.mem_append.mp hmem with hmem | hmem
    · exact h.ok a ha c hmem
    · exact hnone c hmem

/-- The first check does not fail, and the others are followed. -/
theorem skip (hc : ∀ e, ¬fails c e) (h : Follows r fails checks) :
    Follows r fails (c :: checks) := by
  have hnone : ∀ c' ∈ [c], ∀ e, ¬fails c' e := by simpa using hc
  exact h.prepend hnone

/-- One part of a verification after the other. -/
theorem bind {f : α → Except Error β} (hr : Follows r fails checks)
    (hf : ∀ a, r = .ok a → Follows (f a) fails later) :
    Follows (r.bind f) fails (checks ++ later) := by
  cases hcase : r with
  | error e =>
    refine ⟨?_, by rintro b ⟨⟩⟩
    rintro e' ⟨⟩
    exact (hr.error e hcase).append_left
  | ok a => exact (hf a hcase).prepend (hr.ok a hcase)

/-- What is made of a good result makes no difference. -/
theorem mapResult (h : Follows r fails checks) (f : α → β) : Follows (r.map f) fails checks := by
  cases r with
  | error e =>
    refine ⟨?_, by rintro b ⟨⟩⟩
    rintro e' ⟨⟩
    exact h.error e rfl
  | ok a => exact ⟨by rintro e ⟨⟩, fun _ _ => h.ok a rfl⟩

/-- A trial after another one. -/
theorem trial {x : Trial α} {f : α → Trial β} (hx : Follows x.outcome fails checks)
    (hf : ∀ a, x.outcome = .ok a → Follows (f a).outcome fails later) :
    Follows (x >>= f).outcome fails (checks ++ later) := by
  rw [Trial.outcome_bind]
  exact hx.bind hf

/-- The checks of a part, seen as checks of the whole. -/
theorem map {fails' : Check' → Error → Prop} {f : Check → Check'}
    (hfails : ∀ c e, fails' (f c) e ↔ fails c e) (h : Follows r fails checks) :
    Follows r fails' (checks.map f) where
  error := fun e he => (h.error e he).map hfails
  ok := by
    intro a ha c' hmem' e hc
    obtain ⟨c, hmem, rfl⟩ := List.mem_map.mp hmem'
    exact h.ok a ha c hmem e ((hfails c e).mp hc)

/-- **A result that follows its checks fails exactly with the first error.** -/
theorem eq_error_iff (h : Follows r fails checks)
    (hfails : ∀ c e e', fails c e → fails c e' → e = e') :
    r = .error e ↔ FirstError fails checks e := by
  constructor
  · exact h.error e
  · intro hfirst
    cases hr : r with
    | error e' => rw [(h.error e' hr).unique hfails hfirst]
    | ok a =>
      obtain ⟨c, hmem, hc⟩ := hfirst.exists_mem
      exact absurd hc (h.ok a hr c hmem e)

end Follows
end PackedAttestation
