import Mathlib.Data.List.Forall2
import Mathlib.Data.List.Induction
import PackedAttestation.Registry.Session
import PackedAttestation.Proofs.QuotedText
import PackedAttestation.Proofs.TextOrder

/-! # Registries as maps with a history

A session keeps several registries, some of them copies of others.  What a registry finds is said
by its **history**, the registrations that led to it in order: a copy starts with the history of
its source as it was, and goes on by itself (`Session.histories`).  Each registry of a session
reflects its history (`Registry.Reflects`): the last registration of a name wins, and the names
are listed once each, in the order of their bytes.

One step keeps this and is answered by the histories alone (`Session.reflects_step`).  By
induction the same holds after every run (`Session.reflects_run`), and so of every step of every
run (`Session.run_reflects_histories`).
-/
namespace PackedAttestation

/-- The registrations in a registry, the first one first. -/
abbrev History := List (String × Verifier)

namespace History

/-- The names that were ever registered. -/
def names (history : History) : List String :=
  history.map Prod.fst

/-- The last registration of a name has this verifier. -/
def Latest (history : History) (name : String) (verifier : Verifier) : Prop :=
  ∃ before after, history = before ++ (name, verifier) :: after ∧ name ∉ names after

variable {history : History} {name key : String} {verifier value : Verifier}

theorem names_concat : names (history ++ [(key, value)]) = history.names ++ [key] := by
  simp [names]

theorem not_latest_nil : ¬Latest [] name verifier := by
  rintro ⟨before, after, h, -⟩
  simp at h

theorem latest_concat_iff :
    Latest (history ++ [(key, value)]) name verifier ↔
      name = key ∧ verifier = value ∨ name ≠ key ∧ history.Latest name verifier := by
  constructor
  · rintro ⟨before, after, heq, hafter⟩
    rcases after.eq_nil_or_concat with rfl | ⟨after, entry, rfl⟩
    · obtain ⟨-, hentry⟩ := List.append_inj' heq rfl
      cases hentry
      exact .inl ⟨rfl, rfl⟩
    · rw [List.concat_eq_append] at heq hafter
      rw [← List.cons_append, ← List.append_assoc] at heq
      obtain ⟨rfl, hentry⟩ := List.append_inj' heq rfl
      cases hentry
      rw [names_concat, List.mem_append, not_or, List.mem_singleton] at hafter
      exact .inr ⟨hafter.2, before, after, rfl, hafter.1⟩
  · rintro (⟨rfl, rfl⟩ | ⟨hne, before, after, rfl, hafter⟩)
    · exact ⟨history, [], rfl, List.not_mem_nil⟩
    · refine ⟨before, after ++ [(key, value)], by simp, ?_⟩
      rw [names_concat, List.mem_append, not_or, List.mem_singleton]
      exact ⟨hafter, hne⟩

theorem mem_names_iff : name ∈ history.names ↔ ∃ verifier, history.Latest name verifier := by
  induction history using List.reverseRecOn with
  | nil => simp [names, not_latest_nil]
  | append_singleton history entry ih =>
    obtain ⟨key, value⟩ := entry
    simp only [names_concat, List.mem_append, List.mem_singleton, latest_concat_iff, ih]
    by_cases hname : name = key <;> simp [hname]

end History

/-! ### One registry -/

namespace Registry

variable {registry : Registry} {history : History}

/-- A registry is the map that its history says: it finds the last registration of a name, lists
the names ever registered in the increasing order of their bytes, and hands what is to be
verified to the verifier found. The text that shows it is made of the quoted names of the list,
and of no other names: the list can be read off the text. -/
structure Reflects (registry : Registry) (history : History) : Prop where
  finds : ∀ name verifier, registry.get? name = some verifier ↔ history.Latest name verifier
  lists : ∀ name, name ∈ registry.formats ↔ name ∈ history.names
  increases : registry.formats.Pairwise fun a b => Text.utf8 a < Text.utf8 b
  shows : ∀ names : List String,
    registry.text = "\x7b" ++ ", ".intercalate (names.map Text.quote) ++ "\x7d" ↔
      names = registry.formats
  verifies : ∀ name verifier, history.Latest name verifier → registry.verify name = verifier
  refuses : ∀ name, name ∉ history.names → ∀ value auth clientDataHash,
    (registry.verify name value auth clientDataHash).outcome = .error (.unknownFormat name)

theorem mem_formats_iff {name : String} :
    name ∈ registry.formats ↔ ∃ verifier, registry.get? name = some verifier := by
  rw [formats, get?]
  induction registry.entries with
  | nil => simp [findEntry]
  | cons entry rest ih =>
    obtain ⟨key, value⟩ := entry
    rw [List.map_cons, List.mem_cons, ih, findEntry]
    by_cases hname : key = name
    · simp [hname]
    · simp [hname, Ne.symm hname]

/-- All of it follows from what is found. -/
theorem Reflects.of_finds
    (h : ∀ name verifier, registry.get? name = some verifier ↔ history.Latest name verifier) :
    registry.Reflects history where
  finds := h
  lists := fun name => by simp only [mem_formats_iff, History.mem_names_iff, h]
  increases := by
    rw [formats, List.pairwise_map]
    exact registry.sorted.imp Text.lt_iff_utf8_lt.mp
  shows := fun _ => Text.braced_inj.trans eq_comm
  verifies := fun name verifier hlatest => by
    funext value auth clientDataHash
    rw [verify, (h name verifier).mpr hlatest]
  refuses := fun name hname value auth clientDataHash => by
    have hnone : registry.get? name = none := by
      rw [Option.eq_none_iff_forall_ne_some]
      intro verifier hfound
      exact hname (History.mem_names_iff.mpr ⟨verifier, (h name verifier).mp hfound⟩)
    rw [verify, hnone]
    rfl

theorem Reflects.empty : Registry.empty.Reflects [] :=
  .of_finds fun name verifier => by simp [History.not_latest_nil]

theorem Reflects.insert (h : registry.Reflects history) (name : String) (verifier : Verifier) :
    (registry.insert name verifier).Reflects (history ++ [(name, verifier)]) := by
  refine .of_finds fun other value => ?_
  rw [get?_insert, History.latest_concat_iff, ← h.finds]
  by_cases hname : other = name <;> simp [hname, eq_comm]

theorem Reflects.standard : Registry.standard.Reflects [("packed", verifyPacked)] :=
  Reflects.empty.insert "packed" verifyPacked

theorem Reflects.isSome_get? (h : registry.Reflects history) (name : String) :
    (registry.get? name).isSome = decide (name ∈ history.names) := by
  rw [Bool.eq_iff_iff, decide_eq_true_iff, ← h.lists, mem_formats_iff, Option.isSome_iff_exists]

end Registry

/-! ### The histories of a session -/

namespace Session

/-- The histories after one more step. Only a registration adds to a history, whether or not the
name was there before. -/
def advance (histories : List History) : Step → List History
  | .new => histories ++ [[]]
  | .standard => histories ++ [[("packed", verifyPacked)]]
  | .copy source => histories ++ histories[source]?.toList
  | .register index format verifier => histories.modify index (· ++ [(format, verifier)])
  | .formats _ | .get _ _ | .verify .. => histories

/-- The histories after steps that start without registries. -/
def histories (steps : List Step) : List History :=
  steps.foldl advance []

/-- The registry that a step asks for. -/
def Step.index? : Step → Option Nat
  | .new | .standard => none
  | .copy index | .register index _ _ | .formats index | .get index _ | .verify index .. =>
    some index

/-- The reply to a step, told from the histories before it. -/
inductive Answers (histories : List History) : Step → Reply → Prop
  | new {registry : Registry} : registry.Reflects [] →
      Answers histories .new (.added histories.length registry)
  | standard {registry : Registry} : registry.Reflects [("packed", verifyPacked)] →
      Answers histories .standard (.added histories.length registry)
  | copy {source : Nat} {history : History} {registry : Registry} :
      histories[source]? = some history → registry.Reflects history →
      Answers histories (.copy source) (.added histories.length registry)
  /-- A name that was there before is named, and the registration counts nevertheless. -/
  | register {index : Nat} {format : String} {verifier : Verifier} {history : History}
      {registry : Registry} :
      histories[index]? = some history → registry.Reflects (history ++ [(format, verifier)]) →
      Answers histories (.register index format verifier)
        (.registered registry (if format ∈ history.names then some format else none))
  | formats {index : Nat} {history : History} {names : List String} :
      histories[index]? = some history → (∀ name, name ∈ names ↔ name ∈ history.names) →
      names.Pairwise (fun a b => Text.utf8 a < Text.utf8 b) →
      Answers histories (.formats index) (.formats names)
  | get {index : Nat} {format : String} {history : History} :
      histories[index]? = some history →
      Answers histories (.get index format) (.found (decide (format ∈ history.names)))
  | verify {index : Nat} {format : String} {value : Cbor} {auth : AuthenticatorData}
      {clientDataHash : Bytes} {history : History} {verifier : Verifier} :
      histories[index]? = some history → history.Latest format verifier →
      Answers histories (.verify index format value auth clientDataHash)
        (.verdict (verifier value auth clientDataHash).outcome)
  | verifyUnknown {index : Nat} {format : String} {value : Cbor} {auth : AuthenticatorData}
      {clientDataHash : Bytes} {history : History} :
      histories[index]? = some history → format ∉ history.names →
      Answers histories (.verify index format value auth clientDataHash)
        (.verdict (.error (.unknownFormat format)))
  | noRegistry {step : Step} {index : Nat} :
      step.index? = some index → histories[index]? = none → Answers histories step .noRegistry

/-! ### One step -/

section Related

variable {α β : Type} {R : α → β → Prop} {as : List α} {bs : List β}

theorem getElem?_related (h : List.Forall₂ R as bs) (i : Nat) :
    as[i]? = none ∧ bs[i]? = none ∨ ∃ a b, as[i]? = some a ∧ bs[i]? = some b ∧ R a b := by
  induction h generalizing i with
  | nil => simp
  | cons hab _ ih =>
    cases i with
    | zero => exact .inr ⟨_, _, rfl, rfl, hab⟩
    | succ i => simpa using ih i

theorem set_related (h : List.Forall₂ R as bs) {i : Nat} {a : α} {b : β} {f : β → β}
    (hb : bs[i]? = some b) (hab : R a (f b)) : List.Forall₂ R (as.set i a) (bs.modify i f) := by
  induction h generalizing i with
  | nil => cases hb
  | cons hcons htail ih =>
    cases i with
    | zero =>
      cases hb
      exact .cons hab htail
    | succ i => exact .cons hcons (ih hb)

end Related

variable {session : Session} {hs : List History}

theorem reflects_add (h : List.Forall₂ Registry.Reflects session hs) {registry : Registry}
    {history : History} (hregistry : registry.Reflects history) :
    List.Forall₂ Registry.Reflects (session ++ [registry]) (hs ++ [history]) :=
  List.rel_append h (.cons hregistry .nil)

/-- A step that asks for a registry leaves everything as it is where there is none. Where there is
one, it has a history that it reflects. -/
theorem reflects_onRegistry {step : Step} {index : Nat} {act : Registry → Session × Reply}
    (hindex : step.index? = some index) (h : List.Forall₂ Registry.Reflects session hs)
    (hnone : hs[index]? = none → advance hs step = hs)
    (hsome : ∀ registry history, hs[index]? = some history → registry.Reflects history →
      List.Forall₂ Registry.Reflects (act registry).1 (advance hs step) ∧
        Answers hs step (act registry).2) :
    List.Forall₂ Registry.Reflects (session.onRegistry index act).1 (advance hs step) ∧
      Answers hs step (session.onRegistry index act).2 := by
  rw [onRegistry]
  rcases getElem?_related h index with ⟨hr, hh⟩ | ⟨registry, history, hr, hh, hreflects⟩
  · rw [hr, hnone hh]
    exact ⟨h, .noRegistry hindex hh⟩
  · rw [hr]
    exact hsome registry history hh hreflects

/-- **One step.** The registries go on to reflect their histories, and the reply is the one that
the histories tell. -/
theorem reflects_step (h : List.Forall₂ Registry.Reflects session hs) (step : Step) :
    List.Forall₂ Registry.Reflects (session.step step).1 (advance hs step) ∧
      Answers hs step (session.step step).2 := by
  have hlength := h.length_eq
  cases step with
  | new =>
    refine ⟨reflects_add h .empty, ?_⟩
    rw [Session.step, add, hlength]
    exact .new .empty
  | standard =>
    refine ⟨reflects_add h .standard, ?_⟩
    rw [Session.step, add, hlength]
    exact .standard .standard
  | copy source =>
    refine reflects_onRegistry rfl h (fun hnone => by simp [advance, hnone]) ?_
    intro registry history hh hreflects
    rw [add, advance, hh, Option.toList_some, hlength]
    exact ⟨reflects_add h hreflects, .copy hh hreflects⟩
  | register index format verifier =>
    refine reflects_onRegistry rfl h (fun hnone => ?_) fun registry history hh hreflects => ?_
    · exact List.modify_eq_self (List.getElem?_eq_none_iff.mp hnone)
    · have hnext := hreflects.insert format verifier
      have hreplaced := hreflects.isSome_get? format
      refine ⟨set_related h hh hnext, ?_⟩
      simp only [register, hreplaced, decide_eq_true_eq]
      exact .register hh hnext
  | formats index =>
    refine reflects_onRegistry rfl h (fun _ => rfl) fun registry history hh hreflects => ?_
    exact ⟨h, .formats hh hreflects.lists hreflects.increases⟩
  | get index format =>
    refine reflects_onRegistry rfl h (fun _ => rfl) fun registry history hh hreflects => ?_
    rw [hreflects.isSome_get? format]
    exact ⟨h, .get hh⟩
  | verify index format value auth clientDataHash =>
    refine reflects_onRegistry rfl h (fun _ => rfl) fun registry history hh hreflects => ?_
    refine ⟨h, ?_⟩
    by_cases hname : format ∈ history.names
    · obtain ⟨verifier, hlatest⟩ := History.mem_names_iff.mp hname
      rw [hreflects.verifies format verifier hlatest]
      exact .verify hh hlatest
    · rw [hreflects.refuses format hname]
      exact .verifyUnknown hh hname

/-- A step changes no registry but the one that it registers something in. -/
theorem getElem?_step {step : Step} {index : Nat} (hindex : index < session.length)
    (hstep : ∀ format verifier, step ≠ .register index format verifier) :
    (session.step step).1[index]? = session[index]? := by
  have hadd : ∀ registry, (session.add registry).1[index]? = session[index]? := fun registry =>
    List.getElem?_append_left hindex
  -- Where the registry asked for is not there, nothing changes.
  have honRegistry : ∀ (other : Nat) (act : Registry → Session × Reply),
      (∀ registry, (act registry).1[index]? = session[index]?) →
      (session.onRegistry other act).1[index]? = session[index]? := by
    intro other act hact
    rw [onRegistry]
    split
    · exact hact _
    · rfl
  cases step with
  | new | standard => exact hadd _
  | copy source => exact honRegistry source _ hadd
  | register other format verifier =>
    have hne : other ≠ index := by
      rintro rfl
      exact hstep format verifier rfl
    exact honRegistry other _ fun registry => List.getElem?_set_ne hne
  | formats other | get other _ | verify other _ _ _ _ => exact honRegistry other _ fun _ => rfl

/-! ### Every run -/

theorem run_append (session : Session) (before after : List Step) :
    run session (before ++ after) =
      ((run (run session before).1 after).1,
        (run session before).2 ++ (run (run session before).1 after).2) := by
  induction before generalizing session with
  | nil => rfl
  | cons step before ih => simp [run, ih]

theorem length_run (session : Session) (steps : List Step) :
    (run session steps).2.length = steps.length := by
  induction steps generalizing session with
  | nil => rfl
  | cons step steps ih => simp [run, ih]

theorem reflects_run (h : List.Forall₂ Registry.Reflects session hs) (steps : List Step) :
    List.Forall₂ Registry.Reflects (run session steps).1 (steps.foldl advance hs) := by
  induction steps generalizing session hs with
  | nil => exact h
  | cons step steps ih => exact ih (reflects_step h step).1

/-- **Registries are independent maps over every run.** Cut a run anywhere. Each registry reflects
its history so far, the next step is answered as the histories tell, and it changes no registry but
the one that it registers something in. -/
theorem run_reflects_histories (before : List Step) (step : Step) (after : List Step) :
    List.Forall₂ Registry.Reflects (run [] before).1 (histories before) ∧
    (∃ reply, (run [] (before ++ step :: after)).2[before.length]? = some reply ∧
      Answers (histories before) step reply) ∧
    ∀ index < (run [] before).1.length,
      (∀ format verifier, step ≠ .register index format verifier) →
      (run [] (before ++ [step])).1[index]? = (run [] before).1[index]? := by
  have hreflects : List.Forall₂ Registry.Reflects (run [] before).1 (histories before) :=
    reflects_run .nil before
  refine ⟨hreflects, ⟨_, ?_, (reflects_step hreflects step).2⟩, fun index hindex hstep => ?_⟩
  · have hlength := length_run [] before
    rw [run_append, List.getElem?_append_right (Nat.le_of_eq hlength), hlength, Nat.sub_self]
    rfl
  · rw [run_append]
    exact getElem?_step hindex hstep

end Session
end PackedAttestation
