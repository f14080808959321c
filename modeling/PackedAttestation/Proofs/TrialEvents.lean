import PackedAttestation.Trial

/-! # The events of a trial

A verification passes through stages, and each event belongs to one of them
(`Event.stage`).  The events of two trials in a row are those of the first, then those of
the second (`Trial.bind_of_ok`), so what holds of all events that the parts note holds of
all events of the whole, and the same goes for errors (`Trial.Within.bind`).
-/
namespace PackedAttestation

/-! ### Stages -/

namespace Event

/-- The stages of a verification. -/
inductive Stage where
  /-- The way of attestation is chosen. -/
  | dispatch
  /-- The certificates of a basic statement are looked at. -/
  | certificates
  | signature
  /-- The signature of a basic statement is valid, or not. -/
  | verdict
  | selfSignature
  | registry
deriving DecidableEq

/-- The stage that an event belongs to. -/
def stage : Event → Stage
  | basicAttestation _ | ecdaaAttestation _ | selfAttestation => .dispatch
  | statementAlgorithm _ | attestationCertificate _ _ | notVersionThree _
  | trailingExtensionData _ | noAaguidExtension => .certificates
  | keyNotLoaded | unrecognisedAlgorithm _ | retrying _ | keyMismatch _ _ | notVerified _
  | attemptFailed _ _ => .signature
  | signatureValid _ | signatureInvalid => .verdict
  | trailingSignatureData _ | ecdsaFailed _ | selfSignatureInvalid => .selfSignature
  | noVerifier _ => .registry

/-- Events of one stage are of no other stage. -/
theorem stage_ne {events : List Event} {own other : Stage}
    (h : ∀ event ∈ events, event.stage = own) (hne : own ≠ other) :
    ∀ event ∈ events, event.stage ≠ other := by
  intro event hmem
  rw [h event hmem]
  exact hne

/-- The algorithm that is retried, if the event is a retry. -/
def retried? : Event → Option SignatureAlgorithm
  | retrying algorithm => some algorithm
  | _ => none

theorem retried?_eq_some_iff {event : Event} {algorithm : SignatureAlgorithm} :
    event.retried? = some algorithm ↔ event = .retrying algorithm := by
  cases event <;> simp [retried?]

/-- The algorithms that are retried, in order. -/
def retries (events : List Event) : List SignatureAlgorithm :=
  events.filterMap retried?

theorem mem_retries_iff {events : List Event} {algorithm : SignatureAlgorithm} :
    algorithm ∈ retries events ↔ .retrying algorithm ∈ events := by
  simp only [retries, List.mem_filterMap, retried?_eq_some_iff, exists_eq_right]

@[simp] theorem retries_append (events events' : List Event) :
    retries (events ++ events') = retries events ++ retries events' :=
  List.filterMap_append

/-- Nothing is retried at any other stage than that of the signature. -/
theorem retries_eq_nil {events : List Event} (h : ∀ event ∈ events, event.stage ≠ .signature) :
    retries events = [] := by
  rw [List.eq_nil_iff_forall_not_mem]
  intro algorithm hmem
  exact h _ (mem_retries_iff.mp hmem) rfl

end Event

namespace Trial

variable {α β : Type}

theorem andThen_succeed (x : Trial α) : x.andThen succeed = x := by
  obtain ⟨events, outcome⟩ := x
  cases outcome <;> simp [andThen, succeed]

theorem andThen_assoc {γ : Type} (x : Trial α) (f : α → Trial β) (g : β → Trial γ) :
    (x.andThen f).andThen g = x.andThen fun a => (f a).andThen g := by
  obtain ⟨events, outcome⟩ := x
  cases outcome with
  | error e => rfl
  | ok a =>
    unfold andThen
    dsimp only
    cases (f a).outcome <;> simp

instance : LawfulMonad Trial :=
  .mk' Trial andThen_succeed succeed_andThen andThen_assoc

theorem bind_of_error {x : Trial α} {e : Error} (h : x.outcome = .error e) (f : α → Trial β) :
    x >>= f = ⟨x.events, .error e⟩ := by
  rw [bind_eq_andThen, andThen, h]

/-- Where the first trial goes well, its events come before those of the second. -/
theorem bind_of_ok {x : Trial α} {a : α} (h : x.outcome = .ok a) (f : α → Trial β) :
    x >>= f = ⟨x.events ++ (f a).events, (f a).outcome⟩ := by
  rw [bind_eq_andThen, andThen, h]

/-- A trial that notes events of a kind only, and fails with errors of a kind only. -/
structure Within (p : Event → Prop) (q : Error → Prop) (x : Trial α) : Prop where
  event : ∀ event ∈ x.events, p event
  error : ∀ e, x.outcome = .error e → q e

namespace Within

variable {p : Event → Prop} {q : Error → Prop} {x : Trial α} {f : α → Trial β}

theorem pure (a : α) : Within p q (Pure.pure a : Trial α) where
  event := by
    rintro event ⟨⟩
  error := by
    rintro e ⟨⟩

theorem fail {e : Error} (h : q e) : Within p q (fail e : Trial α) where
  event := by
    rintro event ⟨⟩
  error := by
    rintro e' ⟨⟩
    exact h

theorem note {event : Event} (h : p event) : Within p q (note event) where
  event := by
    intro event' hmem
    rw [List.mem_singleton.mp hmem]
    exact h
  error := by
    rintro e ⟨⟩

theorem ofExcept {r : Except Error α} (h : ∀ e, r = .error e → q e) : Within p q (ofExcept r) where
  event := by
    rintro event ⟨⟩
  error := h

/-- What both trials keep within, the one after the other keeps within. -/
theorem bind (hx : Within p q x) (hf : ∀ a, Within p q (f a)) : Within p q (x >>= f) := by
  cases houtcome : x.outcome with
  | error e =>
    rw [bind_of_error houtcome]
    refine ⟨hx.event, ?_⟩
    rintro e' ⟨⟩
    exact hx.error e houtcome
  | ok a =>
    rw [bind_of_ok houtcome]
    refine ⟨?_, (hf a).error⟩
    intro event hmem
    rcases List.mem_append.mp hmem with hmem | hmem
    · exact hx.event event hmem
    · exact (hf a).event event hmem

end Within
end Trial
end PackedAttestation
