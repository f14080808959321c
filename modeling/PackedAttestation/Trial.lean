import PackedAttestation.Error
import PackedAttestation.Event

/-! # Trials

A trial is a verification under way: the events it has noted, and its outcome.  A
trial that has failed keeps the events noted before the failure, and what would
have come after it is not run.
-/
namespace PackedAttestation

/-- The events and the outcome of a verification. -/
structure Trial (α : Type) where
  events : List Event
  outcome : Except Error α

namespace Trial

variable {α β : Type}

/-- The log of a trial: what is written of its events. -/
def log (x : Trial α) : List Line :=
  x.events.map Event.line

/-- A trial that goes well and notes nothing. -/
def succeed (a : α) : Trial α := ⟨[], .ok a⟩

/-- A trial that fails. -/
def fail (e : Error) : Trial α := ⟨[], .error e⟩

/-- A trial that notes an event. -/
def note (e : Event) : Trial Unit := ⟨[e], .ok ()⟩

/-- A check that notes nothing. -/
def ofExcept (x : Except Error α) : Trial α := ⟨[], x⟩

/-- A trial, then another one if it goes well. -/
def andThen (x : Trial α) (f : α → Trial β) : Trial β :=
  match x.outcome with
  | .error e => ⟨x.events, .error e⟩
  | .ok a =>
    let y := f a
    ⟨x.events ++ y.events, y.outcome⟩

instance : Monad Trial where
  pure := succeed
  bind := andThen

theorem bind_eq_andThen (x : Trial α) (f : α → Trial β) : x >>= f = x.andThen f := rfl

@[simp] theorem succeed_andThen (a : α) (f : α → Trial β) : (succeed a).andThen f = f a := rfl

/-! ### Outcomes

The outcome of a trial does not depend on the events noted on the way.
-/

@[simp] theorem outcome_pure (a : α) : (pure a : Trial α).outcome = .ok a := rfl

@[simp] theorem outcome_succeed (a : α) : (succeed a).outcome = .ok a := rfl

@[simp] theorem outcome_fail (e : Error) : (fail e : Trial α).outcome = .error e := rfl

@[simp] theorem outcome_note (e : Event) : (note e).outcome = .ok () := rfl

@[simp] theorem outcome_ofExcept (x : Except Error α) : (ofExcept x).outcome = x := rfl

@[simp] theorem outcome_note_bind (e : Event) (f : Unit → Trial β) :
    (note e >>= f).outcome = (f ()).outcome := rfl

@[simp] theorem outcome_ite_note_bind (c : Prop) [Decidable c] (e : Event) (x : Trial β) :
    (if c then note e >>= fun _ => x else x).outcome = x.outcome := by
  split <;> rfl

/-- A trial and a further one succeed exactly if both do. -/
theorem outcome_bind_eq_ok_iff {x : Trial α} {f : α → Trial β} {b : β} :
    (x >>= f).outcome = .ok b ↔ ∃ a, x.outcome = .ok a ∧ (f a).outcome = .ok b := by
  rw [bind_eq_andThen, andThen]
  cases x.outcome with
  | error e => simp
  | ok a => simp

end Trial
end PackedAttestation
