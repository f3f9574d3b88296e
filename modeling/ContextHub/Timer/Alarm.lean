import ContextHub.Time
/-!
# The alarm

The hardware has one timer. It knows one deadline and what is to be done then; setting it replaces
both. Nothing happens by itself: whoever looks at a deadline that has come takes what is to be done,
and the alarm is off.
-/

namespace ContextHub

/-- An alarm that does `α` when it goes off. -/
structure Alarm (α : Type) where
  armed : Option (Nat × α) := none
  deriving DecidableEq, Repr

namespace Alarm

variable {α : Type}

def off : Alarm α := {}

/-- Set for `delay` from now on, or for the end of time if that comes first. -/
def set (now delay : Nat) (action : α) : Alarm α := { armed := some (Nanos.after now delay, action) }

def isActive (a : Alarm α) : Bool := a.armed.isSome

def deadline? (a : Alarm α) : Option Nat := a.armed.map (·.1)

/-- What is to be done, if the deadline has come, and the alarm after that. -/
def fire? (a : Alarm α) (now : Nat) : Option (α × Alarm α) :=
  match a.armed with
  | none => none
  | some (deadline, action) => if deadline ≤ now then some (action, off) else none

@[simp] theorem deadline?_off : (off : Alarm α).deadline? = none := rfl

@[simp] theorem deadline?_set (now delay : Nat) (action : α) :
    (set now delay action).deadline? = some (Nanos.after now delay) := rfl

theorem deadline?_eq_some {a : Alarm α} {deadline : Nat} :
    a.deadline? = some deadline ↔ ∃ action, a.armed = some (deadline, action) := by
  simp [deadline?]

/-- An alarm goes off if its deadline has come, and only once. -/
theorem fire?_eq_some {a b : Alarm α} {now : Nat} {action : α} :
    a.fire? now = some (action, b) ↔
      b = off ∧ ∃ deadline ≤ now, a.armed = some (deadline, action) := by
  constructor
  · intro h
    unfold fire? at h
    split at h
    · cases h
    · rename_i deadline action' harmed
      split at h
      · rename_i hdue
        cases h
        exact ⟨rfl, deadline, hdue, harmed⟩
      · cases h
  · rintro ⟨rfl, deadline, hdue, harmed⟩
    rw [fire?, harmed]
    exact if_pos hdue

end Alarm

end ContextHub
