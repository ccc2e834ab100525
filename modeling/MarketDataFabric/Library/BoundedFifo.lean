/-
**A bounded first-in, first-out queue**, as a labelled transition relation on the list of what it
holds, and what a run of it conserves.

An implementation refines it by showing that each of its steps, with the event it reports, is one of
these (`Machine.Simulates`, `Machine.Simulates.trace`); `conserves` then speaks about all its runs, and
`room_of_full` and `held_of_empty` about the places at which it refuses.
-/

import MarketDataFabric.Library.Machine

namespace MarketDataFabric.Library.BoundedFifo

variable {α : Type}

/-- What a queue reports to a caller. -/
inductive Event (α : Type) where
  | pushed (value : α)
  | full
  | popped (value : α)
  | empty
deriving Repr, DecidableEq

/-- The steps of a queue of the given capacity. A silent step changes nothing. -/
inductive Step (capacity : Nat) : List α → Option (Event α) → List α → Prop
  | silent (held : List α) : Step capacity held none held
  | pushed (held : List α) (value : α) : held.length < capacity →
      Step capacity held (some (.pushed value)) (held ++ [value])
  | full (held : List α) : held.length = capacity → Step capacity held (some .full) held
  | popped (held : List α) (value : α) :
      Step capacity (value :: held) (some (.popped value)) held
  | empty : Step capacity [] (some .empty) []

/-- The value of a successful push. -/
def Event.pushedValue : Event α → Option α
  | .pushed value => some value
  | .full | .popped _ | .empty => none

/-- The value of a successful pop. -/
def Event.poppedValue : Event α → Option α
  | .popped value => some value
  | .pushed _ | .full | .empty => none

/-- The values pushed along a run, in order. -/
def pushedValues (events : List (Option (Event α))) : List α :=
  events.filterMap fun event => event.bind Event.pushedValue

/-- The values popped along a run, in order. -/
def poppedValues (events : List (Option (Event α))) : List α :=
  events.filterMap fun event => event.bind Event.poppedValue

/-- A step keeps the bound. -/
theorem Step.bounded {capacity : Nat} {held later : List α} {event : Option (Event α)}
    (step : Step capacity held event later) (bound : held.length ≤ capacity) :
    later.length ≤ capacity := by
  cases step with
  | silent | full | empty => exact bound
  | pushed _ value room =>
      rw [List.length_append]
      exact room
  | popped value => exact Nat.le_of_succ_le bound

/-- **What one step conserves**: what was held and what comes in is what goes out and what is held
then. -/
theorem Step.conserves {capacity : Nat} {held later : List α} {event : Option (Event α)}
    (step : Step capacity held event later) :
    held ++ pushedValues [event] = poppedValues [event] ++ later := by
  cases step with
  | silent | full => exact List.append_nil held
  | pushed | empty => rfl
  | popped => exact List.append_nil _

/-- No event both puts a value in and takes one out. -/
theorem pushes_or_pops (event : Option (Event α)) :
    (pushedValues [event]).length = 0 ∨ (poppedValues [event]).length = 0 := by
  rcases event with _ | ⟨pushed⟩ | _ | ⟨popped⟩ | _
  all_goals first | exact Or.inl rfl | exact Or.inr rfl

theorem pushedValues_cons (event : Option (Event α)) (events : List (Option (Event α))) :
    pushedValues (event :: events) = pushedValues [event] ++ pushedValues events := by
  rw [← List.singleton_append, pushedValues, List.filterMap_append]
  rfl

theorem poppedValues_cons (event : Option (Event α)) (events : List (Option (Event α))) :
    poppedValues (event :: events) = poppedValues [event] ++ poppedValues events := by
  rw [← List.singleton_append, poppedValues, List.filterMap_append]
  rfl

theorem pushedValues_append (first second : List (Option (Event α))) :
    pushedValues (first ++ second) = pushedValues first ++ pushedValues second :=
  List.filterMap_append

theorem poppedValues_append (first second : List (Option (Event α))) :
    poppedValues (first ++ second) = poppedValues first ++ poppedValues second :=
  List.filterMap_append ..

/-- **Nothing is lost, duplicated or reordered**, along any run, and the bound holds at its end. -/
theorem conserves {capacity : Nat} {held later : List α} {events : List (Option (Event α))}
    (run : Machine.Trace (Step capacity) held events later) (bound : held.length ≤ capacity) :
    held ++ pushedValues events = poppedValues events ++ later ∧ later.length ≤ capacity := by
  induction run with
  | nil held => exact ⟨List.append_nil held, bound⟩
  | cons step _ ih =>
      obtain ⟨conserved, bounded⟩ := ih (step.bounded bound)
      refine ⟨?_, bounded⟩
      rw [pushedValues_cons, poppedValues_cons, ← List.append_assoc, step.conserves,
        List.append_assoc, conserved, List.append_assoc]

/-- **A push is refused only once the free room was used up** by the pushes before it. -/
theorem room_of_full {capacity : Nat} {held later : List α} {events front back : List (Option (Event α))}
    (run : Machine.Trace (Step capacity) held events later)
    (split : events = front ++ some .full :: back) :
    capacity ≤ held.length + (pushedValues front).length := by
  induction run generalizing front with
  | nil => cases front <;> cases split
  | cons step _ ih =>
      cases front with
      | nil =>
          obtain ⟨rfl, -⟩ := List.cons.inj split
          cases step with
          | full _ full => exact Nat.le_of_eq full.symm
      | cons event front =>
          obtain ⟨rfl, rest⟩ := List.cons.inj split
          have left := ih rest
          have moved := congrArg List.length step.conserves
          rw [List.length_append, List.length_append] at moved
          rw [pushedValues_cons, List.length_append]
          omega

/-- **A pop is refused only once all that was held is gone.** -/
theorem held_of_empty {capacity : Nat} {held later : List α}
    {events front back : List (Option (Event α))}
    (run : Machine.Trace (Step capacity) held events later)
    (split : events = front ++ some .empty :: back) :
    held.length ≤ (poppedValues front).length := by
  induction run generalizing front with
  | nil => cases front <;> cases split
  | cons step _ ih =>
      cases front with
      | nil =>
          obtain ⟨rfl, -⟩ := List.cons.inj split
          cases step with
          | empty => exact Nat.le_refl _
      | cons event front =>
          obtain ⟨rfl, rest⟩ := List.cons.inj split
          have left := ih rest
          have moved := congrArg List.length step.conserves
          rw [List.length_append, List.length_append] at moved
          rw [poppedValues_cons, List.length_append]
          omega

end MarketDataFabric.Library.BoundedFifo
