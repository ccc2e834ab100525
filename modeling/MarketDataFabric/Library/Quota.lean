/-
**Quotas**: a machine that announces the first of its offers only.

* `Spends` — one step against what is left of the quota: an offer is announced while something is
  left, and no offer takes nothing.
* `Quota.emitted_eq` — **a run announces the beginning of its offers**, as long as the quota.
-/

import MarketDataFabric.Library.Machine

namespace MarketDataFabric.Library

variable {S I O E : Type}

/-- An offer, what is left before it, what is announced, and what is left after it. Without a quota
everything is announced. -/
inductive Spends : Option E → Option ℕ → Option E → Option ℕ → Prop
  | declines (left : Option ℕ) : Spends none left none left
  | free (event : E) : Spends (some event) none (some event) none
  | spends (event : E) (left : ℕ) : Spends (some event) (some (left + 1)) (some event) (some left)
  | refuses (event : E) : Spends (some event) (some 0) none (some 0)

/-- Every step of the machine spends what its input offers. -/
def Quota (step : S → I → S × O) (inv : S → Prop) (offer : I → Option E) (emit : O → Option E)
    (left : S → Option ℕ) : Prop :=
  ∀ state input, inv state → inv (step state input).1 ∧
    Spends (offer input) (left state) (emit (step state input).2) (left (step state input).1)

namespace Quota

/-- The beginning of a list that a quota has room for. -/
def within : Option ℕ → List E → List E
  | none, events => events
  | some count, events => events.take count

theorem within_nil (left : Option ℕ) : within left ([] : List E) = [] := by
  cases left with
  | none => rfl
  | some count => exact List.take_nil

/-- One step, and the rest of the run. -/
theorem within_spends {offered announced : Option E} {left rest : Option ℕ}
    (spent : Spends offered left announced rest) (later : List E) :
    within left (offered.toList ++ later) = announced.toList ++ within rest later := by
  cases spent with
  | declines | free | spends => rfl
  | refuses event => rfl

variable {step : S → I → S × O} {inv : S → Prop} {offer : I → Option E} {emit : O → Option E}
  {left : S → Option ℕ}

/-- **A run announces the first offers**, as many as the quota has room for. -/
theorem emitted_eq (quota : Quota step inv offer emit left) {state : S} (start : inv state)
    (inputs : List I) :
    Machine.emitted step emit state inputs = within (left state) (inputs.filterMap offer) := by
  induction inputs generalizing state with
  | nil => exact (within_nil _).symm
  | cons input rest ih =>
      obtain ⟨next, spent⟩ := quota state input start
      have offers : (input :: rest).filterMap offer =
          (offer input).toList ++ rest.filterMap offer := by
        rw [List.filterMap_cons]
        cases offer input <;> rfl
      rw [Machine.emitted_cons, ih next, offers, within_spends spent]

end Quota

end MarketDataFabric.Library
