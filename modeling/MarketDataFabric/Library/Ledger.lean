/-
**The ledger of an outbox**: what it accepted, what is pending, and what it delivered.

* `Balanced` — nothing is lost: what was accepted is what was delivered, then what is pending.
* `Step` — the steps of an outbox, one of which loses the value it takes. The others keep the balance
  (`Step.balanced`), and after a loss it is never restored (`Covered`, `Step.unbalanced`).
* `always_balanced_iff` — hence a machine whose steps are such steps is **balanced all along a run
  exactly when no step of the run is a losing one**.
-/

import MarketDataFabric.Library.Machine

namespace MarketDataFabric.Library

structure Ledger (α : Type) where
  accepted : List α := []
  pending : List α := []
  delivered : List α := []
deriving Repr, DecidableEq

namespace Ledger

variable {α : Type}

/-- Nothing is lost, duplicated or reordered. -/
def Balanced (ledger : Ledger α) : Prop := ledger.accepted = ledger.delivered ++ ledger.pending

/-- No value appears from nowhere. -/
def Covered (ledger : Ledger α) : Prop :=
  ledger.delivered.length + ledger.pending.length ≤ ledger.accepted.length

/-- One step of an outbox, which loses a value if `lost` is the case. -/
inductive Step (lost : Prop) : Ledger α → Ledger α → Prop
  | stay (ledger : Ledger α) : ¬ lost → Step lost ledger ledger
  | accept (accepted pending delivered : List α) (value : α) : ¬ lost →
      Step lost ⟨accepted, pending, delivered⟩ ⟨accepted ++ [value], pending ++ [value], delivered⟩
  | deliver (accepted pending delivered : List α) (value : α) : ¬ lost →
      Step lost ⟨accepted, value :: pending, delivered⟩ ⟨accepted, pending, delivered ++ [value]⟩
  | lose (accepted pending delivered : List α) (value : α) : lost →
      Step lost ⟨accepted, value :: pending, delivered⟩ ⟨accepted, pending, delivered⟩

namespace Step

variable {lost : Prop} {ledger later : Ledger α}

theorem covered (step : Step lost ledger later) (before : ledger.Covered) : later.Covered := by
  cases step with
  | stay => exact before
  | accept accepted pending delivered value =>
      have before : delivered.length + pending.length ≤ accepted.length := before
      show delivered.length + (pending ++ [value]).length ≤ (accepted ++ [value]).length
      rw [List.length_append, List.length_append, ← Nat.add_assoc]
      exact Nat.add_le_add_right before _
  | deliver accepted pending delivered value =>
      have before : delivered.length + (pending.length + 1) ≤ accepted.length := before
      show (delivered ++ [value]).length + pending.length ≤ accepted.length
      rwa [List.length_append, List.length_singleton, Nat.add_right_comm]
  | lose accepted pending delivered value =>
      exact Nat.le_of_succ_le before

/-- **A step that loses nothing keeps the balance.** -/
theorem balanced (step : Step lost ledger later) (kept : ¬ lost) (before : ledger.Balanced) :
    later.Balanced := by
  unfold Balanced at before ⊢
  cases step with
  | stay => exact before
  | accept accepted pending delivered value =>
      show accepted ++ [value] = delivered ++ (pending ++ [value])
      rw [show accepted = delivered ++ pending from before, List.append_assoc]
  | deliver accepted pending delivered value =>
      show accepted = delivered ++ [value] ++ pending
      rw [show accepted = delivered ++ value :: pending from before, List.append_assoc]
      rfl
  | lose _ _ _ _ happened => exact absurd happened kept

/-- **A loss cannot be balanced**, whatever the ledger said before. -/
theorem unbalanced (step : Step lost ledger later) (happened : lost) (before : ledger.Covered) :
    ¬ later.Balanced := by
  intro balance
  cases step with
  | stay _ kept | accept _ _ _ _ kept | deliver _ _ _ _ kept => exact kept happened
  | lose accepted pending delivered value =>
      have total := congrArg List.length balance
      have cover : delivered.length + (value :: pending).length ≤ accepted.length := before
      simp only [List.length_append] at total
      rw [List.length_cons] at cover
      omega

end Step

section Runs

variable {S I O : Type} (step : S → I → S × O) (ledger : S → Ledger α)

/-- **No loss along a run.** `inv` is what every step keeps, and `lost` says which steps lose. -/
theorem always_balanced_iff (inv : S → Prop) (lost : S → I → Prop)
    (keeps : ∀ state input, inv state → inv (step state input).1)
    (steps : ∀ state input, inv state →
      Step (lost state input) (ledger state) (ledger (step state input).1))
    {state : S} (grounded : inv state) (start : ledger state = {}) (inputs : List I) :
    (∀ front back, inputs = front ++ back →
        (ledger (Machine.final step state front)).Balanced) ↔
      ∀ front input back, inputs = front ++ input :: back →
        ¬ lost (Machine.final step state front) input := by
  refine Machine.final_always_iff step (fun state => inv state ∧ (ledger state).Covered)
    (fun state => (ledger state).Balanced) lost ?_ ?_ ?_ ⟨grounded, ?_⟩ ?_ inputs
  · exact fun state input before =>
      ⟨keeps state input before.1, (steps state input before.1).covered before.2⟩
  · exact fun state input before balance kept => (steps state input before.1).balanced kept balance
  · exact fun state input before happened =>
      (steps state input before.1).unbalanced happened before.2
  · rw [start]
    exact Nat.zero_le _
  · rw [start]
    rfl

end Runs

end Ledger

end MarketDataFabric.Library
