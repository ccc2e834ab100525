/-
**Machines that count from the beginning again.**

A machine announces the places of a numbered line, and some of its answers mark a restart. An epoch
is what lies between two marks: `splitOnP` cuts the answers of a run at them.

* `CountStep`, `Restarts` — **a machine with a counter that restarts**: a step marks and goes back to
  the beginning, says nothing, or announces the place of the counter and moves on. It may also fall
  silent until the next mark.
* `Restarts.epochs` — hence every epoch announces a beginning of the line.
* `epochs_history` — what every step keeps of the answers since the last mark, every epoch keeps.
* `filterMap_splitOnP` — what a run announces is what its epochs announce, one after the other.
* `pairwise_flatten_beginnings` — beginnings of one line are in order together only if at most one of
  them says anything.
-/

import MarketDataFabric.Library.Machine

namespace MarketDataFabric.Library.Machine

variable {S I O E : Type}

/-! ### Cutting at marks -/

section Cut

variable {mark : O → Bool}

/-- Cutting a list that begins with a mark, or with something else. -/
theorem splitOnP_cons_cases (mark : O → Bool) (output : O) (rest : List O) :
    ∃ head later, rest.splitOnP mark = head :: later ∧
      (output :: rest).splitOnP mark =
        if mark output then [] :: head :: later else (output :: head) :: later := by
  obtain ⟨head, later, cut⟩ := List.exists_cons_of_ne_nil (List.splitOnP_ne_nil mark rest)
  refine ⟨head, later, cut, ?_⟩
  rw [List.splitOnP_cons_eq_if_modifyHead, cut]
  rfl

/-- **What a list says is what its pieces say**, if the marks say nothing. -/
theorem filterMap_splitOnP {emit : O → Option E}
    (quiet : ∀ output, mark output = true → emit output = none) (outputs : List O) :
    outputs.filterMap emit = ((outputs.splitOnP mark).map (List.filterMap emit)).flatten := by
  induction outputs with
  | nil => rfl
  | cons output rest ih =>
      obtain ⟨head, later, cut, whole⟩ := splitOnP_cons_cases mark output rest
      rw [cut] at ih
      rw [whole]
      by_cases marked : mark output = true
      · rw [if_pos marked, List.filterMap_cons_none (quiet output marked), ih]
        rfl
      · rw [if_neg marked, List.filterMap_cons, ih]
        cases said : emit output with
        | none => simp [List.filterMap_cons_none said]
        | some announced => simp [List.filterMap_cons_some said]

/-- **What holds of the answers since the last mark and of the state**, when every mark begins it
anew and every other answer keeps it, holds of every epoch with some state, and of the state at the
end. -/
theorem epochs_history {step : S → I → S × O} (holds : List O → S → Prop)
    (renews : ∀ since state input, holds since state → mark (step state input).2 = true →
      holds [] (step state input).1)
    (keeps : ∀ since state input, holds since state → mark (step state input).2 = false →
      holds (since ++ [(step state input).2]) (step state input).1)
    {since : List O} {state : S} (here : holds since state) (inputs : List I) :
    ∃ head later, (outputs step state inputs).splitOnP mark = head :: later ∧
      (∃ reached, holds (since ++ head) reached) ∧
      (∀ epoch ∈ later, ∃ reached, holds epoch reached) ∧
      ∃ last, holds last (final step state inputs) := by
  induction inputs generalizing since state with
  | nil =>
      refine ⟨[], [], rfl, ⟨state, ?_⟩, nofun, since, here⟩
      rwa [List.append_nil]
  | cons input inputs ih =>
      obtain ⟨_, _, same, whole⟩ := splitOnP_cons_cases mark (step state input).2
        (outputs step (step state input).1 inputs)
      rw [outputs_cons, whole]
      cases marked : mark (step state input).2 with
      | true =>
          obtain ⟨head, later, cut, first, others, last⟩ :=
            ih (renews since state input here marked)
          obtain ⟨rfl, rfl⟩ := List.cons.inj (cut.symm.trans same)
          refine ⟨[], head :: later, if_pos rfl, ⟨state, ?_⟩, fun epoch member => ?_, last⟩
          · rwa [List.append_nil]
          · rcases List.mem_cons.mp member with rfl | member
            · exact first
            · exact others epoch member
      | false =>
          obtain ⟨head, later, cut, first, others, last⟩ :=
            ih (keeps since state input here marked)
          obtain ⟨rfl, rfl⟩ := List.cons.inj (cut.symm.trans same)
          refine ⟨(step state input).2 :: head, later, if_neg Bool.false_ne_true, ?_, others, last⟩
          rwa [List.append_assoc] at first

end Cut

/-! ### A counter that restarts -/

section Counter

variable (mark : O → Bool) (emit : O → Option E) (line : Nat → E)

/-- **What one step may do to the counter**; `none` is silence until the next mark. -/
inductive CountStep (output : O) : Option Nat → Option Nat → Prop
  | restarts {before after : Option Nat} : mark output = true → emit output = none →
      after = none ∨ after = some 0 → CountStep output before after
  | silent {before after : Option Nat} : mark output = false → emit output = none →
      after = none ∨ after = before → CountStep output before after
  | counts {after : Option Nat} (place : Nat) : mark output = false →
      emit output = some (line place) → after = none ∨ after = some (place + 1) →
      CountStep output (some place) after

/-- **A machine with a counter that restarts.** -/
def Restarts (step : S → I → S × O) (place : S → Option Nat) : Prop :=
  ∀ state input,
    CountStep mark emit line (step state input).2 (place state) (place (step state input).1)

/-- What an epoch says from a place on. -/
def Says : Option Nat → List E → Prop
  | none, said => said = []
  | some start, said => ∃ count, said = (List.range' start count).map line

variable {mark emit line}

theorem Says.nil (place : Option Nat) : Says line place [] := by
  cases place with
  | none => rfl
  | some start => exact ⟨0, rfl⟩

/-- What a place that may have fallen silent says, the place itself may say. -/
theorem Says.of_quieter {place quieter : Option Nat} {said : List E}
    (spoken : Says line quieter said) (fewer : quieter = none ∨ quieter = place) :
    Says line place said := by
  rcases fewer with rfl | rfl
  · obtain rfl : said = [] := spoken
    exact .nil place
  · exact spoken

theorem Says.cons {place : Nat} {said : List E} (spoken : Says line (some (place + 1)) said) :
    Says line (some place) (line place :: said) := by
  obtain ⟨count, rfl⟩ := spoken
  exact ⟨count + 1, rfl⟩

/-- The first epoch goes on from the place, and every later one begins at the beginning. -/
theorem Restarts.epochs_from {step : S → I → S × O} {place : S → Option Nat}
    (machine : Restarts mark emit line step place) (state : S) (inputs : List I) :
    ∃ head later, (outputs step state inputs).splitOnP mark = head :: later ∧
      Says line (place state) (head.filterMap emit) ∧
      ∀ epoch ∈ later, Says line (some 0) (epoch.filterMap emit) := by
  induction inputs generalizing state with
  | nil => exact ⟨[], [], rfl, .nil _, fun _ member => by cases member⟩
  | cons input inputs ih =>
      obtain ⟨head, later, cut, first, others⟩ := ih (step state input).1
      obtain ⟨_, _, same, whole⟩ := splitOnP_cons_cases mark (step state input).2
        (outputs step (step state input).1 inputs)
      obtain ⟨rfl, rfl⟩ := List.cons.inj (cut.symm.trans same)
      rw [outputs_cons, whole]
      have turn := machine state input
      generalize (step state input).2 = output at turn
      generalize place state = before at turn
      generalize place (step state input).1 = after at turn first
      cases turn with
      | restarts marked quiet fresh =>
          rw [if_pos marked]
          refine ⟨[], head :: later, rfl, .nil _, fun epoch member => ?_⟩
          rcases List.mem_cons.mp member with rfl | member
          · exact first.of_quieter fresh
          · exact others epoch member
      | silent unmarked quiet fewer =>
          rw [if_neg (by rw [unmarked]; exact Bool.false_ne_true)]
          refine ⟨output :: head, later, rfl, ?_, others⟩
          rw [List.filterMap_cons_none quiet]
          exact first.of_quieter fewer
      | counts place unmarked said fewer =>
          rw [if_neg (by rw [unmarked]; exact Bool.false_ne_true)]
          refine ⟨output :: head, later, rfl, ?_, others⟩
          rw [List.filterMap_cons_some said]
          exact (first.of_quieter fewer).cons

/-- **Every epoch announces a beginning of the line.** -/
theorem Restarts.epochs {step : S → I → S × O} {place : S → Option Nat}
    (machine : Restarts mark emit line step place) {state : S}
    (start : place state = none ∨ place state = some 0) (inputs : List I) :
    ∀ epoch ∈ (outputs step state inputs).splitOnP mark,
      ∃ count, epoch.filterMap emit = (List.range count).map line := by
  intro epoch member
  obtain ⟨head, later, cut, first, others⟩ := machine.epochs_from state inputs
  rw [cut] at member
  have spoken : Says line (some 0) (epoch.filterMap emit) := by
    rcases List.mem_cons.mp member with rfl | member
    · exact first.of_quieter start
    · exact others epoch member
  obtain ⟨count, same⟩ := spoken
  exact ⟨count, by rw [same, List.range_eq_range']⟩

end Counter

/-! ### Beginnings together -/

/-- **Beginnings of one line are in order together only if at most one of them says anything.** -/
theorem pairwise_flatten_beginnings {line : Nat → E} {rel : E → E → Prop}
    (irreflexive : ¬ rel (line 0) (line 0)) {pieces : List (List E)}
    (beginnings : ∀ piece ∈ pieces, ∃ count, piece = (List.range count).map line)
    (ordered : ∀ piece ∈ pieces, piece.Pairwise rel) :
    pieces.flatten.Pairwise rel ↔ pieces.Pairwise fun earlier later => earlier = [] ∨ later = [] := by
  have first : ∀ piece ∈ pieces, piece ≠ [] → line 0 ∈ piece := by
    intro piece member some
    obtain ⟨count, rfl⟩ := beginnings piece member
    refine List.mem_map_of_mem (List.mem_range.mpr (Nat.pos_of_ne_zero fun none => some ?_))
    rw [none]
    rfl
  rw [List.pairwise_flatten, and_iff_right ordered]
  refine List.Pairwise.iff_of_mem fun {earlier later} early late => ?_
  constructor
  · intro all
    by_contra both
    obtain ⟨here, there⟩ := not_or.mp both
    exact irreflexive (all _ (first earlier early here) _ (first later late there))
  · rintro (rfl | rfl) x member y other
    · cases member
    · cases other

end MarketDataFabric.Library.Machine
