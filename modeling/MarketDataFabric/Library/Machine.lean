/-
**Deterministic machines: runs, invariants, and the trail of a cursor.**

A machine is a step function `step : S → I → S × O`: one input, the next state and one output.

* `final`, `outputs` — the state and the outputs after a list of inputs.
* `final_invariant`, `final_history`, `outputs_history`, `outputs_invariant`, `final_always_iff` —
  what one step preserves, a whole run preserves: a property of the state, one of the inputs or the
  answers so far, one of every answer, and the exact condition under which a property holds in every
  state of a run. `outputs_split` finds the input behind an answer.
* `run_map`, `run_agrees` — inputs that no step can tell apart, and machines that no run tells apart.
* `Moves` — **a machine with a cursor**: every step either says nothing and leaves the cursor, or
  announces the place it moves the cursor to, and that place is related to the old one. The
  announcements of a whole run are then a chain from the old cursor to the new one
  (`Moves.isChain`), and a `walk` when the relation is a successor (`Moves.emitted_eq_walk`).
* `Climbs` — the same for a cursor in an order that may also rise in silence: the announced places
  strictly increase (`Climbs.pairwise`).
* `Follows` — **a machine that can only recite**: a step says nothing, or says the next line of what
  is left of a script. Any run then says a beginning of the script (`Follows.recites`), and a run that
  is fed the script itself says all of it (`emitted_recited`).
* `final_projected`, `final_requests`, `exists_driven` — runs of a machine inside another one.
* `Simulates` — **a machine that simulates a labelled transition relation** through a representation
  relation does so along whole runs (`Simulates.trace`).
* `Lockstep` — **two machines in step**: from related states, corresponding inputs give agreeing
  answers and related states again. So do corresponding runs (`Lockstep.run`), and what is read off
  the answers and the states is the same at every step (`Lockstep.reports`).
* `unmarked_run` — inputs that leave the state where they stand can be left out of a run.
-/

import Mathlib.Data.List.Chain
import Mathlib.Data.List.Forall2
import Mathlib.Data.List.Induction
import Mathlib.Logic.Function.Iterate
import Mathlib.Order.Basic

namespace MarketDataFabric.Library.Machine

variable {S I O E : Type}

section Runs

variable (step : S → I → S × O)

/-- The state a list of inputs leads to. -/
def final : S → List I → S
  | state, [] => state
  | state, input :: rest => final (step state input).1 rest

/-- The answers along a list of inputs. -/
def outputs : S → List I → List O
  | _, [] => []
  | state, input :: rest => (step state input).2 :: outputs (step state input).1 rest

@[simp] theorem final_nil (state : S) : final step state [] = state := rfl

@[simp] theorem final_cons (state : S) (input : I) (rest : List I) :
    final step state (input :: rest) = final step (step state input).1 rest := rfl

@[simp] theorem outputs_nil (state : S) : outputs step state [] = [] := rfl

@[simp] theorem outputs_cons (state : S) (input : I) (rest : List I) :
    outputs step state (input :: rest) =
      (step state input).2 :: outputs step (step state input).1 rest := rfl

theorem final_append (state : S) (first second : List I) :
    final step state (first ++ second) = final step (final step state first) second := by
  induction first generalizing state with
  | nil => rfl
  | cons input rest ih => exact ih _

theorem outputs_append (state : S) (first second : List I) :
    outputs step state (first ++ second) =
      outputs step state first ++ outputs step (final step state first) second := by
  induction first generalizing state with
  | nil => rfl
  | cons input rest ih => rw [List.cons_append, outputs_cons, outputs_cons, ih]; rfl

/-- Rewriting inputs in a way that no step can tell changes neither the state nor the answers. -/
theorem run_map {rewrite : I → I} {inputs : List I}
    (alike : ∀ input ∈ inputs, ∀ state, step state (rewrite input) = step state input) (state : S) :
    final step state (inputs.map rewrite) = final step state inputs ∧
      outputs step state (inputs.map rewrite) = outputs step state inputs := by
  induction inputs generalizing state with
  | nil => exact ⟨rfl, rfl⟩
  | cons input rest ih =>
      have tail := ih fun later member => alike later (List.mem_cons_of_mem _ member)
      simp only [List.map_cons, final_cons, outputs_cons, alike input List.mem_cons_self]
      exact ⟨(tail _).1, congrArg _ (tail _).2⟩

/-- **A machine that differs only where something is lost for good.** It does the same as `step` wherever
that keeps what `holds`, and `step` never restores it. If a run ends where it holds, the other machine
runs the same. -/
theorem run_agrees {other : S → I → S × O} (inv holds : S → Prop)
    (keeps : ∀ state input, inv state → inv (step state input).1)
    (earlier : ∀ state input, inv state → holds (step state input).1 → holds state)
    (same : ∀ state input, inv state → holds (step state input).1 →
      other state input = step state input)
    {state : S} {inputs : List I} (start : inv state) (ends : holds (final step state inputs)) :
    holds state ∧ final other state inputs = final step state inputs ∧
      outputs other state inputs = outputs step state inputs := by
  induction inputs generalizing state with
  | nil => exact ⟨ends, rfl, rfl⟩
  | cons input rest ih =>
      obtain ⟨here, landed, answers⟩ := ih (keeps state input start) ends
      have first := same state input start here
      refine ⟨earlier state input start here, ?_, ?_⟩
      · rw [final_cons, final_cons, first, landed]
      · rw [outputs_cons, outputs_cons, first, answers]

theorem outputs_length (state : S) (inputs : List I) :
    (outputs step state inputs).length = inputs.length := by
  induction inputs generalizing state with
  | nil => rfl
  | cons input rest ih => exact congrArg (· + 1) (ih _)

/-- **The invariant rule.** What every allowed step preserves, every allowed run preserves. -/
theorem final_invariant (inv : S → Prop) (allowed : I → Prop)
    (keeps : ∀ state input, inv state → allowed input → inv (step state input).1) :
    ∀ {state : S} {inputs : List I}, inv state → (∀ input ∈ inputs, allowed input) →
      inv (final step state inputs) := by
  intro state inputs holds all
  induction inputs generalizing state with
  | nil => exact holds
  | cons input rest ih =>
      exact ih (keeps state input holds (all input List.mem_cons_self))
        fun later member => all later (List.mem_cons_of_mem _ member)

/-- The same for a property of the inputs so far and the state, under a promise about every answer
of the run. -/
theorem final_history (holds : List I → S → Prop) (promised : O → Prop)
    (keeps : ∀ past state input, holds past state → promised (step state input).2 →
      holds (past ++ [input]) (step state input).1) :
    ∀ {past : List I} {state : S} {inputs : List I}, holds past state →
      (∀ output ∈ outputs step state inputs, promised output) →
      holds (past ++ inputs) (final step state inputs) := by
  intro past state inputs here all
  induction inputs generalizing past state with
  | nil => rwa [List.append_nil]
  | cons input rest ih =>
      have head := keeps past state input here (all _ List.mem_cons_self)
      have tail := ih head fun output member => all output (List.mem_cons_of_mem _ member)
      rwa [List.append_assoc] at tail

/-- The same for a property of the answers so far and the state. -/
theorem outputs_history (holds : List O → S → Prop)
    (keeps : ∀ past state input, holds past state →
      holds (past ++ [(step state input).2]) (step state input).1)
    (past : List O) (state : S) (inputs : List I) (start : holds past state) :
    holds (past ++ outputs step state inputs) (final step state inputs) := by
  induction inputs generalizing past state with
  | nil => rwa [outputs_nil, List.append_nil]
  | cons input rest ih =>
      have tail := ih _ _ (keeps past state input start)
      rwa [List.append_assoc] at tail

/-- **A cut in the answers is a cut in the inputs.** -/
theorem outputs_split {state : S} {inputs : List I} {front back : List O} {output : O}
    (split : outputs step state inputs = front ++ output :: back) :
    ∃ before input after, inputs = before ++ input :: after ∧
      outputs step state before = front ∧ (step (final step state before) input).2 = output ∧
      outputs step (step (final step state before) input).1 after = back := by
  induction front generalizing state inputs with
  | nil =>
      cases inputs with
      | nil => cases split
      | cons input rest =>
          obtain ⟨same, later⟩ := List.cons.inj split
          exact ⟨[], input, rest, rfl, rfl, same, later⟩
  | cons first front ih =>
      cases inputs with
      | nil => cases split
      | cons input rest =>
          obtain ⟨same, later⟩ := List.cons.inj split
          obtain ⟨before, turn, after, rfl, earlier, said, tail⟩ := ih later
          exact ⟨input :: before, turn, after, rfl, by rw [outputs_cons, same, earlier], said, tail⟩

/-- What every promised answer tells under an invariant, all the answers of a run tell. -/
theorem outputs_invariant (inv : S → Prop) (promised told : O → Prop)
    (keeps : ∀ state input, inv state → promised (step state input).2 →
      inv (step state input).1 ∧ told (step state input).2) :
    ∀ {state : S} {inputs : List I}, inv state →
      (∀ output ∈ outputs step state inputs, promised output) →
      ∀ output ∈ outputs step state inputs, told output := by
  intro state inputs holds all output member
  induction inputs generalizing state with
  | nil => cases member
  | cons input rest ih =>
      obtain ⟨next, said⟩ := keeps state input holds (all _ List.mem_cons_self)
      rcases List.mem_cons.mp member with rfl | later
      · exact said
      · exact ih next (fun other place => all other (List.mem_cons_of_mem _ place)) later

/-- **A property of every state of a run** holds along the whole run exactly when no step of the
run breaks it, when a breaking step always falsifies it. `base` is what every step preserves. -/
theorem final_always_iff (base inv : S → Prop) (breaks : S → I → Prop)
    (stands : ∀ state input, base state → base (step state input).1)
    (keeps : ∀ state input, base state → inv state → ¬ breaks state input →
      inv (step state input).1)
    (fails : ∀ state input, base state → breaks state input → ¬ inv (step state input).1)
    {state : S} (grounded : base state) (start : inv state) (inputs : List I) :
    (∀ front back, inputs = front ++ back → inv (final step state front)) ↔
      ∀ front input back, inputs = front ++ input :: back →
        ¬ breaks (final step state front) input := by
  have ground : ∀ front, base (final step state front) := fun front =>
    final_invariant step base (fun _ => True) (fun later input holds _ =>
      stands later input holds) grounded fun _ _ => trivial
  constructor
  · intro always front input back split broken
    have next := always (front ++ [input]) back (by rw [split, List.append_assoc]; rfl)
    rw [final_append] at next
    exact fails _ _ (ground front) broken next
  · intro never front back split
    induction front using List.reverseRecOn generalizing back with
    | nil => exact start
    | append_singleton front input ih =>
        have here : inputs = front ++ input :: back := by rw [split, List.append_assoc]; rfl
        rw [final_append]
        exact keeps _ _ (ground front) (ih (input :: back) here) (never front input back here)

/-- A component that steps by itself inside a machine has its own runs. -/
theorem final_projected {T J P : Type} {inner : T → J → T × P} (component : S → T)
    (request : I → J)
    (steps : ∀ state input,
      component (step state input).1 = (inner (component state) (request input)).1)
    (state : S) (inputs : List I) :
    component (final step state inputs) = final inner (component state) (inputs.map request) := by
  induction inputs generalizing state with
  | nil => rfl
  | cons input rest ih => rw [final_cons, ih, steps, List.map_cons, final_cons]

/-- What a run asks of a component that each step asks any number of times. -/
def requests {J : Type} (asks : S → I → List J) : S → List I → List J
  | _, [] => []
  | state, input :: rest => asks state input ++ requests asks (step state input).1 rest

theorem requests_append {J : Type} (asks : S → I → List J) (state : S) (first second : List I) :
    requests step asks state (first ++ second) =
      requests step asks state first ++ requests step asks (final step state first) second := by
  induction first generalizing state with
  | nil => rfl
  | cons input rest ih => rw [List.cons_append, requests, ih, requests, List.append_assoc]; rfl

/-- Such a component has its own runs, too. -/
theorem final_requests {T J P : Type} {inner : T → J → T × P} (component : S → T)
    (asks : S → I → List J)
    (steps : ∀ state input,
      component (step state input).1 = final inner (component state) (asks state input))
    (state : S) (inputs : List I) :
    component (final step state inputs) =
      final inner (component state) (requests step asks state inputs) := by
  induction inputs generalizing state with
  | nil => rfl
  | cons input rest ih => rw [final_cons, ih, steps, requests, final_append]

/-- **A component that is driven**: every step of the machine is one of the component, with the same
answer, on an input that the whole state chooses. Then every run is one of the component. -/
theorem exists_driven {T J : Type} {inner : T → J → T × O} (component : S → T) (ask : S → I → J)
    (drives : ∀ state input, inner (component state) (ask state input) =
      (component (step state input).1, (step state input).2)) (state : S) (inputs : List I) :
    ∃ asked, component (final step state inputs) = final inner (component state) asked ∧
      outputs step state inputs = outputs inner (component state) asked := by
  induction inputs generalizing state with
  | nil => exact ⟨[], rfl, rfl⟩
  | cons input rest ih =>
      obtain ⟨asked, ends, answers⟩ := ih (step state input).1
      have first := drives state input
      refine ⟨ask state input :: asked, ?_, ?_⟩
      · rw [final_cons, final_cons, first, ends]
      · rw [outputs_cons, outputs_cons, first, answers]

end Runs

/-! ### The trail of a cursor -/

section Trail

variable (step : S → I → S × O)

/-- What a run announces. -/
def emitted (emit : O → Option E) (state : S) (inputs : List I) : List E :=
  (outputs step state inputs).filterMap emit

theorem emitted_cons (emit : O → Option E) (state : S) (input : I) (rest : List I) :
    emitted step emit state (input :: rest) =
      (emit (step state input).2).toList ++ emitted step emit (step state input).1 rest := by
  unfold emitted
  rw [outputs_cons, List.filterMap_cons]
  cases emit (step state input).2 <;> rfl

theorem emitted_append (emit : O → Option E) (state : S) (first second : List I) :
    emitted step emit state (first ++ second) =
      emitted step emit state first ++ emitted step emit (final step state first) second := by
  induction first generalizing state with
  | nil => rfl
  | cons input rest ih =>
      rw [List.cons_append, emitted_cons, emitted_cons, ih, List.append_assoc, final_cons]

/-- What every step announces can be told from its input and its answer, under an invariant: so can
what a run announces. -/
theorem emitted_zip {emit : O → Option E} {tell : I × O → Option E} (inv : S → Prop)
    (keeps : ∀ state input, inv state → inv (step state input).1)
    (agree : ∀ state input, inv state →
      emit (step state input).2 = tell (input, (step state input).2))
    {state : S} (holds : inv state) (inputs : List I) :
    emitted step emit state inputs = (inputs.zip (outputs step state inputs)).filterMap tell := by
  induction inputs generalizing state with
  | nil => rfl
  | cons input rest ih =>
      rw [emitted_cons, ih (keeps state input holds), agree state input holds, outputs_cons,
        List.zip_cons_cons, List.filterMap_cons]
      cases tell (input, (step state input).2) <;> rfl

/-- What is asked at every step, as far as its answer announces it. -/
theorem map_requests {J : Type} {asks : S → I → List J} {emit : O → Option E} {told : J → E}
    (agree : ∀ state input,
      (asks state input).map told = (emit (step state input).2).toList)
    (state : S) (inputs : List I) :
    (requests step asks state inputs).map told = (outputs step state inputs).filterMap emit := by
  induction inputs generalizing state with
  | nil => rfl
  | cons input rest ih =>
      rw [requests, List.map_append, agree, ih, outputs_cons, List.filterMap_cons]
      cases emit (step state input).2 <;> rfl

/-- **A machine with a cursor.** Under `inv`, an allowed step that announces nothing leaves the
cursor, and a step that announces a place moves the cursor there, along `rel`. -/
structure Moves (inv : S → Prop) (allowed : I → Prop) (cursor : S → E) (emit : O → Option E)
    (rel : E → E → Prop) : Prop where
  keeps : ∀ state input, inv state → allowed input → inv (step state input).1
  stays : ∀ state input, inv state → allowed input → emit (step state input).2 = none →
    cursor (step state input).1 = cursor state
  moves : ∀ state input place, inv state → allowed input →
    emit (step state input).2 = some place →
      rel (cursor state) place ∧ cursor (step state input).1 = place

variable {step} {inv : S → Prop} {allowed : I → Prop} {cursor : S → E} {emit : O → Option E}
  {rel : E → E → Prop}

/-- **The announcements of a run are a chain** that starts at the old cursor. -/
theorem Moves.isChain (machine : Moves step inv allowed cursor emit rel) :
    ∀ {state : S} {inputs : List I}, inv state → (∀ input ∈ inputs, allowed input) →
      List.IsChain rel (cursor state :: emitted step emit state inputs) := by
  intro state inputs holds all
  induction inputs generalizing state with
  | nil => exact List.isChain_singleton _
  | cons input rest ih =>
      have here := all input List.mem_cons_self
      have tail := ih (machine.keeps state input holds here)
        fun later member => all later (List.mem_cons_of_mem _ member)
      rw [emitted_cons]
      cases said : emit (step state input).2 with
      | none =>
          rw [machine.stays state input holds here said] at tail
          exact tail
      | some place =>
          obtain ⟨related, landed⟩ := machine.moves state input place holds here said
          rw [landed] at tail
          exact List.isChain_cons_cons.mpr ⟨related, tail⟩

/-- **A machine whose cursor climbs.** Under `inv`, an allowed step never lowers the cursor, and what
it announces lies strictly above the old cursor and not above the new one. -/
structure Climbs {P : Type} [Preorder P] (step : S → I → S × O) (inv : S → Prop)
    (allowed : I → Prop) (cursor : S → P) (emit : O → Option E) (place : E → P) : Prop where
  keeps : ∀ state input, inv state → allowed input → inv (step state input).1
  climbs : ∀ state input, inv state → allowed input → cursor state ≤ cursor (step state input).1
  announces : ∀ state input said, inv state → allowed input →
    emit (step state input).2 = some said →
      cursor state < place said ∧ place said ≤ cursor (step state input).1

/-- **Its announcements strictly increase**, from the old cursor on. -/
theorem Climbs.pairwise {P : Type} [Preorder P] {cursor : S → P} {place : E → P}
    (machine : Climbs step inv allowed cursor emit place) :
    ∀ {state : S} {inputs : List I}, inv state → (∀ input ∈ inputs, allowed input) →
      List.Pairwise (· < ·) (cursor state :: (emitted step emit state inputs).map place) := by
  intro state inputs holds all
  induction inputs generalizing state with
  | nil => exact List.pairwise_singleton _ _
  | cons input rest ih =>
      have here := all input List.mem_cons_self
      have tail := ih (machine.keeps state input holds here)
        fun later member => all later (List.mem_cons_of_mem _ member)
      obtain ⟨above, sorted⟩ := List.pairwise_cons.mp tail
      rw [emitted_cons]
      cases said : emit (step state input).2 with
      | none =>
          refine List.pairwise_cons.mpr ⟨fun later member => ?_, sorted⟩
          exact (machine.climbs state input holds here).trans_lt (above later member)
      | some announced =>
          obtain ⟨risen, reached⟩ := machine.announces state input announced holds here said
          have beyond : ∀ later ∈ (emitted step emit (step state input).1 rest).map place,
              place announced < later := fun later member => reached.trans_lt (above later member)
          refine List.pairwise_cons.mpr ⟨fun later member => ?_,
            List.pairwise_cons.mpr ⟨beyond, sorted⟩⟩
          rcases List.mem_cons.mp member with rfl | member
          · exact risen
          · exact risen.trans (beyond later member)

/-- The run ends at the last announced place, or where it began. -/
theorem Moves.cursor_final (machine : Moves step inv allowed cursor emit rel) :
    ∀ {state : S} {inputs : List I}, inv state → (∀ input ∈ inputs, allowed input) →
      cursor (final step state inputs) =
        (emitted step emit state inputs).getLastD (cursor state) := by
  intro state inputs holds all
  induction inputs generalizing state with
  | nil => rfl
  | cons input rest ih =>
      have here := all input List.mem_cons_self
      have tail := ih (machine.keeps state input holds here)
        fun later member => all later (List.mem_cons_of_mem _ member)
      rw [final_cons, tail, emitted_cons]
      cases said : emit (step state input).2 with
      | none => rw [machine.stays state input holds here said]; rfl
      | some place =>
          rw [(machine.moves state input place holds here said).2]
          exact (List.getLastD_cons ..).symm

end Trail

/-! ### Walks along a successor -/

section Walk

variable (next : E → E)

/-- The `count` places after `start`. -/
def walk (start : E) (count : Nat) : List E :=
  (List.range count).map fun index => next^[index + 1] start

theorem walk_succ (start : E) (count : Nat) :
    walk next start (count + 1) = next start :: walk next (next start) count := by
  unfold walk
  rw [List.range_succ_eq_map, List.map_cons, List.map_map]
  rfl

theorem walk_getLastD (start : E) (count : Nat) :
    (walk next start count).getLastD start = next^[count] start := by
  cases count with
  | zero => rfl
  | succ count => simp [walk, List.range_succ]

/-- **A chain of successors is a walk.** -/
theorem eq_walk_of_isChain {start : E} {places : List E}
    (chain : List.IsChain (fun here there => there = next here) (start :: places)) :
    places = walk next start places.length := by
  induction places generalizing start with
  | nil => rfl
  | cons place rest ih =>
      obtain ⟨rfl, tail⟩ := List.isChain_cons_cons.mp chain
      rw [List.length_cons, walk_succ, ← ih tail]

variable {next} {step : S → I → S × O} {inv : S → Prop} {allowed : I → Prop} {cursor : S → E}
  {emit : O → Option E}

/-- **A machine that only moves to the successor announces a walk**, and ends on its last place. -/
theorem Moves.emitted_eq_walk
    (machine : Moves step inv allowed cursor emit fun here there => there = next here)
    {state : S} {inputs : List I} (holds : inv state) (all : ∀ input ∈ inputs, allowed input) :
    emitted step emit state inputs =
        walk next (cursor state) (emitted step emit state inputs).length ∧
      cursor (final step state inputs) =
        next^[(emitted step emit state inputs).length] (cursor state) := by
  have trail := eq_walk_of_isChain next (machine.isChain holds all)
  refine ⟨trail, ?_⟩
  rw [machine.cursor_final holds all]
  conv_lhs => rw [trail]
  exact walk_getLastD next _ _

end Walk

/-! ### Reciting a script -/

section Script

variable (step : S → I → S × O) {R : Type}

/-- **A machine that can only recite.** `facing rest state`: the rows `rest` are still to come, and
`reads` is the row an input carries. An allowed step says nothing and keeps facing them, or it reads
the first of them, says its line and faces the others. A line may itself be silent. -/
structure Follows (facing : List R → S → Prop) (allowed : I → Prop) (reads : I → Option R)
    (emit : O → Option E) (line : R → Option E) : Prop where
  next : ∀ rest state input, facing rest state → allowed input →
    (emit (step state input).2 = none ∧ facing rest (step state input).1) ∨
      ∃ row later, rest = row :: later ∧ reads input = some row ∧
        emit (step state input).2 = line row ∧ facing later (step state input).1

variable {step} {facing : List R → S → Prop} {allowed : I → Prop} {reads : I → Option R}
  {emit : O → Option E} {line : R → Option E}

/-- **Whatever is fed to it, it recites a beginning of the script**, every row of which it read. -/
theorem Follows.recites (machine : Follows step facing allowed reads emit line) :
    ∀ {rest : List R} {state : S} {inputs : List I}, facing rest state →
      (∀ input ∈ inputs, allowed input) →
      ∃ said left, rest = said ++ left ∧ emitted step emit state inputs = said.filterMap line ∧
        facing left (final step state inputs) ∧
        ∀ row ∈ said, ∃ input ∈ inputs, reads input = some row := by
  intro rest state inputs here all
  induction inputs generalizing rest state with
  | nil => exact ⟨[], rest, rfl, rfl, here, fun _ member => by cases member⟩
  | cons input inputs ih =>
      have others : ∀ other ∈ inputs, allowed other := fun other member =>
        all other (List.mem_cons_of_mem _ member)
      rcases machine.next rest state input here (all input List.mem_cons_self) with
        ⟨silent, still⟩ | ⟨row, later, rfl, carried, spoken, moved⟩
      · obtain ⟨said, left, split, spoke, landed, fed⟩ := ih still others
        refine ⟨said, left, split, ?_, landed, fun row member => ?_⟩
        · rw [emitted_cons, silent, spoke]
          rfl
        · obtain ⟨other, place, carries⟩ := fed row member
          exact ⟨other, List.mem_cons_of_mem _ place, carries⟩
      · obtain ⟨said, left, rfl, spoke, landed, fed⟩ := ih moved others
        refine ⟨row :: said, left, rfl, ?_, landed, fun earlier member => ?_⟩
        · rw [emitted_cons, spoken, spoke, List.filterMap_cons]
          cases line row <;> rfl
        · rcases List.mem_cons.mp member with rfl | member
          · exact ⟨input, List.mem_cons_self, carried⟩
          · obtain ⟨other, place, carries⟩ := fed earlier member
            exact ⟨other, List.mem_cons_of_mem _ place, carries⟩

/-- **Fed with the script itself, it recites all of it.** -/
theorem emitted_recited (ready : List R → S → Prop)
    (advance : ∀ row later state input, ready (row :: later) state → reads input = some row →
      emit (step state input).2 = line row ∧ ready later (step state input).1) :
    ∀ {rows : List R} {state : S} {inputs : List I}, ready rows state →
      inputs.map reads = rows.map some →
      emitted step emit state inputs = rows.filterMap line := by
  intro rows state inputs here fed
  induction inputs generalizing rows state with
  | nil =>
      cases rows with
      | nil => rfl
      | cons row later => cases fed
  | cons input inputs ih =>
      cases rows with
      | nil => cases fed
      | cons row later =>
          obtain ⟨head, tail⟩ := List.cons.inj fed
          obtain ⟨said, moved⟩ := advance row later state input here head
          rw [emitted_cons, said, ih moved tail, List.filterMap_cons]
          cases line row <;> rfl

end Script

/-! ### Simulation of a transition relation -/

section Simulation

variable {A : Type}

/-- A run of a labelled transition relation. -/
inductive Trace (move : A → O → A → Prop) : A → List O → A → Prop
  | nil (place : A) : Trace move place [] place
  | cons {place next last : A} {label : O} {labels : List O} : move place label next →
      Trace move next labels last → Trace move place (label :: labels) last

/-- **Every step of the machine is, with its answer, a move of the relation** between the places
that represent its states. -/
def Simulates (step : S → I → S × O) (move : A → O → A → Prop) (represents : A → S → Prop) : Prop :=
  ∀ place state input, represents place state →
    ∃ next, move place (step state input).2 next ∧ represents next (step state input).1

/-- **So is every run.** -/
theorem Simulates.trace {step : S → I → S × O} {move : A → O → A → Prop}
    {represents : A → S → Prop} (simulates : Simulates step move represents) :
    ∀ {place : A} {state : S} {inputs : List I}, represents place state →
      ∃ last, Trace move place (outputs step state inputs) last ∧
        represents last (final step state inputs) := by
  intro place state inputs here
  induction inputs generalizing place state with
  | nil => exact ⟨place, .nil place, here⟩
  | cons input inputs ih =>
      obtain ⟨next, moved, there⟩ := simulates place state input here
      obtain ⟨last, run, landed⟩ := ih there
      exact ⟨last, .cons moved run, landed⟩

/-- A relation that appends what each label tells appends what all of them tell. -/
theorem Trace.appended {R : Type} {tells : O → List R} {place last : List R} {labels : List O}
    (run : Trace (fun place label next => next = place ++ tells label) place labels last) :
    last = place ++ labels.flatMap tells := by
  induction run with
  | nil place => exact (List.append_nil place).symm
  | cons moved _ ih => rw [ih, moved, List.append_assoc, List.flatMap_cons]

end Simulation

/-! ### Two machines in step -/

section Lockstep

variable {T J P : Type}

/-- **Two machines in step.** -/
def Lockstep (step : S → I → S × O) (other : T → J → T × P) (related : S → T → Prop)
    (corresponds : I → J → Prop) (agree : O → P → Prop) : Prop :=
  ∀ state there input given, related state there → corresponds input given →
    agree (step state input).2 (other there given).2 ∧
      related (step state input).1 (other there given).1

/-- **Corresponding runs agree at every answer and end in related states.** -/
theorem Lockstep.run {step : S → I → S × O} {other : T → J → T × P} {related : S → T → Prop}
    {corresponds : I → J → Prop} {agree : O → P → Prop}
    (inStep : Lockstep step other related corresponds agree) :
    ∀ {state : S} {there : T} {inputs : List I} {givens : List J}, related state there →
      List.Forall₂ corresponds inputs givens →
      List.Forall₂ agree (outputs step state inputs) (outputs other there givens) ∧
        related (final step state inputs) (final other there givens) := by
  intro state there inputs givens here matched
  induction matched generalizing state there with
  | nil => exact ⟨.nil, here⟩
  | cons same _ ih =>
      obtain ⟨said, next⟩ := inStep state there _ _ here same
      obtain ⟨rest, landed⟩ := ih next
      exact ⟨.cons said rest, landed⟩

/-- **What is read off the answers is the same along corresponding runs**, and so is, after every
step, what is read off the states. -/
theorem Lockstep.reports {step : S → I → S × O} {other : T → J → T × P} {related : S → T → Prop}
    {corresponds : I → J → Prop} {R Q : Type} {report : O → R} {told : P → R}
    (inStep : Lockstep step other related corresponds fun answer given =>
      report answer = told given)
    {project : S → Q} {shows : T → Q}
    (projected : ∀ state there, related state there → project state = shows there)
    {state : S} {there : T} (start : related state there) {inputs : List I} {givens : List J}
    (matched : List.Forall₂ corresponds inputs givens) :
    (outputs step state inputs).map report = (outputs other there givens).map told ∧
      ∀ count, project (final step state (inputs.take count)) =
        shows (final other there (givens.take count)) := by
  refine ⟨?_, fun count => projected _ _ (inStep.run start (List.forall₂_take count matched)).2⟩
  rw [← List.forall₂_eq_eq_eq, List.forall₂_map_left_iff, List.forall₂_map_right_iff]
  exact (inStep.run start matched).1

end Lockstep

/-! ### Inputs that change nothing -/

section Unmarked

/-- A list with marks, without what is marked. -/
def unmarked {E : Type} (list : List (E × Bool)) : List E :=
  (list.filter fun entry => !entry.2).map Prod.fst

@[simp] theorem unmarked_cons_true {E : Type} (entry : E) (rest : List (E × Bool)) :
    unmarked ((entry, true) :: rest) = unmarked rest := rfl

@[simp] theorem unmarked_cons_false {E : Type} (entry : E) (rest : List (E × Bool)) :
    unmarked ((entry, false) :: rest) = entry :: unmarked rest := rfl

/-- The machine on marked inputs. It does not look at the mark, and leaves it on the answer. -/
def marking (step : S → I → S × O) (state : S) (input : I × Bool) : S × (O × Bool) :=
  ((step state input.1).1, (step state input.1).2, input.2)

theorem final_marking (step : S → I → S × O) (state : S) (inputs : List (I × Bool)) :
    final (marking step) state inputs = final step state (inputs.map Prod.fst) := by
  induction inputs generalizing state with
  | nil => rfl
  | cons input rest ih => exact ih _

/-- **Inputs that leave the state where they stand can be left out**: the run ends in the same state
and gives the same answers to the others. -/
theorem unmarked_run (step : S → I → S × O) {state : S} {inputs : List (I × Bool)}
    (idle : ∀ front input back, inputs = front ++ (input, true) :: back →
      (step (final (marking step) state front) input).1 = final (marking step) state front) :
    final (marking step) state inputs = final step state (unmarked inputs) ∧
      unmarked (outputs (marking step) state inputs) = outputs step state (unmarked inputs) := by
  induction inputs generalizing state with
  | nil => exact ⟨rfl, rfl⟩
  | cons entry rest ih =>
      obtain ⟨input, mark⟩ := entry
      obtain ⟨ends, said⟩ := @ih (step state input).1 fun front other back split =>
        idle ((input, mark) :: front) other back (congrArg ((input, mark) :: ·) split)
      cases mark with
      | true =>
          have still : (step state input).1 = state := idle [] input rest rfl
          rw [still] at ends said
          rw [unmarked_cons_true, final_cons, outputs_cons]
          show final (marking step) (step state input).1 rest = _ ∧
            unmarked (outputs (marking step) (step state input).1 rest) = _
          rw [still]
          exact ⟨ends, said⟩
      | false =>
          rw [unmarked_cons_false, outputs_cons, outputs_cons]
          exact ⟨ends, congrArg ((step state input).2 :: ·) said⟩

end Unmarked

end MarketDataFabric.Library.Machine
