/-
**Chains of handlers** over one memory: each is asked in turn, up to the first that refuses.

* `run_append` — a chain cut in two: the second part sees what the first passes on.
* `part_step` — **a handler that keeps to its own part of the memory**, among handlers that leave that
  part alone, acts on it exactly when the handlers before it pass the input on.
* `writing_final` — a machine that writes lines, with everything it wrote.
-/

import MarketDataFabric.Library.Machine

namespace MarketDataFabric.Library.Chain

variable {M I T : Type}

/-- A handler answers whether to go on, and acts on the memory. -/
abbrev Handler (I M : Type) := I → M → Bool × M

def run : List (Handler I M) → I → M → Bool × M
  | [], _, memory => (true, memory)
  | handler :: rest, input, memory =>
      match handler input memory with
      | (true, memory) => run rest input memory
      | (false, memory) => (false, memory)

/-- The chain as a machine that reads one input after the other, whatever it answers. -/
def step (handlers : List (Handler I M)) (memory : M) (input : I) : M × Bool :=
  ((run handlers input memory).2, (run handlers input memory).1)

/-- The input, if the handlers pass it on. -/
def passes (handlers : List (Handler I M)) (memory : M) (input : I) : List I :=
  if (run handlers input memory).1 then [input] else []

/-- A handler does not touch a part of the memory. -/
def Leaves (part : M → T) (handler : Handler I M) : Prop :=
  ∀ input memory, part (handler input memory).2 = part memory

/-- A handler reads and changes one part of the memory, as `act` says. -/
def Acts (part : M → T) (act : T → I → T × Bool) (handler : Handler I M) : Prop :=
  ∀ input memory, (handler input memory).1 = (act (part memory) input).2 ∧
    part (handler input memory).2 = (act (part memory) input).1

theorem run_cons (handler : Handler I M) (rest : List (Handler I M)) (input : I) (memory : M) :
    run (handler :: rest) input memory =
      if (handler input memory).1 then run rest input (handler input memory).2
      else (false, (handler input memory).2) := by
  rw [run]
  rcases handler input memory with ⟨_ | _, next⟩ <;> rfl

/-- **The handlers behind a cut** are asked where those before it all answer `true`. -/
theorem run_append (front back : List (Handler I M)) (input : I) (memory : M) :
    run (front ++ back) input memory =
      if (run front input memory).1 then run back input (run front input memory).2
      else (false, (run front input memory).2) := by
  induction front generalizing memory with
  | nil => rfl
  | cons handler rest ih =>
      rw [List.cons_append, run_cons, run_cons]
      by_cases goes : (handler input memory).1 = true
      · simp only [if_pos goes]
        exact ih _
      · simp only [if_neg goes]
        rfl

/-- Handlers that all leave a part alone leave it alone together. -/
theorem run_leaves {part : M → T} {handlers : List (Handler I M)}
    (leaves : ∀ handler ∈ handlers, Leaves part handler) (input : I) (memory : M) :
    part (run handlers input memory).2 = part memory := by
  induction handlers generalizing memory with
  | nil => rfl
  | cons handler rest ih =>
      have first : part (handler input memory).2 = part memory :=
        leaves handler List.mem_cons_self input memory
      rw [run_cons]
      split_ifs
      · rw [ih fun other member => leaves other (List.mem_cons_of_mem _ member), first]
      · exact first

section Part

variable {part : M → T} {act : T → I → T × Bool} {front back : List (Handler I M)}
  {handler : Handler I M}

/-- One input: the part moves if the input is passed on to its handler, and only then. -/
theorem part_step (before : ∀ other ∈ front, Leaves part other) (acts : Acts part act handler)
    (after : ∀ other ∈ back, Leaves part other) (memory : M) (input : I) :
    part (step (front ++ handler :: back) memory input).1 =
      Machine.final act (part memory) (passes front memory input) := by
  show part (run (front ++ handler :: back) input memory).2 = _
  have here : part (run front input memory).2 = part memory := run_leaves before input memory
  rw [run_append, passes]
  split_ifs with passed
  · have moved := (acts input (run front input memory).2).2
    rw [here] at moved
    rw [run_cons]
    split_ifs
    · rw [run_leaves after, moved]
      rfl
    · exact moved
  · exact here

end Part

/-- An input that no handler refuses is not refused. -/
theorem run_of_open {handlers : List (Handler I M)} {input : I}
    (goes : ∀ handler ∈ handlers, ∀ memory, (handler input memory).1 = true) (memory : M) :
    (run handlers input memory).1 = true := by
  induction handlers generalizing memory with
  | nil => rfl
  | cons handler rest ih =>
      rw [run_cons, if_pos (goes handler List.mem_cons_self memory)]
      exact ih (fun other member => goes other (List.mem_cons_of_mem _ member)) _

/-! ### Written lines -/

variable {S E : Type}

/-- A machine that answers and may write a line, with everything that was written. -/
def writing (act : S → I → S × Bool × Option E) (state : S × List E) (input : I) :
    (S × List E) × Bool :=
  let (next, answer, line) := act state.1 input
  ((next, state.2 ++ line.toList), answer)

theorem writing_final (act : S → I → S × Bool × Option E) (state : S) (written : List E)
    (inputs : List I) :
    Machine.final (writing act) (state, written) inputs =
      (Machine.final act state inputs,
        written ++ (Machine.outputs act state inputs).filterMap Prod.snd) := by
  induction inputs generalizing state written with
  | nil => exact congrArg (Prod.mk state) (List.append_nil written).symm
  | cons input rest ih =>
      rw [Machine.final_cons, Machine.final_cons, Machine.outputs_cons, List.filterMap_cons]
      refine (ih _ _).trans ?_
      rcases act state input with ⟨next, answer, _ | line⟩
      · show (_, written ++ [] ++ _) = _
        rw [List.append_nil]
      · show (_, written ++ [line] ++ _) = _
        rw [List.append_assoc]
        rfl

end MarketDataFabric.Library.Chain
