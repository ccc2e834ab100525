/-
**The checkpoint coordinator**, `replay/checkpoint.hpp`.

* `commit_of_true`, `commit_of_false` — an accepted commit advances what was committed, and a rejected
  one changes nothing.
* `commits_advance` — hence the accepted commits are a chain that ends at the committed one, and a
  commit that was accepted before may be repeated at any time.
-/

import MarketDataFabric.Library.Machine

namespace MarketDataFabric.Replay

open Library

structure CheckpointSequence where
  partitionId : UInt64 := 0
  appliedSequence : UInt64 := 0
  journalOffset : UInt64 := 0
deriving Repr, DecidableEq

def CheckpointSequence.valid (checkpoint : CheckpointSequence) : Bool :=
  checkpoint.partitionId ≠ 0 ∧ checkpoint.appliedSequence ≠ 0

structure CheckpointCoordinator where
  committed : CheckpointSequence := {}
deriving Repr, DecidableEq

/-- One checkpoint follows another: in its partition, further in the stream, not back in the journal. -/
structure CheckpointSequence.Advances (earlier later : CheckpointSequence) : Prop where
  partitionId : later.partitionId = earlier.partitionId
  appliedSequence : earlier.appliedSequence < later.appliedSequence
  journalOffset : earlier.journalOffset ≤ later.journalOffset

theorem CheckpointSequence.Advances.trans {first second third : CheckpointSequence}
    (here : first.Advances second) (there : second.Advances third) : first.Advances third where
  partitionId := there.partitionId.trans here.partitionId
  appliedSequence := UInt64.lt_trans here.appliedSequence there.appliedSequence
  journalOffset := UInt64.le_trans here.journalOffset there.journalOffset

instance : IsTrans CheckpointSequence CheckpointSequence.Advances := ⟨fun _ _ _ => .trans⟩

namespace CheckpointCoordinator

def commit (coordinator : CheckpointCoordinator)
    (partitionId appliedSequence durableJournalOffset : UInt64) : Bool × CheckpointCoordinator :=
  if partitionId = 0 ∨ appliedSequence = 0 ∨
      (coordinator.committed.valid ∧
        (partitionId ≠ coordinator.committed.partitionId ∨
          appliedSequence ≤ coordinator.committed.appliedSequence ∨
          durableJournalOffset < coordinator.committed.journalOffset)) then
    (false, coordinator)
  else (true, ⟨partitionId, appliedSequence, durableJournalOffset⟩)

/-- `commit` with its arguments in one record, which it answers with. -/
def call (coordinator : CheckpointCoordinator) (request : CheckpointSequence) :
    CheckpointCoordinator × (CheckpointSequence × Bool) :=
  let result :=
    coordinator.commit request.partitionId request.appliedSequence request.journalOffset
  (result.2, request, result.1)

/-- The coordinator after a list of calls. -/
abbrev after (coordinator : CheckpointCoordinator) (requests : List CheckpointSequence) :
    CheckpointCoordinator := Machine.final call coordinator requests

/-- The requests along a list of calls, each with its answer. -/
abbrev answers (coordinator : CheckpointCoordinator) (requests : List CheckpointSequence) :
    List (CheckpointSequence × Bool) := Machine.outputs call coordinator requests

/-- The commit that an answer accepts. -/
def acceptedCommit (answer : CheckpointSequence × Bool) : Option CheckpointSequence :=
  if answer.2 then some answer.1 else none

/-- The commits that were accepted, in order. -/
abbrev accepted (coordinator : CheckpointCoordinator) (requests : List CheckpointSequence) :
    List CheckpointSequence := Machine.emitted call acceptedCommit coordinator requests

/-- The accepted commits behind the restored one, if that is valid. -/
def chain (coordinator : CheckpointCoordinator) (requests : List CheckpointSequence) :
    List CheckpointSequence :=
  if coordinator.committed.valid then coordinator.committed :: coordinator.accepted requests
  else coordinator.accepted requests

/-! ### One commit -/

/-- **An accepted commit** is valid, advances a valid checkpoint, and is committed. -/
theorem commit_of_true {coordinator : CheckpointCoordinator} {request : CheckpointSequence}
    (done : (coordinator.call request).2.2 = true) :
    request.valid = true ∧
      (coordinator.committed.valid = true → coordinator.committed.Advances request) ∧
      (coordinator.call request).1.committed = request := by
  unfold call commit at done ⊢
  split_ifs at done ⊢ with refused
  obtain ⟨named, numbered, follows⟩ : request.partitionId ≠ 0 ∧ request.appliedSequence ≠ 0 ∧
      ¬ (coordinator.committed.valid = true ∧
        (request.partitionId ≠ coordinator.committed.partitionId ∨
          request.appliedSequence ≤ coordinator.committed.appliedSequence ∨
          request.journalOffset < coordinator.committed.journalOffset)) := by
    simpa only [not_or] using refused
  refine ⟨decide_eq_true ⟨named, numbered⟩, fun valid => ?_, rfl⟩
  have advances := not_and.mp follows valid
  rw [not_or, not_or, not_not, UInt64.not_le, UInt64.not_lt] at advances
  exact ⟨advances.1, advances.2.1, advances.2.2⟩

/-- **A rejected commit changes nothing.** -/
theorem commit_of_false {coordinator : CheckpointCoordinator} {request : CheckpointSequence}
    (refused : (coordinator.call request).2.2 = false) : (coordinator.call request).1 = coordinator := by
  unfold call commit at refused ⊢
  split_ifs at refused ⊢
  rfl

/-- A commit that does not go further is rejected. -/
theorem refused_of_le {coordinator : CheckpointCoordinator} {request : CheckpointSequence}
    (valid : coordinator.committed.valid = true)
    (reached : request.appliedSequence ≤ coordinator.committed.appliedSequence) :
    (coordinator.call request).2.2 = false := by
  cases done : (coordinator.call request).2.2 with
  | false => rfl
  | true =>
      have further := ((commit_of_true done).2.1 valid).appliedSequence
      exact absurd reached (UInt64.not_le.mpr further)

/-! ### The chain of the accepted commits -/

/-- One committed checkpoint after another. -/
def Follows (here there : CheckpointSequence) : Prop :=
  there.valid = true ∧ (here.valid = true → here.Advances there)

theorem moves : Machine.Moves call (fun _ => True) (fun _ => True) committed
    acceptedCommit Follows where
  keeps _ _ _ _ := trivial
  stays coordinator request _ _ silent := by
    unfold acceptedCommit at silent
    split_ifs at silent with done
    rw [commit_of_false (Bool.eq_false_iff.mpr done)]
  moves coordinator request place _ _ said := by
    unfold acceptedCommit at said
    split_ifs at said with done
    obtain rfl : request = place := Option.some.inj said
    obtain ⟨valid, advances, landed⟩ := commit_of_true done
    exact ⟨⟨valid, advances⟩, landed⟩

/-- Behind a valid checkpoint the committed ones advance. -/
theorem isChain_advances {first : CheckpointSequence} {rest : List CheckpointSequence}
    (valid : first.valid = true) (chain : List.IsChain Follows (first :: rest)) :
    List.IsChain CheckpointSequence.Advances (first :: rest) := by
  induction rest generalizing first with
  | nil => exact List.isChain_singleton _
  | cons next rest ih =>
      obtain ⟨follows, tail⟩ := List.isChain_cons_cons.mp chain
      exact List.isChain_cons_cons.mpr ⟨follows.2 valid, ih follows.1 tail⟩

theorem chain_pairwise (coordinator : CheckpointCoordinator) (requests : List CheckpointSequence) :
    (coordinator.chain requests).Pairwise CheckpointSequence.Advances := by
  have follows : List.IsChain Follows (coordinator.committed :: coordinator.accepted requests) :=
    moves.isChain trivial fun _ _ => trivial
  rw [← List.isChain_iff_pairwise]
  unfold chain
  split_ifs with valid
  · exact isChain_advances valid follows
  · cases commits : coordinator.accepted requests with
    | nil => exact List.isChain_nil
    | cons first rest =>
        rw [commits] at follows
        obtain ⟨advances, tail⟩ := List.isChain_cons_cons.mp follows
        exact isChain_advances advances.1 tail

/-- What was accepted lies behind the committed checkpoint. -/
theorem reached_of_accepted {coordinator : CheckpointCoordinator}
    {requests : List CheckpointSequence} {request : CheckpointSequence}
    (member : request ∈ coordinator.accepted requests) :
    (coordinator.after requests).committed.valid = true ∧
      request.appliedSequence ≤ (coordinator.after requests).committed.appliedSequence := by
  have history := Machine.outputs_history call
    (fun past state => ∀ earlier, (earlier, true) ∈ past →
      state.committed.valid = true ∧ earlier.appliedSequence ≤ state.committed.appliedSequence)
    ?_ [] coordinator requests (fun _ absent => absurd absent List.not_mem_nil)
  · obtain ⟨⟨other, done⟩, place, said⟩ := List.mem_filterMap.mp member
    cases done with
    | false => cases said
    | true =>
        obtain rfl : other = request := Option.some.inj said
        exact history other place
  · intro past state next holds earlier among
    rw [List.mem_append, List.mem_singleton] at among
    cases done : (state.call next).2.2 with
    | false =>
        rw [commit_of_false done]
        refine holds earlier (among.resolve_right fun same => ?_)
        rw [← same] at done
        cases done
    | true =>
        obtain ⟨valid, advances, landed⟩ := commit_of_true done
        rw [landed]
        refine ⟨valid, ?_⟩
        rcases among with old | same
        · obtain ⟨before, reached⟩ := holds earlier old
          exact UInt64.le_trans reached (UInt64.le_of_lt (advances before).appliedSequence)
        · obtain rfl : earlier = next := congrArg Prod.fst same
          exact UInt64.le_refl _

/-- **Checkpoint commits form a monotone chain that retries do not disturb.** For every restored
checkpoint and every list of commits:

* the accepted commits, behind the restored one if that is valid, have one partition, strictly
  increasing sequences and no decreasing journal offset;
* the last accepted one is committed, and a rejected call changes nothing;
* when commits that were accepted before are repeated anywhere later (they are marked), the others
  are answered as without the repetitions, and the same checkpoint is committed. -/
theorem commits_advance (restored : CheckpointSequence) (requests : List CheckpointSequence) :
    let coordinator : CheckpointCoordinator := ⟨restored⟩
    (coordinator.chain requests).Pairwise CheckpointSequence.Advances ∧
    (coordinator.after requests).committed = (coordinator.accepted requests).getLastD restored ∧
    (∀ request, ((coordinator.after requests).call request).2.2 = false →
      ((coordinator.after requests).call request).1 = coordinator.after requests) ∧
    ∀ repeating : List (CheckpointSequence × Bool), Machine.unmarked repeating = requests →
      (∀ front request back, repeating = front ++ (request, true) :: back →
        request ∈ coordinator.accepted (front.map Prod.fst)) →
      Machine.unmarked (Machine.outputs (Machine.marking call) coordinator repeating) =
          coordinator.answers requests ∧
        coordinator.after (repeating.map Prod.fst) = coordinator.after requests := by
  intro coordinator
  refine ⟨coordinator.chain_pairwise requests, ?_, fun request => commit_of_false, ?_⟩
  · exact moves.cursor_final trivial fun _ _ => trivial
  · rintro repeating rfl retried
    have idle : ∀ front request back, repeating = front ++ (request, true) :: back →
        (call (Machine.final (Machine.marking call) coordinator front) request).1 =
          Machine.final (Machine.marking call) coordinator front := by
      intro front request back split
      obtain ⟨valid, reached⟩ := reached_of_accepted (retried front request back split)
      rw [Machine.final_marking]
      exact commit_of_false (refused_of_le valid reached)
    obtain ⟨ends, said⟩ := Machine.unmarked_run call idle
    rw [Machine.final_marking] at ends
    exact ⟨said, ends⟩

/-- Two commits, and the first again at the end. -/
theorem commits_advance_retried :
    let coordinator : CheckpointCoordinator := ⟨{}⟩
    Machine.unmarked (Machine.outputs (Machine.marking call) coordinator
        [(⟨3, 100, 4096⟩, false), (⟨3, 101, 8192⟩, false), (⟨3, 100, 4096⟩, true)]) =
        coordinator.answers [⟨3, 100, 4096⟩, ⟨3, 101, 8192⟩] ∧
      coordinator.after [⟨3, 100, 4096⟩, ⟨3, 101, 8192⟩, ⟨3, 100, 4096⟩] =
        coordinator.after [⟨3, 100, 4096⟩, ⟨3, 101, 8192⟩] := by
  refine (commits_advance {} [⟨3, 100, 4096⟩, ⟨3, 101, 8192⟩]).2.2.2
    [(⟨3, 100, 4096⟩, false), (⟨3, 101, 8192⟩, false), (⟨3, 100, 4096⟩, true)] rfl ?_
  intro front request back split
  match front with
  | [] => cases split
  | [_] => cases split
  | [_, _] =>
      cases split
      decide
  | _ :: _ :: _ :: later => cases later <;> cases split

end CheckpointCoordinator

end MarketDataFabric.Replay
