/-
**Reading a beginning of a journal.**

* `Announced` — a frame with the standard head and the size it announces: any frame of `append`.
* `read_cut` — **a reader of the cut file returns the frames that end inside it**, in order, up to the
  first that is too large for a record.
-/

import MarketDataFabric.Replay.EventJournal

namespace MarketDataFabric.Replay

open Library

/-- A frame with the standard head, of the size it announces. -/
structure Announced (frame : EventFrameHeader × List UInt8) : Prop where
  standard : frame.1.Standard
  sized : frame.2.length = frame.1.payloadSize.toNat

/-- The payload fits a record. -/
def fitsRecord (frame : EventFrameHeader × List UInt8) : Bool :=
  decide (frame.2.length ≤ kMaxJournalPayloadSize)

/-- The record of a frame. -/
def frameRecord (frame : EventFrameHeader × List UInt8) : EventJournalRecord := ⟨frame.1, frame.2⟩

/-- Where the first `count` frames of a journal end. -/
def frameEnd (frames : List (EventFrameHeader × List UInt8)) (count : Nat) : Nat :=
  64 + ((frames.take count).map fun frame => 40 + frame.2.length).sum

theorem frameEnd_eq (frames : List (EventFrameHeader × List UInt8)) (count : Nat) :
    frameEnd frames count = 64 + journalFormat.extent frames count := by
  unfold frameEnd FrameFormat.extent FrameFormat.concat
  rw [List.length_flatMap]
  refine congrArg (fun sizes => 64 + List.sum sizes) (List.map_congr_left fun frame _ => ?_)
  exact (journalFormat.bytes_length frame).symm

/-- An announced frame is refused exactly if it does not fit. -/
theorem Announced.refusal {frame : EventFrameHeader × List UInt8} (announced : Announced frame) :
    (journalFormat.refusal frame.1).isNone = fitsRecord frame := by
  have malformed := announced.standard.malformed_eq
  rw [← announced.sized] at malformed
  unfold fitsRecord
  by_cases fits : frame.2.length ≤ kMaxJournalPayloadSize
  · rw [decide_eq_false (Nat.not_lt.mpr fits)] at malformed
    rw [refusal_eq_none_iff.mpr malformed, decide_eq_true fits]
    rfl
  · rw [decide_eq_true (Nat.lt_of_not_le fits)] at malformed
    have refused : journalFormat.refusal frame.1 = some () := if_pos malformed
    rw [refused, decide_eq_false fits]
    rfl

/-- The readable frames are those before the first that does not fit. -/
theorem readable_eq {frames : List (EventFrameHeader × List UInt8)}
    (announced : ∀ frame ∈ frames, Announced frame) :
    journalFormat.readable frames = frames.takeWhile fitsRecord := by
  induction frames with
  | nil => rfl
  | cons frame rest ih =>
      have tail := ih fun other member => announced other (List.mem_cons_of_mem _ member)
      rw [FrameFormat.readable] at tail ⊢
      rw [List.takeWhile_cons, List.takeWhile_cons,
        (announced frame List.mem_cons_self).refusal, tail]

/-- **A reader of a beginning of a journal** returns the frames that end inside it, up to the first that
does not fit a record. -/
theorem read_cut (sourceId tradingDay : UInt32) {frames : List (EventFrameHeader × List UInt8)}
    (announced : ∀ frame ∈ frames, Announced frame) {file : List UInt8}
    (part : file <+: EventJournalHeader.codec.encode { sourceId, tradingDay } ++
      journalFormat.concat frames)
    (fuel : Nat) (record : EventJournalRecord) (enough : frames.length < fuel) :
    let readable := frames.takeWhile fitsRecord
    ∃ count ≤ readable.length,
      (∀ index < readable.length, index < count ↔ frameEnd readable (index + 1) ≤ file.length) ∧
      ((EventJournalReader.construct { rest := file }).readAll fuel record).1 =
        (readable.take count).map frameRecord := by
  intro readable
  obtain ⟨valid, opened⟩ := construct_take sourceId tradingDay (journalFormat.concat frames)
    file.length
  rw [← List.prefix_iff_eq_take.mp part] at valid opened
  have front : readable <+: frames := List.takeWhile_prefix _
  by_cases long : 64 ≤ file.length
  · have sized : ∀ frame ∈ frames, frame.2.length = journalFormat.payloadSize frame.1 :=
      fun frame member => (announced frame member).sized
    obtain ⟨reason, scan⟩ := FrameFormat.scan_take_readable (file.length - 64) sized
    rw [readable_eq announced] at scan
    have short : (readable.take (journalFormat.whole readable (file.length - 64))).length < fuel :=
      Nat.lt_of_le_of_lt ((List.length_take_le' _ _).trans front.length_le) enough
    refine ⟨journalFormat.whole readable (file.length - 64),
      FrameFormat.whole_le_length _ _, fun index inside => ?_,
      (readAll_of_scan scan _ fuel record (opened long) short).1⟩
    rw [FrameFormat.lt_whole_iff, frameEnd_eq]
    omega
  · refine ⟨0, Nat.zero_le _, fun index _ => iff_of_false (Nat.not_lt_zero _) ?_, ?_⟩
    · rw [frameEnd_eq]
      omega
    · have refused : (EventJournalReader.construct { rest := file }).valid = false :=
        Bool.eq_false_iff.mpr (mt valid.mp long)
      cases fuel with
      | zero => exact absurd enough (Nat.not_lt_zero _)
      | succ fuel =>
          rw [EventJournalReader.readAll, EventJournalReader.next, if_pos refused]
          rfl

end MarketDataFabric.Replay
