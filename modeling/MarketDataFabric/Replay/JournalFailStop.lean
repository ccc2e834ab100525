/-
**When the event-journal reader fails stop.**

The reader keeps nothing of a failure but its status: what the next call does is up to the bits and
the place of the stream.

* `Drained.next` — a reading that ran out of bytes reports a clean end from the next call on.
* `next_stop`, `next_frame` — what the answer of a call is, and what it leaves behind.
* `corrupt_moves` — a good stream does not answer `Corrupt` for ever.
* `fail_stop_iff` — hence the reader fails stop exactly on a file that it does not take for a journal,
  or that is a journal of whole frames.
-/

import MarketDataFabric.Replay.EventJournal
import MarketDataFabric.Library.Machine

namespace MarketDataFabric.Replay

open Library

namespace EventJournalReader

/-- One call of `next`, into a record of the caller's, and the status after it. -/
def call (reader : EventJournalReader) (record : EventJournalRecord) :
    EventJournalReader × (Bool × EventJournalReadStatus) :=
  let (found, _, later) := reader.next record
  (later, found, later.lastStatus)

/-- The answers of a list of calls on one reader. -/
abbrev answers (reader : EventJournalReader) (records : List EventJournalRecord) :
    List (Bool × EventJournalReadStatus) :=
  Machine.outputs call reader records

/-- **Once a call has returned false, every later one does**, with the same status. -/
def FailsStop (reader : EventJournalReader) : Prop :=
  ∀ records, (reader.answers records).Pairwise fun earlier later =>
    earlier.1 = false → later = earlier

/-- **A drained reader reports a clean end**, and stays drained. -/
theorem Drained.next {reader : EventJournalReader} (drained : reader.Drained)
    (record : EventJournalRecord) :
    (reader.call record).2 = (false, .endOfFile) ∧ (reader.call record).1.Drained := by
  obtain ⟨valid, eof⟩ := drained
  have bad : reader.input.good = false := by rw [IStream.good, eof]; rfl
  have read (count : Nat) :
      reader.input.read count = ([], { reader.input with fail := true, gcount := 0 }) := by
    rw [IStream.read, if_neg (by rw [bad]; exact Bool.false_ne_true)]
  unfold call EventJournalReader.next
  rw [if_neg (by rw [valid]; decide)]
  simp only [read, eof, and_self, if_true]
  exact ⟨trivial, valid, rfl⟩

/-- A reader of a file that is no journal says so for ever. -/
theorem next_invalid {reader : EventJournalReader} (invalid : reader.valid = false)
    (record : EventJournalRecord) :
    (reader.call record).2 = (false, .invalidFile) ∧ (reader.call record).1.valid = false := by
  unfold call EventJournalReader.next
  rw [if_pos invalid]
  exact ⟨rfl, invalid⟩

/-- A call at the end of a reading fails, with the status of that end. -/
theorem next_stop {reader : EventJournalReader} {bytes : List UInt8} (here : reader.At bytes)
    (record : EventJournalRecord) {reason : FrameFormat.Stop Unit}
    (stop : journalFormat.cut bytes = .stop reason) :
    (reader.call record).2 = (false, statusOf reason) ∧
      (reader.call record).1.Left bytes reason := by
  have told := next_spec here record
  rw [stop] at told
  obtain ⟨failed, status, left⟩ := told
  exact ⟨Prod.ext failed status, left⟩

/-- A call that finds a record moves on to what follows its frame. -/
theorem next_frame {reader : EventJournalReader} {bytes payload rest : List UInt8}
    {header : EventFrameHeader} (here : reader.At bytes) (record : EventJournalRecord)
    (front : journalFormat.cut bytes = .frame header payload rest) :
    (reader.call record).2 = (true, .record) ∧ (reader.call record).1.At rest := by
  have told := next_spec here record
  rw [front] at told
  unfold call
  rw [told]
  exact ⟨rfl, here.valid, rfl, rfl⟩

/-! ### Failing stop -/

theorem answers_cons (reader : EventJournalReader) (record : EventJournalRecord)
    (records : List EventJournalRecord) :
    reader.answers (record :: records) =
      (reader.call record).2 :: (reader.call record).1.answers records := rfl

/-- A reader that always answers one thing fails stop. -/
theorem failsStop_of_constant {reader : EventJournalReader}
    (answer : Bool × EventJournalReadStatus) (holds : EventJournalReader → Prop) (here : holds reader)
    (keeps : ∀ reader record, holds reader →
      (reader.call record).2 = answer ∧ holds (reader.call record).1) : reader.FailsStop := by
  intro records
  have same : ∀ given ∈ reader.answers records, given = answer :=
    Machine.outputs_invariant call holds (fun _ => True) (· = answer)
      (fun reader record inv _ => (keeps reader record inv).symm) here fun _ _ => trivial
  refine List.pairwise_of_forall_mem_list fun earlier early later late _ => ?_
  rw [same earlier early, same later late]

/-- The first answer of a reader that fails stop binds all the others, if it is a failure. -/
theorem failsStop_cons {reader : EventJournalReader}
    (stops : ∀ record, (reader.call record).1.FailsStop)
    (kept : ∀ record records, (reader.call record).2.1 = false →
      ∀ later ∈ (reader.call record).1.answers records, later = (reader.call record).2) :
    reader.FailsStop := by
  intro records
  cases records with
  | nil => exact List.Pairwise.nil
  | cons record records =>
      rw [answers_cons]
      exact List.pairwise_cons.mpr
        ⟨fun later member failed => kept record records failed later member, stops record records⟩

/-- **A journal of whole frames** is read to its clean end, and reported so for ever. -/
theorem failsStop_of_scan {bytes : List UInt8} {frames : List (EventFrameHeader × List UInt8)}
    {reason : FrameFormat.Stop Unit} (scan : journalFormat.Scan bytes frames reason)
    (clean : reason = .clean) : ∀ {reader : EventJournalReader}, reader.At bytes →
      reader.FailsStop := by
  induction scan with
  | stop front =>
      intro reader here
      subst clean
      refine failsStop_of_constant (false, .endOfFile)
        (fun reader => reader.At _ ∨ reader.Drained) (Or.inl here) ?_
      rintro later record (there | drained)
      · obtain ⟨answered, left⟩ := next_stop there record front
        exact ⟨answered, Or.inr left⟩
      · obtain ⟨answered, left⟩ := drained.next record
        exact ⟨answered, Or.inr left⟩
  | frame front _ ih =>
      intro reader here
      refine failsStop_cons (fun record => ih clean (next_frame here record front).2) ?_
      intro record records failed
      rw [(next_frame here record front).1] at failed
      cases failed

/-- **A good stream does not answer `Corrupt` for ever**: what is left is shorter each time. -/
theorem corrupt_moves (bytes : List UInt8) : ∀ {reader : EventJournalReader}, reader.At bytes →
    ∃ records, ∃ answer ∈ reader.answers records, answer ≠ (false, .corrupt) := by
  induction size : bytes.length using Nat.strong_induction_on generalizing bytes with
  | _ size ih =>
    subst size
    intro reader here
    cases front : journalFormat.cut bytes with
    | frame header payload rest =>
        refine ⟨[{}], _, List.mem_cons_self, ?_⟩
        rw [(next_frame here {} front).1]
        decide
    | stop reason =>
        obtain ⟨answered, left⟩ := next_stop here {} front
        cases reason with
        | clean | torn =>
            refine ⟨[{}], _, List.mem_cons_self, ?_⟩
            rw [answered]
            decide
        | refused reason =>
            obtain ⟨there, long⟩ := left
            have shorter : (bytes.drop EventFrameHeader.codec.size).length < bytes.length := by
              have nonempty := journalFormat.nonempty
              rw [List.length_drop]
              exact Nat.sub_lt (Nat.lt_of_lt_of_le nonempty long) nonempty
            obtain ⟨records, answer, member, other⟩ := ih _ shorter _ rfl there
            exact ⟨{} :: records, answer, List.mem_cons_of_mem _ member, other⟩

/-- **Any other end of a reading is taken back** by some later call. -/
theorem not_failsStop_of_scan {bytes : List UInt8}
    {frames : List (EventFrameHeader × List UInt8)} {reason : FrameFormat.Stop Unit}
    (scan : journalFormat.Scan bytes frames reason) (unclean : reason ≠ .clean) :
    ∀ {reader : EventJournalReader}, reader.At bytes → ¬ reader.FailsStop := by
  induction scan with
  | frame front _ ih =>
      intro reader here stops
      exact ih unclean (next_frame here {} front).2 fun records =>
        (List.pairwise_cons.mp (stops ({} :: records))).2
  | stop front =>
      rename_i reason
      intro reader here stops
      obtain ⟨answered, left⟩ := next_stop here {} front
      have bound : ∀ records, ∀ later ∈ (reader.call {}).1.answers records,
          later = (false, statusOf reason) := by
        intro records later member
        have first := (List.pairwise_cons.mp (stops ({} :: records))).1 later member
        rw [answered] at first
        exact first rfl
      cases reason with
      | clean => exact unclean rfl
      | torn =>
          have again := bound [{}] _ List.mem_cons_self
          rw [(left.next {}).1] at again
          cases again
      | refused reason =>
          obtain ⟨records, answer, member, other⟩ := corrupt_moves _ left.1
          exact other (bound records answer member)

end EventJournalReader

/-- **The reader fails stop exactly** on a file it does not take for a journal, or whose reading ends
on the boundary of a frame. -/
theorem fail_stop_iff (file : List UInt8) :
    (EventJournalReader.construct { rest := file }).FailsStop ↔
      (EventJournalReader.construct { rest := file }).valid = false ∨ ∃ frames,
        (∀ frame ∈ frames, journalFormat.WellFormed frame) ∧
          file.drop 64 = journalFormat.concat frames := by
  cases accepted : (EventJournalReader.construct { rest := file }).valid with
  | false =>
      refine iff_of_true ?_ (Or.inl rfl)
      exact EventJournalReader.failsStop_of_constant (false, .invalidFile)
        (fun reader => reader.valid = false) accepted
        fun later record invalid => EventJournalReader.next_invalid invalid record
  | true =>
      obtain ⟨-, -, here⟩ := construct_valid accepted
      obtain ⟨frames, remainder, reason, scan, -, -⟩ := journalFormat.scan_split (file.drop 64)
      constructor
      · intro stops
        have clean : reason = .clean := by
          by_contra unclean
          exact EventJournalReader.not_failsStop_of_scan scan unclean here stops
        obtain ⟨whole, wellFormed⟩ := scan.of_clean clean
        exact Or.inr ⟨frames, wellFormed, whole⟩
      · rintro (refused | ⟨frames, wellFormed, whole⟩)
        · cases refused
        · have ends := FrameFormat.scan_concat wellFormed
          rw [← whole] at ends
          exact EventJournalReader.failsStop_of_scan ends rfl here

/-- A torn frame is a clean end at the second call; forty zero bytes in front of a frame are corrupt,
then there is a record, then a clean end. -/
theorem fail_stop_breaks :
    let header := EventJournalHeader.codec.encode { sourceId := 1001, tradingDay := 20260417 }
    let frame := EventFrameHeader.codec.encode { eventKind := 2, partitionId := 3 }
    let torn := EventJournalReader.construct { rest := header ++ frame.take 5 }
    let corrupt := EventJournalReader.construct { rest := header ++ List.replicate 40 0 ++ frame }
    torn.answers [{}, {}] = [(false, .truncatedTail), (false, .endOfFile)] ∧
      corrupt.answers [{}, {}, {}] = [(false, .corrupt), (true, .record), (false, .endOfFile)] ∧
      ¬ torn.FailsStop ∧ ¬ corrupt.FailsStop := by
  intro header frame torn corrupt
  have first : torn.answers [{}, {}] = [(false, .truncatedTail), (false, .endOfFile)] := by
    decide +kernel
  have second : corrupt.answers [{}, {}, {}] =
      [(false, .corrupt), (true, .record), (false, .endOfFile)] := by decide +kernel
  refine ⟨first, second, fun stops => ?_, fun stops => ?_⟩
  · have bound := stops [{}, {}]
    rw [first] at bound
    exact absurd bound (by decide)
  · have bound := stops [{}, {}, {}]
    rw [second] at bound
    exact absurd bound (by decide)

end MarketDataFabric.Replay
