/-
**Byte streams.**

`IStream` is an opened binary input stream: what is left of the file, the two state bits that a read
can set, and the count of the last read. `OStream` is a buffered output stream: what it takes goes to
the file when the stream hands it on, at a flush or a close at the latest, and a call may fail.

* `IStream.read_of_le`, `IStream.read_of_lt` — a read of a good stream delivers what it asked for, or
  all that is left and both bits.
* `OStream.Given` — **what a stream was given**: all of it is in the file or will be, or the stream is
  bad and the file has a beginning of it. `OStream.Given.write`, `Given.flush` and `Given.close` — the
  operations keep this, as long as nothing is handed on twice.
* `OStream.write_both`, `OStream.write_pair` — two writes in a row.
-/

import Mathlib.Data.List.Basic

namespace MarketDataFabric.Library

structure IStream where
  rest : List UInt8
  eof : Bool := false
  fail : Bool := false
  gcount : Nat := 0
deriving Repr, DecidableEq

namespace IStream

def good (stream : IStream) : Bool := !stream.eof && !stream.fail

/-- Read `count` bytes: the bytes delivered, and the stream afterwards. A stream that is not good
delivers nothing. -/
def read (stream : IStream) (count : Nat) : List UInt8 × IStream :=
  if stream.good then
    let bytes := stream.rest.take count
    let short := decide (bytes.length < count)
    (bytes, { rest := stream.rest.drop count, eof := short, fail := short, gcount := bytes.length })
  else
    ([], { stream with fail := true, gcount := 0 })

/-- A good stream with enough bytes left. -/
theorem read_of_le {stream : IStream} {count : Nat} (good : stream.good = true)
    (enough : count ≤ stream.rest.length) :
    stream.read count =
      (stream.rest.take count, { rest := stream.rest.drop count, gcount := count }) := by
  have whole : (stream.rest.take count).length = count := List.length_take_of_le enough
  simp only [read, good, if_true, whole, Nat.lt_irrefl, decide_false]

/-- A good stream with too few. -/
theorem read_of_lt {stream : IStream} {count : Nat} (good : stream.good = true)
    (short : stream.rest.length < count) :
    stream.read count =
      (stream.rest,
        { rest := [], eof := true, fail := true, gcount := stream.rest.length }) := by
  simp only [read, good, if_true, List.take_of_length_le (Nat.le_of_lt short), short, decide_true,
    List.drop_eq_nil_of_le (Nat.le_of_lt short)]

end IStream

/-! ### Output -/

/-- What a call of the stream reports. A call that fails has handed on `taken` bytes of what was waiting
and what it was given; then `stays` bytes wait to be handed on, the first `again` of which are in the
file already. -/
inductive WriteAnswer where
  | written
  | failed (taken : Nat) (again : Nat := 0) (stays : Nat := 0)
deriving Repr, DecidableEq

namespace WriteAnswer

/-- Nothing that the file has waits to be handed on. -/
def Seamless : WriteAnswer → Prop
  | written => True
  | failed _ again _ => again = 0

instance : DecidablePred Seamless
  | written => isTrue trivial
  | failed _ again _ => inferInstanceAs (Decidable (again = 0))

/-- Nothing is handed on. -/
def Still : WriteAnswer → Prop
  | written => False
  | failed taken _ _ => taken = 0

instance : DecidablePred Still
  | written => isFalse id
  | failed taken _ _ => inferInstanceAs (Decidable (taken = 0))

end WriteAnswer

/-- An output stream with a put area. `file` is what the file has for certain, and `put` is what the
stream took since: a good stream may have handed on any beginning of it. -/
structure OStream where
  file : List UInt8 := []
  put : List UInt8 := []
  good : Bool := true
deriving Repr, DecidableEq

namespace OStream

/-- What the file has once everything is handed on. -/
def bytes (stream : OStream) : List UInt8 := stream.file ++ stream.put

/-- The stream after a call that failed. -/
def refuse (stream : OStream) (chunk : List UInt8) (taken again stays : Nat) : OStream where
  file := stream.file ++ (stream.put ++ chunk).take taken
  put := ((stream.put ++ chunk).drop (taken - again)).take stays
  good := false

/-- Write a chunk. A stream that is not good writes nothing. -/
def write (stream : OStream) (chunk : List UInt8) (answer : WriteAnswer) : OStream :=
  if stream.good then
    match answer with
    | .written => { stream with put := stream.put ++ chunk }
    | .failed taken again stays => stream.refuse chunk taken again stays
  else stream

/-- Hand on the put area, good or not. -/
def handOn (stream : OStream) : WriteAnswer → OStream
  | .written => { stream with file := stream.bytes, put := [] }
  | .failed taken again stays => stream.refuse [] taken again stays

/-- A stream that is not good flushes nothing. -/
def flush (stream : OStream) (answer : WriteAnswer) : OStream :=
  if stream.good then stream.handOn answer else stream

/-- Closing hands on the put area of any stream, and drops what is left of it. A process that stops
leaves the file that some failed closing does. -/
def close (stream : OStream) (answer : WriteAnswer) : OStream :=
  { stream.handOn answer with put := [] }

/-! ### One call -/

theorem write_written {stream : OStream} (good : stream.good = true) (chunk : List UInt8) :
    stream.write chunk .written = ⟨stream.file, stream.put ++ chunk, true⟩ := by
  rw [write, if_pos good]
  exact congrArg (OStream.mk _ _) good

theorem write_failed {stream : OStream} (good : stream.good = true) (chunk : List UInt8)
    (taken again stays : Nat) :
    stream.write chunk (.failed taken again stays) = stream.refuse chunk taken again stays := by
  rw [write, if_pos good]

theorem write_of_not_good {stream : OStream} (bad : stream.good = false)
    (chunk : List UInt8) (answer : WriteAnswer) : stream.write chunk answer = stream := by
  unfold write
  rw [if_neg (by rw [bad]; decide)]

/-- A write is good afterwards exactly if it was good before and the call reported so. -/
theorem write_good_iff (stream : OStream) (chunk : List UInt8) (answer : WriteAnswer) :
    (stream.write chunk answer).good = true ↔ stream.good = true ∧ answer = .written := by
  cases good : stream.good with
  | false => rw [write_of_not_good good, good]; simp
  | true =>
      cases answer with
      | written => rw [write_written good]; simp
      | failed => rw [write_failed good, refuse]; simp

/-- A stream whose file is empty. -/
theorem bytes_nil (put : List UInt8) (good : Bool) : (⟨[], put, good⟩ : OStream).bytes = put := rfl

theorem bytes_append (file put chunk : List UInt8) (good : Bool) :
    (⟨file, put ++ chunk, good⟩ : OStream).bytes = (⟨file, put, good⟩ : OStream).bytes ++ chunk :=
  (List.append_assoc file put chunk).symm

/-- The file after a refusal is a beginning of what the stream was given. -/
theorem refuse_file_prefix (stream : OStream) (chunk : List UInt8) (taken again stays : Nat) :
    (stream.refuse chunk taken again stays).file <+: stream.bytes ++ chunk := by
  rw [bytes, List.append_assoc]
  exact (List.prefix_append_right_inj _).mpr (List.take_prefix _ _)

/-- So is all that the file will have, if nothing is handed on twice. -/
theorem refuse_bytes_prefix (stream : OStream) (chunk : List UInt8) (taken stays : Nat) :
    (stream.refuse chunk taken 0 stays).bytes <+: stream.bytes ++ chunk := by
  show (stream.file ++ (stream.put ++ chunk).take taken) ++
    ((stream.put ++ chunk).drop taken).take stays <+: _
  rw [bytes, List.append_assoc, List.append_assoc, ← List.take_add]
  exact (List.prefix_append_right_inj _).mpr (List.take_prefix _ _)

/-- A refusal at most doubles what the stream was given. -/
theorem refuse_bytes_length_le (stream : OStream) (chunk : List UInt8) (taken again stays : Nat) :
    (stream.refuse chunk taken again stays).bytes.length ≤
      stream.file.length + 2 * (stream.put ++ chunk).length := by
  have handed : ((stream.put ++ chunk).take taken).length ≤ _ := List.length_take_le' _ _
  have kept : (((stream.put ++ chunk).drop (taken - again)).take stays).length ≤ _ :=
    Nat.le_trans (List.length_take_le' _ _) (List.drop_sublist _ _).length_le
  have whole : (stream.refuse chunk taken again stays).bytes.length =
      stream.file.length + ((stream.put ++ chunk).take taken).length +
        (((stream.put ++ chunk).drop (taken - again)).take stays).length := by
    rw [← List.length_append, ← List.length_append]
    rfl
  omega

/-- Closing leaves a beginning of all that the file would have. -/
theorem close_file_prefix (stream : OStream) (answer : WriteAnswer) :
    (stream.close answer).file <+: stream.bytes := by
  cases answer with
  | written => exact List.prefix_rfl
  | failed taken again stays =>
      have refused := stream.refuse_file_prefix [] taken again stays
      rw [List.append_nil] at refused
      exact refused

/-! ### The file only grows -/

theorem file_prefix_write (stream : OStream) (chunk : List UInt8) (answer : WriteAnswer) :
    stream.file <+: (stream.write chunk answer).file := by
  unfold write
  split_ifs
  · cases answer with
    | written => exact List.prefix_rfl
    | failed => exact List.prefix_append _ _
  · exact List.prefix_rfl

theorem file_prefix_handOn (stream : OStream) (answer : WriteAnswer) :
    stream.file <+: (stream.handOn answer).file := by
  cases answer <;> exact List.prefix_append _ _

theorem file_prefix_flush (stream : OStream) (answer : WriteAnswer) :
    stream.file <+: (stream.flush answer).file := by
  unfold flush
  split_ifs
  · exact stream.file_prefix_handOn answer
  · exact List.prefix_rfl

theorem file_prefix_close (stream : OStream) (answer : WriteAnswer) :
    stream.file <+: (stream.close answer).file := stream.file_prefix_handOn answer

/-- A flush that succeeds puts everything into the file. -/
theorem flush_written_file {stream : OStream} (good : stream.good = true) :
    (stream.flush .written).file = stream.bytes := by
  rw [flush, if_pos good]
  rfl

/-- What was flushed stays, however the stream is closed. -/
theorem close_flushed_file {stream : OStream} (good : stream.good = true) (answer : WriteAnswer) :
    ((stream.flush .written).close answer).file = stream.bytes := by
  rw [flush, if_pos good]
  cases answer with
  | written => exact List.append_nil _
  | failed taken again stays =>
      show stream.bytes ++ List.take taken [] = stream.bytes
      rw [List.take_nil, List.append_nil]

/-! ### What a stream was given -/

/-- **The stream was given `all`**: a good one has taken all of it; the file of any has a beginning of
it, and so has all that the file will have, if the failed calls were `seamless`. -/
structure Given (stream : OStream) (seamless : Prop) (all : List UInt8) : Prop where
  whole : stream.good = true → stream.bytes = all
  file : stream.file <+: all
  seam : seamless → stream.bytes <+: all

variable {stream : OStream} {seamless : Prop} {all : List UInt8}

theorem Given.of_good (whole : stream.bytes = all) : stream.Given seamless all where
  whole _ := whole
  file := whole ▸ List.prefix_append _ _
  seam _ := whole ▸ List.prefix_rfl

theorem Given.mono (given : stream.Given seamless all) {other : Prop} (weaker : other → seamless) :
    stream.Given other all :=
  ⟨given.whole, given.file, fun holds => given.seam (weaker holds)⟩

theorem Given.refuse (good : stream.good = true) (given : stream.Given seamless all)
    (chunk : List UInt8) (taken again stays : Nat) :
    (stream.refuse chunk taken again stays).Given (seamless ∧ again = 0) (all ++ chunk) where
  whole same := by cases same
  file := given.whole good ▸ stream.refuse_file_prefix chunk taken again stays
  seam := by
    rintro ⟨-, rfl⟩
    exact given.whole good ▸ stream.refuse_bytes_prefix chunk taken stays

theorem Given.write (good : stream.good = true) (given : stream.Given seamless all)
    (chunk : List UInt8) (answer : WriteAnswer) :
    (stream.write chunk answer).Given (seamless ∧ answer.Seamless) (all ++ chunk) := by
  cases answer with
  | written =>
      rw [write_written good]
      refine .of_good ?_
      rw [bytes_append, ← given.whole good]
      rfl
  | failed taken again stays =>
      rw [write_failed good]
      exact given.refuse good chunk taken again stays

theorem Given.flush (given : stream.Given seamless all) (answer : WriteAnswer) :
    (stream.flush answer).Given (seamless ∧ answer.Seamless) all := by
  unfold OStream.flush
  split_ifs with good
  · cases answer with
    | written =>
        refine .of_good ?_
        rw [← given.whole good]
        exact List.append_nil _
    | failed taken again stays =>
        have refused := given.refuse good [] taken again stays
        rw [List.append_nil] at refused
        exact refused
  · exact given.mono And.left

/-- **What closing leaves in the file**: a beginning of what the stream was given, if the stream is
good, or its failed calls were seamless, or closing hands on nothing. -/
theorem Given.close (given : stream.Given seamless all) {answer : WriteAnswer}
    (once : stream.good = true ∨ seamless ∨ answer.Still) : (stream.close answer).file <+: all := by
  rcases once with good | holds | still
  · exact given.whole good ▸ stream.close_file_prefix answer
  · exact (stream.close_file_prefix answer).trans (given.seam holds)
  · cases answer with
    | written => exact still.elim
    | failed taken again stays =>
        obtain rfl : taken = 0 := still
        show stream.file ++ List.take 0 _ <+: all
        rw [List.take_zero, List.append_nil]
        exact given.file

/-- Closing that succeeds hands on everything. -/
theorem close_written_file (stream : OStream) : (stream.close .written).file = stream.bytes := rfl

/-! ### Two writes -/

/-- **A call that failed**: the stream is bad, and was given the bytes of the call. -/
structure Failed (before : OStream) (chunk : List UInt8) (seamless : Prop) (after : OStream) : Prop where
  bad : after.good = false
  grows : before.file <+: after.file
  given : ∀ {earlier : Prop} {all : List UInt8}, before.Given earlier all →
    after.Given (earlier ∧ seamless) (all ++ chunk)

/-- **Two writes in a row**, whatever there is to write: the stream has taken both chunks, or one of the
calls failed. -/
theorem write_pair {stream : OStream} (good : stream.good = true)
    (first second : List UInt8) (firstAnswer secondAnswer : WriteAnswer) :
    firstAnswer = .written ∧ secondAnswer = .written ∧
        (stream.write first firstAnswer).write second secondAnswer =
          ⟨stream.file, stream.put ++ (first ++ second), true⟩ ∨
      ¬ (firstAnswer = .written ∧ secondAnswer = .written) ∧
        stream.Failed (first ++ second) (firstAnswer.Seamless ∧ secondAnswer.Seamless)
          ((stream.write first firstAnswer).write second secondAnswer) := by
  cases firstAnswer with
  | failed taken again stays =>
      have bad : (stream.write first (.failed taken again stays)).good = false := by
        rw [write_failed good]
        rfl
      refine Or.inr ⟨nofun, ?_⟩
      rw [write_of_not_good bad]
      refine ⟨bad, stream.file_prefix_write first _, fun given => ?_⟩
      have here := given.write good first (.failed taken again stays)
      rw [← List.append_assoc]
      exact ⟨fun same => absurd (same.symm.trans bad) (by decide),
        here.file.trans (List.prefix_append _ _),
        fun holds => (here.seam ⟨holds.1, holds.2.1⟩).trans (List.prefix_append _ _)⟩
  | written =>
      have head := write_written good first
      cases secondAnswer with
      | written =>
          refine Or.inl ⟨rfl, rfl, ?_⟩
          rw [head, write_written rfl, List.append_assoc]
      | failed taken again stays =>
          have between : (stream.write first .written).good = true := by rw [head]
          refine Or.inr ⟨nofun, ?_⟩
          refine ⟨?_, (stream.file_prefix_write first _).trans (file_prefix_write _ _ _),
            fun given => ?_⟩
          · rw [write_failed between]
            rfl
          · rw [← List.append_assoc]
            exact ((given.write good first .written).write between second _).mono
              fun holds => ⟨⟨holds.1, holds.2.1⟩, holds.2.2⟩

/-- **Two writes, the second only if there is something to write.** -/
theorem write_both {stream : OStream} (good : stream.good = true)
    (first second : List UInt8) (firstAnswer secondAnswer : WriteAnswer) :
    let out := stream.write first firstAnswer
    let out := if second.isEmpty then out else out.write second secondAnswer
    out = ⟨stream.file, stream.put ++ (first ++ second), true⟩ ∨
      ¬ (firstAnswer = .written ∧ secondAnswer = .written) ∧
        stream.Failed (first ++ second) (firstAnswer.Seamless ∧ secondAnswer.Seamless) out := by
  intro _ _
  show (if second.isEmpty then _ else _) = _ ∨ _ ∧ OStream.Failed _ _ _ (if second.isEmpty then _ else _)
  by_cases empty : second.isEmpty
  · obtain rfl : second = [] := List.isEmpty_iff.mp empty
    rw [if_pos empty]
    rcases write_pair good first [] firstAnswer secondAnswer with ⟨rfl, -, -⟩ | ⟨refused, failed⟩
    · left
      rw [List.append_nil]
      exact write_written good first
    · cases firstAnswer with
      | written =>
          left
          rw [List.append_nil]
          exact write_written good first
      | failed taken again stays =>
          have bad : (stream.write first (.failed taken again stays)).good = false := by
            rw [write_failed good]
            rfl
          rw [write_of_not_good bad] at failed
          exact Or.inr ⟨refused, failed⟩
  · rw [if_neg empty]
    rcases write_pair good first second firstAnswer secondAnswer with ⟨-, -, whole⟩ | failed
    · exact Or.inl whole
    · exact Or.inr failed

end OStream

end MarketDataFabric.Library
