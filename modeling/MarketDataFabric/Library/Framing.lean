/-
**Length-prefixed frames in a byte string.**

A `FrameFormat` has a fixed-width header that announces the size of its payload and that a reader may
refuse. `cut` looks at the front of a byte string: the next frame, or the reason there is none.
`Scan` is the whole reading.

* `cut_bytes`, `cut_take` — a whole frame is cut off as written; a beginning of one is torn, or a
  clean end if it is empty.
* `scan_split`, `stop_iff` — every byte string is a run of frames and a remainder, which says why the
  reading ends.
* `scan_concat`, `Scan.of_clean` — the clean scans are those of runs of well-formed frames.
* `scan_take` — **a truncated run of frames scans to exactly its whole frames**, and ends clean
  exactly on a boundary.
* `lt_whole_iff`, `extent_whole_iff` — what "whole" and "on a boundary" mean.
* `scan_take_readable` — the same for frames that a reader may refuse: it stops at the first one.
-/

import MarketDataFabric.Library.Codec

namespace MarketDataFabric.Library

structure FrameFormat (H E : Type) where
  codec : FixedCodec H
  nonempty : 0 < codec.size
  payloadSize : H → Nat
  refusal : H → Option E

namespace FrameFormat

/-- Why a reading ends. -/
inductive Stop (E : Type) where
  | clean
  | torn
  | refused (reason : E)
deriving Repr, DecidableEq

/-- What is at the front of a byte string. -/
inductive Cut (H E : Type) where
  | frame (header : H) (payload rest : List UInt8)
  | stop (reason : Stop E)

variable {H E : Type} (format : FrameFormat H E)

def cut (bytes : List UInt8) : Cut H E :=
  if bytes.length = 0 then .stop .clean
  else if bytes.length < format.codec.size then .stop .torn
  else
    let header := format.codec.decode (bytes.take format.codec.size)
    let rest := bytes.drop format.codec.size
    match format.refusal header with
    | some reason => .stop (.refused reason)
    | none =>
        if rest.length < format.payloadSize header then .stop .torn
        else .frame header (rest.take (format.payloadSize header))
          (rest.drop (format.payloadSize header))

/-- **Reading a byte string to its end**: the frames it yields, and why it stops. -/
inductive Scan : List UInt8 → List (H × List UInt8) → Stop E → Prop
  | stop {bytes : List UInt8} {reason : Stop E} : format.cut bytes = .stop reason →
      Scan bytes [] reason
  | frame {bytes payload rest : List UInt8} {header : H} {frames : List (H × List UInt8)}
      {reason : Stop E} : format.cut bytes = .frame header payload rest →
      Scan rest frames reason → Scan bytes ((header, payload) :: frames) reason

/-- The bytes of a frame. -/
def bytes (frame : H × List UInt8) : List UInt8 := format.codec.encode frame.1 ++ frame.2

/-- A frame that announces its payload and that a reader takes. -/
structure WellFormed (frame : H × List UInt8) : Prop where
  sized : frame.2.length = format.payloadSize frame.1
  taken : format.refusal frame.1 = none

theorem bytes_length (frame : H × List UInt8) :
    (format.bytes frame).length = format.codec.size + frame.2.length := by
  rw [bytes, List.length_append, format.codec.length_encode]

theorem bytes_length_pos (frame : H × List UInt8) : 0 < (format.bytes frame).length := by
  rw [bytes_length]
  exact Nat.add_pos_left format.nonempty _

/-! ### One frame -/

/-- **The branches of `cut`**, with what each says of the byte string. -/
inductive Front (bytes : List UInt8) : Cut H E → Prop
  | ended : bytes.length = 0 → Front bytes (.stop .clean)
  | shortHeader : bytes.length ≠ 0 → bytes.length < format.codec.size → Front bytes (.stop .torn)
  | refused (reason : E) : format.codec.size ≤ bytes.length →
      format.refusal (format.codec.decode (bytes.take format.codec.size)) = some reason →
      Front bytes (.stop (.refused reason))
  | shortPayload : format.codec.size ≤ bytes.length →
      format.refusal (format.codec.decode (bytes.take format.codec.size)) = none →
      (bytes.drop format.codec.size).length <
        format.payloadSize (format.codec.decode (bytes.take format.codec.size)) →
      Front bytes (.stop .torn)
  | frame (header : H) : format.codec.size ≤ bytes.length →
      header = format.codec.decode (bytes.take format.codec.size) →
      format.refusal header = none →
      format.payloadSize header ≤ (bytes.drop format.codec.size).length →
      Front bytes (.frame header
        ((bytes.drop format.codec.size).take (format.payloadSize header))
        ((bytes.drop format.codec.size).drop (format.payloadSize header)))

theorem cut_front (bytes : List UInt8) : format.Front bytes (format.cut bytes) := by
  unfold cut
  by_cases empty : bytes.length = 0
  · rw [if_pos empty]
    exact .ended empty
  rw [if_neg empty]
  by_cases short : bytes.length < format.codec.size
  · rw [if_pos short]
    exact .shortHeader empty short
  rw [if_neg short]
  have whole := Nat.le_of_not_lt short
  dsimp only
  cases taken : format.refusal (format.codec.decode (bytes.take format.codec.size)) with
  | some reason => exact .refused reason whole taken
  | none =>
      dsimp only
      split_ifs with missing
      · exact .shortPayload whole taken missing
      · exact .frame _ whole rfl taken (Nat.le_of_not_lt missing)

variable {format}

/-- A header followed by anything: the header decides. -/
theorem cut_header (header : H) (rest : List UInt8) :
    format.cut (format.codec.encode header ++ rest) =
      match format.refusal header with
      | some reason => .stop (.refused reason)
      | none =>
          if rest.length < format.payloadSize header then .stop .torn
          else .frame header (rest.take (format.payloadSize header))
            (rest.drop (format.payloadSize header)) := by
  have long : (format.codec.encode header ++ rest).length = format.codec.size + rest.length := by
    rw [List.length_append, format.codec.length_encode]
  have nonempty := format.nonempty
  unfold cut
  rw [long, if_neg (by omega), if_neg (by omega)]
  simp only [List.take_left' (format.codec.length_encode header),
    List.drop_left' (format.codec.length_encode header), format.codec.decode_encode]

/-- **A whole frame is cut off as it was written.** -/
theorem cut_bytes {frame : H × List UInt8} (wellFormed : format.WellFormed frame)
    (rest : List UInt8) : format.cut (format.bytes frame ++ rest) = .frame frame.1 frame.2 rest := by
  obtain ⟨sized, taken⟩ := wellFormed
  rw [bytes, List.append_assoc, cut_header, taken, ← sized]
  simp

/-- **A beginning of a frame** is a clean end if it is empty, and torn otherwise. -/
theorem cut_take {frame : H × List UInt8} (wellFormed : format.WellFormed frame) {count : Nat}
    (short : count < (format.bytes frame).length) :
    format.cut ((format.bytes frame).take count) =
      .stop (if count = 0 then .clean else .torn) := by
  obtain ⟨sized, taken⟩ := wellFormed
  rw [bytes_length] at short
  by_cases empty : count = 0
  · subst empty
    rfl
  rw [if_neg empty]
  by_cases inHeader : count < format.codec.size
  · have long : ((format.bytes frame).take count).length = count := by
      rw [List.length_take_of_le]
      rw [bytes_length]
      omega
    unfold cut
    rw [long, if_neg empty, if_pos inHeader]
  · have split : (format.bytes frame).take count =
        format.codec.encode frame.1 ++ frame.2.take (count - format.codec.size) := by
      rw [bytes, List.take_append, format.codec.length_encode,
        List.take_of_length_le (by rw [format.codec.length_encode]; omega)]
    have missing : (frame.2.take (count - format.codec.size)).length <
        format.payloadSize frame.1 := by
      rw [List.length_take, ← sized]
      omega
    rw [split, cut_header, taken]
    simp only [missing, if_true]

/-- **A beginning of a header that is refused, and what follows it**, has no frame in front. -/
theorem cut_take_of_refused {header : H} {reason : E} (refused : format.refusal header = some reason)
    (rest : List UInt8) (count : Nat) :
    ∃ stop, format.cut ((format.codec.encode header ++ rest).take count) = .stop stop := by
  have headerLong := format.codec.length_encode header
  by_cases inHeader : count < format.codec.size
  · have short : ((format.codec.encode header ++ rest).take count).length < format.codec.size :=
      Nat.lt_of_le_of_lt (List.length_take_le _ _) inHeader
    unfold cut
    by_cases empty : ((format.codec.encode header ++ rest).take count).length = 0
    · exact ⟨_, if_pos empty⟩
    · exact ⟨_, (if_neg empty).trans (if_pos short)⟩
  · have split : (format.codec.encode header ++ rest).take count =
        format.codec.encode header ++ rest.take (count - format.codec.size) := by
      rw [List.take_append, headerLong, List.take_of_length_le (by omega)]
    rw [split, cut_header, refused]
    exact ⟨_, rfl⟩

/-! ### Runs of frames -/

variable (format)

/-- The bytes of a run of frames. -/
def concat (frames : List (H × List UInt8)) : List UInt8 := frames.flatMap format.bytes

/-- Where the first `count` frames of a run end. -/
def extent (frames : List (H × List UInt8)) (count : Nat) : Nat :=
  (format.concat (frames.take count)).length

/-- How many frames of a run lie inside the first `size` bytes. -/
def whole : List (H × List UInt8) → Nat → Nat
  | [], _ => 0
  | frame :: frames, size =>
      if (format.bytes frame).length ≤ size then
        whole frames (size - (format.bytes frame).length) + 1
      else 0

variable {format}

@[simp] theorem extent_zero (frames : List (H × List UInt8)) : format.extent frames 0 = 0 := rfl

theorem extent_cons (frame : H × List UInt8) (frames : List (H × List UInt8)) (count : Nat) :
    format.extent (frame :: frames) (count + 1) =
      (format.bytes frame).length + format.extent frames count := by
  simp only [extent, concat, List.take_succ_cons, List.flatMap_cons, List.length_append]

theorem whole_le_length (frames : List (H × List UInt8)) (size : Nat) :
    format.whole frames size ≤ frames.length := by
  induction frames generalizing size with
  | nil => exact Nat.le_refl 0
  | cons frame frames ih =>
      rw [whole]
      split_ifs
      · exact Nat.succ_le_succ (ih _)
      · exact Nat.zero_le _

/-- **The whole frames are those whose end is inside.** -/
theorem lt_whole_iff {frames : List (H × List UInt8)} {size index : Nat} :
    index < format.whole frames size ↔
      index < frames.length ∧ format.extent frames (index + 1) ≤ size := by
  induction frames generalizing size index with
  | nil => simp [whole]
  | cons frame frames ih =>
      rw [whole, extent_cons]
      split_ifs with inside
      · cases index with
        | zero => simp [inside]
        | succ index =>
            rw [Nat.add_lt_add_iff_right, ih, List.length_cons, Nat.add_lt_add_iff_right]
            exact and_congr_right fun _ => by omega
      · constructor
        · intro impossible
          exact absurd impossible (Nat.not_lt_zero _)
        · rintro ⟨-, ends⟩
          omega

/-- **The whole frames reach the end exactly on a boundary.** -/
theorem extent_whole_iff {frames : List (H × List UInt8)} {size : Nat} :
    format.extent frames (format.whole frames size) = size ↔
      ∃ count ≤ frames.length, format.extent frames count = size := by
  constructor
  · exact fun reached => ⟨_, whole_le_length frames size, reached⟩
  · rintro ⟨count, bound, rfl⟩
    induction frames generalizing count with
    | nil =>
        obtain rfl := Nat.le_zero.mp bound
        rfl
    | cons frame frames ih =>
        cases count with
        | zero =>
            have long := format.bytes_length_pos frame
            rw [extent_zero, whole, if_neg (by omega), extent_zero]
        | succ count =>
            rw [extent_cons, whole, if_pos (Nat.le_add_right _ _), Nat.add_sub_cancel_left,
              extent_cons, ih count (Nat.le_of_succ_le_succ bound)]

/-- **What is cut off is the beginning of the byte string**, and it is well formed. -/
theorem eq_bytes_of_cut {bytes payload rest : List UInt8} {header : H}
    (front : format.cut bytes = .frame header payload rest) :
    bytes = format.bytes (header, payload) ++ rest ∧ format.WellFormed (header, payload) := by
  have branch := format.cut_front bytes
  rw [front] at branch
  cases branch with
  | frame _ whole decoded taken inside =>
      have encoded : format.codec.encode header = bytes.take format.codec.size := by
        rw [decoded]
        exact format.codec.encode_decode _ (List.length_take_of_le whole)
      refine ⟨?_, List.length_take_of_le inside, taken⟩
      rw [FrameFormat.bytes, encoded, List.append_assoc, List.take_append_drop,
        List.take_append_drop]

/-- **Every byte string is a run of frames and a remainder that has no frame in front.** -/
theorem scan_split (bytes : List UInt8) :
    ∃ frames remainder reason, format.Scan bytes frames reason ∧
      bytes = format.concat frames ++ remainder ∧ format.cut remainder = .stop reason := by
  induction size : bytes.length using Nat.strong_induction_on generalizing bytes with
  | _ size ih =>
    subst size
    cases front : format.cut bytes with
    | stop reason => exact ⟨[], bytes, reason, .stop front, rfl, front⟩
    | frame header payload rest =>
        have split := (eq_bytes_of_cut front).1
        have shorter : rest.length < bytes.length := by
          have long := format.bytes_length_pos (header, payload)
          rw [split, List.length_append]
          omega
        obtain ⟨frames, remainder, reason, scan, parts, ends⟩ := ih rest.length shorter rest rfl
        refine ⟨(header, payload) :: frames, remainder, reason, .frame front scan, ?_, ends⟩
        rw [concat, List.flatMap_cons, List.append_assoc, ← concat, ← parts]
        exact split

/-- A frame takes at least its header. -/
theorem size_mul_length_le (frames : List (H × List UInt8)) :
    format.codec.size * frames.length ≤ (format.concat frames).length := by
  induction frames with
  | nil => exact Nat.zero_le _
  | cons frame frames ih =>
      rw [concat, List.flatMap_cons, List.length_append, ← concat, bytes_length, List.length_cons,
        Nat.mul_add_one]
      omega

/-- **Why there is no frame in front**: nothing is left, or a header that is refused, or else one that
is torn or whose payload is. -/
theorem stop_iff {bytes : List UInt8} {reason : Stop E} (front : format.cut bytes = .stop reason) :
    (reason = .clean ↔ bytes = []) ∧
      ((∃ refused, reason = .refused refused) ↔ format.codec.size ≤ bytes.length ∧
        format.refusal (format.codec.decode (bytes.take format.codec.size)) ≠ none) := by
  have nonempty := format.nonempty
  have branch := format.cut_front bytes
  rw [front] at branch
  cases branch with
  | ended empty =>
      refine ⟨iff_of_true rfl (List.eq_nil_of_length_eq_zero empty), iff_of_false ?_ ?_⟩
      · rintro ⟨refused, same⟩
        cases same
      · rintro ⟨whole, -⟩
        omega
  | shortHeader some short =>
      refine ⟨iff_of_false nofun ?_, iff_of_false ?_ ?_⟩
      · rintro rfl
        exact some rfl
      · rintro ⟨refused, same⟩
        cases same
      · rintro ⟨whole, -⟩
        omega
  | refused refused whole taken =>
      refine ⟨iff_of_false nofun ?_, iff_of_true ⟨refused, rfl⟩ ⟨whole, ?_⟩⟩
      · rintro rfl
        exact absurd (Nat.lt_of_lt_of_le nonempty whole) (Nat.lt_irrefl 0)
      · rw [taken]
        exact Option.some_ne_none refused
  | shortPayload whole taken missing =>
      refine ⟨iff_of_false nofun ?_, iff_of_false ?_ fun other => other.2 taken⟩
      · rintro rfl
        exact absurd (Nat.lt_of_lt_of_le nonempty whole) (Nat.lt_irrefl 0)
      · rintro ⟨refused, same⟩
        cases same

/-- **Well-formed frames scan to themselves**, to a clean end. -/
theorem scan_concat {frames : List (H × List UInt8)}
    (wellFormed : ∀ frame ∈ frames, format.WellFormed frame) :
    format.Scan (format.concat frames) frames .clean := by
  induction frames with
  | nil => exact .stop rfl
  | cons frame frames ih =>
      have tail := ih fun other member => wellFormed other (List.mem_cons_of_mem _ member)
      exact .frame (cut_bytes (wellFormed frame List.mem_cons_self) _) tail

/-- **What a clean scan yields is well formed, and all there is.** -/
theorem Scan.of_clean {bytes : List UInt8} {frames : List (H × List UInt8)} {reason : Stop E}
    (scan : format.Scan bytes frames reason) (clean : reason = .clean) :
    bytes = format.concat frames ∧ ∀ frame ∈ frames, format.WellFormed frame := by
  induction scan with
  | stop front => exact ⟨(stop_iff front).1.mp clean, fun _ member => by cases member⟩
  | frame front _ ih =>
      obtain ⟨split, wellFormed⟩ := eq_bytes_of_cut front
      obtain ⟨tail, others⟩ := ih clean
      refine ⟨?_, fun frame member => ?_⟩
      · rw [split, tail]
        rfl
      · rcases List.mem_cons.mp member with rfl | member
        · exact wellFormed
        · exact others frame member

/-- **A truncated run of frames scans to its whole frames**, and ends clean exactly where the last of
them ends. -/
theorem scan_take {frames : List (H × List UInt8)} {size : Nat}
    (wellFormed : ∀ frame ∈ frames, format.WellFormed frame)
    (inside : size ≤ (format.concat frames).length) :
    format.Scan ((format.concat frames).take size) (frames.take (format.whole frames size))
      (if format.extent frames (format.whole frames size) = size then .clean else .torn) := by
  induction frames generalizing size with
  | nil =>
      obtain rfl := Nat.le_zero.mp inside
      exact .stop rfl
  | cons frame frames ih =>
      have here := wellFormed frame List.mem_cons_self
      have others : ∀ other ∈ frames, format.WellFormed other := fun other member =>
        wellFormed other (List.mem_cons_of_mem _ member)
      have split : format.concat (frame :: frames) = format.bytes frame ++ format.concat frames :=
        List.flatMap_cons
      rw [split] at inside ⊢
      rw [List.length_append] at inside
      rw [whole]
      by_cases fits : (format.bytes frame).length ≤ size
      · rw [if_pos fits, extent_cons, List.take_succ_cons, List.take_append,
          List.take_of_length_le fits]
        have remaining : size - (format.bytes frame).length ≤ (format.concat frames).length := by
          omega
        have tail := ih others remaining
        have same : ((format.bytes frame).length + format.extent frames (format.whole frames
              (size - (format.bytes frame).length)) = size) =
            (format.extent frames (format.whole frames (size - (format.bytes frame).length)) =
              size - (format.bytes frame).length) := by
          rw [eq_iff_iff]
          omega
        rw [if_congr (iff_of_eq same) rfl rfl]
        exact .frame (cut_bytes here _) tail
      · have short : size < (format.bytes frame).length := Nat.lt_of_not_le fits
        rw [if_neg fits, extent_zero, List.take_append_of_le_length (Nat.le_of_lt short)]
        refine .stop ((cut_take here short).trans ?_)
        rw [if_congr eq_comm rfl rfl]

/-! ### Frames that may be refused -/

theorem concat_cons (frame : H × List UInt8) (frames : List (H × List UInt8)) :
    format.concat (frame :: frames) = format.bytes frame ++ format.concat frames :=
  List.flatMap_cons

/-- A front of a run is not longer than the run. -/
theorem concat_length_mono {frames others : List (H × List UInt8)} (front : frames <+: others) :
    (format.concat frames).length ≤ (format.concat others).length := by
  obtain ⟨rest, rfl⟩ := front
  rw [concat, concat, List.flatMap_append, List.length_append]
  exact Nat.le_add_right _ _

variable (format) in
/-- The frames before the first one that a reader refuses. -/
def readable (frames : List (H × List UInt8)) : List (H × List UInt8) :=
  frames.takeWhile fun frame => (format.refusal frame.1).isNone

/-- **A truncated run of frames of the announced sizes scans to the whole ones** among those before
the first that is refused. -/
theorem scan_take_readable {frames : List (H × List UInt8)} (size : Nat)
    (sized : ∀ frame ∈ frames, frame.2.length = format.payloadSize frame.1) :
    ∃ reason, format.Scan ((format.concat frames).take size)
      ((format.readable frames).take (format.whole (format.readable frames) size)) reason := by
  induction frames generalizing size with
  | nil =>
      refine ⟨.clean, .stop ?_⟩
      rw [concat, List.flatMap_nil, List.take_nil]
      rfl
  | cons frame frames ih =>
      have others : ∀ other ∈ frames, other.2.length = format.payloadSize other.1 :=
        fun other member => sized other (List.mem_cons_of_mem _ member)
      cases taken : format.refusal frame.1 with
      | some refused =>
          have none : format.readable (frame :: frames) = [] := by
            rw [readable, List.takeWhile_cons, taken]
            rfl
          obtain ⟨stop, front⟩ := cut_take_of_refused taken (frame.2 ++ format.concat frames) size
          rw [none, concat_cons, bytes, List.append_assoc]
          exact ⟨stop, .stop front⟩
      | none =>
          have here : format.WellFormed frame := ⟨sized frame List.mem_cons_self, taken⟩
          have more : format.readable (frame :: frames) = frame :: format.readable frames := by
            rw [readable, List.takeWhile_cons, taken]
            rfl
          rw [concat_cons, more, whole]
          by_cases fits : (format.bytes frame).length ≤ size
          · obtain ⟨reason, tail⟩ := ih (size - (format.bytes frame).length) others
            rw [if_pos fits, List.take_succ_cons, List.take_append, List.take_of_length_le fits]
            exact ⟨reason, .frame (cut_bytes here _) tail⟩
          · have short : size < (format.bytes frame).length := Nat.lt_of_not_le fits
            rw [if_neg fits, List.take_append_of_le_length (Nat.le_of_lt short)]
            exact ⟨_, .stop (cut_take here short)⟩

end FrameFormat

end MarketDataFabric.Library
