/-
**Runs of the Tonglian mapper.**

* `TonglianCall`, `call` — the five operations of the mapper as the inputs of one machine. Its gate
  runs by itself inside it (`after_sequence`).
* `Numbered` — rows of one channel, numbered without a hole from a baseline.
* `recites` — **a mapper at a place of a numbered stream can only publish the next row of it**,
  whatever it is fed.
* `exactly_once_in_order` — hence any delivery publishes a beginning of the stream.
* `recovery_reachable_iff` — the runs along which the gate, alone or in a mapper, can always recover.
-/

import Mathlib.Algebra.Group.Nat.Defs
import MarketDataFabric.Mappers.GateRuns
import MarketDataFabric.Providers.Tonglian

namespace MarketDataFabric.Providers.Tonglian

open MarketDataFabric.Core Mappers Library

/-- A row of either stream. -/
inductive Row where
  | order (row : OrderRow)
  | transaction (row : TransactionRow)
deriving Repr, DecidableEq

def Row.channel : Row → PartitionId
  | .order row => row.channel
  | .transaction row => row.channel

def Row.bizIndex : Row → Sequence
  | .order row => row.bizIndex
  | .transaction row => row.bizIndex

/-- What the owner of a mapper can call. A map call brings the output it wants filled. -/
inductive TonglianCall where
  | mapOrder (row : OrderRow) (out : OrderMapOutput)
  | mapTransaction (row : TransactionRow) (out : TransactionMapOutput)
  | beginRecovery
  | completeRecovery (channel : PartitionId) (sequence : Sequence)
  | reset
deriving Repr, DecidableEq

/-- What a call returns: the outcome and the filled output, or the success of a completion. -/
inductive TonglianAnswer where
  | order (outcome : MapOutcome) (out : OrderMapOutput)
  | transaction (outcome : MapOutcome) (out : TransactionMapOutput)
  | completed (done : Bool)
  | nothing
deriving Repr, DecidableEq

namespace TonglianCall

/-- The row a call maps. -/
def row : TonglianCall → Option Row
  | .mapOrder row _ => some (.order row)
  | .mapTransaction row _ => some (.transaction row)
  | .beginRecovery | .completeRecovery _ _ | .reset => none

/-- What a call asks of the gate. -/
def gateCall : TonglianCall → GateCall
  | .mapOrder row _ => .observe row.channel row.bizIndex
  | .mapTransaction row _ => .observe row.channel row.bizIndex
  | .beginRecovery => .beginRecovery
  | .completeRecovery channel sequence => .completeRecovery channel sequence
  | .reset => .reset

theorem gateCall_ne_reset {input : TonglianCall} (other : input ≠ .reset) :
    input.gateCall ≠ .reset := by
  cases input with
  | reset => exact absurd rfl other
  | mapOrder | mapTransaction | beginRecovery | completeRecovery => exact GateCall.noConfusion

theorem gateCall_of_row {input : TonglianCall} {row : Row} (carries : input.row = some row) :
    input.gateCall = .observe row.channel row.bizIndex := by
  cases input with
  | mapOrder | mapTransaction => cases carries; rfl
  | beginRecovery | completeRecovery | reset => cases carries

end TonglianCall

/-- **What a call publishes**: the kind and the event of a publishable outcome. -/
def TonglianAnswer.publication : TonglianAnswer → Option (EventKind × Option MarketEvent)
  | .order outcome out => if outcome.publishable then some (out.eventKind, out.named) else none
  | .transaction outcome out => if outcome.publishable then some (out.eventKind, out.named) else none
  | .completed _ | .nothing => none

section Runs

variable [TradingCore]

namespace TonglianMapper

def call (mapper : TonglianMapper) : TonglianCall → TonglianMapper × TonglianAnswer
  | .mapOrder row out =>
      let (outcome, out, mapper) := mapper.mapOrder row out
      (mapper, .order outcome out)
  | .mapTransaction row out =>
      let (outcome, out, mapper) := mapper.mapTransaction row out
      (mapper, .transaction outcome out)
  | .beginRecovery => (mapper.beginRecovery, .nothing)
  | .completeRecovery channel sequence =>
      let (done, mapper) := mapper.completeRecovery channel sequence
      (mapper, .completed done)
  | .reset => (mapper.reset, .nothing)

/-- The mapper after a list of calls. -/
abbrev after (mapper : TonglianMapper) (calls : List TonglianCall) : TonglianMapper :=
  Machine.final call mapper calls

/-- The kinds and events a list of calls publishes, in order. -/
abbrev published (mapper : TonglianMapper) (calls : List TonglianCall) :
    List (EventKind × Option MarketEvent) :=
  Machine.emitted call TonglianAnswer.publication mapper calls

/-- The gate inside a mapper steps by itself. -/
theorem call_sequence (mapper : TonglianMapper) (input : TonglianCall) :
    (mapper.call input).1.sequence = (mapper.sequence.call input.gateCall).1 := by
  cases input with
  | mapOrder row out =>
      exact gatedMap_gate (mapAcceptedOrderRow mapper.context row) mapper.sequence row.channel
        row.bizIndex out
  | mapTransaction row out =>
      exact gatedMap_gate (mapTransactionRow mapper.context row) mapper.sequence row.channel
        row.bizIndex out
  | beginRecovery | completeRecovery | reset => rfl

theorem after_sequence (mapper : TonglianMapper) (calls : List TonglianCall) :
    (mapper.after calls).sequence = mapper.sequence.after (calls.map TonglianCall.gateCall) :=
  Machine.final_projected call sequence TonglianCall.gateCall call_sequence mapper calls

@[simp] theorem call_context (mapper : TonglianMapper) (input : TonglianCall) :
    (mapper.call input).1.context = mapper.context := by
  cases input <;> rfl

theorem after_context (mapper : TonglianMapper) (calls : List TonglianCall) :
    (mapper.after calls).context = mapper.context :=
  Machine.final_invariant call (fun later => later.context = mapper.context) (fun _ => True)
    (fun later input same _ => (call_context later input).trans same) rfl fun _ _ => trivial

end TonglianMapper

/-! ### What a row publishes -/

/-- What an accepted row publishes in a context. -/
def Row.publication (context : MappingContext) (row : Row) :
    Option (EventKind × Option MarketEvent) :=
  (match row with
    | .order row => mappedEvent (mapAcceptedOrderRow context row)
    | .transaction row => mappedEvent (mapTransactionRow context row)).map
    fun event => (eventKindOf event, some event)

/-- **A map call publishes its row if the gate accepts it, and nothing otherwise.** -/
theorem call_publication (mapper : TonglianMapper) {input : TonglianCall} {row : Row}
    (carries : input.row = some row) :
    (mapper.call input).2.publication =
      if (mapper.sequence.observe row.channel row.bizIndex).1.accepted then
        row.publication mapper.context
      else none := by
  cases input with
  | mapOrder orderRow out =>
      cases carries
      exact gatedMap_publication (orderRow_publishes mapper.context orderRow) mapper.sequence
        orderRow.channel orderRow.bizIndex out
  | mapTransaction transactionRow out =>
      cases carries
      exact gatedMap_publication (transactionRow_publishes mapper.context transactionRow)
        mapper.sequence transactionRow.channel transactionRow.bizIndex out
  | beginRecovery | completeRecovery | reset => cases carries

/-! ### Delivering a numbered stream -/

end Runs

/-- **Rows of one channel, numbered without a hole** from the baseline on, inside the 64-bit
numbers. -/
structure Numbered (channel : PartitionId) (baseline : Sequence) (rows : List Row) : Prop where
  inside : baseline.toNat + rows.length < 2 ^ 64
  channel : ∀ index (bound : index < rows.length), rows[index].channel = channel
  bizIndex : ∀ index (bound : index < rows.length),
    rows[index].bizIndex = baseline + UInt64.ofNat (index + 1)

/-- **The calls of a delivery**: any row of the stream, any row of another channel or without a
number, and any recovery call, but no reset. -/
def Delivers (channel : PartitionId) (rows : List Row) (input : TonglianCall) : Prop :=
  input ≠ .reset ∧ ∀ row, input.row = some row →
    row ∈ rows ∨ row.channel ≠ channel ∨ row.bizIndex = 0

/-- The row that carries the next number is the next row. -/
theorem Numbered.next {channel : PartitionId} {baseline : Sequence} {rows : List Row} {place : Nat}
    {row : Row} (numbered : Numbered channel baseline rows) (reached : place ≤ rows.length)
    (member : row ∈ rows) (carries : row.bizIndex = baseline + UInt64.ofNat place + 1) :
    rows.drop place = row :: rows.drop (place + 1) := by
  obtain ⟨index, bound, rfl⟩ := List.getElem_of_mem member
  have inside := numbered.inside
  have same : UInt64.ofNat (index + 1) = UInt64.ofNat (place + 1) := by
    rw [numbered.bizIndex index bound, UInt64.add_assoc] at carries
    rw [UInt64.ofNat_add place 1]
    exact UInt64.add_right_inj baseline |>.mp carries
  have words : (index + 1) % 2 ^ 64 = (place + 1) % 2 ^ 64 := by
    rw [← UInt64.toNat_ofNat', ← UInt64.toNat_ofNat', same]
  have equal : index = place := by omega
  subst equal
  exact List.drop_eq_getElem_cons bound

/-- The number of a row of the stream is not zero. -/
theorem Numbered.bizIndex_ne_zero {channel : PartitionId} {baseline : Sequence} {rows : List Row}
    (numbered : Numbered channel baseline rows) {index : Nat} (bound : index < rows.length) :
    rows[index].bizIndex ≠ 0 := by
  have inside := numbered.inside
  rw [numbered.bizIndex index bound]
  intro zero
  have words := congrArg UInt64.toNat zero
  rw [UInt64.toNat_add, UInt64.toNat_ofNat', UInt64.toNat_zero] at words
  omega

section Delivery

variable [TradingCore]

/-- A based mapper whose gate has accepted the stream up to the rows `rest`. -/
structure Facing (context : MappingContext) (channel : PartitionId) (baseline : Sequence)
    (rows rest : List Row) (mapper : TonglianMapper) : Prop where
  context : mapper.context = context
  contiguous : mapper.sequence.mode = .contiguous
  based : mapper.sequence.state ≠ .uninitialized
  place : ∃ place ≤ rows.length, rest = rows.drop place ∧
    mapper.sequence.cursor = (channel, baseline + UInt64.ofNat place)

/-- A call without a row publishes nothing and accepts nothing. -/
theorem call_silent (mapper : TonglianMapper) {input : TonglianCall} (carries : input.row = none) :
    (mapper.call input).2.publication = none ∧
      (mapper.sequence.call input.gateCall).2.acceptance = none := by
  cases input with
  | mapOrder | mapTransaction => cases carries
  | beginRecovery | completeRecovery | reset => exact ⟨rfl, rfl⟩

variable {context : MappingContext} {channel : PartitionId} {baseline : Sequence} {rows : List Row}

/-- A call that accepts nothing leaves a mapper where it is. -/
theorem Facing.stays {rest : List Row} {mapper : TonglianMapper} {input : TonglianCall}
    (here : Facing context channel baseline rows rest mapper) (other : input ≠ .reset)
    (silent : (mapper.sequence.call input.gateCall).2.acceptance = none) :
    Facing context channel baseline rows rest (mapper.call input).1 := by
  have noReset := TonglianCall.gateCall_ne_reset other
  have holds := SequenceGate.contiguous_moves.keeps mapper.sequence input.gateCall
    ⟨here.contiguous, here.based⟩ noReset
  have stays := SequenceGate.contiguous_moves.stays mapper.sequence input.gateCall
    ⟨here.contiguous, here.based⟩ noReset silent
  rw [← TonglianMapper.call_sequence] at holds stays
  obtain ⟨place, reached, left, cursor⟩ := here.place
  exact ⟨(TonglianMapper.call_context mapper input).trans here.context, holds.1, holds.2,
    place, reached, left, stays.trans cursor⟩

/-- A call whose row the gate accepts moves a mapper past that row, if the row is the next one. -/
theorem Facing.moves {row : Row} {place : Nat} {mapper : TonglianMapper} {input : TonglianCall}
    {rest : List Row} (here : Facing context channel baseline rows rest mapper)
    (carries : input.row = some row) (inside : place < rows.length)
    (next : row.bizIndex = baseline + UInt64.ofNat place + 1)
    (accepted : (mapper.sequence.observe row.channel row.bizIndex).1.accepted = true) :
    Facing context channel baseline rows (rows.drop (place + 1)) (mapper.call input).1 := by
  have asked := TonglianCall.gateCall_of_row carries
  have holds := SequenceGate.contiguous_moves.keeps mapper.sequence input.gateCall
    ⟨here.contiguous, here.based⟩ (by rw [asked]; exact GateCall.noConfusion)
  have accepting := SequenceGate.observe_accepted accepted
  obtain ⟨-, samePartition, -, -⟩ :=
    SequenceGate.observe_frame mapper.sequence row.channel row.bizIndex
  obtain ⟨_, _, -, cursor⟩ := here.place
  rw [← TonglianMapper.call_sequence] at holds
  refine ⟨(TonglianMapper.call_context mapper input).trans here.context, holds.1, holds.2,
    place + 1, inside, rfl, ?_⟩
  rw [TonglianMapper.call_sequence, asked]
  show ((mapper.sequence.observe row.channel row.bizIndex).2.partition,
    (mapper.sequence.observe row.channel row.bizIndex).2.lastAccepted) = _
  rw [accepting.lastAccepted, samePartition, next, UInt64.ofNat_add, UInt64.add_assoc]
  exact congrArg (·, _) (Prod.mk.inj cursor).1

/-- **A mapper at a place of a numbered stream recites it.** -/
theorem recites (numbered : Numbered channel baseline rows) :
    Machine.Follows TonglianMapper.call (Facing context channel baseline rows)
      (Delivers channel rows) TonglianCall.row TonglianAnswer.publication
      (Row.publication context) where
  next := by
    intro rest mapper input here ⟨other, fed⟩
    cases carries : input.row with
    | none =>
        obtain ⟨silent, refused⟩ := call_silent mapper carries
        exact Or.inl ⟨silent, here.stays other refused⟩
    | some row =>
        rw [call_publication mapper carries]
        cases accepted : (mapper.sequence.observe row.channel row.bizIndex).1.accepted with
        | false =>
            refine Or.inl ⟨rfl, here.stays other ?_⟩
            rw [TonglianCall.gateCall_of_row carries]
            simp only [SequenceGate.call, GateAnswer.acceptance, accepted, Bool.false_eq_true,
              if_false]
        | true =>
            have accepting := SequenceGate.observe_accepted accepted
            obtain ⟨place, reached, left, cursor⟩ := here.place
            obtain ⟨home, last⟩ := Prod.mk.inj cursor
            have next : row.bizIndex = baseline + UInt64.ofNat place + 1 := by
              rw [SequenceGate.accepts_contiguous here.contiguous accepting.fits, last]
            have member : row ∈ rows := by
              rcases fed row carries with member | foreign | unnumbered
              · exact member
              · exact absurd (accepting.home.trans home) foreign
              · exact absurd unnumbered accepting.numbered
            have split := numbered.next reached member next
            have inside : place < rows.length := by
              by_contra beyond
              rw [List.drop_eq_nil_of_le (Nat.le_of_not_lt beyond)] at split
              cases split
            refine Or.inr ⟨row, rows.drop (place + 1), left.trans split, rfl, ?_,
              here.moves carries inside next accepted⟩
            rw [if_pos rfl, here.context]

/-- **A trusted mapper that is fed the next row publishes it** and stays trusted. -/
theorem ready_advances (numbered : Numbered channel baseline rows) (named : channel ≠ 0) (row : Row)
    (later : List Row) (mapper : TonglianMapper) (input : TonglianCall)
    (ready : Facing context channel baseline rows (row :: later) mapper ∧
      mapper.sequence.state = .healthy)
    (carries : input.row = some row) :
    (mapper.call input).2.publication = row.publication context ∧
      Facing context channel baseline rows later (mapper.call input).1 ∧
        (mapper.call input).1.sequence.state = .healthy := by
  obtain ⟨here, healthy⟩ := ready
  obtain ⟨place, reached, left, cursor⟩ := here.place
  obtain ⟨home, last⟩ := Prod.mk.inj cursor
  have inside : place < rows.length := by
    by_contra beyond
    rw [List.drop_eq_nil_of_le (Nat.le_of_not_lt beyond)] at left
    cases left
  obtain ⟨rfl, rfl⟩ : row = rows[place] ∧ later = rows.drop (place + 1) := by
    rw [List.drop_eq_getElem_cons inside] at left
    exact List.cons.inj left
  have next : rows[place].bizIndex = baseline + UInt64.ofNat place + 1 := by
    rw [numbered.bizIndex place inside, UInt64.ofNat_add, UInt64.add_assoc]
    rfl
  have sameChannel := numbered.channel place inside
  have fits : mapper.sequence.accepts rows[place].bizIndex = true := by
    simp [SequenceGate.accepts, next, last]
  obtain ⟨accepted, trusted⟩ := SequenceGate.observe_of_accepts (sameChannel ▸ named)
    (numbered.bizIndex_ne_zero inside) healthy (sameChannel.trans home.symm) fits
  refine ⟨?_, here.moves carries inside next accepted, ?_⟩
  · rw [call_publication mapper carries, if_pos accepted, here.context]
  · rw [TonglianMapper.call_sequence, TonglianCall.gateCall_of_row carries]
    exact trusted

/-- A completed recovery of a run that began with a fresh mapper faces the whole stream, trusted. -/
theorem facing_opened (context : MappingContext) (before : List TonglianCall) (rows : List Row)
    (opens : ((({ context } : TonglianMapper).after before).completeRecovery channel
      baseline).1 = true) :
    let opened := ((({ context } : TonglianMapper).after before).completeRecovery channel baseline).2
    Facing context channel baseline rows rows opened ∧ opened.sequence.state = .healthy := by
  intro opened
  have shape : opened.sequence = _ := SequenceGate.completeRecovery_of_true opens
  have mode : (({ context } : TonglianMapper).after before).sequence.mode = .contiguous := by
    rw [TonglianMapper.after_sequence]
    exact SequenceGate.after_mode _ _
  have healthy : opened.sequence.state = .healthy := by rw [shape]
  refine ⟨⟨TonglianMapper.after_context _ before, ?_, ?_, 0, Nat.zero_le _, rfl, ?_⟩, healthy⟩
  · rw [shape]
    exact mode
  · rw [healthy]
    decide
  · rw [shape, SequenceGate.cursor]
    simp

/-- **Exactly once, in order, under any delivery.** `before` is any run of a fresh mapper at whose
end a recovery completes at `baseline`; `calls` is any delivery of the numbered `rows`, and `once`
maps each of them once, in order, with any outputs. The delivery publishes a beginning of what
`once` publishes: what the first `count` rows publish, all of which it was fed. -/
theorem exactly_once_in_order (context : MappingContext) (before : List TonglianCall)
    (channel : PartitionId) (baseline : Sequence) (rows : List Row) (calls once : List TonglianCall)
    (opens : ((({ context } : TonglianMapper).after before).completeRecovery channel
      baseline).1 = true)
    (numbered : Numbered channel baseline rows)
    (delivers : ∀ input ∈ calls, Delivers channel rows input)
    (inOrder : once.map TonglianCall.row = rows.map some) :
    let opened := ((({ context } : TonglianMapper).after before).completeRecovery channel baseline).2
    opened.published calls <+: opened.published once ∧
      ∃ count ≤ rows.length,
        opened.published calls = (rows.take count).filterMap (Row.publication context) ∧
        ∀ row ∈ rows.take count, ∃ input ∈ calls, input.row = some row := by
  intro opened
  obtain ⟨facing, healthy⟩ := facing_opened context before rows opens
  have named : channel ≠ 0 :=
    ((SequenceGate.completeRecovery_eq_true_iff _ channel baseline).mp opens).1
  have ideal : opened.published once = rows.filterMap (Row.publication context) :=
    Machine.emitted_recited
      (fun rest mapper => Facing context channel baseline rows rest mapper ∧
        mapper.sequence.state = .healthy)
      (ready_advances numbered named) ⟨facing, healthy⟩ inOrder
  obtain ⟨said, left, split, spoken, -, fed⟩ := (recites numbered).recites facing delivers
  have taken : rows.take said.length = said := by rw [split, List.take_left]
  refine ⟨?_, said.length, ?_, ?_, ?_⟩
  · rw [ideal, split, List.filterMap_append]
    exact spoken ▸ List.prefix_append _ _
  · rw [split, List.length_append]
    exact Nat.le_add_right _ _
  · rw [taken]
    exact spoken
  · rw [taken]
    exact fed

end Delivery

/-- Two Shenzhen orders: the second arrives early and damages the stream, the recovery names the
baseline, then both arrive, the first of them twice. -/
theorem exactly_once_over_gap :
    letI := TradingCore.zeroed
    let first : OrderRow :=
      { orderKind := '0', functionCode := 'B', exchangeOrderId := 7, price := 10, quantity := 100,
        channel := 2011, bizIndex := 100 }
    let second : OrderRow :=
      { first with functionCode := 'S', exchangeOrderId := 8, bizIndex := 101 }
    let opened :=
      (({ context := { market := .shenzhen } } : TonglianMapper).completeRecovery 2011 99).2
    opened.published [.mapOrder second .empty, .beginRecovery, .completeRecovery 2011 99,
        .mapOrder first .empty, .mapOrder first .empty, .mapOrder second .empty] <+:
      opened.published [.mapOrder first .empty, .mapOrder second .empty] := by
  let core : TradingCore := TradingCore.zeroed
  intro first second opened
  refine (exactly_once_in_order { market := .shenzhen } [] 2011 99 [.order first, .order second] _ _
    (by decide) ⟨by decide, by decide, by decide⟩ ?_ rfl).1
  simp [Delivers, TonglianCall.row]

/-! ### Where recovery is possible -/

namespace TonglianMapper

/-- Some recovery of the mapper can complete without a reset, with or without `beginRecovery`
first. -/
def Recoverable (mapper : TonglianMapper) : Prop :=
  ∃ channel sequence,
    ((mapper.beginRecovery.completeRecovery channel sequence).1 = true ∧
      (mapper.beginRecovery.completeRecovery channel sequence).2.streamTrusted = true) ∨
    ((mapper.completeRecovery channel sequence).1 = true ∧
      (mapper.completeRecovery channel sequence).2.streamTrusted = true)

/-- A mapper recovers where its gate does. -/
theorem recoverable_iff_sequence (mapper : TonglianMapper) :
    mapper.Recoverable ↔ mapper.sequence.Recoverable := by
  simp only [Recoverable, SequenceGate.Recoverable, streamTrusted, SequenceGate.trusted,
    decide_eq_true_eq]
  rfl

end TonglianMapper

/-- **Recovery stays reachable exactly along the runs that never begin a recovery without a
baseline**, of a gate of either mode and of a mapper. -/
theorem recovery_reachable_iff [TradingCore] :
    (∀ (mode : SequenceMode) (calls : List GateCall),
      (∀ front back, calls = front ++ back →
          (({ mode } : SequenceGate).after front).Recoverable) ↔
        ∀ front back, calls = front ++ .beginRecovery :: back →
          (({ mode } : SequenceGate).after front).state ≠ .uninitialized) ∧
    ∀ (context : MappingContext) (calls : List TonglianCall),
      (∀ front back, calls = front ++ back →
          (({ context } : TonglianMapper).after front).Recoverable) ↔
        ∀ front back, calls = front ++ .beginRecovery :: back →
          (({ context } : TonglianMapper).after front).sequence.state ≠ .uninitialized := by
  refine ⟨SequenceGate.recoverable_always_iff, fun context calls => ?_⟩
  have always := Machine.final_always_iff TonglianMapper.call
    (fun mapper => mapper.sequence.Unnamed) TonglianMapper.Recoverable
    (fun mapper input => mapper.sequence.Trapping input.gateCall) ?stands ?keeps ?fails
    (fun _ => rfl : ({ context } : TonglianMapper).sequence.Unnamed)
    ((TonglianMapper.recoverable_iff_sequence _).mpr
      ((SequenceGate.recoverable_iff _).mpr (Or.inl rfl)))
    calls
  case stands =>
    intro mapper input unnamed
    rw [TonglianMapper.call_sequence]
    exact SequenceGate.call_unnamed _ unnamed
  case keeps =>
    intro mapper input _ recoverable fine
    rw [TonglianMapper.recoverable_iff_sequence] at recoverable ⊢
    rw [TonglianMapper.call_sequence]
    exact SequenceGate.call_recoverable recoverable fine
  case fails =>
    intro mapper input unnamed trapping
    rw [TonglianMapper.recoverable_iff_sequence, TonglianMapper.call_sequence]
    exact SequenceGate.call_trapping unnamed trapping
  refine always.trans ⟨fun never front back split unbased => ?_,
    fun never front input back split trapping => ?_⟩
  · exact never front .beginRecovery back split ⟨rfl, unbased⟩
  · obtain ⟨asked, unbased⟩ := trapping
    have begins : input = .beginRecovery := by
      cases input with
      | beginRecovery => rfl
      | mapOrder | mapTransaction | completeRecovery | reset => cases asked
    exact never front back (begins ▸ split) unbased

/-- `beginRecovery` on a fresh gate, or on a fresh mapper, leaves a recovery that names partition 0
and can never complete. -/
theorem recovery_unreachable_after_early_begin :
    ¬ (({} : SequenceGate).after [.beginRecovery]).Recoverable ∧
      ¬ ({ context := {} } : TonglianMapper).beginRecovery.Recoverable := by
  have trapped : ¬ (({} : SequenceGate).call .beginRecovery).1.Recoverable :=
    SequenceGate.call_trapping (fun _ => rfl) ⟨rfl, rfl⟩
  exact ⟨trapped, fun recoverable =>
    trapped ((TonglianMapper.recoverable_iff_sequence _).mp recoverable)⟩

end MarketDataFabric.Providers.Tonglian
