/-
**Runs of the CSMAR mapper.**

* `CsmarCall`, `call` — the baseline and the four map calls as the inputs of one machine.
* `call_publication` — a map call publishes its row if the gate accepts it.
* `Unbased`, `Opened` — what holds before and from the first baseline on; `climbs` — from there the
  machine is one whose cursor climbs.
* `strictly_increasing_stream` — hence the published numbers strictly increase from the baseline on,
  and the first row that goes backward silences the mapper for good.
-/

import Mathlib.Algebra.Group.Nat.Defs
import MarketDataFabric.Mappers.MonotonicRuns
import MarketDataFabric.Providers.Csmar

namespace MarketDataFabric.Providers.Csmar

open MarketDataFabric.Core Mappers Library

/-- A row of any kind. -/
inductive Row where
  | shanghaiOrder (row : ShanghaiOrderRow)
  | shanghaiTransaction (row : ShanghaiTransactionRow)
  | shenzhenOrder (row : ShenzhenOrderRow)
  | shenzhenTransaction (row : ShenzhenTransactionRow)
deriving Repr, DecidableEq

/-- The partition a row is observed under. -/
def Row.partition : Row → PartitionId
  | .shanghaiOrder row => row.setId
  | .shanghaiTransaction row => row.tradeChannel
  | .shenzhenOrder row => row.setId
  | .shenzhenTransaction row => row.setId

def Row.recordId : Row → Sequence
  | .shanghaiOrder row => row.recordId
  | .shanghaiTransaction row => row.recordId
  | .shenzhenOrder row => row.recordId
  | .shenzhenTransaction row => row.recordId

/-- What the owner of a mapper can call. A map call brings the output it wants filled. -/
inductive CsmarCall where
  | establishBaseline (partition : PartitionId) (sequence : Sequence)
  | mapShanghaiOrder (row : ShanghaiOrderRow) (out : OrderMapOutput)
  | mapShanghaiTransaction (row : ShanghaiTransactionRow) (out : TransactionMapOutput)
  | mapShenzhenOrder (row : ShenzhenOrderRow) (out : OrderMapOutput)
  | mapShenzhenTransaction (row : ShenzhenTransactionRow) (out : TransactionMapOutput)
deriving Repr, DecidableEq

/-- What a call returns: the success of a baseline, or the outcome and the filled output. -/
inductive CsmarAnswer where
  | established (done : Bool)
  | order (outcome : MapOutcome) (out : OrderMapOutput)
  | transaction (outcome : MapOutcome) (out : TransactionMapOutput)
deriving Repr, DecidableEq

namespace CsmarCall

/-- The row a call maps. -/
def row : CsmarCall → Option Row
  | .establishBaseline _ _ => none
  | .mapShanghaiOrder row _ => some (.shanghaiOrder row)
  | .mapShanghaiTransaction row _ => some (.shanghaiTransaction row)
  | .mapShenzhenOrder row _ => some (.shenzhenOrder row)
  | .mapShenzhenTransaction row _ => some (.shenzhenTransaction row)

/-- A call establishes a baseline or maps a row. -/
theorem cases_row (input : CsmarCall) :
    (∃ partition sequence, input = .establishBaseline partition sequence) ∨
      ∃ row, input.row = some row := by
  cases input with
  | establishBaseline partition sequence => exact Or.inl ⟨partition, sequence, rfl⟩
  | mapShanghaiOrder | mapShanghaiTransaction | mapShenzhenOrder | mapShenzhenTransaction =>
      exact Or.inr ⟨_, rfl⟩

end CsmarCall

namespace CsmarAnswer

/-- **What a call publishes**: the kind and the event of a publishable outcome. -/
def publication : CsmarAnswer → Option (EventKind × Option MarketEvent)
  | .established _ => none
  | .order outcome out => if outcome.publishable then some (out.eventKind, out.named) else none
  | .transaction outcome out => if outcome.publishable then some (out.eventKind, out.named) else none

/-- The continuity half of an outcome. -/
def continuity : CsmarAnswer → Option ContinuityObservation
  | .established _ => none
  | .order outcome _ | .transaction outcome _ => some outcome.continuity

end CsmarAnswer

section Runs

variable [TradingCore]

namespace CsmarMapper

def call (mapper : CsmarMapper) : CsmarCall → CsmarMapper × CsmarAnswer
  | .establishBaseline partition sequence =>
      let (done, mapper) := mapper.establishBaseline partition sequence
      (mapper, .established done)
  | .mapShanghaiOrder row out =>
      let (outcome, out, mapper) := mapper.mapShanghaiOrder row out
      (mapper, .order outcome out)
  | .mapShanghaiTransaction row out =>
      let (outcome, out, mapper) := mapper.mapShanghaiTransaction row out
      (mapper, .transaction outcome out)
  | .mapShenzhenOrder row out =>
      let (outcome, out, mapper) := mapper.mapShenzhenOrder row out
      (mapper, .order outcome out)
  | .mapShenzhenTransaction row out =>
      let (outcome, out, mapper) := mapper.mapShenzhenTransaction row out
      (mapper, .transaction outcome out)

/-- The mapper after a list of calls. -/
abbrev after (mapper : CsmarMapper) (calls : List CsmarCall) : CsmarMapper :=
  Machine.final call mapper calls

/-- The answers along a list of calls. -/
abbrev answers (mapper : CsmarMapper) (calls : List CsmarCall) : List CsmarAnswer :=
  Machine.outputs call mapper calls

/-- The kinds and events a list of calls publishes, in order. -/
abbrev published (mapper : CsmarMapper) (calls : List CsmarCall) :
    List (EventKind × Option MarketEvent) :=
  Machine.emitted call CsmarAnswer.publication mapper calls

end CsmarMapper

/-! ### What a call does -/

/-- The event an accepted row maps into, in a context. -/
def Row.event (context : MappingContext) : Row → Option MarketEvent
  | .shanghaiOrder row => mappedEvent (mapAcceptedShanghaiOrder context row)
  | .shanghaiTransaction row => mappedEvent (mapAcceptedShanghaiTransaction context row)
  | .shenzhenOrder row => mappedEvent (mapAcceptedShenzhenOrder context row)
  | .shenzhenTransaction row => mappedEvent (mapAcceptedShenzhenTransaction context row)

/-- An event carries the record number of its row. -/
theorem Row.exchangeSeq_of_event {context : MappingContext} {row : Row} {event : MarketEvent}
    (mapped : row.event context = some event) : event.header.exchangeSeq = row.recordId := by
  cases row with
  | shanghaiOrder row => exact ((shanghaiOrder_publishes context row).admits_mappedEvent mapped).2.2
  | shanghaiTransaction row =>
      exact ((shanghaiTransaction_publishes context row).admits_mappedEvent mapped).2.2
  | shenzhenOrder row => exact ((shenzhenOrder_publishes context row).admits_mappedEvent mapped).2.2
  | shenzhenTransaction row =>
      exact ((shenzhenTransaction_publishes context row).admits_mappedEvent mapped).2.2

namespace CsmarMapper

/-- **A map call steps the gate by its row**, and reports what the gate observed. -/
theorem call_observes (mapper : CsmarMapper) {input : CsmarCall} {row : Row}
    (carries : input.row = some row) :
    (mapper.call input).1.sequence = (mapper.sequence.observe row.partition row.recordId).2 ∧
      (mapper.call input).2.continuity =
        some (mapper.sequence.observe row.partition row.recordId).1 := by
  have observes {Out : Type} [MapOutput Out] (mapRow : Out → MapResult × Out)
      (partition sequence : UInt64) (out : Out) :
      (gatedMap mapRow mapper.sequence partition sequence out).2.2 =
          (mapper.sequence.observe partition sequence).2 ∧
        some (gatedMap mapRow mapper.sequence partition sequence out).1.continuity =
          some (mapper.sequence.observe partition sequence).1 :=
    ⟨gatedMap_gate mapRow mapper.sequence partition sequence out,
      congrArg some (gatedMap_continuity mapRow mapper.sequence partition sequence out)⟩
  cases input with
  | establishBaseline => cases carries
  | mapShanghaiOrder row out =>
      cases carries
      exact observes (mapAcceptedShanghaiOrder mapper.context row) row.setId row.recordId out
  | mapShanghaiTransaction row out =>
      cases carries
      exact observes (mapAcceptedShanghaiTransaction mapper.context row) row.tradeChannel row.recordId out
  | mapShenzhenOrder row out =>
      cases carries
      exact observes (mapAcceptedShenzhenOrder mapper.context row) row.setId row.recordId out
  | mapShenzhenTransaction row out =>
      cases carries
      exact observes (mapAcceptedShenzhenTransaction mapper.context row) row.setId row.recordId out

@[simp] theorem call_context (mapper : CsmarMapper) (input : CsmarCall) :
    (mapper.call input).1.context = mapper.context := by
  cases input <;> rfl

/-- **A map call publishes its row if the gate accepts it, and nothing otherwise.** -/
theorem call_publication (mapper : CsmarMapper) {input : CsmarCall} {row : Row}
    (carries : input.row = some row) :
    (mapper.call input).2.publication =
      if (mapper.sequence.observe row.partition row.recordId).1.accepted then
        (row.event mapper.context).map fun event => (eventKindOf event, some event)
      else none := by
  cases input with
  | establishBaseline => cases carries
  | mapShanghaiOrder row out =>
      cases carries
      exact gatedMap_publication (shanghaiOrder_publishes mapper.context row) mapper.sequence
        row.setId row.recordId out
  | mapShanghaiTransaction row out =>
      cases carries
      exact gatedMap_publication (shanghaiTransaction_publishes mapper.context row) mapper.sequence
        row.tradeChannel row.recordId out
  | mapShenzhenOrder row out =>
      cases carries
      exact gatedMap_publication (shenzhenOrder_publishes mapper.context row) mapper.sequence
        row.setId row.recordId out
  | mapShenzhenTransaction row out =>
      cases carries
      exact gatedMap_publication (shenzhenTransaction_publishes mapper.context row) mapper.sequence
        row.setId row.recordId out

/-- **What a published event says of its row**: the gate accepted the row, and the event carries its
number. -/
theorem call_published (mapper : CsmarMapper) {input : CsmarCall}
    {said : EventKind × Option MarketEvent} (shown : (mapper.call input).2.publication = some said) :
    ∃ row event, input.row = some row ∧ said = (eventKindOf event, some event) ∧
      (mapper.sequence.observe row.partition row.recordId).1.accepted = true ∧
      event.header.exchangeSeq = row.recordId := by
  rcases input.cases_row with ⟨partition, sequence, rfl⟩ | ⟨row, carries⟩
  · cases shown
  · rw [call_publication mapper carries] at shown
    split_ifs at shown with accepted
    obtain ⟨event, mapped, rfl⟩ := Option.map_eq_some_iff.mp shown
    exact ⟨row, event, carries, rfl, accepted, Row.exchangeSeq_of_event mapped⟩

/-- Without an acceptance a map call publishes nothing. -/
theorem call_silent (mapper : CsmarMapper) {input : CsmarCall}
    (refused : ∀ row, input.row = some row →
      (mapper.sequence.observe row.partition row.recordId).1.accepted = false) :
    (mapper.call input).2.publication = none := by
  rw [Option.eq_none_iff_forall_ne_some]
  intro said shown
  obtain ⟨row, _, carries, _, accepted, _⟩ := call_published mapper shown
  rw [refused row carries] at accepted
  cases accepted

end CsmarMapper

/-! ### Before the first baseline -/

/-- A mapper without a baseline. -/
structure Unbased (mapper : CsmarMapper) : Prop where
  monotonic : mapper.sequence.mode = .monotonic
  unbased : mapper.sequence.state = .uninitialized
  gaps : mapper.sequence.stats.gaps = 0

/-- **Until a baseline is established** a mapper stays without one and publishes nothing. -/
theorem Unbased.call {mapper : CsmarMapper} (here : Unbased mapper) {input : CsmarCall}
    (unfinished : (mapper.call input).2 ≠ .established true) :
    Unbased (mapper.call input).1 ∧ (mapper.call input).2.publication = none := by
  rcases input.cases_row with ⟨partition, sequence, rfl⟩ | ⟨row, carries⟩
  · have refused : (mapper.sequence.completeRecovery partition sequence).1 = false := by
      rw [Bool.eq_false_iff]
      exact fun completed => unfinished (congrArg CsmarAnswer.established completed)
    have same : (mapper.call (.establishBaseline partition sequence)).1.sequence =
        mapper.sequence := SequenceGate.completeRecovery_of_false refused
    refine ⟨⟨?_, ?_, ?_⟩, rfl⟩ <;> rw [same]
    · exact here.monotonic
    · exact here.unbased
    · exact here.gaps
  · obtain ⟨refused, unbased, gaps⟩ :=
      SequenceGate.observe_unbased here.unbased row.partition row.recordId
    obtain ⟨stepped, -⟩ := mapper.call_observes carries
    refine ⟨⟨?_, ?_, ?_⟩, mapper.call_silent fun other carried => ?_⟩
    · rw [stepped]
      exact (SequenceGate.observe_frame _ _ _).1.trans here.monotonic
    · rw [stepped]
      exact unbased
    · rw [stepped]
      exact gaps.trans here.gaps
    · obtain rfl : row = other := Option.some.inj (carries.symm.trans carried)
      exact refused

/-! ### From the first baseline on -/

/-- A mapper with a baseline in a partition. -/
abbrev Opened (established : PartitionId) (mapper : CsmarMapper) : Prop :=
  mapper.sequence.Climbing established

/-- A call leaves the gate alone or observes its row. -/
theorem Opened.step {established : PartitionId} {mapper : CsmarMapper}
    (here : Opened established mapper) (input : CsmarCall) :
    (mapper.call input).1.sequence = mapper.sequence ∨
      ∃ row, input.row = some row ∧ (mapper.call input).1.sequence =
        (mapper.sequence.observe row.partition row.recordId).2 := by
  rcases input.cases_row with ⟨partition, sequence, rfl⟩ | ⟨row, carries⟩
  · exact Or.inl (SequenceGate.completeRecovery_of_false (here.refuses partition sequence))
  · exact Or.inr ⟨row, carries, (mapper.call_observes carries).1⟩

/-- A call keeps the climb, and establishes no baseline again. -/
theorem Opened.call {established : PartitionId} {mapper : CsmarMapper}
    (here : Opened established mapper) (input : CsmarCall) :
    Opened established (mapper.call input).1 ∧ (mapper.call input).2 ≠ .established true := by
  refine ⟨?_, fun done => ?_⟩
  · show SequenceGate.Climbing established _
    rcases here.step input with same | ⟨row, -, stepped⟩
    · rw [same]
      exact here
    · rw [stepped]
      exact here.observe row.partition row.recordId
  · rcases input.cases_row with ⟨partition, sequence, rfl⟩ | ⟨row, carries⟩
    · have completed : (mapper.sequence.completeRecovery partition sequence).1 = true :=
        CsmarAnswer.established.inj done
      rw [here.refuses] at completed
      cases completed
    · have reported := (mapper.call_observes carries).2
      rw [done] at reported
      cases reported

/-- The event a call publishes. -/
def CsmarAnswer.event (answer : CsmarAnswer) : Option MarketEvent :=
  answer.publication.bind Prod.snd

/-- **The numbers of the published events climb** with the gate's last accepted number. -/
theorem climbs (established : PartitionId) :
    Machine.Climbs CsmarMapper.call (Opened established) (fun _ => True)
      (fun mapper => mapper.sequence.lastAccepted.toNat) CsmarAnswer.event
      (fun event => event.header.exchangeSeq.toNat) where
  keeps _ input here _ := (here.call input).1
  climbs := by
    intro mapper input here _
    rcases here.step input with same | ⟨row, -, stepped⟩
    · rw [same]
    · rw [stepped]
      exact SequenceGate.observe_climbs mapper.sequence row.partition row.recordId
  announces := by
    intro mapper input event here _ shown
    obtain ⟨said, published, named⟩ := Option.bind_eq_some_iff.mp shown
    obtain ⟨row, other, carries, rfl, accepted, numbered⟩ := mapper.call_published published
    cases named
    have accepting := SequenceGate.observe_accepted accepted
    rw [(mapper.call_observes carries).1, accepting.lastAccepted, numbered]
    exact ⟨UInt64.lt_iff_toNat_lt.mp
      (SequenceGate.accepts_above accepting.fits accepting.numbered), Nat.le_refl _⟩

/-! ### Going backward -/

/-- A call maps a row that goes backward, or comes from another partition. -/
def Regresses (established : PartitionId) (mapper : CsmarMapper) (input : CsmarCall) : Prop :=
  ∃ row, input.row = some row ∧
    mapper.sequence.Backward established row.partition row.recordId

/-- **A mapper is trusted exactly until the first such call.** -/
theorem trusted_iff {established : PartitionId} {mapper : CsmarMapper}
    (here : Opened established mapper) (healthy : mapper.sequence.state = .healthy)
    (calls : List CsmarCall) :
    (∀ front back, calls = front ++ back → (mapper.after front).sequence.state = .healthy) ↔
      ∀ front input back, calls = front ++ input :: back →
        ¬ Regresses established (mapper.after front) input := by
  refine Machine.final_always_iff CsmarMapper.call (Opened established)
    (fun later => later.sequence.state = .healthy) (Regresses established)
    (fun later input opened => (opened.call input).1) ?keeps ?fails here healthy calls
  case keeps =>
    intro later input opened trusted fine
    rcases opened.step input with same | ⟨row, carries, stepped⟩
    · rw [same]
      exact trusted
    · rw [stepped]
      exact opened.forward trusted fun backward => fine ⟨row, carries, backward⟩
  case fails =>
    rintro later input opened ⟨row, carries, backward⟩ trusted
    rw [(later.call_observes carries).1, opened.backward backward] at trusted
    cases trusted

/-- A mapper that has lost its stream. -/
structure Silenced (established : PartitionId) (mapper : CsmarMapper) : Prop where
  opened : Opened established mapper
  stale : mapper.sequence.state = .stale

/-- **A lost stream stays lost**, and says nothing. -/
theorem Silenced.call {established : PartitionId} {mapper : CsmarMapper}
    (here : Silenced established mapper) (input : CsmarCall) :
    Silenced established (mapper.call input).1 ∧ (mapper.call input).2.publication = none := by
  obtain ⟨opened, -⟩ := here.opened.call input
  have refused : ∀ row : Row,
      (mapper.sequence.observe row.partition row.recordId).1.accepted = false := by
    intro row
    rw [Bool.eq_false_iff]
    intro accepted
    have healthy := (SequenceGate.observe_accepted accepted).healthy
    rw [here.stale] at healthy
    cases healthy
  refine ⟨⟨opened, ?_⟩, mapper.call_silent fun row _ => refused row⟩
  rcases here.opened.step input with same | ⟨row, -, stepped⟩
  · rw [same]
    exact here.stale
  · rw [stepped]
    rcases SequenceGate.observe_state mapper.sequence row.partition row.recordId with same | ⟨stale, -⟩
    · rw [same]
      exact here.stale
    · exact stale

/-- **A row that goes backward silences the mapper for good.** -/
theorem regresses_silences {established : PartitionId} {mapper : CsmarMapper}
    (here : Opened established mapper) {input : CsmarCall}
    (regresses : Regresses established mapper input) (back : List CsmarCall) :
    mapper.published (input :: back) = [] ∧
      .established true ∉ mapper.answers (input :: back) := by
  obtain ⟨row, carries, backward⟩ := regresses
  obtain ⟨opened, unestablished⟩ := here.call input
  have quiet : (mapper.call input).2.publication = none := by
    refine mapper.call_silent fun other carried => ?_
    obtain rfl : row = other := Option.some.inj (carries.symm.trans carried)
    exact here.not_accepted backward
  have lost : Silenced established (mapper.call input).1 := by
    refine ⟨opened, ?_⟩
    rw [(mapper.call_observes carries).1]
    exact here.backward backward
  have later : ∀ answer ∈ (mapper.call input).1.answers back,
      answer.publication = none ∧ answer ≠ .established true :=
    Machine.outputs_invariant CsmarMapper.call (Silenced established) (fun _ => True) _
      (fun now next silenced _ => ⟨(silenced.call next).1, (silenced.call next).2,
        (silenced.opened.call next).2⟩) lost fun _ _ => trivial
  have all : ∀ answer ∈ mapper.answers (input :: back),
      answer.publication = none ∧ answer ≠ .established true := by
    intro answer member
    rcases List.mem_cons.mp member with rfl | member
    · exact ⟨quiet, unestablished⟩
    · exact later answer member
  refine ⟨List.filterMap_eq_nil_iff.mpr fun answer member => (all answer member).1, ?_⟩
  exact fun member => (all _ member).2 rfl

/-! ### The stream -/

/-- Every publication of a run is an event under its own kind. -/
theorem published_eq_map (mapper : CsmarMapper) (calls : List CsmarCall) :
    mapper.published calls =
      (Machine.emitted CsmarMapper.call CsmarAnswer.event mapper calls).map
        fun event => (eventKindOf event, some event) := by
  have tagged : ∀ answer ∈ mapper.answers calls, answer.publication =
      answer.event.map fun event => (eventKindOf event, some event) := by
    refine Machine.outputs_invariant CsmarMapper.call (fun _ => True) (fun _ => True) _ ?_ trivial
      fun _ _ => trivial
    intro now input _ _
    refine ⟨trivial, ?_⟩
    cases shown : (now.call input).2.publication with
    | none => rw [CsmarAnswer.event, shown]; rfl
    | some said =>
        obtain ⟨_, event, _, rfl, _, _⟩ := now.call_published shown
        rw [CsmarAnswer.event, shown]
        rfl
  rw [Machine.emitted, List.map_filterMap]
  exact List.filterMap_congr tagged

/-- The numbers a based mapper publishes increase strictly, from its last accepted number on. -/
theorem published_increasing {established : PartitionId} {mapper : CsmarMapper}
    (here : Opened established mapper) (calls : List CsmarCall) :
    ∃ events : List MarketEvent,
      mapper.published calls = events.map (fun event => (eventKindOf event, some event)) ∧
      (mapper.sequence.lastAccepted ::
        events.map fun event => event.header.exchangeSeq).Pairwise (· < ·) := by
  refine ⟨_, published_eq_map mapper calls, ?_⟩
  have numbers : ((mapper.sequence.lastAccepted ::
      (Machine.emitted CsmarMapper.call CsmarAnswer.event mapper calls).map
        fun event => event.header.exchangeSeq).map UInt64.toNat).Pairwise (· < ·) := by
    rw [List.map_cons, List.map_map]
    exact (climbs established).pairwise here fun _ _ => trivial
  exact (List.pairwise_map.mp numbers).imp UInt64.lt_iff_toNat_lt.mpr

/-- No jump is a gap while the last accepted number is not the last 64-bit number. -/
theorem Opened.call_gaps {established : PartitionId} {mapper : CsmarMapper}
    (here : Opened established mapper)
    (room : mapper.sequence.lastAccepted.toNat < 2 ^ 64 - 1) (input : CsmarCall) :
    (mapper.call input).1.sequence.stats.gaps = 0 := by
  rcases here.step input with same | ⟨row, -, stepped⟩
  · rw [same]
    exact here.gaps room
  · rw [stepped]
    exact (SequenceGate.observe_gaps (here.no_gap room row.partition row.recordId)).trans
      (here.gaps room)

/-- A run that establishes no baseline leaves the mapper without one and publishes nothing. -/
theorem unbased_after (context : MappingContext) {calls : List CsmarCall}
    (unfinished : .established true ∉ ({ context } : CsmarMapper).answers calls) :
    Unbased (({ context } : CsmarMapper).after calls) ∧
      ({ context } : CsmarMapper).published calls = [] := by
  have fresh : Unbased { context } := ⟨rfl, rfl, rfl⟩
  have promised : ∀ answer ∈ ({ context } : CsmarMapper).answers calls,
      answer ≠ .established true := fun answer member same => unfinished (same ▸ member)
  refine ⟨?_, List.filterMap_eq_nil_iff.mpr ?_⟩
  · exact @Machine.final_history _ _ _ CsmarMapper.call (fun _ mapper => Unbased mapper)
      (· ≠ .established true) (fun _ mapper input here fine => (here.call fine).1) [] _ _ fresh
      promised
  · exact Machine.outputs_invariant CsmarMapper.call Unbased (· ≠ .established true)
      (fun answer => answer.publication = none) (fun mapper input here fine => here.call fine)
      fresh promised

/-- **A CSMAR mapper publishes a strictly increasing stream.** `calls` is any run of a fresh mapper.
Without a baseline it publishes nothing. If `establishBaseline partition baseline` is its first
baseline, it publishes events whose numbers strictly increase from the baseline on; and at any call
after that, `now`:

* a published event is that of a row of `partition` above the last accepted number, so a repeated
  number is never published;
* a jump forward of any size is accepted, unless a row went backward before, and it is not counted
  as a gap while the last accepted number is not the last 64-bit number;
* a row that goes backward, or comes from another partition, silences this and every later call, and
  no baseline is established again. -/
theorem strictly_increasing_stream (context : MappingContext) (calls : List CsmarCall) :
    let mapper : CsmarMapper := { context }
    (.established true ∉ mapper.answers calls → mapper.published calls = []) ∧
      ∀ before partition baseline inside,
        calls = before ++ .establishBaseline partition baseline :: inside →
        .established true ∉ mapper.answers before →
        ((mapper.after before).establishBaseline partition baseline).1 = true →
        let opened := ((mapper.after before).establishBaseline partition baseline).2
        (∃ events : List MarketEvent,
          mapper.published calls = events.map (fun event => (eventKindOf event, some event)) ∧
          (baseline :: events.map fun event => event.header.exchangeSeq).Pairwise (· < ·)) ∧
        ∀ front input back, inside = front ++ input :: back →
          let now := opened.after front
          (∀ said, (now.call input).2.publication = some said →
            ∃ row event, input.row = some row ∧ said = (eventKindOf event, some event) ∧
              event.header.exchangeSeq = row.recordId ∧ row.partition = partition ∧
              now.sequence.lastAccepted < row.recordId) ∧
          ((∀ early earlier late, front = early ++ earlier :: late →
              ¬ Regresses partition (opened.after early) earlier) →
            ∀ row, input.row = some row → row.partition = partition →
              now.sequence.lastAccepted < row.recordId →
              (now.call input).2.continuity.map ContinuityObservation.accepted = some true) ∧
          (now.sequence.lastAccepted.toNat < 2 ^ 64 - 1 →
            (now.call input).1.sequence.stats.gaps = 0) ∧
          (Regresses partition now input →
            now.published (input :: back) = [] ∧
              .established true ∉ now.answers (input :: back)) := by
  intro mapper
  refine ⟨fun unfinished => (unbased_after context unfinished).2, ?_⟩
  intro before partition baseline inside split unfinished opens opened
  obtain ⟨unbased, silent⟩ : Unbased (mapper.after before) ∧
      Machine.emitted CsmarMapper.call CsmarAnswer.publication mapper before = [] :=
    unbased_after context unfinished
  have completed : ((mapper.after before).sequence.completeRecovery partition baseline).1 = true :=
    opens
  obtain ⟨climbing, healthy, landed⟩ :=
    SequenceGate.climbing_of_completed unbased.monotonic unbased.gaps completed
  have start : Opened partition opened := climbing
  have here : ∀ front, Opened partition (opened.after front) := fun front =>
    Machine.final_invariant CsmarMapper.call (Opened partition) (fun _ => True)
      (fun later input holds _ => (holds.call input).1) start fun _ _ => trivial
  refine ⟨?_, ?_⟩
  · obtain ⟨events, shown, increasing⟩ := published_increasing start inside
    refine ⟨events, ?_, ?_⟩
    · rw [CsmarMapper.published, split, Machine.emitted_append, silent, List.nil_append,
        Machine.emitted_cons]
      exact shown
    · rw [← landed]
      exact increasing
  · intro front input back within now
    refine ⟨?_, ?_, ?_, ?_⟩
    · intro said shown
      obtain ⟨row, event, carries, same, accepted, numbered⟩ := now.call_published shown
      have accepting := SequenceGate.observe_accepted accepted
      exact ⟨row, event, carries, same, numbered, accepting.home.trans (here front).home,
        SequenceGate.accepts_above accepting.fits accepting.numbered⟩
    · intro fine row carries home above
      have trusted := (trusted_iff start healthy front).mpr fine front [] (List.append_nil _).symm
      rw [(now.call_observes carries).2, home]
      exact congrArg some ((here front).jump trusted above)
    · exact fun room => (here front).call_gaps room input
    · exact fun regresses => regresses_silences (here front) regresses back

end Runs

/-- After a jump from 5 to 9 the late row 7 silences the mapper. -/
theorem strictly_increasing_stream_over_jump :
    letI := TradingCore.zeroed
    let jumps : ShenzhenOrderRow :=
      { unixTimeMs := 1, recordId := 9, setId := 3, price := 10, quantity := 100, orderType := '2',
        orderCode := 'B' }
    let late : ShenzhenTransactionRow :=
      { unixTimeMs := 1, recordId := 7, setId := 3, buyOrderId := 9, sellOrderId := 9, price := 10,
        quantity := 100, tradeType := 'F' }
    let opened := (({ context := { market := .shenzhen } } : CsmarMapper).establishBaseline 3 5).2
    (opened.after [.mapShenzhenOrder jumps .empty]).published
        [.mapShenzhenTransaction late .empty,
          .mapShenzhenTransaction { late with recordId := 10 } .empty] = [] := by
  let core : TradingCore := TradingCore.zeroed
  intro jumps late opened
  have stream := (strictly_increasing_stream { market := .shenzhen }
    [.establishBaseline 3 5, .mapShenzhenOrder jumps .empty, .mapShenzhenTransaction late .empty,
      .mapShenzhenTransaction { late with recordId := 10 } .empty]).2 [] 3 5 _ rfl (by simp) (by decide)
  exact ((stream.2 [.mapShenzhenOrder jumps .empty] _ _ rfl).2.2.2
    ⟨.shenzhenTransaction late, rfl, by decide, by decide, Or.inl (by decide)⟩).1

end MarketDataFabric.Providers.Csmar
