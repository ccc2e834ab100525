/-
**Trading phases from rows**: the phase updates that a mapper publishes, and what the tracker of their
instrument makes of them.

* `Tonglian.Row.phase`, `Csmar.Row.phase` — the phase that a row tells.
* `phaseUpdates_told` — the updates published over a run are what its accepted rows tell.
* `followed_of_increasing` — a tracker takes all updates whose numbers increase.
* `phases_followed` — hence **the tracker shows the phase that the last accepted row told**, and is not
  moved by updates that come again.
-/

import MarketDataFabric.Markets.TradingPhaseTracker
import MarketDataFabric.Providers.ContentIndependence
import MarketDataFabric.Providers.StreamOrder

namespace MarketDataFabric

open MarketDataFabric.Core Mappers Markets Library

/-! ### The tracker of increasing updates -/

namespace Markets.TradingPhaseTracker

/-- An update ahead of the tracker is taken. -/
theorem apply_ahead {tracker : TradingPhaseTracker} {event : TradingPhaseUpdate}
    (known : supported event = true) (ahead : tracker.sequence.toNat < place event) :
    tracker.apply event = (holding (some event), .applied) := by
  obtain ⟨phase, numbered⟩ := of_decide_eq_true known
  have other : event.header.exchangeSeq ≠ tracker.sequence :=
    fun same => Nat.ne_of_gt ahead (congrArg UInt64.toNat same)
  have past : ¬ event.header.exchangeSeq < tracker.sequence :=
    fun behind => Nat.lt_asymm ahead (UInt64.lt_iff_toNat_lt.mp behind)
  rw [apply, if_neg (not_or.mpr ⟨phase, numbered⟩), if_neg other, if_neg past]
  rfl

/-- **Increasing updates are all taken**, and the last of them stays. -/
theorem after_increasing (tracker : TradingPhaseTracker) {updates : List TradingPhaseUpdate}
    (known : ∀ event ∈ updates, supported event = true)
    (increasing : (tracker.sequence.toNat :: updates.map place).Pairwise (· < ·)) :
    Machine.outputs apply tracker updates = updates.map (fun _ => .applied) ∧
      tracker.after updates = updates.getLast?.elim tracker fun event => holding (some event) := by
  induction updates generalizing tracker with
  | nil => exact ⟨rfl, rfl⟩
  | cons event rest ih =>
      obtain ⟨above, sorted⟩ := List.pairwise_cons.mp increasing
      have taken := apply_ahead (known event List.mem_cons_self) (above _ List.mem_cons_self)
      obtain ⟨answers, last⟩ := ih (holding (some event))
        (fun later member => known later (List.mem_cons_of_mem _ member)) sorted
      refine ⟨?_, ?_⟩
      · rw [Machine.outputs_cons, taken, List.map_cons, answers]
      · rw [after, Machine.final_cons, taken]
        refine last.trans ?_
        rw [List.getLast?_cons]
        cases rest.getLast? <;> rfl

/-- **What comes again is not taken**: a tracker that is not behind leaves itself alone. -/
theorem after_behind {tracker : TradingPhaseTracker} {updates : List TradingPhaseUpdate}
    (behind : ∀ event ∈ updates, place event ≤ tracker.sequence.toNat) :
    tracker.after updates = tracker := by
  induction updates with
  | nil => rfl
  | cons event rest ih =>
      have same : (tracker.apply event).1 = tracker := by
        rw [apply_state, if_neg fun taken => Nat.not_lt.mpr (behind event List.mem_cons_self) taken.2]
      rw [after, Machine.final_cons, same]
      exact ih fun later member => behind later (List.mem_cons_of_mem _ member)

end Markets.TradingPhaseTracker

namespace Providers

/-! ### What rows tell -/

/-- The phase update that an event is. -/
def phaseOf : MarketEvent → Option TradingPhaseUpdate
  | .tradingPhaseUpdate event => some event
  | .bookOrder _ | .bookTrade _ => none

/-- The phase updates among some publications, in order. -/
def phaseUpdates (published : List (EventKind × Option MarketEvent)) : List TradingPhaseUpdate :=
  published.filterMap fun said => said.2.bind phaseOf

/-- What an update tells. -/
def content (update : TradingPhaseUpdate) : TradingPhase × Sequence :=
  (update.tradingPhase, update.header.exchangeSeq)

/-- What an event tells of the phase. -/
def eventContent (event : Option MarketEvent) : Option (TradingPhase × Sequence) :=
  (event.bind phaseOf).map content

/-- The phase that a row tells. -/
def Tonglian.Row.phase (context : Tonglian.MappingContext) : Tonglian.Row → Option TradingPhase
  | .order row =>
      if context.market = .shanghai ∧ row.orderKind = 'S' ∧ row.tradingPhase ≠ .unknown then
        some row.tradingPhase
      else none
  | .transaction _ => none

/-- The phase that a row tells. -/
def Csmar.Row.phase (context : Csmar.MappingContext) : Csmar.Row → Option TradingPhase
  | .shanghaiOrder row =>
      if context.market = .shanghai ∧ row.unixTimeMs ≠ 0 ∧ row.orderType = 'S' ∧
          Csmar.shanghaiPhase row.orderCode ≠ .unknown then
        some (Csmar.shanghaiPhase row.orderCode)
      else none
  | .shanghaiTransaction _ | .shenzhenOrder _ | .shenzhenTransaction _ => none

section Rows

variable [TradingCore]

/-- An order tells no phase. -/
theorem eventContent_storeOrder (map : BookOrder → MapResult × BookOrder) :
    eventContent (mappedEvent fun out : OrderMapOutput => out.storeOrder map) = none := by
  show eventContent (OrderMapOutput.named _) = none
  unfold OrderMapOutput.storeOrder storeMember
  dsimp only
  split_ifs <;> rfl

/-- A transaction tells no phase. -/
theorem eventContent_transaction (map : TransactionMapOutput → MapResult × TransactionMapOutput) :
    eventContent (mappedEvent map) = none := by
  show eventContent (TransactionMapOutput.named _) = none
  unfold TransactionMapOutput.named
  split <;> rfl

/-- A status tells its phase, if that is known. -/
theorem eventContent_mapPhase (context : EventContext) (view : OrderView)
    (status : view.kind = .tradingPhase) :
    eventContent (mappedEvent fun out : OrderMapOutput =>
        out.storePhase (Sse.mapPhase context view)) =
      if view.tradingPhase ≠ .unknown then some (view.tradingPhase, view.exchangeSeq) else none := by
  show eventContent (OrderMapOutput.named _) = _
  unfold OrderMapOutput.storePhase storeMember Sse.mapPhase
  by_cases unknown : view.tradingPhase = .unknown
  · have rejected : view.kind ≠ .tradingPhase ∨ view.tradingPhase = .unknown := Or.inr unknown
    rw [if_neg (not_not.mpr unknown)]
    simp only [if_pos rejected]
    rfl
  · have known : ¬ (view.kind ≠ .tradingPhase ∨ view.tradingPhase = .unknown) :=
      not_or.mpr ⟨not_not.mpr status, unknown⟩
    simp only [if_neg known, if_pos unknown]
    rfl

/-- **What a row publishes tells the phase of the row.** -/
theorem Tonglian.Row.eventContent_publication (context : Tonglian.MappingContext)
    (row : Tonglian.Row) :
    (row.publication context).bind (fun said => eventContent said.2) =
      (row.phase context).map fun phase => (phase, row.bizIndex) := by
  have single (event : Option MarketEvent) :
      (event.map fun event => (eventKindOf event, some event)).bind (fun said => eventContent said.2) =
        eventContent event := by
    cases event <;> rfl
  cases row with
  | order row =>
      refine (single _).trans ?_
      unfold Tonglian.mapAcceptedOrderRow Tonglian.Row.phase
      dsimp only
      by_cases status : row.orderKind = 'S'
      · simp only [if_pos status]
        unfold Tonglian.mapStatusRow
        by_cases market : context.market = .shanghai
        · have served : ¬ (context.market ≠ .shanghai ∨ row.orderKind ≠ 'S') :=
            not_or.mpr ⟨not_not.mpr market, not_not.mpr status⟩
          simp only [if_neg served]
          rw [eventContent_mapPhase context.eventContext (Tonglian.statusView row) rfl]
          simp only [market, status, Tonglian.statusView, true_and, ne_eq,
            apply_ite (Option.map _), Option.map_some, Option.map_none]
          rfl
        · have refused : context.market ≠ .shanghai ∨ row.orderKind ≠ 'S' := Or.inl market
          simp only [if_pos refused]
          rw [if_neg fun told => market told.1]
          rfl
      · rw [if_neg fun told => status told.2.1]
        simp only [if_neg status]
        exact eventContent_storeOrder _
  | transaction row => exact (single _).trans (eventContent_transaction _)

/-- **What a row maps into tells the phase of the row.** -/
theorem Csmar.Row.eventContent_event (context : Csmar.MappingContext) (row : Csmar.Row) :
    eventContent (row.event context) = (row.phase context).map fun phase => (phase, row.recordId) := by
  cases row with
  | shanghaiOrder row =>
      show eventContent (mappedEvent (Csmar.mapAcceptedShanghaiOrder context row)) = _
      unfold Csmar.mapAcceptedShanghaiOrder Csmar.Row.phase
      by_cases refused : context.market ≠ .shanghai ∨ row.unixTimeMs = 0
      · simp only [if_pos refused]
        rw [if_neg fun told => refused.elim (· told.1) told.2.1]
        rfl
      · obtain ⟨market, timed⟩ := not_or.mp refused
        simp only [if_neg refused]
        by_cases status : row.orderType = 'S'
        · simp only [if_pos status]
          rw [eventContent_mapPhase context.eventContext (Csmar.shanghaiStatusView row) rfl]
          simp only [not_not.mp market, timed, status, Csmar.shanghaiStatusView, true_and, ne_eq,
            not_false_eq_true, apply_ite (Option.map _), Option.map_some, Option.map_none]
          rfl
        · rw [if_neg fun told => status told.2.2.1]
          simp only [if_neg status]
          split_ifs <;> exact eventContent_storeOrder _
  | shanghaiTransaction row => exact eventContent_transaction _
  | shenzhenOrder row =>
      show eventContent (mappedEvent (Csmar.mapAcceptedShenzhenOrder context row)) = none
      unfold Csmar.mapAcceptedShenzhenOrder
      split_ifs
      · rfl
      · exact eventContent_storeOrder _
  | shenzhenTransaction row => exact eventContent_transaction _

/-! ### What runs tell -/

/-- What a call tells: the phase and the number of its row, if the gate accepts it. -/
def toldBy {Row : Type} (continuity : Option ContinuityObservation) (row : Option Row)
    (phase : Row → Option TradingPhase) (number : Row → Sequence) : Option (TradingPhase × Sequence) :=
  if continuity.any ContinuityObservation.accepted then
    row.bind fun row => (phase row).map fun phase => (phase, number row)
  else none

/-- What the accepted rows of a run tell, in order. -/
def Tonglian.TonglianMapper.told (mapper : Tonglian.TonglianMapper)
    (calls : List Tonglian.TonglianCall) : List (TradingPhase × Sequence) :=
  (calls.zip (mapper.answers calls)).filterMap fun pair =>
    toldBy pair.2.continuity pair.1.row (Tonglian.Row.phase mapper.context) Tonglian.Row.bizIndex

/-- What the accepted rows of a run tell, in order. -/
def Csmar.CsmarMapper.told (mapper : Csmar.CsmarMapper) (calls : List Csmar.CsmarCall) :
    List (TradingPhase × Sequence) :=
  (calls.zip (mapper.answers calls)).filterMap fun pair =>
    toldBy pair.2.continuity pair.1.row (Csmar.Row.phase mapper.context) Csmar.Row.recordId

theorem Tonglian.call_told (mapper : Tonglian.TonglianMapper) (input : Tonglian.TonglianCall) :
    ((mapper.call input).2.publication.bind fun said => eventContent said.2) =
      toldBy (mapper.call input).2.continuity input.row (Tonglian.Row.phase mapper.context)
        Tonglian.Row.bizIndex := by
  cases carries : input.row with
  | none =>
      rw [(Tonglian.call_silent mapper carries).1, toldBy]
      split_ifs <;> rfl
  | some row =>
      rw [Tonglian.call_publication mapper carries, mapper.call_continuity carries, toldBy,
        Option.any_some]
      split_ifs
      · exact row.eventContent_publication mapper.context
      · rfl

theorem Csmar.call_told (mapper : Csmar.CsmarMapper) (input : Csmar.CsmarCall) :
    ((mapper.call input).2.publication.bind fun said => eventContent said.2) =
      toldBy (mapper.call input).2.continuity input.row (Csmar.Row.phase mapper.context)
        Csmar.Row.recordId := by
  rcases input.cases_row with ⟨partition, sequence, rfl⟩ | ⟨row, carries⟩
  · rfl
  · rw [mapper.call_publication carries, (mapper.call_observes carries).2, carries, toldBy,
      Option.any_some]
    split_ifs
    · rw [Option.bind_some, ← row.eventContent_event mapper.context]
      cases row.event mapper.context <;> rfl
    · rfl

omit [TradingCore] in
/-- What is published tells its phases. -/
theorem map_content_phaseUpdates (published : List (EventKind × Option MarketEvent)) :
    (phaseUpdates published).map content = published.filterMap fun said => eventContent said.2 :=
  List.map_filterMap

/-- **The updates that are published are what the accepted rows tell.** -/
theorem Tonglian.phaseUpdates_told (mapper : Tonglian.TonglianMapper)
    (calls : List Tonglian.TonglianCall) :
    (phaseUpdates (mapper.published calls)).map content = mapper.told calls := by
  rw [map_content_phaseUpdates, Tonglian.TonglianMapper.published, Machine.emitted,
    List.filterMap_filterMap, Tonglian.TonglianMapper.told]
  refine Machine.emitted_zip Tonglian.TonglianMapper.call (fun later => later.context = mapper.context)
    (fun later input same => (later.call_context input).trans same) (fun later input same => ?_)
    rfl calls
  rw [← same]
  exact Tonglian.call_told later input

theorem Csmar.phaseUpdates_told (mapper : Csmar.CsmarMapper) (calls : List Csmar.CsmarCall) :
    (phaseUpdates (mapper.published calls)).map content = mapper.told calls := by
  rw [map_content_phaseUpdates, Csmar.CsmarMapper.published, Machine.emitted,
    List.filterMap_filterMap, Csmar.CsmarMapper.told]
  refine Machine.emitted_zip Csmar.CsmarMapper.call (fun later => later.context = mapper.context)
    (fun later input same => (later.call_context input).trans same) (fun later input same => ?_)
    rfl calls
  rw [← same]
  exact Csmar.call_told later input

/-! ### What the tracker shows -/

omit [TradingCore] in
/-- What is told is a known phase. -/
theorem toldBy_known {Row : Type} {continuity : Option ContinuityObservation} {row : Option Row}
    {phase : Row → Option TradingPhase} {number : Row → Sequence} {said : TradingPhase × Sequence}
    (known : ∀ row, phase row ≠ some .unknown)
    (told : toldBy continuity row phase number = some said) : said.1 ≠ .unknown := by
  unfold toldBy at told
  split_ifs at told
  obtain ⟨row, -, mapped⟩ := Option.bind_eq_some_iff.mp told
  obtain ⟨phase, same, rfl⟩ := Option.map_eq_some_iff.mp mapped
  intro unknown
  exact known row (same.trans (congrArg some unknown))

theorem Tonglian.told_known (mapper : Tonglian.TonglianMapper) (calls : List Tonglian.TonglianCall) :
    ∀ said ∈ mapper.told calls, said.1 ≠ .unknown := by
  intro said member
  obtain ⟨pair, -, told⟩ := List.mem_filterMap.mp member
  refine toldBy_known (fun row => ?_) told
  cases row with
  | order row =>
      unfold Tonglian.Row.phase
      dsimp only
      split_ifs with status
      · exact fun unknown => status.2.2 (Option.some.inj unknown)
      · nofun
  | transaction row => nofun

theorem Csmar.told_known (mapper : Csmar.CsmarMapper) (calls : List Csmar.CsmarCall) :
    ∀ said ∈ mapper.told calls, said.1 ≠ .unknown := by
  intro said member
  obtain ⟨pair, -, told⟩ := List.mem_filterMap.mp member
  refine toldBy_known (fun row => ?_) told
  cases row with
  | shanghaiOrder row =>
      unfold Csmar.Row.phase
      dsimp only
      split_ifs with status
      · exact fun unknown => status.2.2.2 (Option.some.inj unknown)
      · nofun
  | shanghaiTransaction row | shenzhenOrder row | shenzhenTransaction row => nofun

omit [TradingCore] in
/-- An event that is a phase update. -/
theorem eq_of_phaseOf {event : MarketEvent} {update : TradingPhaseUpdate}
    (same : phaseOf event = some update) : event = .tradingPhaseUpdate update := by
  cases event with
  | tradingPhaseUpdate other => exact congrArg _ (Option.some.inj same)
  | bookOrder | bookTrade => cases same

omit [TradingCore] in
/-- **The numbers of the phase updates climb** where those of all events do. -/
theorem phaseUpdates_increasing {S I O : Type} {step : S → I → S × O} {inv : S → Prop}
    {allowed : I → Prop} {cursor : S → ℕ} {publication : O → Option (EventKind × Option MarketEvent)}
    (climbs : Machine.Climbs step inv allowed cursor (fun answer => (publication answer).bind Prod.snd)
      fun event => event.header.exchangeSeq.toNat)
    (state : S) {inputs : List I} (holds : inv state) (all : ∀ input ∈ inputs, allowed input) :
    (cursor state :: (phaseUpdates (Machine.emitted step publication state inputs)).map
      TradingPhaseTracker.place).Pairwise (· < ·) := by
  have among : phaseUpdates (Machine.emitted step publication state inputs) =
      (Machine.emitted step (fun answer => (publication answer).bind Prod.snd) state inputs).filterMap
        phaseOf := by
    rw [phaseUpdates, Machine.emitted, Machine.emitted, List.filterMap_filterMap,
      List.filterMap_filterMap]
    refine List.filterMap_congr fun answer _ => ?_
    cases publication answer <;> rfl
  obtain ⟨above, sorted⟩ := List.pairwise_cons.mp (climbs.pairwise holds all)
  rw [among]
  refine List.pairwise_cons.mpr ⟨fun number member => ?_,
    List.pairwise_map.mpr (List.Pairwise.filterMap phaseOf ?_ (List.pairwise_map.mp sorted))⟩
  · obtain ⟨update, there, rfl⟩ := List.mem_map.mp member
    obtain ⟨event, published, same⟩ := List.mem_filterMap.mp there
    obtain rfl := eq_of_phaseOf same
    exact above _ (List.mem_map_of_mem published)
  · intro earlier later lower one same two other
    obtain rfl := eq_of_phaseOf same
    obtain rfl := eq_of_phaseOf other
    exact lower

/-- The tracker that shows what was told, or nothing. -/
def showing : Option (TradingPhase × Sequence) → TradingPhaseTracker
  | none => {}
  | some (phase, sequence) => { phase, sequence }

/-- **A fresh tracker follows what rows told**: the updates are what was told, in order; the tracker
takes every one of them, shows the last thing that was told, and is not moved when updates come again,
in any order. -/
structure PhasesFollowed (updates : List TradingPhaseUpdate) (told : List (TradingPhase × Sequence)) :
    Prop where
  same : updates.map content = told
  taken : Machine.outputs TradingPhaseTracker.apply {} updates = updates.map fun _ => .applied
  shown : TradingPhaseTracker.after {} updates = showing told.getLast?
  again : ∀ others ⊆ updates,
    (TradingPhaseTracker.after {} updates).after others = TradingPhaseTracker.after {} updates

omit [TradingCore] in
theorem followed_of_increasing {updates : List TradingPhaseUpdate}
    {told : List (TradingPhase × Sequence)} (same : updates.map content = told)
    (known : ∀ said ∈ told, said.1 ≠ .unknown)
    (increasing : (0 :: updates.map TradingPhaseTracker.place).Pairwise (· < ·)) :
    PhasesFollowed updates told := by
  obtain ⟨above, sorted⟩ := List.pairwise_cons.mp increasing
  have supported : ∀ event ∈ updates, TradingPhaseTracker.supported event = true := by
    intro event member
    refine decide_eq_true ⟨?_, fun zero => ?_⟩
    · exact known (content event) (same ▸ List.mem_map_of_mem member)
    · have positive := above _ (List.mem_map_of_mem member)
      rw [TradingPhaseTracker.place, zero] at positive
      exact Nat.lt_irrefl _ positive
  obtain ⟨taken, last⟩ := TradingPhaseTracker.after_increasing {} supported increasing
  refine ⟨same, taken, ?_, fun others inside => TradingPhaseTracker.after_behind fun event member => ?_⟩
  · rw [last, ← same, List.getLast?_map]
    cases updates.getLast? <;> rfl
  · rw [last]
    rcases List.eq_nil_or_concat' updates with rfl | ⟨front, final, rfl⟩
    · cases inside member
    rw [List.getLast?_concat]
    rw [List.map_append] at sorted
    rcases List.mem_append.mp (inside member) with earlier | here
    · exact Nat.le_of_lt ((List.pairwise_append.mp sorted).2.2 _ (List.mem_map_of_mem earlier) _
        List.mem_cons_self)
    · rw [List.mem_singleton.mp here]
      exact Nat.le_refl _

end Rows

/-- **The trading phase follows the rows.** A Tonglian mapper that is not reset, or a CSMAR mapper, is
called with anything, and a fresh tracker is given the phase updates that are published. They are what
the accepted rows told, in order; the tracker takes each of them, and shows the phase and the number of the last accepted row that tells a phase. Updates that
come again do not move it. -/
theorem phases_followed [TradingCore] :
    (∀ (context : Tonglian.MappingContext) (calls : List Tonglian.TonglianCall),
      (∀ input ∈ calls, input ≠ .reset) →
      let mapper : Tonglian.TonglianMapper := { context }
      PhasesFollowed (phaseUpdates (mapper.published calls)) (mapper.told calls)) ∧
    ∀ (context : Csmar.MappingContext) (calls : List Csmar.CsmarCall),
      let mapper : Csmar.CsmarMapper := { context }
      PhasesFollowed (phaseUpdates (mapper.published calls)) (mapper.told calls) := by
  refine ⟨fun context calls never => ?_, fun context calls => ?_⟩
  · exact followed_of_increasing (Tonglian.phaseUpdates_told _ calls) (Tonglian.told_known _ calls)
      (phaseUpdates_increasing Tonglian.climbs { context } (fun _ => rfl) never)
  · exact followed_of_increasing (Csmar.phaseUpdates_told _ calls) (Csmar.told_known _ calls)
      (phaseUpdates_increasing Csmar.climbs_fresh { context } (fun _ => rfl) fun _ _ => trivial)

/-- The opening call, then continuous trading, told twice. -/
theorem phases_followed_opening :
    letI := TradingCore.zeroed
    let status (number : Sequence) (phase : TradingPhase) : Tonglian.TonglianCall :=
      .mapOrder { channel := 3, bizIndex := number, orderKind := 'S', tradingPhase := phase } .empty
    let mapper : Tonglian.TonglianMapper := { context := { market := .shanghai } }
    TradingPhaseTracker.after {} (phaseUpdates (mapper.published
      [.completeRecovery 3 4, status 5 .openingCall, status 6 .continuous, status 6 .continuous])) =
        ⟨.continuous, 6⟩ := by
  let core : TradingCore := TradingCore.zeroed
  intro status mapper
  exact (phases_followed.1 { market := .shanghai } _ (by decide)).shown

end Providers

end MarketDataFabric
