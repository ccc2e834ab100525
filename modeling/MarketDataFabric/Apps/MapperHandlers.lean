/-
**The mapper handlers of the gateway**, `apps/gateway/src/binance_mapper_handlers.cpp`.

Both handlers are one function of the mapper they call, `mapperOnMessage`. The statistics they share
are an argument, absent where the handler has no pointer to them. A call of the logger that throws
ends the process here, so none is assumed to.

* `MapperStep`, `mapperOnMessage_step` — the four things a message can do to a handler.
* `warnings_quota`, `events_quota`, `mapper_tallied` — what a handler warns of, logs and counts.
* `mapper_words` — its counters are natural numbers, and the 64-bit ones of the source do the same for
  fewer than `2 ^ 64` messages.
* `mapper_handlers_exact` — **both handlers over any messages**: each message is an event or a failure,
  and the first of either are logged.
-/

import MarketDataFabric.Providers.Binance.Mappers
import MarketDataFabric.Service.MessageHandlers

namespace MarketDataFabric.Apps

open MarketDataFabric.Core MarketDataFabric.Feed Service Library Providers.Binance

/-- The members of `BinanceQuoteMapperHandler` and `BinanceTradeMapperHandler`, the pointer to the
statistics apart. -/
structure MapperHandler where
  context : Option BinanceMappingContext := none
  maxLoggedEvents : Nat := 0
  loggedEvents : Nat := 0
  logEvents : Bool := false
deriving Repr, DecidableEq

/-- A call of the logger: a warning that a message was not mapped, or an event and the context it was
mapped in. -/
inductive MapperLogLine (Event : Type) where
  | failed (feedId payloadSize : UInt32) (recvTsNs : UInt64)
  | mapped (context : BinanceMappingContext) (event : Event)
deriving Repr, DecidableEq

section Handler

variable {Event : Type}

def MapperLogLine.warning (message : FeedMessageView) : MapperLogLine Event :=
  .failed message.envelope.feedId message.envelope.payloadSize message.envelope.recvTsNs

/-- What both handlers do with a message that is not mapped. -/
def onFailure (stats : Option MapperRuntimeStats) (message : FeedMessageView) :
    Option MapperRuntimeStats × Option (MapperLogLine Event) :=
  match stats with
  | none => (none, none)
  | some stats =>
      let stats := stats.observeFailure message
      (some stats, if stats.failures ≤ 3 then some (.warning message) else none)

/-- A handler of the mapper `map`, which answers whether it wrote an event. A handler never refuses
a message. -/
def mapperOnMessage (map : FeedMessageView → BinanceMappingContext → Bool × Event)
    (state : MapperHandler × Option MapperRuntimeStats) (message : FeedMessageView) :
    (MapperHandler × Option MapperRuntimeStats) × Bool × Option (MapperLogLine Event) :=
  let (handler, stats) := state
  match handler.context with
  | none =>
      let (stats, line) := onFailure stats message
      ((handler, stats), true, line)
  | some context =>
      match map message context with
      | (false, _) =>
          let (stats, line) := onFailure stats message
          ((handler, stats), true, line)
      | (true, event) =>
          let stats := stats.map fun stats => stats.observeSuccess message
          if handler.logEvents = false ∨ handler.maxLoggedEvents = 0 ∨
              handler.loggedEvents ≥ handler.maxLoggedEvents then
            ((handler, stats), true, none)
          else
            (({ handler with loggedEvents := handler.loggedEvents + 1 }, stats), true,
              some (.mapped context event))

variable [QuoteCore]

/-- The mapper of the quote handler, which writes to a fresh quote. -/
def mapToQuote (message : FeedMessageView) (context : BinanceMappingContext) : Bool × Quote :=
  mapBookTickerMessageToQuote message context QuoteCore.quote

def mapToTrade (message : FeedMessageView) (context : BinanceMappingContext) : Bool × Trade :=
  mapTradeMessageToTrade message context QuoteCore.trade

/-- `BinanceQuoteMapperHandler::on_message`. -/
abbrev quoteOnMessage := mapperOnMessage mapToQuote

/-- `BinanceTradeMapperHandler::on_message`. -/
abbrev tradeOnMessage := mapperOnMessage mapToTrade

end Handler

/-! ### One handler -/

section Run

variable {Event : Type} {map : FeedMessageView → BinanceMappingContext → Bool × Event}

/-- The event of a message, if the handler has a context and the mapper writes one. -/
def eventOf (map : FeedMessageView → BinanceMappingContext → Bool × Event)
    (context : Option BinanceMappingContext) (message : FeedMessageView) :
    Option (BinanceMappingContext × Event) :=
  context.bind fun context =>
    match map message context with
    | (false, _) => none
    | (true, event) => some (context, event)

/-- **What a message does to a handler with statistics**: it is an event, logged while there is room,
or a failure, warned of the first three times. -/
inductive MapperStep (map : FeedMessageView → BinanceMappingContext → Bool × Event)
    (handler : MapperHandler) (stats : MapperRuntimeStats) (message : FeedMessageView) :
    MapperHandler × Option MapperRuntimeStats → Option (MapperLogLine Event) → Prop
  | warned : eventOf map handler.context message = none → stats.failures < 3 →
      MapperStep map handler stats message (handler, some (stats.observeFailure message))
        (some (.warning message))
  | failed : eventOf map handler.context message = none → 3 ≤ stats.failures →
      MapperStep map handler stats message (handler, some (stats.observeFailure message)) none
  | logged (context : BinanceMappingContext) (event : Event) :
      eventOf map handler.context message = some (context, event) →
      handler.logEvents = true → handler.loggedEvents < handler.maxLoggedEvents →
      MapperStep map handler stats message
        ({ handler with loggedEvents := handler.loggedEvents + 1 },
          some (stats.observeSuccess message))
        (some (.mapped context event))
  | mapped (context : BinanceMappingContext) (event : Event) :
      eventOf map handler.context message = some (context, event) →
      (handler.logEvents = true → handler.maxLoggedEvents ≤ handler.loggedEvents) →
      MapperStep map handler stats message (handler, some (stats.observeSuccess message)) none

theorem mapperOnMessage_step (handler : MapperHandler) (stats : MapperRuntimeStats)
    (message : FeedMessageView) :
    (mapperOnMessage map (handler, some stats) message).2.1 = true ∧
      MapperStep map handler stats message (mapperOnMessage map (handler, some stats) message).1
        (mapperOnMessage map (handler, some stats) message).2.2 := by
  have failure : eventOf map handler.context message = none →
      MapperStep map handler stats message (handler, some (stats.observeFailure message))
        (if stats.failures + 1 ≤ 3 then some (.warning message) else none) := by
    intro unmapped
    split_ifs with early
    · exact .warned unmapped early
    · exact .failed unmapped (Nat.le_of_not_lt early)
  cases here : handler.context with
  | none =>
      simp only [mapperOnMessage, here]
      exact ⟨trivial, failure (by rw [eventOf, here]; rfl)⟩
  | some context =>
      cases written : map message context with
      | mk answer event =>
          cases answer with
          | false =>
              simp only [mapperOnMessage, here, written]
              exact ⟨trivial, failure (by rw [eventOf, here, Option.bind_some, written])⟩
          | true =>
              have mapped : eventOf map handler.context message = some (context, event) := by
                rw [eventOf, here, Option.bind_some, written]
              simp only [mapperOnMessage, here, written]
              split_ifs with quiet
              · refine ⟨rfl, .mapped context event mapped fun logs => ?_⟩
                rcases quiet with silent | none | full
                · rw [logs] at silent
                  cases silent
                · rw [none]
                  exact Nat.zero_le _
                · exact full
              · obtain ⟨logs, -, room⟩ := not_or.mp quiet |>.imp_right not_or.mp
                have step : MapperStep map handler stats message
                    ({ handler with loggedEvents := handler.loggedEvents + 1 },
                      some (stats.observeSuccess message)) (some (.mapped context event)) :=
                  .logged context event mapped (Bool.not_eq_false _ ▸ logs) (Nat.lt_of_not_le room)
                rw [here] at step
                exact ⟨rfl, step⟩

/-! #### Runs -/

def MapperLogLine.isWarning : MapperLogLine Event → Bool
  | .failed _ _ _ => true
  | .mapped _ _ => false

/-- The warning a message is worth. -/
def warningOf (map : FeedMessageView → BinanceMappingContext → Bool × Event)
    (context : Option BinanceMappingContext) (message : FeedMessageView) :
    Option (MapperLogLine Event) :=
  if (eventOf map context message).isSome then none else some (.warning message)

/-- The event line a message is worth. -/
def eventLineOf (map : FeedMessageView → BinanceMappingContext → Bool × Event)
    (context : Option BinanceMappingContext) (message : FeedMessageView) :
    Option (MapperLogLine Event) :=
  (eventOf map context message).map fun mapped => .mapped mapped.1 mapped.2

/-- The handler has its statistics, and what it was wired with. -/
def Wired (handler : MapperHandler) (state : MapperHandler × Option MapperRuntimeStats) : Prop :=
  state.1.context = handler.context ∧ state.1.maxLoggedEvents = handler.maxLoggedEvents ∧
    state.1.logEvents = handler.logEvents ∧ ∃ stats, state.2 = some stats

theorem MapperStep.wired {handler fresh : MapperHandler} {stats : MapperRuntimeStats}
    {message : FeedMessageView} {next : MapperHandler × Option MapperRuntimeStats}
    {line : Option (MapperLogLine Event)} (step : MapperStep map fresh stats message next line)
    (wired : Wired handler (fresh, some stats)) : Wired handler next := by
  obtain ⟨context, limit, logs, -⟩ := wired
  cases step with
  | warned | failed | logged | mapped => exact ⟨context, limit, logs, _, rfl⟩

/-- **The warnings have a quota of three.** -/
theorem warnings_quota (handler : MapperHandler) :
    Quota (mapperOnMessage map) (Wired handler) (warningOf map handler.context)
      (fun output => output.2.filter MapperLogLine.isWarning)
      (fun state => some (3 - (state.2.map MapperRuntimeStats.failures).getD 0)) := by
  rintro ⟨fresh, stats⟩ message wired
  obtain ⟨stats, rfl⟩ := wired.2.2.2
  obtain ⟨-, step⟩ := @mapperOnMessage_step _ map fresh stats message
  refine ⟨step.wired wired, ?_⟩
  rw [warningOf, ← wired.1]
  generalize (mapperOnMessage map (fresh, some stats) message).1 = next at step ⊢
  generalize (mapperOnMessage map (fresh, some stats) message).2 = output at step ⊢
  obtain ⟨answer, line⟩ := output
  cases step with
  | warned unmapped early =>
      rw [unmapped]
      show Spends (some _) (some (3 - stats.failures)) (some _) (some (3 - (stats.failures + 1)))
      rw [show 3 - stats.failures = 3 - (stats.failures + 1) + 1 by omega]
      exact .spends _ _
  | failed unmapped late =>
      rw [unmapped]
      show Spends (some _) (some (3 - stats.failures)) none (some (3 - (stats.failures + 1)))
      rw [Nat.sub_eq_zero_of_le late, Nat.sub_eq_zero_of_le (Nat.le_succ_of_le late)]
      exact .refuses _
  | logged context event mapped | mapped context event mapped =>
      rw [mapped]
      exact .declines _

/-- **The event lines have the quota of the handler**, which is none where it logs no events. -/
theorem events_quota (handler : MapperHandler) :
    Quota (mapperOnMessage map) (Wired handler) (eventLineOf map handler.context)
      (fun output => output.2.filter fun line => !line.isWarning)
      (fun state =>
        some (if state.1.logEvents then state.1.maxLoggedEvents - state.1.loggedEvents else 0)) := by
  rintro ⟨fresh, stats⟩ message wired
  obtain ⟨stats, rfl⟩ := wired.2.2.2
  obtain ⟨-, step⟩ := @mapperOnMessage_step _ map fresh stats message
  refine ⟨step.wired wired, ?_⟩
  rw [eventLineOf, ← wired.1]
  generalize (mapperOnMessage map (fresh, some stats) message).1 = next at step ⊢
  generalize (mapperOnMessage map (fresh, some stats) message).2 = output at step ⊢
  obtain ⟨answer, line⟩ := output
  cases step with
  | warned unmapped | failed unmapped =>
      rw [unmapped]
      exact .declines _
  | logged context event mapped logs room =>
      rw [mapped]
      show Spends (some _) (some (if fresh.logEvents then _ else _)) (some _)
        (some (if fresh.logEvents then fresh.maxLoggedEvents - (fresh.loggedEvents + 1) else 0))
      rw [if_pos logs, if_pos logs, show fresh.maxLoggedEvents - fresh.loggedEvents =
        fresh.maxLoggedEvents - (fresh.loggedEvents + 1) + 1 by omega]
      exact .spends _ _
  | mapped context event mapped quiet =>
      have none : (if fresh.logEvents then fresh.maxLoggedEvents - fresh.loggedEvents else 0) = 0 := by
        split_ifs with logs
        · exact Nat.sub_eq_zero_of_le (quiet logs)
        · rfl
      rw [mapped]
      show Spends (some _) (some (if fresh.logEvents then _ else _)) _
        (some (if fresh.logEvents then _ else _))
      rw [none]
      exact .refuses _

/-- The statistics count every message. -/
theorem mapper_tallied (handler : MapperHandler) (messages : List FeedMessageView) :
    ∃ stats, (Machine.final (mapperOnMessage map) (handler, some {}) messages).2 = some stats ∧
      Tallied (fun message => (eventOf map handler.context message).isSome) messages stats := by
  let holds : List FeedMessageView → MapperHandler × Option MapperRuntimeStats → Prop :=
    fun views state => Wired handler state ∧ ∃ stats, state.2 = some stats ∧
      Tallied (fun message => (eventOf map handler.context message).isSome) views stats
  have start : holds [] (handler, some {}) := ⟨⟨rfl, rfl, rfl, _, rfl⟩, {}, rfl, .nil _⟩
  refine (Machine.final_history (mapperOnMessage map) holds (fun _ => True) ?_ start
    fun _ _ => trivial).2
  rintro views ⟨fresh, stats⟩ message ⟨wired, stats, rfl, counted⟩ -
  obtain ⟨-, step⟩ := @mapperOnMessage_step _ map fresh stats message
  refine ⟨step.wired wired, _, ?_, counted.observe message⟩
  generalize (mapperOnMessage map (fresh, some stats) message).1 = next at step ⊢
  generalize (mapperOnMessage map (fresh, some stats) message).2.2 = line at step
  rw [← wired.1]
  cases step with
  | warned unmapped | failed unmapped =>
      rw [unmapped]
      rfl
  | logged context event mapped | mapped context event mapped =>
      rw [mapped]
      rfl

/-- A handler never refuses a message. -/
theorem mapper_accepts (state : MapperHandler × Option MapperRuntimeStats)
    (message : FeedMessageView) : (mapperOnMessage map state message).2.1 = true := by
  obtain ⟨handler, stats⟩ := state
  unfold mapperOnMessage
  dsimp only
  split
  · rfl
  · split
    · rfl
    · split_ifs <;> rfl

/-- **What a mapper handler does with its messages**: each is counted as an event or as a failure, none
is refused, the first three failures are warned of, and the first events are logged, as many as the
handler may still log. -/
structure MapperAccount (map : FeedMessageView → BinanceMappingContext → Bool × Event)
    (handler : MapperHandler) (messages : List FeedMessageView) : Prop where
  counted : ∃ stats,
    (Machine.final (mapperOnMessage map) (handler, some {}) messages).2 = some stats ∧
      Tallied (fun message => (eventOf map handler.context message).isSome) messages stats
  accepts : ∀ output ∈ Machine.outputs (mapperOnMessage map) (handler, some {}) messages,
    output.1 = true
  warnings :
    ((Machine.outputs (mapperOnMessage map) (handler, some {}) messages).filterMap Prod.snd).filter
        MapperLogLine.isWarning =
      (messages.filterMap (warningOf map handler.context)).take 3
  events :
    ((Machine.outputs (mapperOnMessage map) (handler, some {}) messages).filterMap Prod.snd).filter
        (fun line => !line.isWarning) =
      (messages.filterMap (eventLineOf map handler.context)).take
        (if handler.logEvents then handler.maxLoggedEvents - handler.loggedEvents else 0)

theorem mapper_account (handler : MapperHandler) (messages : List FeedMessageView) :
    MapperAccount map handler messages where
  counted := mapper_tallied handler messages
  accepts := Machine.outputs_invariant (mapperOnMessage map) (fun _ => True) (fun _ => True)
    (fun output => output.1 = true) (fun state message _ _ => ⟨trivial, mapper_accepts state message⟩)
    trivial fun _ _ => trivial
  warnings := by
    rw [List.filter_filterMap]
    exact (warnings_quota handler).emitted_eq ⟨rfl, rfl, rfl, _, rfl⟩ messages
  events := by
    rw [List.filter_filterMap]
    exact (events_quota handler).emitted_eq ⟨rfl, rfl, rfl, _, rfl⟩ messages

/-! #### 64-bit counters -/

/-- The counters, as 64-bit words hold them. -/
def MapperHandler.wrapped (handler : MapperHandler) : MapperHandler :=
  { handler with loggedEvents := handler.loggedEvents % 2 ^ 64 }

/-- `mapperOnMessage`, its counters wrapping. A failure is warned of by the number it has just got; an
event is logged by the number logged before. -/
def mapperOnMessageWords (map : FeedMessageView → BinanceMappingContext → Bool × Event)
    (state : MapperHandler × Option MapperRuntimeStats) (message : FeedMessageView) :
    (MapperHandler × Option MapperRuntimeStats) × Bool × Option (MapperLogLine Event) :=
  let ((handler, stats), answer, line) := mapperOnMessage map state message
  let stats := stats.map MapperRuntimeStats.wrapped
  let line :=
    match eventOf map handler.context message, stats with
    | none, some stats => if stats.failures ≤ 3 then some (.warning message) else none
    | none, none | some _, _ => line
  ((handler.wrapped, stats), answer, line)

/-- A handler with statistics that has logged no more than `base` and its messages. -/
def Counting (base : ℕ) (state : MapperHandler × Option MapperRuntimeStats) : Prop :=
  ∃ stats, state.2 = some stats ∧ stats.outputEvents + stats.failures = stats.inputMessages ∧
    state.1.loggedEvents ≤ base + stats.inputMessages

/-- The messages counted so far. -/
def countedMessages (state : MapperHandler × Option MapperRuntimeStats) : ℕ :=
  (state.2.map MapperRuntimeStats.inputMessages).getD 0

/-- Every message is counted. -/
theorem Counting.step {base : ℕ} {state : MapperHandler × Option MapperRuntimeStats}
    (counting : Counting base state) (message : FeedMessageView) :
    Counting base (mapperOnMessage map state message).1 ∧
      countedMessages (mapperOnMessage map state message).1 = countedMessages state + 1 := by
  obtain ⟨handler, _⟩ := state
  obtain ⟨stats, rfl, balance, logged⟩ := counting
  have logged : handler.loggedEvents ≤ base + stats.inputMessages := logged
  have failure : stats.outputEvents + (stats.failures + 1) = stats.inputMessages + 1 := by omega
  have success : stats.outputEvents + 1 + stats.failures = stats.inputMessages + 1 := by omega
  obtain ⟨-, step⟩ := @mapperOnMessage_step _ map handler stats message
  generalize (mapperOnMessage map (handler, some stats) message).1 = next at step ⊢
  generalize (mapperOnMessage map (handler, some stats) message).2.2 = line at step
  cases step with
  | warned | failed => exact ⟨⟨_, rfl, failure, logged.trans (Nat.le_succ _)⟩, rfl⟩
  | logged => exact ⟨⟨_, rfl, success, Nat.succ_le_succ logged⟩, rfl⟩
  | mapped => exact ⟨⟨_, rfl, success, logged.trans (Nat.le_succ _)⟩, rfl⟩

/-- **A message that makes no counter wrap** does the same to both handlers. -/
theorem mapperOnMessageWords_eq {base : ℕ} {state : MapperHandler × Option MapperRuntimeStats}
    (counting : Counting base state) (message : FeedMessageView)
    (fits : base + countedMessages (mapperOnMessage map state message).1 < 2 ^ 64) :
    mapperOnMessageWords map state message = mapperOnMessage map state message := by
  obtain ⟨⟨stats', present, balance', logged'⟩, -⟩ := @Counting.step _ map _ _ counting message
  obtain ⟨handler, _⟩ := state
  obtain ⟨stats, rfl, -, -⟩ := counting
  obtain ⟨-, step⟩ := @mapperOnMessage_step _ map handler stats message
  unfold mapperOnMessageWords
  generalize mapperOnMessage map (handler, some stats) message = result at *
  obtain ⟨⟨next, _⟩, answer, line⟩ := result
  obtain rfl : _ = some stats' := present
  have fits : base + stats'.inputMessages < 2 ^ 64 := fits
  have below : next.loggedEvents < 2 ^ 64 := Nat.lt_of_le_of_lt logged' fits
  have few : stats'.inputMessages < 2 ^ 64 := Nat.lt_of_le_of_lt (Nat.le_add_left _ _) fits
  have same : next.wrapped = next := by
    rw [MapperHandler.wrapped, Nat.mod_eq_of_lt below]
  simp only [same, Option.map_some, MapperRuntimeStats.wrapped_of_balance balance' few]
  cases step with
  | warned unmapped early =>
      have warns : (stats.observeFailure message).failures ≤ 3 := early
      rw [unmapped]
      simp only [if_pos warns]
  | failed unmapped late =>
      have quiet : ¬ (stats.observeFailure message).failures ≤ 3 :=
        Nat.not_le.mpr (Nat.lt_succ_of_le late)
      rw [unmapped]
      simp only [if_neg quiet]
  | logged context event mapped | mapped context event mapped => rw [mapped]

/-- **Fewer than `2 ^ 64` messages wrap no counter.** -/
theorem mapper_words (handler : MapperHandler) {messages : List FeedMessageView}
    (few : handler.loggedEvents + messages.length < 2 ^ 64) :
    Machine.final (mapperOnMessageWords map) (handler, some {}) messages =
        Machine.final (mapperOnMessage map) (handler, some {}) messages ∧
      Machine.outputs (mapperOnMessageWords map) (handler, some {}) messages =
        Machine.outputs (mapperOnMessage map) (handler, some {}) messages := by
  have start : Counting handler.loggedEvents (handler, some {}) :=
    ⟨{}, rfl, rfl, Nat.le_add_right _ _⟩
  refine (Machine.run_agrees (mapperOnMessage map) (Counting handler.loggedEvents)
    (fun state => handler.loggedEvents + countedMessages state < 2 ^ 64)
    (fun state message counting => (counting.step message).1)
    (fun state message counting fits => ?_)
    (fun state message counting => mapperOnMessageWords_eq counting message) start ?_).2
  · rw [(counting.step message).2] at fits
    omega
  · obtain ⟨stats, same, tallied⟩ := @mapper_tallied _ map handler messages
    rw [countedMessages, same]
    show handler.loggedEvents + stats.inputMessages < _
    rw [tallied.input]
    exact few

end Run

/-- **Both mapper handlers are exact**, whatever context, limit and history they have and whatever
messages they are given. -/
theorem mapper_handlers_exact [QuoteCore] (handler : MapperHandler) (messages : List FeedMessageView) :
    MapperAccount mapToQuote handler messages ∧ MapperAccount mapToTrade handler messages :=
  ⟨mapper_account handler messages, mapper_account handler messages⟩

end MarketDataFabric.Apps
