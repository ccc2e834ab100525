/-
**The live node**: `run_binance_live` of `apps/gateway/src/binance_live_runner.cpp`, the session of a
connection with the handlers that its arguments ask for.

`NodeMemory` is what the handlers have between two messages, and all they wrote to the log; a handler
acts on it through its user data. `runNode` is `runLive` with the answers of the pipeline.

* `Wiring`, `liveMemory_wiring` — at most one mapper is wired, and to a context of the only feed.
* `runNode_live` — **a node is a live session**: whatever holds of every live run holds of it.
* `payload_moves`, `mapper_moves` — what one step of a node does to each handler.
* `node_accounts` — hence the numbers it reports at its end are those of the messages it read.
-/

import MarketDataFabric.Apps.CliOptions
import MarketDataFabric.Apps.LiveAccounts
import MarketDataFabric.Apps.MapperHandlers
import MarketDataFabric.Providers.Binance.Feeds

namespace MarketDataFabric.Apps

open MarketDataFabric.Core MarketDataFabric.Feed Net Service Library Providers.Binance

/-! ### The options -/

def liveSpec (args : BinanceLiveArgs) : BinanceSymbolsSpec where
  market := .spot
  symbols := args.symbols
  kind := args.feedKind
  depth := if args.feedKind = .bookSnapshot then .top20 else .unknown

/-- A count of milliseconds is a signed word. -/
def milliseconds (count : UInt64) : Int := count.toInt64.toInt

def liveSessionOptions (args : BinanceLiveArgs) : FeedSessionOptions where
  maxMessages := args.maxMessages.toNat
  retry :=
    { maxAttempts := args.maxAttempts.toNat
      initialBackoff := milliseconds args.backoffMs
      maxBackoff := milliseconds args.maxBackoffMs
      reconnectOnCompleted := args.reconnectOnCompleted }

def payloadLogOptions (args : BinanceLiveArgs) : FeedPayloadLogOptions where
  maxPayloads := args.logPayloads.toNat
  maxPayloadBytes := args.payloadPreviewBytes.toNat
  logMetadata := args.logPayload
  logPayload := args.logPayload

def makeBinanceSpotInstrumentId (providerSymbol : List Char) : UInt32 :=
  stableIdOf ("binance:spot:".toList ++ providerSymbol)

def makeBinanceMappingContext (providerSymbol : List Char) (instrumentId : UInt32)
    (priceScale : Int := 8) (quantityScale : Int := 8) : BinanceMappingContext where
  instrumentId
  priceScale
  quantityScale
  providerSymbol

/-! ### The handlers -/

structure NodeMemory where
  payloadLog : FeedPayloadLogHandler
  payloadLines : List PayloadLogLine := []
  mapperStats : MapperRuntimeStats := {}
  quoteMapper : MapperHandler := {}
  quoteLines : List (MapperLogLine Quote) := []
  tradeMapper : MapperHandler := {}
  tradeLines : List (MapperLogLine Trade) := []

def payloadLogHandle : FeedMessageHandler NodeMemory := fun call memory =>
  let (payloadLog, accepts, line) := memory.payloadLog.onMessage call
  (accepts, { memory with payloadLog, payloadLines := memory.payloadLines ++ line.toList })

/-- A mapper is wired to the statistics of the node. -/
def quoteHandle [QuoteCore] : FeedMessageHandler NodeMemory := fun call memory =>
  let ((quoteMapper, stats), accepts, line) :=
    quoteOnMessage (memory.quoteMapper, some memory.mapperStats) call.message
  (accepts,
    { memory with
      quoteMapper
      mapperStats := stats.getD memory.mapperStats
      quoteLines := memory.quoteLines ++ line.toList })

def tradeHandle [QuoteCore] : FeedMessageHandler NodeMemory := fun call memory =>
  let ((tradeMapper, stats), accepts, line) :=
    tradeOnMessage (memory.tradeMapper, some memory.mapperStats) call.message
  (accepts,
    { memory with
      tradeMapper
      mapperStats := stats.getD memory.mapperStats
      tradeLines := memory.tradeLines ++ line.toList })

/-- The members of a mapper that is wired to a context. -/
def wiredMapper (args : BinanceLiveArgs) (context : BinanceMappingContext) : MapperHandler where
  context := some context
  maxLoggedEvents := args.logNormalizedEvents.toNat
  logEvents := args.logNormalized

def wireMappers (args : BinanceLiveArgs) (connection : BinanceConnectionSpec)
    (memory : NodeMemory) : NodeMemory :=
  if args.normalize then
    match connection.feeds with
    | [feed] =>
        if feed.providerSymbol = [] then memory
        else
          let context := makeBinanceMappingContext feed.providerSymbol
            (makeBinanceSpotInstrumentId feed.providerSymbol)
          if args.feedKind = .topOfBook then
            { memory with quoteMapper := wiredMapper args context }
          else if args.feedKind = .trade then
            { memory with tradeMapper := wiredMapper args context }
          else memory
    | [] | _ :: _ :: _ => memory
  else memory

/-- The memory before the first message. -/
def liveMemory (args : BinanceLiveArgs) (connection : BinanceConnectionSpec) : NodeMemory :=
  wireMappers args connection { payloadLog := { options := payloadLogOptions args } }

def handlerPipeline [QuoteCore] (args : BinanceLiveArgs) (memory : NodeMemory) :
    FeedMessagePipeline NodeMemory 4 :=
  let pipeline : FeedMessagePipeline NodeMemory 4 := {}
  let pipeline := if args.logPayload then (pipeline.add (some payloadLogHandle)).2 else pipeline
  let pipeline :=
    if memory.quoteMapper.context ≠ none then (pipeline.add (some quoteHandle)).2 else pipeline
  if memory.tradeMapper.context ≠ none then (pipeline.add (some tradeHandle)).2 else pipeline

/-! ### The node -/

/-- What `run_binance_live` has set up when it calls `run_feed_session`. -/
structure LiveNode where
  connection : FeedConnectionSpec
  options : FeedSessionOptions
  pipeline : FeedMessagePipeline NodeMemory 4

/-- A pipeline without handlers is not installed. -/
def LiveNode.installed (node : LiveNode) : Bool := !node.pipeline.empty

def liveNode [QuoteCore] (args : BinanceLiveArgs) (connection : BinanceConnectionSpec) : LiveNode where
  connection := connection.toFeedConnectionSpec
  options := liveSessionOptions args
  pipeline := handlerPipeline args (liveMemory args connection)

structure NodeRun where
  live : LiveRun := {}
  memory : NodeMemory

/-- What the environment of a node does. A message comes with what the load of the stop token sees and
whether the logger throws when the payload log calls it. -/
inductive NodeEvent where
  | poll (requested : Bool) (now : UInt64)
  | received (message : WebSocketMessageView) (requested logThrows : Bool)
  | network (event : NetworkEvent)
  | returned (requested : Bool)
deriving Repr, DecidableEq

/-- The logger throws when the payload log calls it. -/
def NodeEvent.logThrows : NodeEvent → Bool
  | .received _ _ logThrows => logThrows
  | .poll _ _ | .network _ | .returned _ => false

/-- What the pipeline would do with the message that the client makes of a frame. -/
def LiveNode.dispatch (node : LiveNode) (run : NodeRun) (message : WebSocketMessageView)
    (logThrows : Bool) : Bool × NodeMemory :=
  match run.live.attempt with
  | some attempt =>
      node.pipeline.onMessage
        { message := attempt.state.feedMessage node.connection message, logThrows } run.memory
  | none => (true, run.memory)

/-- The event of the live session. -/
def LiveNode.ask (node : LiveNode) (run : NodeRun) : NodeEvent → LiveEvent
  | .poll requested now => .poll requested now
  | .received message requested logThrows =>
      .received message requested (node.dispatch run message logThrows).1
  | .network event => .network event
  | .returned requested => .returned requested

/-- The memory moves where the session hands a message on. -/
def LiveNode.remember (node : LiveNode) (run : NodeRun) (action : SessionAction) :
    NodeEvent → NodeMemory
  | .received message _ logThrows =>
      if action.delivered = none then run.memory else (node.dispatch run message logThrows).2
  | .poll _ _ | .network _ | .returned _ => run.memory

/-- The node, from one event to the next. -/
def runNode (node : LiveNode) (run : NodeRun) (event : NodeEvent) : NodeRun × SessionAction :=
  let (live, action) :=
    runLive node.connection node.options node.installed run.live (node.ask run event)
  ({ live, memory := node.remember run action event }, action)

/-! ### The wiring -/

/-- **What can be wired**: no mapper, or one of the two. -/
inductive Wiring (args : BinanceLiveArgs) (payloadLog : FeedPayloadLogHandler) : NodeMemory → Prop
  | neither : Wiring args payloadLog { payloadLog }
  | quote (context : BinanceMappingContext) :
      Wiring args payloadLog { payloadLog, quoteMapper := wiredMapper args context }
  | trade (context : BinanceMappingContext) :
      Wiring args payloadLog { payloadLog, tradeMapper := wiredMapper args context }

theorem liveMemory_wiring (args : BinanceLiveArgs) (connection : BinanceConnectionSpec) :
    Wiring args { options := payloadLogOptions args } (liveMemory args connection) := by
  unfold liveMemory wireMappers
  rcases connection.feeds with _ | ⟨feed, _ | ⟨_, _⟩⟩ <;> dsimp only
  · split_ifs <;> exact .neither
  · split_ifs
    · exact .neither
    · exact .quote _
    · exact .trade _
    · exact .neither
    · exact .neither
  · split_ifs <;> exact .neither

/-- The handler of the payload log, if it is asked for. -/
def payloadLogHandles (args : BinanceLiveArgs) : List (FeedMessageHandler NodeMemory) :=
  if args.logPayload then [payloadLogHandle] else []

/-- **The handlers of a pipeline**, in the order in which they are asked. -/
theorem handlerPipeline_bindings [QuoteCore] (args : BinanceLiveArgs) (memory : NodeMemory) :
    (handlerPipeline args memory).bindings =
      payloadLogHandles args ++
        ((if memory.quoteMapper.context ≠ none then [quoteHandle] else []) ++
          if memory.tradeMapper.context ≠ none then [tradeHandle] else []) := by
  unfold handlerPipeline payloadLogHandles
  split_ifs <;> rfl

/-! ### One step -/

section Step

variable {node : LiveNode}

/-- A callback with a message hands it on with what the handler answers, or keeps it. -/
theorem message_delivers (options : FeedSessionOptions) (installed : Bool) (session : FeedSession)
    (view : FeedMessageView) (requested accepts : Bool) :
    let action := (runFeedSession options installed session (.message view requested accepts)).2
    action.delivered = none ∧ accepted action = none ∨
      action.delivered = some view ∧ accepted action = if accepts then some view else none := by
  intro action
  have made : action =
      (runFeedSession options installed session (.message view requested accepts)).2 := rfl
  simp only [runFeedSession] at made
  cases place : session.phase with
  | loopHead | sleepForBackoff | returned =>
      rw [place] at made
      rw [made]
      exact Or.inl ⟨rfl, rfl⟩
  | runOnce callbacks =>
      rw [place] at made
      simp only [onFeedSessionMessage, answerFeedSessionMessage] at made
      rw [made]
      cases requested <;> cases installed <;> cases accepts <;>
        simp [SessionAction.delivered, accepted] <;> split_ifs <;> simp

/-- **What a step hands to the pipeline**: nothing, or one message, with the pipeline's answer. -/
inductive Hands (node : LiveNode) (memory : NodeMemory) (logThrows : Bool) :
    Option FeedMessageView → Option FeedMessageView → NodeMemory → Prop
  | kept : Hands node memory logThrows none none memory
  | handed (view : FeedMessageView) :
      Hands node memory logThrows (some view)
        (if (node.pipeline.onMessage { message := view, logThrows } memory).1 then some view
          else none)
        (node.pipeline.onMessage { message := view, logThrows } memory).2

theorem hands_of_message {memory : NodeMemory} {logThrows : Bool} {view : FeedMessageView}
    {action : SessionAction}
    (delivers : action.delivered = none ∧ accepted action = none ∨
      action.delivered = some view ∧ accepted action =
        if (node.pipeline.onMessage { message := view, logThrows } memory).1 then some view
        else none) :
    Hands node memory logThrows action.delivered (accepted action)
      (if action.delivered = none then memory
        else (node.pipeline.onMessage { message := view, logThrows } memory).2) := by
  rcases delivers with ⟨kept, unaccepted⟩ | ⟨handed, answered⟩
  · rw [kept, unaccepted, if_pos rfl]
    exact .kept
  · rw [handed, answered, if_neg (Option.some_ne_none view)]
    exact .handed view

theorem runNode_hands (run : NodeRun) (event : NodeEvent) :
    Hands node run.memory event.logThrows (runNode node run event).2.delivered
      (accepted (runNode node run event).2) (runNode node run event).1.memory := by
  have unheard (asked : LiveEvent)
      (other : ∀ message requested accepts, asked ≠ .received message requested accepts) :
      Hands node run.memory event.logThrows
        (runLive node.connection node.options node.installed run.live asked).2.delivered
        (accepted (runLive node.connection node.options node.installed run.live asked).2)
        run.memory := by
    have silent := @runLive_received_none node.connection node.options node.installed run.live asked
      other
    generalize (runLive node.connection node.options node.installed run.live asked).2 = action at *
    rcases action with _ | _ | _ | _ | _ <;> first | exact .kept | cases silent
  cases event with
  | poll requested now => exact unheard (.poll requested now) fun _ _ _ said => by cases said
  | network event => exact unheard (.network event) fun _ _ _ said => by cases said
  | returned requested => exact unheard (.returned requested) fun _ _ _ said => by cases said
  | received message requested logThrows =>
      obtain ⟨⟨session, attempt⟩, memory⟩ := run
      cases attempt with
      | none => exact .kept
      | some attempt =>
          simp only [runNode, LiveNode.ask, LiveNode.remember, LiveNode.dispatch, runLive]
          by_cases reading : attempt.websocket.phase = .reading
          · simp only [if_pos reading]
            refine hands_of_message ?_
            have effect := onMessage_effect node.connection attempt.maxMessages attempt.state message
              (sessionCallback node.options node.installed session requested
                (node.pipeline.onMessage
                  { message := attempt.state.feedMessage node.connection message, logThrows }
                  memory).1)
            generalize onMessage node.connection attempt.maxMessages attempt.state message
              (sessionCallback node.options node.installed session requested
                (node.pipeline.onMessage
                  { message := attempt.state.feedMessage node.connection message, logThrows }
                  memory).1) = asked at effect ⊢
            obtain ⟨_, _, _, action⟩ := asked
            obtain rfl : action = _ := congrArg Prod.snd effect
            exact message_delivers node.options node.installed session _ requested _
          · simp only [if_neg reading]
            exact .kept

/-- What the payload log has in the memory. -/
def payloadPart (memory : NodeMemory) : FeedPayloadLogHandler × List PayloadLogLine :=
  (memory.payloadLog, memory.payloadLines)

def quotePart (memory : NodeMemory) :
    (MapperHandler × Option MapperRuntimeStats) × List (MapperLogLine Quote) :=
  ((memory.quoteMapper, some memory.mapperStats), memory.quoteLines)

def tradePart (memory : NodeMemory) :
    (MapperHandler × Option MapperRuntimeStats) × List (MapperLogLine Trade) :=
  ((memory.tradeMapper, some memory.mapperStats), memory.tradeLines)

theorem payload_acts :
    Chain.Acts payloadPart (Chain.writing FeedPayloadLogHandler.onMessage) payloadLogHandle :=
  fun _ _ => ⟨rfl, rfl⟩

/-- A mapper with statistics has statistics after a message, too. -/
theorem mapper_stats_kept {Event : Type}
    {map : FeedMessageView → BinanceMappingContext → Bool × Event} (handler : MapperHandler)
    (stats : MapperRuntimeStats) (message : FeedMessageView) :
    some ((mapperOnMessage map (handler, some stats) message).1.2.getD stats) =
      (mapperOnMessage map (handler, some stats) message).1.2 := by
  have step := (@mapperOnMessage_step _ map handler stats message).2
  generalize (mapperOnMessage map (handler, some stats) message).1 = next at step ⊢
  generalize (mapperOnMessage map (handler, some stats) message).2.2 = line at step
  cases step <;> rfl

/-- A mapper handler as a machine on calls. -/
abbrev mapperAct {Event : Type} (map : FeedMessageView → BinanceMappingContext → Bool × Event)
    (state : (MapperHandler × Option MapperRuntimeStats) × List (MapperLogLine Event))
    (call : HandlerCall) :=
  Chain.writing (mapperOnMessage map) state call.message

theorem quote_acts [QuoteCore] :
    Chain.Acts quotePart (mapperAct mapToQuote) quoteHandle := fun call memory =>
  ⟨rfl, Prod.ext (Prod.ext rfl (mapper_stats_kept memory.quoteMapper memory.mapperStats call.message))
    rfl⟩

theorem trade_acts [QuoteCore] :
    Chain.Acts tradePart (mapperAct mapToTrade) tradeHandle := fun call memory =>
  ⟨rfl, Prod.ext (Prod.ext rfl (mapper_stats_kept memory.tradeMapper memory.mapperStats call.message))
    rfl⟩

/-- **The payload log, in one step**: it takes what is handed on, if it stands first. -/
theorem payload_moves {back : List (FeedMessageHandler NodeMemory)}
    (bindings : node.pipeline.bindings = payloadLogHandle :: back)
    (leaves : ∀ other ∈ back, Chain.Leaves payloadPart other) (run : NodeRun) (event : NodeEvent) :
    payloadPart (runNode node run event).1.memory =
      Machine.final (Chain.writing FeedPayloadLogHandler.onMessage) (payloadPart run.memory)
        ((runNode node run event).2.delivered.map fun view =>
          { message := view, logThrows := event.logThrows : HandlerCall }).toList := by
  have hands := @runNode_hands node run event
  generalize (runNode node run event).2.delivered = delivered at hands ⊢
  generalize accepted (runNode node run event).2 = taken at hands
  generalize (runNode node run event).1.memory = memory at hands ⊢
  cases hands with
  | kept => rfl
  | handed view =>
      let call : HandlerCall := { message := view, logThrows := event.logThrows }
      have step : payloadPart (Chain.step ([] ++ payloadLogHandle :: back) run.memory call).1 = _ :=
        Chain.part_step (fun _ member => by cases member) payload_acts leaves run.memory call
      rw [List.nil_append, ← bindings] at step
      exact step

/-- **A mapper, in one step**: it takes what is accepted, if it stands behind handlers that leave its
part alone. -/
theorem mapper_moves {Event : Type} {map : FeedMessageView → BinanceMappingContext → Bool × Event}
    {part : NodeMemory →
      (MapperHandler × Option MapperRuntimeStats) × List (MapperLogLine Event)}
    {handle : FeedMessageHandler NodeMemory} (acts : Chain.Acts part (mapperAct map) handle)
    {front : List (FeedMessageHandler NodeMemory)}
    (bindings : node.pipeline.bindings = front ++ [handle])
    (leaves : ∀ other ∈ front, Chain.Leaves part other) (run : NodeRun) (event : NodeEvent) :
    part (runNode node run event).1.memory =
      Machine.final (Chain.writing (mapperOnMessage map)) (part run.memory)
        (accepted (runNode node run event).2).toList := by
  have hands := @runNode_hands node run event
  generalize (runNode node run event).2.delivered = delivered at hands
  generalize accepted (runNode node run event).2 = taken at hands ⊢
  generalize (runNode node run event).1.memory = memory at hands ⊢
  cases hands with
  | kept => rfl
  | handed view =>
      let call : HandlerCall := { message := view, logThrows := event.logThrows }
      have step : part (Chain.step (front ++ handle :: []) run.memory call).1 = _ :=
        Chain.part_step leaves acts (fun _ member => by cases member) run.memory call
      -- a mapper refuses nothing, so the pipeline accepts what is passed on to it
      have answers : (Chain.run (front ++ [handle]) call run.memory).1 =
          (Chain.run front call run.memory).1 := by
        rw [Chain.run_append]
        split_ifs with passed
        · rw [passed]
          refine Chain.run_of_open (fun other member memory => ?_) _
          rw [List.mem_singleton.mp member, (acts call memory).1]
          exact mapper_accepts _ _
        · exact (Bool.eq_false_iff.mpr passed).symm
      rw [FeedMessagePipeline.onMessage, bindings]
      refine step.trans ?_
      rw [Chain.passes, answers]
      split_ifs <;> rfl

/-- Without a logger that throws under the payload log, a message is accepted. -/
theorem accepts_of_quiet [QuoteCore] {args : BinanceLiveArgs} {memory : NodeMemory}
    (pipeline : node.pipeline = handlerPipeline args memory) {call : HandlerCall}
    (quiet : args.logPayload = true → call.logThrows = false) (state : NodeMemory) :
    (node.pipeline.onMessage call state).1 = true := by
  rw [pipeline, FeedMessagePipeline.onMessage, handlerPipeline_bindings]
  refine Chain.run_of_open (fun handler member memory => ?_) state
  rcases List.mem_append.mp member with first | member
  · unfold payloadLogHandles at first
    split_ifs at first with logs
    · rw [List.mem_singleton.mp first, (payload_acts call memory).1]
      show (memory.payloadLog.onMessage call).2.1 = true
      unfold FeedPayloadLogHandler.onMessage
      dsimp only
      rw [quiet logs]
      split_ifs <;> rfl
    · cases first
  · rcases List.mem_append.mp member with second | third
    · split_ifs at second
      · rw [List.mem_singleton.mp second, (quote_acts call memory).1]
        exact mapper_accepts (quotePart memory).1 call.message
      · cases second
    · split_ifs at third
      · rw [List.mem_singleton.mp third, (trade_acts call memory).1]
        exact mapper_accepts (tradePart memory).1 call.message
      · cases third

end Step

/-! ### Runs -/

section Run

variable {node : LiveNode}

/-- **A node is a live session.** -/
theorem runNode_live (run : NodeRun) (events : List NodeEvent) :
    ∃ live, (Machine.final (runNode node) run events).live =
        run.live.after node.connection node.options node.installed live ∧
      Machine.outputs (runNode node) run events =
        run.live.actions node.connection node.options node.installed live :=
  Machine.exists_driven (runNode node) NodeRun.live node.ask (fun _ _ => rfl) run events

/-- **The payload log, over a run**: it takes what was handed on. -/
theorem payload_final {back : List (FeedMessageHandler NodeMemory)}
    (bindings : node.pipeline.bindings = payloadLogHandle :: back)
    (leaves : ∀ other ∈ back, Chain.Leaves payloadPart other) (run : NodeRun)
    (events : List NodeEvent) :
    ∃ calls : List HandlerCall,
      calls.map HandlerCall.message = delivered (Machine.outputs (runNode node) run events) ∧
      payloadPart (Machine.final (runNode node) run events).memory =
        Machine.final (Chain.writing FeedPayloadLogHandler.onMessage) (payloadPart run.memory)
          calls := by
  refine ⟨_, Machine.map_requests (runNode node) (fun run event => ?_) run events,
    Machine.final_requests (runNode node) (fun run => payloadPart run.memory) _
      (payload_moves bindings leaves) run events⟩
  cases (runNode node run event).2.delivered <;> rfl

/-- **A mapper, over a run**: it takes what was accepted. -/
theorem mapper_final {Event : Type} {map : FeedMessageView → BinanceMappingContext → Bool × Event}
    {part : NodeMemory →
      (MapperHandler × Option MapperRuntimeStats) × List (MapperLogLine Event)}
    {handle : FeedMessageHandler NodeMemory} (acts : Chain.Acts part (mapperAct map) handle)
    {front : List (FeedMessageHandler NodeMemory)}
    (bindings : node.pipeline.bindings = front ++ [handle])
    (leaves : ∀ other ∈ front, Chain.Leaves part other) (run : NodeRun)
    (events : List NodeEvent) :
    part (Machine.final (runNode node) run events).memory =
      Machine.final (Chain.writing (mapperOnMessage map)) (part run.memory)
        ((Machine.outputs (runNode node) run events).filterMap accepted) := by
  have asked := Machine.map_requests (runNode node)
    (fun run event => List.map_id (accepted (runNode node run event).2).toList) run events
  rw [List.map_id] at asked
  rw [← asked]
  exact Machine.final_requests (runNode node) (fun run => part run.memory) _
    (mapper_moves acts bindings leaves) run events

/-- What a mapper has done with the messages it took. -/
structure MapperDone {Event : Type} (map : FeedMessageView → BinanceMappingContext → Bool × Event)
    (handler : MapperHandler) (taken : List FeedMessageView) (stats : MapperRuntimeStats)
    (lines : List (MapperLogLine Event)) : Prop where
  tallied : Tallied (fun message => (eventOf map handler.context message).isSome) taken stats
  warnings : lines.filter MapperLogLine.isWarning =
    (taken.filterMap (warningOf map handler.context)).take 3
  events : lines.filter (fun line => !line.isWarning) =
    (taken.filterMap (eventLineOf map handler.context)).take
      (if handler.logEvents then handler.maxLoggedEvents - handler.loggedEvents else 0)

theorem mapper_done {Event : Type} {map : FeedMessageView → BinanceMappingContext → Bool × Event}
    {handler ended : MapperHandler} {taken : List FeedMessageView} {stats : MapperRuntimeStats}
    {lines : List (MapperLogLine Event)}
    (ends : ((ended, some stats), lines) =
      Machine.final (Chain.writing (mapperOnMessage map)) ((handler, some {}), []) taken) :
    MapperDone map handler taken stats lines := by
  rw [Chain.writing_final, List.nil_append] at ends
  obtain ⟨state, written⟩ := Prod.mk.inj ends
  obtain ⟨⟨counted, same, tallied⟩, -, warnings, events⟩ := @mapper_account _ map handler taken
  rw [← state] at same
  obtain rfl := Option.some.inj same
  exact ⟨tallied, written ▸ warnings, written ▸ events⟩

/-- The payload log leaves the parts of the mappers. -/
theorem payloadLogHandles_leaves {T : Type} {args : BinanceLiveArgs} {part : NodeMemory → T}
    (leaves : Chain.Leaves part payloadLogHandle) :
    ∀ other ∈ payloadLogHandles args, Chain.Leaves part other := by
  intro other member
  unfold payloadLogHandles at member
  split_ifs at member
  · rw [List.mem_singleton.mp member]
    exact leaves
  · cases member

/-- **The messages of the session are those accepted**, and one more at most. -/
theorem node_taken (installed : node.installed = true) (memory : NodeMemory)
    (events : List NodeEvent) :
    let run := Machine.final (runNode node) { memory } events
    let taken := (Machine.outputs (runNode node) { memory } events).filterMap accepted
    taken.length = run.live.session.stats.messages ∨
      taken.length + 1 = run.live.session.stats.messages := by
  intro run taken
  obtain ⟨live, same, acts⟩ := @runNode_live node { memory } events
  have totals := (live_accounted node.connection node.options node.installed live).accounted.totals
  have count : run.live.session.stats.messages =
      (received (Machine.outputs (runNode node) { memory } events)).length := by
    rw [acts, ← totals.messages, ← same]
  rw [count]
  rw [installed] at acts
  have accepts := live_accepted node.connection node.options live
  rw [← acts] at accepts
  rcases accepts with all | ⟨view, all⟩
  · exact Or.inl (congrArg List.length all)
  · right
    rw [all, List.length_append]
    rfl

section Accounts

variable [QuoteCore] {args : BinanceLiveArgs} {payloadLog : FeedPayloadLogHandler}
  {memory : NodeMemory}

theorem node_quote (wiring : Wiring args payloadLog memory)
    (pipeline : node.pipeline = handlerPipeline args memory)
    (wired : memory.quoteMapper.context ≠ none) (events : List NodeEvent) :
    let run := Machine.final (runNode node) { memory } events
    MapperDone mapToQuote memory.quoteMapper
      ((Machine.outputs (runNode node) { memory } events).filterMap accepted)
      run.memory.mapperStats run.memory.quoteLines := by
  intro run
  cases wiring with
  | neither | trade => exact absurd rfl wired
  | quote context =>
      have bindings : node.pipeline.bindings = payloadLogHandles args ++ [quoteHandle] := by
        rw [pipeline, handlerPipeline_bindings, if_pos wired, if_neg (not_not.mpr rfl)]
        rfl
      exact mapper_done (mapper_final quote_acts bindings
        (payloadLogHandles_leaves fun _ _ => rfl) _ events)

theorem node_trade (wiring : Wiring args payloadLog memory)
    (pipeline : node.pipeline = handlerPipeline args memory)
    (wired : memory.tradeMapper.context ≠ none) (events : List NodeEvent) :
    let run := Machine.final (runNode node) { memory } events
    MapperDone mapToTrade memory.tradeMapper
      ((Machine.outputs (runNode node) { memory } events).filterMap accepted)
      run.memory.mapperStats run.memory.tradeLines := by
  intro run
  cases wiring with
  | neither | quote => exact absurd rfl wired
  | trade context =>
      have bindings : node.pipeline.bindings = payloadLogHandles args ++ [tradeHandle] := by
        rw [pipeline, handlerPipeline_bindings, if_pos wired, if_neg (not_not.mpr rfl)]
        rfl
      exact mapper_done (mapper_final trade_acts bindings
        (payloadLogHandles_leaves fun _ _ => rfl) _ events)

/-- The payload log of a node, over a run. -/
theorem node_payload (wiring : Wiring args { options := payloadLogOptions args } memory)
    (pipeline : node.pipeline = handlerPipeline args memory) (logs : args.logPayload = true)
    (events : List NodeEvent) :
    let run := Machine.final (runNode node) { memory } events
    let handed := delivered (Machine.outputs (runNode node) { memory } events)
    run.memory.payloadLog.seen = handed.length ∧
      run.memory.payloadLog.logged =
        (if args.logPayloads.toNat = 0 then handed.length
          else min args.logPayloads.toNat handed.length) ∧
      run.memory.payloadLines =
        (handed.take run.memory.payloadLog.logged).map (payloadLogOptions args).line := by
  intro run handed
  have bindings : node.pipeline.bindings = payloadLogHandle ::
      ((if memory.quoteMapper.context ≠ none then [quoteHandle] else []) ++
        if memory.tradeMapper.context ≠ none then [tradeHandle] else []) := by
    rw [pipeline, handlerPipeline_bindings, payloadLogHandles, if_pos logs]
    rfl
  have leaves : ∀ other ∈ (if memory.quoteMapper.context ≠ none then [quoteHandle] else []) ++
      (if memory.tradeMapper.context ≠ none then [tradeHandle] else []),
      Chain.Leaves payloadPart other := by
    intro other member call state
    rcases List.mem_append.mp member with first | second
    · split_ifs at first
      · rw [List.mem_singleton.mp first]
        rfl
      · cases first
    · split_ifs at second
      · rw [List.mem_singleton.mp second]
        rfl
      · cases second
  obtain ⟨calls, messages, ends⟩ := payload_final bindings leaves { memory } events
  have start : payloadPart memory = ({ options := payloadLogOptions args }, []) := by
    cases wiring <;> rfl
  rw [start, Chain.writing_final, List.nil_append] at ends
  obtain ⟨state, written⟩ := Prod.mk.inj ends
  obtain ⟨seen, logged, lines, -⟩ := payload_account (payloadLogOptions args) calls
  have loud : (payloadLogOptions args).silent = false := by
    rw [FeedPayloadLogOptions.silent, payloadLogOptions, logs]
    rfl
  have count : calls.length = handed.length := by
    rw [show handed = calls.map HandlerCall.message from messages.symm, List.length_map]
  rw [loud, if_neg Bool.false_ne_true, count] at logged
  rw [← state] at seen logged lines
  refine ⟨seen.trans count, logged, ?_⟩
  show run.memory.payloadLines = _
  rw [show handed = calls.map HandlerCall.message from messages.symm, ← List.map_take, List.map_map]
  exact written.trans lines

/-- With a mapper, the node hands on what it receives. -/
theorem installed_of_wired (pipeline : node.pipeline = handlerPipeline args memory)
    (wired : memory.quoteMapper.context ≠ none ∨ memory.tradeMapper.context ≠ none) :
    node.installed = true := by
  have some : node.pipeline.bindings ≠ [] := by
    rw [pipeline, handlerPipeline_bindings]
    rcases wired with quote | trade
    · rw [if_pos quote]
      exact List.append_ne_nil_of_right_ne_nil _ (List.cons_ne_nil _ _)
    · rw [if_pos trade]
      exact List.append_ne_nil_of_right_ne_nil _
        (List.append_ne_nil_of_right_ne_nil _ (List.cons_ne_nil _ _))
  rw [LiveNode.installed, FeedMessagePipeline.empty, Bool.not_eq_true', List.isEmpty_eq_false_iff]
  exact some

/-- **A node is stopped by its handler only if the logger threw under its payload log.** -/
theorem node_stopped (pipeline : node.pipeline = handlerPipeline args memory) (state : NodeMemory)
    (events : List NodeEvent)
    (stopped : (Machine.final (runNode node) { memory := state } events).live.session.phase =
      .returned .stoppedByHandler) :
    args.logPayload = true ∧ ∃ event ∈ events, event.logThrows = true := by
  obtain ⟨live, same, acts⟩ := @runNode_live node { memory := state } events
  rw [same] at stopped
  obtain ⟨view, member⟩ := live_stopped _ _ _ _ stopped
  rw [← acts] at member
  obtain ⟨front, back, split⟩ := List.append_of_mem member
  obtain ⟨before, event, after, rfl, -, said, -⟩ := Machine.outputs_split _ split
  have hands := @runNode_hands node (Machine.final (runNode node) { memory := state } before) event
  rw [said] at hands
  generalize (runNode node _ event).1.memory = next at hands
  generalize refusal : accepted (.answered view false ⟨false, some false⟩) = taken at hands
  generalize handed : SessionAction.delivered (.answered view false ⟨false, some false⟩) = given
    at hands
  cases hands with
  | kept => cases handed
  | handed seen =>
      have refused : ¬ (node.pipeline.onMessage
          { message := seen, logThrows := event.logThrows }
          (Machine.final (runNode node) { memory := state } before).memory).1 = true := by
        intro accepts
        rw [if_pos accepts] at refusal
        cases refusal
      have loud : args.logPayload = true ∧ event.logThrows = true := by
        by_contra quiet
        exact refused (accepts_of_quiet pipeline
          (fun logs => Bool.eq_false_iff.mpr fun throws => quiet ⟨logs, throws⟩) _)
      exact ⟨loud.1, event, List.mem_append_right _ List.mem_cons_self, loud.2⟩

end Accounts

/-- **The accounts of a node.** For every arguments, connection and events, that is for all messages,
failures of the network, requests to stop and failures of the logger:

* the node runs a live session, whose steps are its own;
* the payload log, where it is asked for, logs the first messages handed on, as many as its limit;
* a mapper that is wired maps the messages accepted, each to an event or a failure, and logs of both
  what it may;
* then the events and failures are as many as the messages of the session, or one fewer;
* the session is stopped by its handler only if the payload log is asked for and the logger threw. -/
theorem node_accounts [QuoteCore] (args : BinanceLiveArgs) (connection : BinanceConnectionSpec)
    (events : List NodeEvent) :
    let node := liveNode args connection
    let memory := liveMemory args connection
    let run := Machine.final (runNode node) { memory } events
    let actions := Machine.outputs (runNode node) { memory } events
    let handed := delivered actions
    let taken := actions.filterMap accepted
    let wired := memory.quoteMapper.context ≠ none ∨ memory.tradeMapper.context ≠ none
    let stats := run.memory.mapperStats
    (∃ live, run.live = ({} : LiveRun).after node.connection node.options node.installed live ∧
      actions = ({} : LiveRun).actions node.connection node.options node.installed live) ∧
    (args.logPayload = true →
      run.memory.payloadLog.seen = handed.length ∧
      run.memory.payloadLog.logged =
        (if args.logPayloads.toNat = 0 then handed.length
          else min args.logPayloads.toNat handed.length) ∧
      run.memory.payloadLines =
        (handed.take run.memory.payloadLog.logged).map (payloadLogOptions args).line) ∧
    (memory.quoteMapper.context ≠ none →
      MapperDone mapToQuote memory.quoteMapper taken stats run.memory.quoteLines) ∧
    (memory.tradeMapper.context ≠ none →
      MapperDone mapToTrade memory.tradeMapper taken stats run.memory.tradeLines) ∧
    (wired → stats.outputEvents + stats.failures = run.live.session.stats.messages ∨
      stats.outputEvents + stats.failures + 1 = run.live.session.stats.messages) ∧
    (run.live.session.phase = .returned .stoppedByHandler →
      args.logPayload = true ∧ ∃ event ∈ events, event.logThrows = true) := by
  intro node memory run actions handed taken wired stats
  have wiring := liveMemory_wiring args connection
  refine ⟨@runNode_live node { memory } events, fun logs => node_payload wiring rfl logs events,
    fun quote => node_quote wiring rfl quote events, fun trade => node_trade wiring rfl trade events,
    fun some => ?_, @node_stopped node _ args memory rfl memory events⟩
  have balance : stats.outputEvents + stats.failures = taken.length := by
    rcases some with quote | trade
    · have done := @node_quote node _ args _ memory wiring rfl quote events
      rw [done.tallied.balance, done.tallied.input]
    · have done := @node_trade node _ args _ memory wiring rfl trade events
      rw [done.tallied.balance, done.tallied.input]
  rw [balance]
  exact node_taken (@installed_of_wired node _ args memory rfl some) memory events

end Run

end MarketDataFabric.Apps
