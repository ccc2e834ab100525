/-
**The handlers of the service**, `service/feed_message_handler.hpp`, `feed_payload_log_handler.hpp` and
`mapper_stats.hpp`.

* `FeedMessagePipeline` — at most so many handlers, asked in turn (`Library.Chain`).
* `FeedPayloadLogHandler.outputs_eq`, `payload_log_exact` — **the payload log writes the beginning of
  the stream**: the first messages up to its limit, each once, and refuses a message only where the
  logger throws.
* `FeedPayloadLogHandler.words_run` — its counters are natural numbers, and the 64-bit ones of the source
  do the same for fewer than `2 ^ 64` messages.
* `Tallied`, `Tallied.observe` — the statistics of a mapper against the messages it was given.
-/

import Mathlib.Algebra.Order.Group.Nat
import MarketDataFabric.Feed.Message
import MarketDataFabric.Library.Chain
import MarketDataFabric.Library.Quota

namespace MarketDataFabric.Service

open MarketDataFabric.Feed Library

/-! ### The pipeline -/

/-- A call of a handler: the message, and whether the logger throws during it. -/
structure HandlerCall where
  message : FeedMessageView
  logThrows : Bool := false
deriving Repr, DecidableEq

/-- A handler with its user data somewhere in a memory `M`. -/
abbrev FeedMessageHandler (M : Type) := Chain.Handler HandlerCall M

structure FeedMessagePipeline (M : Type) (maxHandlers : Nat) where
  bindings : List (FeedMessageHandler M) := []
  bounded : bindings.length ≤ maxHandlers := by exact Nat.zero_le _

namespace FeedMessagePipeline

variable {M : Type} {maxHandlers : Nat}

/-- A null handler is accepted and not added. -/
def add (pipeline : FeedMessagePipeline M maxHandlers) :
    Option (FeedMessageHandler M) → Bool × FeedMessagePipeline M maxHandlers
  | none => (true, pipeline)
  | some handler =>
      if room : pipeline.bindings.length < maxHandlers then
        (true,
          { bindings := pipeline.bindings ++ [handler]
            bounded := List.length_append ▸ room })
      else (false, pipeline)

def empty (pipeline : FeedMessagePipeline M maxHandlers) : Bool := pipeline.bindings.isEmpty

def onMessage (pipeline : FeedMessagePipeline M maxHandlers) (call : HandlerCall) (memory : M) :
    Bool × M :=
  Chain.run pipeline.bindings call memory

end FeedMessagePipeline

/-! ### The payload log -/

structure FeedPayloadLogOptions where
  maxPayloads : Nat := 0
  maxPayloadBytes : Nat := 512
  logMetadata : Bool := true
  logPayload : Bool := false
deriving Repr, DecidableEq

structure FeedPayloadLogHandler where
  options : FeedPayloadLogOptions
  seen : Nat := 0
  logged : Nat := 0
deriving Repr, DecidableEq

/-- A call of the logger: the feed, the size and the time of the message if metadata is logged, the
preview of the payload and whether dots follow it if the payload is. -/
structure PayloadLogLine where
  metadata : Option (UInt32 × UInt32 × UInt64) := none
  payload : Option (List UInt8 × Bool) := none
deriving Repr, DecidableEq

namespace FeedPayloadLogOptions

def payloadPreview (options : FeedPayloadLogOptions) (payload : List UInt8) : List UInt8 :=
  if options.maxPayloadBytes = 0 then payload
  else payload.take (min payload.length options.maxPayloadBytes)

/-- What is logged of a message. -/
def line (options : FeedPayloadLogOptions) (message : FeedMessageView) : PayloadLogLine :=
  let payload := if options.logPayload then options.payloadPreview message.payload else []
  let truncated := decide (payload.length < message.payload.length)
  { metadata :=
      if options.logMetadata then
        some (message.envelope.feedId, message.envelope.payloadSize, message.envelope.recvTsNs)
      else none
    payload := if options.logPayload then some (payload, truncated) else none }

/-- Nothing is to be logged at all. -/
def silent (options : FeedPayloadLogOptions) : Bool := !options.logMetadata && !options.logPayload

/-- **A preview is the beginning of the payload**, and it is followed by dots exactly where something
is missing. -/
theorem line_payload {options : FeedPayloadLogOptions} {message : FeedMessageView}
    {preview : List UInt8} {truncated : Bool}
    (logged : (options.line message).payload = some (preview, truncated)) :
    preview <+: message.payload ∧
      (options.maxPayloadBytes ≠ 0 → preview.length ≤ options.maxPayloadBytes) ∧
      (truncated = true ↔ preview ≠ message.payload) := by
  unfold line at logged
  dsimp only at logged
  split_ifs at logged with logs
  obtain ⟨rfl, rfl⟩ := Prod.mk.inj (Option.some.inj logged)
  have beginning : options.payloadPreview message.payload <+: message.payload := by
    unfold payloadPreview
    split_ifs
    · exact List.prefix_rfl
    · exact List.take_prefix _ _
  refine ⟨beginning, fun limited => ?_, ?_⟩
  · rw [payloadPreview, if_neg limited, List.length_take]
    exact (Nat.min_le_left _ _).trans (Nat.min_le_right _ _)
  · rw [decide_eq_true_eq]
    constructor
    · exact fun shorter same => absurd (congrArg List.length same) (Nat.ne_of_lt shorter)
    · exact fun different => Nat.lt_of_le_of_ne beginning.length_le fun same =>
        different (beginning.eq_of_length same)

end FeedPayloadLogOptions

namespace FeedPayloadLogHandler

/-- What a message does to the handler, what the handler answers, and the call it made of the
logger. -/
def onMessage (handler : FeedPayloadLogHandler) (call : HandlerCall) :
    FeedPayloadLogHandler × Bool × Option PayloadLogLine :=
  let handler := { handler with seen := handler.seen + 1 }
  if handler.options.maxPayloads ≠ 0 ∧ handler.logged ≥ handler.options.maxPayloads then
    (handler, true, none)
  else if handler.options.silent then (handler, true, none)
  else
    let handler := { handler with logged := handler.logged + 1 }
    (handler, !call.logThrows, some (handler.options.line call.message))

/-- How many messages it will still log; without a limit, all. -/
def left (handler : FeedPayloadLogHandler) : Option ℕ :=
  if handler.options.silent then some 0
  else if handler.options.maxPayloads = 0 then none
  else some (handler.options.maxPayloads - handler.logged)

/-- What the handler does with a message it logs. -/
def loud (options : FeedPayloadLogOptions) (call : HandlerCall) : Bool × Option PayloadLogLine :=
  (!call.logThrows, some (options.line call.message))

/-- A message beyond the limit is only counted. -/
theorem onMessage_of_none_left {handler : FeedPayloadLogHandler} (spent : handler.left = some 0)
    (call : HandlerCall) :
    handler.onMessage call = ({ handler with seen := handler.seen + 1 }, true, none) := by
  unfold left at spent
  unfold onMessage
  dsimp only
  split_ifs at spent with silent limitless
  · rw [if_pos silent, ite_self]
  · have reached : handler.options.maxPayloads ≤ handler.logged :=
      Nat.sub_eq_zero_iff_le.mp (Option.some.inj spent)
    rw [if_pos ⟨limitless, reached⟩]

/-- Any other message is logged. -/
theorem onMessage_of_left {handler : FeedPayloadLogHandler} (room : handler.left ≠ some 0)
    (call : HandlerCall) :
    handler.onMessage call =
      ({ handler with seen := handler.seen + 1, logged := handler.logged + 1 },
        loud handler.options call) := by
  unfold left at room
  unfold onMessage
  dsimp only
  split_ifs at room with silent limitless
  · exact absurd rfl room
  · rw [if_neg fun reached => reached.1 limitless, if_neg silent]
    rfl
  · have under : ¬ handler.logged ≥ handler.options.maxPayloads := fun reached =>
      room (congrArg some (Nat.sub_eq_zero_of_le reached))
    rw [if_neg fun reached => under reached.2, if_neg silent]
    rfl

/-- What is left after a logged message. -/
theorem within_left {handler : FeedPayloadLogHandler} (room : handler.left ≠ some 0)
    (call : HandlerCall) (rest : List HandlerCall) :
    Quota.within handler.left (call :: rest) =
      call :: Quota.within (handler.onMessage call).1.left rest := by
  have moved : (handler.onMessage call).1.left = handler.left.map (· - 1) := by
    rw [onMessage_of_left room]
    unfold left
    dsimp only
    split_ifs with silent limitless
    · rfl
    · rfl
    · rw [Option.map_some, ← Nat.sub_sub]
  rw [moved]
  cases here : handler.left with
  | none => rfl
  | some count =>
      cases count with
      | zero => exact absurd here room
      | succ count => rfl

/-- **The whole run**: the messages within the limit are logged, the others only counted. -/
theorem outputs_eq (handler : FeedPayloadLogHandler) (calls : List HandlerCall) :
    let logged := Quota.within handler.left calls
    Machine.outputs onMessage handler calls =
        logged.map (loud handler.options) ++
          List.replicate (calls.length - logged.length) (true, none) ∧
      Machine.final onMessage handler calls =
        { handler with
          seen := handler.seen + calls.length, logged := handler.logged + logged.length } := by
  induction calls generalizing handler with
  | nil =>
      rw [Quota.within_nil]
      exact ⟨rfl, rfl⟩
  | cons call rest ih =>
      rw [Machine.outputs_cons, Machine.final_cons]
      by_cases spent : handler.left = some 0
      · have later : (handler.onMessage call).1.left = some 0 := by
          rw [onMessage_of_none_left spent]
          exact spent
        obtain ⟨outputs, final⟩ := ih (handler.onMessage call).1
        rw [later] at outputs final
        rw [outputs, final, spent, onMessage_of_none_left spent]
        refine ⟨rfl, ?_⟩
        simp only [Quota.within, List.take_zero, List.length_cons, FeedPayloadLogHandler.mk.injEq,
          and_true, true_and]
        omega
      · obtain ⟨outputs, final⟩ := ih (handler.onMessage call).1
        rw [outputs, final, within_left spent]
        simp only [onMessage_of_left spent, List.map_cons, List.length_cons, Nat.add_sub_add_right,
          List.cons_append, FeedPayloadLogHandler.mk.injEq, true_and]
        omega

/-- The messages within the limit are the first ones. -/
theorem within_take (handler : FeedPayloadLogHandler) (calls : List HandlerCall) :
    Quota.within handler.left calls =
      calls.take (Quota.within handler.left calls).length := by
  cases handler.left with
  | none => exact (List.take_length).symm
  | some count =>
      show calls.take count = calls.take (calls.take count).length
      rw [List.length_take, ← List.take_take, List.take_length]

end FeedPayloadLogHandler

/-- A fresh payload log, over any messages and any failures of the logger. -/
theorem payload_account (options : FeedPayloadLogOptions) (calls : List HandlerCall) :
    let run := Machine.final FeedPayloadLogHandler.onMessage { options } calls
    let answers := Machine.outputs FeedPayloadLogHandler.onMessage { options } calls
    run.seen = calls.length ∧
    run.logged =
      (if options.silent then 0
        else if options.maxPayloads = 0 then calls.length
        else min options.maxPayloads calls.length) ∧
    answers.filterMap Prod.snd =
      (calls.take run.logged).map (fun call => options.line call.message) ∧
    answers.map Prod.fst =
      (calls.take run.logged).map (fun call => !call.logThrows) ++
        List.replicate (calls.length - run.logged) true := by
  intro run answers
  obtain ⟨outputs, final⟩ := FeedPayloadLogHandler.outputs_eq { options } calls
  have count : run.logged = (Quota.within (FeedPayloadLogHandler.left { options }) calls).length := by
    rw [show run = _ from final]
    exact Nat.zero_add _
  have first := FeedPayloadLogHandler.within_take { options } calls
  rw [← count] at outputs first
  rw [show answers = _ from outputs, first]
  refine ⟨?_, ?_, ?_, ?_⟩
  · rw [show run = _ from final]
    exact Nat.zero_add _
  · rw [count, FeedPayloadLogHandler.left]
    dsimp only
    split_ifs
    · rfl
    · rfl
    · exact List.length_take
  · rw [List.filterMap_append, List.filterMap_map, List.filterMap_replicate_of_none rfl,
      List.append_nil]
    exact List.filterMap_eq_map ▸ rfl
  · rw [List.map_append, List.map_map, List.map_replicate]
    rfl

/-- **The payload log is exact.** Over any messages and any failures of the logger it sees every
message, and it logs the first ones, as many as its limit, each once and in their order. It refuses
exactly the messages whose call of the logger throws. A preview is the beginning of the payload, and
dots follow it exactly where something is missing. -/
theorem payload_log_exact (options : FeedPayloadLogOptions) (calls : List HandlerCall) :
    let run := Machine.final FeedPayloadLogHandler.onMessage { options } calls
    let answers := Machine.outputs FeedPayloadLogHandler.onMessage { options } calls
    run.seen = calls.length ∧
    run.logged =
      (if options.silent then 0
        else if options.maxPayloads = 0 then calls.length
        else min options.maxPayloads calls.length) ∧
    answers.filterMap Prod.snd =
      (calls.take run.logged).map (fun call => options.line call.message) ∧
    answers.map Prod.fst =
      (calls.take run.logged).map (fun call => !call.logThrows) ++
        List.replicate (calls.length - run.logged) true ∧
    ∀ message preview truncated, (options.line message).payload = some (preview, truncated) →
      preview <+: message.payload ∧
        (options.maxPayloadBytes ≠ 0 → preview.length ≤ options.maxPayloadBytes) ∧
        (truncated = true ↔ preview ≠ message.payload) := by
  intro run answers
  obtain ⟨seen, logged, lines, refusals⟩ := payload_account options calls
  exact ⟨seen, logged, lines, refusals, fun message preview truncated =>
    FeedPayloadLogOptions.line_payload⟩

/-! #### Its 64-bit counters -/

namespace FeedPayloadLogHandler

/-- The counters, as 64-bit words hold them. -/
def wrapped (handler : FeedPayloadLogHandler) : FeedPayloadLogHandler :=
  { handler with seen := handler.seen % 2 ^ 64, logged := handler.logged % 2 ^ 64 }

/-- `on_message`, its counters wrapping. The limit is compared with what was logged before. -/
def onMessageWords (handler : FeedPayloadLogHandler) (call : HandlerCall) :
    FeedPayloadLogHandler × Bool × Option PayloadLogLine :=
  let result := handler.onMessage call
  (result.1.wrapped, result.2)

/-- A message is counted once, and logged at most once. -/
theorem onMessage_counts (handler : FeedPayloadLogHandler) (call : HandlerCall) :
    (handler.onMessage call).1.seen = handler.seen + 1 ∧
      (handler.onMessage call).1.logged ≤ handler.logged + 1 := by
  by_cases spent : handler.left = some 0
  · rw [onMessage_of_none_left spent]
    exact ⟨rfl, Nat.le_succ _⟩
  · rw [onMessage_of_left spent]
    exact ⟨rfl, Nat.le_refl _⟩

/-- **Fewer than `2 ^ 64` messages wrap no counter.** -/
theorem words_run (options : FeedPayloadLogOptions) {calls : List HandlerCall}
    (few : calls.length < 2 ^ 64) :
    Machine.final onMessageWords { options } calls = Machine.final onMessage { options } calls ∧
      Machine.outputs onMessageWords { options } calls =
        Machine.outputs onMessage { options } calls := by
  refine (Machine.run_agrees onMessage (fun handler => handler.logged ≤ handler.seen)
    (fun handler => handler.seen < 2 ^ 64) (fun handler call less => ?_) (fun handler call _ fits => ?_)
    (fun handler call less fits => ?_) (Nat.le_refl 0) ?_).2
  · obtain ⟨seen, logged⟩ := handler.onMessage_counts call
    rw [seen]
    exact logged.trans (Nat.succ_le_succ less)
  · rw [(handler.onMessage_counts call).1] at fits
    exact Nat.lt_of_succ_lt fits
  · obtain ⟨seen, logged⟩ := handler.onMessage_counts call
    have below : (handler.onMessage call).1.logged < 2 ^ 64 := by
      rw [seen] at fits
      omega
    rw [onMessageWords, wrapped, Nat.mod_eq_of_lt fits, Nat.mod_eq_of_lt below]
  · show (Machine.final onMessage { options } calls).seen < 2 ^ 64
    rw [(outputs_eq { options } calls).2]
    exact (Nat.zero_add _).trans_lt few

end FeedPayloadLogHandler

/-! ### The statistics of a mapper -/

structure MapperRuntimeStats where
  inputMessages : Nat := 0
  outputEvents : Nat := 0
  failures : Nat := 0
  firstRecvTsNs : UInt64 := 0
  lastRecvTsNs : UInt64 := 0
  lastPayloadSize : UInt32 := 0
deriving Repr, DecidableEq

namespace MapperRuntimeStats

def observeInput (stats : MapperRuntimeStats) (message : FeedMessageView) : MapperRuntimeStats :=
  { stats with
    firstRecvTsNs :=
      if stats.inputMessages = 0 then message.envelope.recvTsNs else stats.firstRecvTsNs
    inputMessages := stats.inputMessages + 1
    lastRecvTsNs := message.envelope.recvTsNs
    lastPayloadSize := message.envelope.payloadSize }

def observeSuccess (stats : MapperRuntimeStats) (message : FeedMessageView) (events : Nat := 1) :
    MapperRuntimeStats :=
  { stats.observeInput message with outputEvents := stats.outputEvents + events }

def observeFailure (stats : MapperRuntimeStats) (message : FeedMessageView) : MapperRuntimeStats :=
  { stats.observeInput message with failures := stats.failures + 1 }

/-- The counters, as 64-bit words hold them. -/
def wrapped (stats : MapperRuntimeStats) : MapperRuntimeStats :=
  { stats with
    inputMessages := stats.inputMessages % 2 ^ 64
    outputEvents := stats.outputEvents % 2 ^ 64
    failures := stats.failures % 2 ^ 64 }

theorem wrapped_of_balance {stats : MapperRuntimeStats}
    (balance : stats.outputEvents + stats.failures = stats.inputMessages)
    (fits : stats.inputMessages < 2 ^ 64) : stats.wrapped = stats := by
  have output : stats.outputEvents < 2 ^ 64 := by omega
  have failed : stats.failures < 2 ^ 64 := by omega
  rw [wrapped, Nat.mod_eq_of_lt fits, Nat.mod_eq_of_lt output, Nat.mod_eq_of_lt failed]

end MapperRuntimeStats

/-- **The statistics of the messages given to a mapper**, `maps` telling which of them have an
event. -/
structure Tallied (maps : FeedMessageView → Bool) (views : List FeedMessageView)
    (stats : MapperRuntimeStats) : Prop where
  input : stats.inputMessages = views.length
  output : stats.outputEvents = (views.filter maps).length
  failed : stats.failures = (views.filter fun view => !maps view).length
  first : stats.firstRecvTsNs = (views.head?.map fun view => view.envelope.recvTsNs).getD 0
  last : stats.lastRecvTsNs = (views.getLast?.map fun view => view.envelope.recvTsNs).getD 0
  size : stats.lastPayloadSize = (views.getLast?.map fun view => view.envelope.payloadSize).getD 0

section Tallied

variable {maps : FeedMessageView → Bool} {views : List FeedMessageView} {stats : MapperRuntimeStats}

theorem Tallied.nil (maps : FeedMessageView → Bool) : Tallied maps [] {} :=
  ⟨rfl, rfl, rfl, rfl, rfl, rfl⟩

/-- A message adds one event or one failure. -/
theorem Tallied.observe (tallied : Tallied maps views stats) (view : FeedMessageView) :
    Tallied maps (views ++ [view])
      (if maps view then stats.observeSuccess view else stats.observeFailure view) := by
  have input : stats.inputMessages + 1 = (views ++ [view]).length := by
    rw [List.length_append, tallied.input]
    rfl
  have first : (if stats.inputMessages = 0 then view.envelope.recvTsNs else stats.firstRecvTsNs) =
      ((views ++ [view]).head?.map fun view => view.envelope.recvTsNs).getD 0 := by
    rw [tallied.input, tallied.first]
    cases views with
    | nil => rfl
    | cons earlier rest => rfl
  have last : (views ++ [view]).getLast? = some view := List.getLast?_concat
  cases mapped : maps view with
  | true =>
      refine ⟨input, ?_, ?_, first, by rw [last]; rfl, by rw [last]; rfl⟩
      · rw [List.filter_append, List.length_append, ← tallied.output,
          List.filter_cons_of_pos mapped]
        rfl
      · rw [List.filter_append, List.filter_cons_of_neg (by rw [mapped]; decide), List.filter_nil,
          List.append_nil, ← tallied.failed]
        rfl
  | false =>
      refine ⟨input, ?_, ?_, first, by rw [last]; rfl, by rw [last]; rfl⟩
      · rw [List.filter_append, List.filter_cons_of_neg (by rw [mapped]; decide), List.filter_nil,
          List.append_nil, ← tallied.output]
        rfl
      · rw [List.filter_append, List.length_append, ← tallied.failed,
          List.filter_cons_of_pos (by rw [mapped]; rfl)]
        rfl

/-- **Every message has an event or is a failure.** -/
theorem Tallied.balance (tallied : Tallied maps views stats) :
    stats.outputEvents + stats.failures = stats.inputMessages := by
  rw [tallied.output, tallied.failed, tallied.input]
  exact (List.length_eq_length_filter_add maps).symm

end Tallied

end MarketDataFabric.Service
