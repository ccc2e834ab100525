/-
**Message frames through a ring**: the producer fills one frame for one message after the other and
pushes copies of it, the consumer pops them, under every interleaving of their steps.

* `Mailbox`, `MailStep` — what the channel is for: the message being written, and a bounded queue of the
  messages sent.
* `step_simulates` — **every step of the channel is a step of the mailbox**, with the answer it gives.
* `frames_delivered` — hence the messages received are the messages sent, in order, and each of them is
  what the calls up to its push wrote.
-/

import MarketDataFabric.Feed.MessageFrame
import MarketDataFabric.Runtime.SpscSystem

namespace MarketDataFabric.Runtime

open MarketDataFabric.Feed Library BoundedFifo

/-! ### The channel -/

structure FrameChannel (capacity : RingCapacity) (maxBytes : ℕ) where
  frame : RawProviderMessageFrame maxBytes := default
  system : System capacity (RawProviderMessageFrame maxBytes)

/-- The producer calls a function of its frame or takes a step of `try_push`, or the consumer takes a step
of `try_pop`. -/
inductive ChannelMove (maxBytes : ℕ) where
  | edit (input : FrameCall)
  | push
  | pop (left : RawProviderMessageFrame maxBytes)

/-- What a move says: the answer of a call, or that of the ring with the message that the frame shows. -/
inductive ChannelAction where
  | edited (input : FrameCall) (done : Bool)
  | ring (answer : Option (Event FeedMessageView))
deriving DecidableEq

/-- What the ring says. -/
def ChannelAction.event : ChannelAction → Option (Event FeedMessageView)
  | .edited _ _ => none
  | .ring answer => answer

/-- An answer of the ring, with the message for its frame. -/
def shown {maxBytes : ℕ} : Event (RawProviderMessageFrame maxBytes) → Event FeedMessageView
  | .pushed frame => .pushed frame.message
  | .full => .full
  | .popped frame => .popped frame.message
  | .empty => .empty

namespace FrameChannel

variable {capacity : RingCapacity} {maxBytes : ℕ}

def start (buffer : Fin capacity.value → RawProviderMessageFrame maxBytes) (index : UInt64) :
    FrameChannel capacity maxBytes :=
  { system := System.start buffer index }

/-- A producer inside `try_push` does nothing else. -/
def step (channel : FrameChannel capacity maxBytes) :
    ChannelMove maxBytes → FrameChannel capacity maxBytes × ChannelAction
  | .edit input =>
      match channel.system.producer with
      | .idle =>
          let (frame, done) := channel.frame.call input
          ({ channel with frame }, .edited input done)
      | .loadedWrite _ _ | .loadedRead _ _ | .wroteSlot _ _ => (channel, .ring none)
  | .push =>
      let (system, answer) := channel.system.step (.producer channel.frame)
      ({ channel with system }, .ring (answer.map shown))
  | .pop left =>
      let (system, answer) := channel.system.step (.consumer left)
      ({ channel with system }, .ring (answer.map shown))

end FrameChannel

/-! ### The mailbox -/

/-- The message being written, and the messages under way. -/
structure Mailbox where
  current : FeedMessageView
  held : List FeedMessageView

/-- What an action means for the message being written. -/
def ChannelAction.apply (maxBytes : ℕ) (current : FeedMessageView) : ChannelAction → FeedMessageView
  | .edited input _ => (input.edit maxBytes current).1
  | .ring _ => current

/-- **The steps of a mailbox**: a call edits the message being written, and what is sent is that
message. -/
structure MailStep (capacity maxBytes : ℕ) (box : Mailbox) (action : ChannelAction) (next : Mailbox) :
    Prop where
  queue : Step capacity box.held action.event next.held
  current : next.current = action.apply maxBytes box.current
  sent : ∀ message, action.event = some (.pushed message) → message = box.current
  answered : ∀ input done, action = .edited input done → done = (input.edit maxBytes box.current).2

/-- A channel represents a mailbox. A push under way is one of the frame as it is. -/
structure Carries {capacity : RingCapacity} {maxBytes : ℕ} (box : Mailbox)
    (channel : FrameChannel capacity maxBytes) : Prop where
  current : channel.frame.message = box.current
  queue : ∃ frames, Represents frames channel.system ∧
    box.held = frames.map RawProviderMessageFrame.message
  pushing : ∀ frame, channel.system.producer.pushing = some frame → frame = channel.frame

section Simulation

variable {capacity : RingCapacity} {maxBytes : ℕ}

/-- A step of a queue of frames is one of a queue of messages. -/
theorem step_shown {frames later : List (RawProviderMessageFrame maxBytes)}
    {answer : Option (Event (RawProviderMessageFrame maxBytes))}
    (step : Step capacity.value frames answer later) :
    Step capacity.value (frames.map RawProviderMessageFrame.message) (answer.map shown)
      (later.map RawProviderMessageFrame.message) := by
  cases step with
  | silent => exact .silent _
  | pushed _ frame room =>
      rw [List.map_append]
      exact .pushed _ _ (by rwa [List.length_map])
  | full _ full => exact .full _ (by rwa [List.length_map])
  | popped later frame => exact .popped _ _
  | empty => exact .empty

/-- What the producer pushes is its frame, and stays it until the ring answers. -/
theorem push_frame {channel : FrameChannel capacity maxBytes}
    (pushing : ∀ frame, channel.system.producer.pushing = some frame → frame = channel.frame) :
    (∀ frame, (channel.system.stepProducer channel.frame).2 = some (.pushed frame) →
        frame = channel.frame) ∧
      ∀ frame, (channel.system.stepProducer channel.frame).1.producer.pushing = some frame →
        frame = channel.frame := by
  have told := channel.system.stepProducer_pushing channel.frame
  cases answer : (channel.system.stepProducer channel.frame).2 with
  | none =>
      rw [answer] at told
      refine ⟨nofun, fun frame now => ?_⟩
      rw [told] at now
      cases busy : channel.system.producer.pushing with
      | none =>
          rw [busy] at now
          exact (Option.some.inj now).symm
      | some other =>
          rw [busy] at now
          exact (Option.some.inj now) ▸ pushing other busy
  | some event =>
      rw [answer] at told
      refine ⟨fun frame same => ?_, fun frame now => ?_⟩
      · rw [Option.some.inj same] at told
        rcases told.1 with full | pushed
        · cases full
        · obtain ⟨other, busy, here⟩ := Option.map_eq_some_iff.mp pushed.symm
          rw [Event.pushed.inj here] at busy
          exact pushing frame busy
      · rw [told.2] at now
        cases now

/-- **Every step of the channel is a step of the mailbox**, with the answer it gives. -/
theorem step_simulates :
    Machine.Simulates FrameChannel.step (MailStep capacity.value maxBytes)
      (Carries : Mailbox → FrameChannel capacity maxBytes → Prop) := by
  intro box channel move carries
  have here := carries
  obtain ⟨current, ⟨frames, represents, held⟩, pushing⟩ := carries
  cases move with
  | edit input =>
      have waits : MailStep capacity.value maxBytes box (.ring none) box :=
        ⟨.silent _, rfl, nofun, nofun⟩
      cases busy : channel.system.producer with
      | idle =>
          obtain ⟨shows, done⟩ := Prod.mk.inj (call_message channel.frame input)
          rw [current] at shows done
          simp only [FrameChannel.step, busy]
          refine ⟨⟨(input.edit maxBytes box.current).1, box.held⟩,
            ⟨.silent _, rfl, nofun, fun other answer same => ?_⟩,
            ⟨shows, ⟨frames, represents, held⟩, ?_⟩⟩
          · cases same
            exact done
          · rw [busy]
            nofun
      | loadedWrite | loadedRead | wroteSlot =>
          simp only [FrameChannel.step, busy]
          exact ⟨box, waits, here⟩
  | push =>
      obtain ⟨later, fifo, next⟩ :=
        simulates_fifo frames channel.system (.producer channel.frame) represents
      obtain ⟨pushed, still⟩ := push_frame pushing
      refine ⟨⟨box.current, later.map RawProviderMessageFrame.message⟩,
        ⟨held ▸ step_shown fifo, rfl, fun message sent => ?_, nofun⟩,
        ⟨current, ⟨later, next, rfl⟩, still⟩⟩
      obtain ⟨event, answer, same⟩ := Option.map_eq_some_iff.mp sent
      cases event with
      | pushed frame =>
          rw [← Event.pushed.inj same, pushed frame answer, current]
      | full | popped | empty => cases same
  | pop left =>
      obtain ⟨later, fifo, next⟩ :=
        simulates_fifo frames channel.system (.consumer left) represents
      refine ⟨⟨box.current, later.map RawProviderMessageFrame.message⟩,
        ⟨held ▸ step_shown fifo, rfl, fun message sent => ?_, nofun⟩,
        ⟨current, ⟨later, next, rfl⟩, fun frame now => ?_⟩⟩
      · obtain ⟨event, answer, same⟩ := Option.map_eq_some_iff.mp sent
        rcases channel.system.stepConsumer_answer left with silent | empty | ⟨value, popped⟩
        · cases silent.symm.trans answer
        · cases empty.symm.trans answer
          cases same
        · cases popped.symm.trans answer
          cases same
      · refine pushing frame ?_
        rw [← channel.system.stepConsumer_producer left]
        exact now

end Simulation

/-! ### Every schedule -/

/-- What some actions have written, from a fresh frame on. -/
def written (maxBytes : ℕ) (actions : List ChannelAction) : FeedMessageView :=
  actions.foldl (ChannelAction.apply maxBytes) {}

section Trace

variable {capacity maxBytes : ℕ}

/-- A mailbox is a queue. -/
theorem queue_trace {box last : Mailbox} {actions : List ChannelAction}
    (run : Machine.Trace (MailStep capacity maxBytes) box actions last) :
    Machine.Trace (Step capacity) box.held (actions.map ChannelAction.event) last.held := by
  induction run with
  | nil box => exact .nil _
  | cons step _ ih => exact .cons step.queue ih

/-- Every step of a run finds the message that was written before it. -/
theorem trace_split {box last : Mailbox} {actions : List ChannelAction}
    (run : Machine.Trace (MailStep capacity maxBytes) box actions last)
    {front back : List ChannelAction} {action : ChannelAction}
    (split : actions = front ++ action :: back) :
    ∃ here next, here.current = front.foldl (ChannelAction.apply maxBytes) box.current ∧
      MailStep capacity maxBytes here action next := by
  induction run generalizing front with
  | nil box => cases front <;> cases split
  | cons step _ ih =>
      cases front with
      | nil =>
          cases split
          exact ⟨_, _, rfl, step⟩
      | cons first front =>
          obtain ⟨rfl, rest⟩ := List.cons.inj split
          obtain ⟨here, next, current, there⟩ := ih rest
          exact ⟨here, next, by rw [current, step.current, List.foldl_cons], there⟩

end Trace

/-- **Messages go through the ring as they were written.** For every capacity and start of the ring,
every size of the frames and every interleaving of the two sides:

* the messages received are the first of the messages sent, in order, and no more than the ring holds
  are under way;
* what is sent is what the calls before it wrote, and nothing that an earlier message left in the frame
  or in a slot; a call answers that it failed exactly if its payload is larger than the frame. -/
theorem frames_delivered {capacity : RingCapacity} {maxBytes : ℕ}
    (buffer : Fin capacity.value → RawProviderMessageFrame maxBytes) (index : UInt64)
    (moves : List (ChannelMove maxBytes)) :
    let actions := Machine.outputs FrameChannel.step (FrameChannel.start buffer index) moves
    let sent := pushedValues (actions.map ChannelAction.event)
    let received := poppedValues (actions.map ChannelAction.event)
    received <+: sent ∧ sent.length ≤ received.length + capacity.value ∧
      (∀ front message back, actions = front ++ .ring (some (.pushed message)) :: back →
        message = written maxBytes front) ∧
      ∀ front input done back, actions = front ++ .edited input done :: back →
        done = (input.edit maxBytes (written maxBytes front)).2 := by
  intro actions sent received
  have start : Carries ⟨{}, []⟩ (FrameChannel.start buffer index) := by
    refine ⟨?_, ⟨[], represents_start buffer index, rfl⟩, nofun⟩
    exact congrArg (FeedMessageView.mk {}) List.take_zero
  obtain ⟨last, run, -⟩ : ∃ last,
      Machine.Trace (MailStep capacity.value maxBytes) ⟨{}, []⟩ actions last ∧
        Carries last (Machine.final FrameChannel.step (FrameChannel.start buffer index) moves) :=
    step_simulates.trace start
  obtain ⟨conserved, bounded⟩ := conserves (queue_trace run) (Nat.zero_le _)
  refine ⟨⟨last.held, conserved.symm⟩, ?_, ?_, ?_⟩
  · have lengths := congrArg List.length conserved
    rw [List.nil_append, List.length_append] at lengths
    exact lengths ▸ Nat.add_le_add_left bounded _
  · intro front message back split
    obtain ⟨here, next, current, step⟩ := trace_split run split
    exact (step.sent message rfl).trans current
  · intro front input done back split
    obtain ⟨here, next, current, step⟩ := trace_split run split
    rw [step.answered input done rfl, current]
    rfl

end MarketDataFabric.Runtime
