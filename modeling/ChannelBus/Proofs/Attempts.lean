import ChannelBus.Proofs.Tries

/-!
# The shape of an attempt

Values that move at once all move in one way: the buffer of a channel changes, and the first waits
on one side are woken. `Bus.MovesAtOnce` says so of an operation with everything that it leaves, its
notices included, and `Bus.AttemptedOnce` says of `Bus.attempt` that it does no more than that
before it offers its value or awaits one. Whatever is read off the notices of a call on a handle is
read off these shapes.
-/

namespace ChannelBus

variable {α β γ : Type}

namespace Bus

/-- What a move of values that never waits leaves: it fails, or has nothing to do, or the buffer of
one channel changes and waits at the front of one side are woken. -/
inductive MovesAtOnce (bus : Bus α) : Outcome α β → Prop where
  /-- It fails. -/
  | failed (error : BusError) (result : β) : MovesAtOnce bus (bus.failing error result)
  /-- There is nothing to do. -/
  | idle (result : β) : MovesAtOnce bus (bus.unchanged result)
  /-- Values move, and waits are woken. -/
  | moved {handle : Handle} {channel filled : Channel α} (here : bus.channel? handle = some channel)
    (same : filled.generation = channel.generation)
    (queues : ∀ side, filled.queue side = channel.queue side) (side : Side) (count : Nat)
    (update : Stats → Stats) (result : β) :
    MovesAtOnce bus
      { result
        bus := (bus.setChannel handle (filled.wake side count)).note update
        notices := (filled.front side count).map (·.wokenNotice) }

/-- The answer makes no difference. -/
theorem MovesAtOnce.map {bus : Bus α} {outcome : Outcome α β} (moves : bus.MovesAtOnce outcome)
    (change : β → γ) : bus.MovesAtOnce (outcome.map change) := by
  cases moves with
  | failed error result => exact .failed error (change result)
  | idle result => exact .idle (change result)
  | moved here same queues side count update result =>
    exact .moved here same queues side count update (change result)

/-- A move of values at once that does nothing if it would block. -/
structure TriesAtOnce (bus : Bus α) (outcome : Outcome α (Result β)) : Prop where
  /-- It moves values at once. -/
  moves : bus.MovesAtOnce outcome
  /-- It does nothing if it would block. -/
  blocked : outcome.result = .error .wouldBlock → outcome = bus.fail .wouldBlock

/-- Failing moves nothing. -/
theorem triesAtOnce_fail (bus : Bus α) (error : BusError) :
    bus.TriesAtOnce (bus.fail error : Outcome α (Result β)) := by
  refine ⟨.failed error (Except.error error : Result β), fun blocks => ?_⟩
  obtain rfl : error = .wouldBlock := Except.error.inj blocks
  rfl

/-- A move of values that need not be enabled. -/
theorem TriesAtOnce.ensure {bus : Bus α} {outcome : Outcome α (Result β)}
    (tries : bus.TriesAtOnce outcome) (enabled : Bool) :
    bus.TriesAtOnce (bus.ensure enabled outcome) := by
  cases enabled with
  | true => exact tries
  | false => exact bus.triesAtOnce_fail _

section Transfers

variable (bus : Bus α) (handle : Handle) (generation : Option Nat)

/-- Values that go into a buffer wake receivers. -/
theorem triesAtOnce_acceptMany {channel : Channel α} (here : bus.channel? handle = some channel)
    (values : List α) (update : Stats → Stats) (result : β) :
    bus.TriesAtOnce
      { result := .ok result
        bus := (bus.setChannel handle (channel.acceptMany values).2).note update
        notices := (channel.acceptMany values).1.map (·.wokenNotice) } := by
  have queues : ∀ side, (channel.pushMany values).queue side = channel.queue side := fun side => by
    cases side <;> rfl
  have same : (channel.pushMany values).generation = channel.generation := rfl
  exact ⟨.moved here same queues .receivers _ update (Except.ok result), nofun⟩

/-- Values that come out of a buffer wake senders. -/
theorem triesAtOnce_releaseMany {channel : Channel α} (here : bus.channel? handle = some channel)
    (max : Nat) (update : Stats → Stats) (result : β) :
    bus.TriesAtOnce
      { result := .ok result
        bus := (bus.setChannel handle (channel.releaseMany max).2).note update
        notices := (channel.releaseMany max).1.map (·.wokenNotice) } := by
  have queues : ∀ side, (channel.popMany max).queue side = channel.queue side := fun side => by
    cases side <;> rfl
  have same : (channel.popMany max).generation = channel.generation := rfl
  exact ⟨.moved here same queues .senders _ update (Except.ok result), nofun⟩

/-- A push wakes the first receiver. -/
theorem triesAtOnce_push (value : α) : bus.TriesAtOnce (bus.push handle generation value) := by
  cases found : bus.lookup handle generation with
  | none =>
    simp only [push, found]
    exact bus.triesAtOnce_fail _
  | some channel =>
    cases full : channel.isFull with
    | true =>
      simp only [push, found, Channel.accept_eq, full, if_true]
      exact bus.triesAtOnce_fail _
    | false =>
      simp only [push, found, Channel.accept_eq, full]
      exact bus.triesAtOnce_acceptMany handle (channel?_of_lookup found) [value] _ ()

/-- A pop wakes the first sender. -/
theorem triesAtOnce_pop : bus.TriesAtOnce (bus.pop handle generation) := by
  cases found : bus.lookup handle generation with
  | none =>
    simp only [pop, found]
    exact bus.triesAtOnce_fail _
  | some channel =>
    cases held : channel.buffer with
    | nil =>
      simp only [pop, found, Channel.release_eq, held, List.head?_nil, Option.map_none]
      exact bus.triesAtOnce_fail _
    | cons value rest =>
      simp only [pop, found, Channel.release_eq, held, List.head?_cons, Option.map_some]
      exact bus.triesAtOnce_releaseMany handle (channel?_of_lookup found) 1 _ value

/-- A batch push wakes a receiver for each value that fits. -/
theorem triesAtOnce_pushMany (values : List α) :
    bus.TriesAtOnce (bus.pushMany handle generation values) := by
  unfold pushMany
  split
  case h_1 => exact bus.triesAtOnce_fail _
  case h_2 channel found =>
    split
    case isTrue => exact ⟨.idle _, nofun⟩
    case isFalse =>
      simp only
      split
      case isTrue => exact bus.triesAtOnce_fail _
      case isFalse =>
        exact bus.triesAtOnce_acceptMany handle (channel?_of_lookup found) values _ _

/-- A batch pop wakes a sender for each value that it takes. -/
theorem triesAtOnce_popMany (max : Nat) :
    bus.TriesAtOnce (bus.popMany handle generation max) := by
  unfold popMany
  split
  case h_1 => exact bus.triesAtOnce_fail _
  case h_2 channel found =>
    split
    case isTrue => exact ⟨.idle _, nofun⟩
    case isFalse =>
      simp only
      split
      case isTrue => exact bus.triesAtOnce_fail _
      case isFalse =>
        exact bus.triesAtOnce_releaseMany handle (channel?_of_lookup found) max _ _

end Transfers

/-- A request to move values through one channel does so at once. -/
theorem movesAtOnce_perform [Stored α] (bus : Bus α) {request : Request α} {call : Call α}
    (asked : request.call? = some call) (named : call.handle?.isSome = true) :
    bus.MovesAtOnce (bus.perform request) := by
  cases request with
  | trySend handle value =>
    rw [perform]
    exact (bus.triesAtOnce_push handle none value).moves.map _
  | tryReceive handle =>
    rw [perform]
    exact (bus.triesAtOnce_pop handle none).moves.map _
  | trySendMany handle values =>
    rw [perform]
    exact ((bus.triesAtOnce_pushMany handle none values).ensure bus.config.batch).moves.map _
  | tryReceiveMany handle max =>
    rw [perform]
    exact ((bus.triesAtOnce_popMany handle none max).ensure bus.config.batch).moves.map _
  | tryBroadcast value =>
    obtain rfl := Option.some.inj asked
    contradiction
  | openChannel | close | delete | isOpen | capacity | length | waiting | channelCount | handles
  | stats => contradiction

/-! ## Calls that may wait -/

/-- What an attempt of a call on a handle leaves: values move at once and the call is over, or it
would block and then offers a value or awaits one. -/
inductive AttemptedOnce (bus : Bus α) (generation : Nat) (waker : TaskId) (call : Call α)
    (handle : Handle) : Outcome α (Progress α) → Prop where
  /-- Values move at once. -/
  | ended {outcome : Outcome α (Progress α)} {reply : Reply α} (moves : bus.MovesAtOnce outcome)
    (ends : outcome.result = .finished reply) :
    AttemptedOnce bus generation waker call handle outcome
  /-- A sender is stuck with this value. -/
  | offers (sends : call.side = .senders) (value : α) (reply : Result Unit → Reply α) :
    AttemptedOnce bus generation waker call handle
      (((bus.note (·.countError .wouldBlock)).offer handle generation value waker call reply).after
        [.raised .wouldBlock])
  /-- A receiver is stuck. -/
  | awaits (receives : call.side = .receivers) (reply : Result α → Reply α) :
    AttemptedOnce bus generation waker call handle
      (((bus.note (·.countError .wouldBlock)).await handle generation waker call reply).after
        [.raised .wouldBlock])

/-- A move of values that goes on only if it would have blocked. -/
theorem TriesAtOnce.andThen {bus : Bus α} {first : Outcome α (Result β)}
    (tries : bus.TriesAtOnce first) {generation : Nat} {waker : TaskId} {call : Call α}
    {handle : Handle} {next : Result β → Bus α → Outcome α (Progress α)}
    (blocked : bus.AttemptedOnce generation waker call handle
      ((bus.fail .wouldBlock : Outcome α (Result β)).andThen next))
    (ends : first.result ≠ .error .wouldBlock → ∃ reply : Result β → Reply α, ∀ bus,
      next first.result bus = bus.unchanged (.finished (reply first.result))) :
    bus.AttemptedOnce generation waker call handle (first.andThen next) := by
  by_cases blocks : first.result = .error .wouldBlock
  · rw [tries.blocked blocks]
    exact blocked
  · obtain ⟨reply, finished⟩ := ends blocks
    have same : first.andThen next = first.map fun result => .finished (reply result) := by
      simp only [Outcome.andThen, finished, unchanged, Outcome.map, List.append_nil]
    rw [same]
    exact .ended (tries.moves.map _) rfl

/-- An attempt of a call on a handle moves values at once, or offers a value, or awaits one. -/
theorem attemptedOnce_attempt (bus : Bus α) (generation : Nat) (waker : TaskId) {call : Call α}
    {handle : Handle} (named : call.handle? = some handle) :
    bus.AttemptedOnce generation waker call handle (bus.attempt generation waker call) := by
  cases call with
  | broadcast value => contradiction
  | send target value =>
    obtain rfl : target = handle := Option.some.inj named
    rw [attempt, sendOnce]
    refine (bus.triesAtOnce_push target (some generation) value).andThen (.offers rfl value .sent)
      fun moves => ⟨.sent, fun bus => ?_⟩
    split
    case h_1 blocks => exact absurd blocks moves
    case h_2 => rfl
  | receive target =>
    obtain rfl : target = handle := Option.some.inj named
    rw [attempt, receiveOnce]
    refine (bus.triesAtOnce_pop target (some generation)).andThen (.awaits rfl .received)
      fun moves => ⟨.received, fun bus => ?_⟩
    split
    case h_1 blocks => exact absurd blocks moves
    case h_2 => rfl
  | sendMany target values =>
    obtain rfl : target = handle := Option.some.inj named
    rw [attempt, sendManyOnce]
    refine (bus.triesAtOnce_pushMany target (some generation) values).andThen ?_
      fun moves => ⟨.sentMany, fun bus => ?_⟩
    · cases values with
      | nil => exact .ended (.failed .wouldBlock _) rfl
      | cons first rest => exact .offers rfl first .sentFirst
    · split
      case h_1 blocks => exact absurd blocks moves
      case h_2 => rfl
  | receiveMany target max =>
    obtain rfl : target = handle := Option.some.inj named
    rw [attempt, receiveManyOnce]
    refine (bus.triesAtOnce_popMany target (some generation) max).andThen (.awaits rfl .receivedOne)
      fun moves => ⟨.receivedMany, fun bus => ?_⟩
    split
    case h_1 blocks => exact absurd blocks moves
    case h_2 => rfl

end Bus

end ChannelBus
