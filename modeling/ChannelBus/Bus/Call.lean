import ChannelBus.Bus.Broadcast

/-!
# Calls that wait

A waiting call is tried when it starts and again at every poll that finds its wait dequeued. A try
either finishes the call or parks it on the wait queue of one channel, so a poll is one try at most.
Being woken is only a hint: between the wakeup and the poll another task may have been faster, and
then the call parks again, at the tail.

A call on a handle is pinned to the channel open at its start. If that channel is closed, the call
fails even if the handle names another channel by then. A broadcast is pinned to nothing: each of
its tries regards the channels open at that moment.
-/

namespace ChannelBus

variable {α : Type}

/-- A call that may have to wait. -/
inductive Call (α : Type) where
  /-- Send a value. -/
  | send (handle : Handle) (value : α)
  /-- Receive a value. -/
  | receive (handle : Handle)
  /-- Send the values that fit, at least one. -/
  | sendMany (handle : Handle) (values : List α)
  /-- Receive up to `max` values, at least one. -/
  | receiveMany (handle : Handle) (max : Nat)
  /-- Give a copy of a value to every open channel. -/
  | broadcast (value : α)
deriving DecidableEq

/-- How a transfer ended. -/
inductive Reply (α : Type) where
  /-- A value was sent or broadcast. -/
  | sent (result : Result Unit)
  /-- A number of values was sent. -/
  | sentMany (result : Result Nat)
  /-- A value was received. -/
  | received (result : Result α)
  /-- Values were received. -/
  | receivedMany (result : Result (List α))

/-- Why a transfer failed, if it did. -/
def Reply.error? : Reply α → Option BusError
  | .sent (.error error) | .sentMany (.error error) => some error
  | .received (.error error) | .receivedMany (.error error) => some error
  | .sent (.ok _) | .sentMany (.ok _) | .received (.ok _) | .receivedMany (.ok _) => none

/-- The reply to a batch send of which only the first value was put on offer. -/
def Reply.sentFirst (result : Result Unit) : Reply α :=
  .sentMany (result.map fun _ => 1)

/-- The reply to a batch receive that got a single value. -/
def Reply.receivedOne (result : Result α) : Reply α :=
  .receivedMany (result.map ([·]))

/-- Where a parked call waits. -/
structure Ticket where
  /-- The handle of the channel when the call parked. -/
  handle : Handle
  /-- The generation of the channel. -/
  generation : Nat
  /-- The queue of the channel. -/
  side : Side
  /-- The wait in the queue. -/
  key : Nat
deriving DecidableEq

/-- A parked call. -/
structure Suspended (α : Type) where
  /-- What the task wants. -/
  call : Call α
  /-- Where it waits. -/
  ticket : Ticket
deriving DecidableEq

/-- What a poll of a call leads to. -/
inductive Progress (α : Type) where
  /-- The call is over. -/
  | finished (reply : Reply α)
  /-- The call waits. -/
  | parked (suspended : Suspended α)

namespace Bus

/-! ## Channels reached by a ticket -/

/-- The channel of a ticket, be it open or closed. -/
def ticketed? (bus : Bus α) (ticket : Ticket) : Option (Channel α) :=
  match bus.pinned? ticket.handle ticket.generation with
  | some channel => some channel
  | none => bus.retired.find? (·.generation == ticket.generation)

/-- The queue that a ticket names; empty if there is no such channel. -/
def ticketQueue (bus : Bus α) (ticket : Ticket) : WaitQueue α :=
  (bus.ticketed? ticket).elim .new (·.queue ticket.side)

/-- Replaces the queue that a ticket names. -/
def setTicketQueue (bus : Bus α) (ticket : Ticket) (queue : WaitQueue α) : Bus α :=
  match bus.pinned? ticket.handle ticket.generation with
  | some channel => bus.setChannel ticket.handle (channel.setQueue ticket.side queue)
  | none =>
    { bus with
      retired := bus.retired.map fun channel =>
        if channel.generation == ticket.generation then channel.setQueue ticket.side queue
        else channel }

/-- Parks a call on one side of a channel. -/
def park (bus : Bus α) (handle : Handle) (channel : Channel α) (side : Side) (parcel : Parcel α)
    (waker : TaskId) (call : Call α) : Outcome α (Progress α) :=
  let key := (channel.queue side).nextKey
  { result := .parked
      { call, ticket := { handle, generation := channel.generation, side, key } }
    bus := bus.setChannel handle (channel.park side parcel (some waker))
    notices := [.queued key] }

/-! ## Senders -/

/-- After a push that would have blocked: hands the value to a waiting rendezvous receiver, or parks
the call with the value on offer. -/
def offer (bus : Bus α) (handle : Handle) (generation : Nat) (value : α) (waker : TaskId)
    (call : Call α) (reply : Result Unit → Reply α) : Outcome α (Progress α) :=
  match bus.pinned? handle generation with
  | none => (bus.fail .noChannel).map fun result => .finished (reply result)
  | some channel =>
    match channel.handOff value with
    | some (wait, channel) =>
      { result := .finished (reply (.ok ()))
        bus := (bus.setChannel handle channel).note (·.countSent 1 1)
        notices := [wait.wokenNotice, .handedOff handle] }
    | none =>
      (bus.park handle channel .senders (.offered value) waker call).andThen fun parked bus =>
        { result := parked
          bus := bus.note (·.countSuspended 0)
          notices := [.senderParked handle] }

/-- One try of a pinned send. -/
def sendOnce (bus : Bus α) (handle : Handle) (generation : Nat) (value : α) (waker : TaskId) :
    Outcome α (Progress α) :=
  (bus.push handle (some generation) value).andThen fun result bus =>
    match result with
    | .error .wouldBlock =>
      bus.offer handle generation value waker (.send handle value) .sent
    | result => bus.unchanged (.finished (.sent result))

/-- One try of a pinned batch send. Only the first value of the batch is ever put on offer. -/
def sendManyOnce (bus : Bus α) (handle : Handle) (generation : Nat) (values : List α)
    (waker : TaskId) : Outcome α (Progress α) :=
  (bus.pushMany handle (some generation) values).andThen fun result bus =>
    match result, values with
    | .error .wouldBlock, first :: _ =>
      bus.offer handle generation first waker (.sendMany handle values) .sentFirst
    | result, _ => bus.unchanged (.finished (.sentMany result))

/-! ## Receivers -/

/-- After a pop that would have blocked: takes the value of a waiting rendezvous sender, or parks
the call. A receiver that waits on a rendezvous channel is room for a parked broadcaster, which has
nothing on offer; so the first waiting sender gets a hint. -/
def await (bus : Bus α) (handle : Handle) (generation : Nat) (waker : TaskId) (call : Call α)
    (reply : Result α → Reply α) : Outcome α (Progress α) :=
  match bus.pinned? handle generation with
  | none => (bus.fail .noChannel).map fun result => .finished (reply result)
  | some channel =>
    match channel.takeOffer with
    | some (value, wait, channel) =>
      { result := .finished (reply (.ok value))
        bus := (bus.setChannel handle channel).note (·.countReceived 1 1)
        notices := [wait.wokenNotice, .tookOffer handle] }
    | none =>
      let hints := if channel.isRendezvous then 1 else 0
      let hinted := channel.front .senders hints
      ((bus.park handle (channel.wake .senders hints) .receivers .empty waker call).after
        (hinted.map (·.wokenNotice))).andThen fun parked bus =>
        { result := parked
          bus := bus.note (·.countSuspended hinted.length)
          notices := [.receiverParked handle] }

/-- One try of a pinned receive. -/
def receiveOnce (bus : Bus α) (handle : Handle) (generation : Nat) (waker : TaskId) :
    Outcome α (Progress α) :=
  (bus.pop handle (some generation)).andThen fun result bus =>
    match result with
    | .error .wouldBlock => bus.await handle generation waker (.receive handle) .received
    | result => bus.unchanged (.finished (.received result))

/-- One try of a pinned batch receive. -/
def receiveManyOnce (bus : Bus α) (handle : Handle) (generation : Nat) (max : Nat)
    (waker : TaskId) : Outcome α (Progress α) :=
  (bus.popMany handle (some generation) max).andThen fun result bus =>
    match result with
    | .error .wouldBlock =>
      bus.await handle generation waker (.receiveMany handle max) .receivedOne
    | result => bus.unchanged (.finished (.receivedMany result))

/-! ## Broadcasters -/

/-- Lets a broadcaster park on the channel that refused its value. -/
def standBy (bus : Bus α) (handle : Handle) (generation : Nat) (value : α) (waker : TaskId) :
    Outcome α (Progress α) :=
  match bus.pinned? handle generation with
  | none => (bus.fail .noChannel).map fun result => .finished (.sent result)
  | some channel =>
    (bus.park handle channel .senders .empty waker (.broadcast value)).andThen fun parked bus =>
      { result := parked
        bus := bus.note (·.countSuspended 0)
        notices := [.broadcasterParked handle] }

/-- After a try of a broadcast that was woken on `previous`: the wakeup was meant for that channel,
so unless the broadcaster goes back to wait there, the next sender gets it. -/
def settleWakeup (bus : Bus α) (previous : Option (Handle × Nat)) (stall : Option Stall) :
    Outcome α Unit :=
  match previous with
  | none => bus.unchanged ()
  | some (handle, generation) =>
    if stall = some (.refused handle generation) then bus.unchanged ()
    else bus.passWakeupOn handle generation

/-- One try of a broadcast; `previous` is the channel on which it was woken. -/
def broadcastTry (bus : Bus α) (value : α) (previous : Option (Handle × Nat)) (waker : TaskId) :
    Outcome α (Progress α) :=
  (bus.broadcastOnce Channel.canAccept value).andThen fun stall bus =>
    (bus.settleWakeup previous stall).andThen fun _ bus =>
      match stall with
      | none => bus.unchanged (.finished (.sent (.ok ())))
      | some .noChannel => (bus.fail .noChannel).map fun result => .finished (.sent result)
      | some (.refused handle generation) => bus.standBy handle generation value waker

/-! ## Starting, resuming and dropping calls -/

/-- Goes on with the generation of the channel open under a handle. -/
def pinning {β : Type} (bus : Bus α) (handle : Handle) (reply : Result β → Reply α)
    (proceed : Nat → Outcome α (Progress α)) : Outcome α (Progress α) :=
  match bus.channel? handle with
  | none => (bus.fail .noChannel).map fun result => .finished (reply result)
  | some channel => proceed channel.generation

/-- Goes on only if an extension of the bus is enabled. -/
def ensuring {β : Type} (bus : Bus α) (enabled : Bool) (reply : Result β → Reply α)
    (proceed : Outcome α (Progress α)) : Outcome α (Progress α) :=
  if enabled then proceed
  else (bus.fail .notImplemented).map fun result => .finished (reply result)

/-- The first poll of a call. -/
def start (bus : Bus α) (call : Call α) (waker : TaskId) : Outcome α (Progress α) :=
  match call with
  | .send handle value =>
    bus.pinning handle .sent fun generation => bus.sendOnce handle generation value waker
  | .receive handle =>
    bus.pinning handle .received fun generation => bus.receiveOnce handle generation waker
  | .sendMany handle values =>
    bus.ensuring bus.config.batch .sentMany <|
      bus.pinning handle .sentMany fun generation =>
        bus.sendManyOnce handle generation values waker
  | .receiveMany handle max =>
    bus.ensuring bus.config.batch .receivedMany <|
      bus.pinning handle .receivedMany fun generation =>
        bus.receiveManyOnce handle generation max waker
  | .broadcast value =>
    bus.ensuring bus.config.broadcast .sent <| bus.broadcastTry value none waker

/-- Goes on with a call whose wait was dequeued; `parcel` is what lay on the wait. A transfer that
happened while the call was parked ends it; otherwise a sender takes its offer back, and the call is
tried again. -/
def wakeUp (bus : Bus α) (suspended : Suspended α) (parcel : Parcel α) (waker : TaskId) :
    Outcome α (Progress α) :=
  let ticket := suspended.ticket
  let generation := ticket.generation
  match suspended.call, parcel with
  | .send _ _, .taken => bus.unchanged (.finished (.sent (.ok ())))
  | .send handle value, parcel =>
    let returned := parcel.offer?.getD value
    (bus.sendOnce handle generation returned waker).after [.senderRetrying handle]
  | .receive _, .delivered value => bus.unchanged (.finished (.received (.ok value)))
  | .receive handle, _ =>
    (bus.receiveOnce handle generation waker).after [.receiverRetrying handle]
  | .sendMany _ _, .taken => bus.unchanged (.finished (.sentFirst (.ok ())))
  | .sendMany handle values, _ => bus.sendManyOnce handle generation values waker
  | .receiveMany _ _, .delivered value => bus.unchanged (.finished (.receivedOne (.ok value)))
  | .receiveMany handle max, _ => bus.receiveManyOnce handle generation max waker
  | .broadcast value, _ => bus.broadcastTry value (some (ticket.handle, generation)) waker

/-- A later poll of a call. While its wait is queued the call stays as it is. -/
def resume (bus : Bus α) (suspended : Suspended α) (waker : TaskId) : Outcome α (Progress α) :=
  let ticket := suspended.ticket
  let queue := bus.ticketQueue ticket
  let polled := bus.setTicketQueue ticket (queue.poll ticket.key waker)
  match queue.found? ticket.key with
  | none => polled.unchanged (.parked suspended)
  | some parcel => polled.wakeUp suspended parcel waker

/-- What dropping a task tells about its wait. -/
def departureNotices (key : Nat) : WaitQueue.Departure α → List Notice
  | .settled | .withdrawn => []
  | .discarded _ => [.deliveryLost key]
  | .passedOn next => (next.map (·.wokenNotice)).toList

/-- Drops a parked call. A wakeup that it leaves behind goes to the next in line, uncounted. -/
def cancel (bus : Bus α) (suspended : Suspended α) : Outcome α Unit :=
  let ticket := suspended.ticket
  let queue := bus.ticketQueue ticket
  { result := ()
    bus := bus.setTicketQueue ticket (queue.leave ticket.key)
    notices := departureNotices ticket.key (queue.departure ticket.key) }

end Bus

end ChannelBus
