import ChannelBus.WaitQueue

/-!
# Channels

A channel is a bounded first-in first-out buffer together with the senders that wait for room and
the receivers that wait for values. A channel of capacity zero is a rendezvous: it never buffers,
and a value moves only from one waiting task to another.

The first half of this module holds what a channel can do by itself. The second half joins a change
of the buffer with the wakeups that it causes; each of those answers with the woken waits.
-/

namespace ChannelBus

variable {α : Type}

/-- The two queues of a channel. -/
inductive Side where
  /-- Tasks waiting for room. -/
  | senders
  /-- Tasks waiting for values. -/
  | receivers
deriving DecidableEq

/-- A bounded buffer and the tasks waiting on it. -/
structure Channel (α : Type) where
  /-- The most values that the buffer may hold. -/
  capacity : Nat
  /-- Number of the channel among all channels of its bus; no two are alike. -/
  generation : Nat
  /-- Buffered values, oldest first. -/
  buffer : List α
  /-- Tasks waiting for the buffer to have room. -/
  senders : WaitQueue α
  /-- Tasks waiting for the buffer to have a value. -/
  receivers : WaitQueue α
deriving DecidableEq

namespace Channel

/-- An empty channel on which nobody waits. -/
def new (capacity generation : Nat) : Channel α :=
  { capacity, generation, buffer := [], senders := .new, receivers := .new }

/-- How many values are buffered. -/
def length (channel : Channel α) : Nat :=
  channel.buffer.length

/-- Whether nothing is buffered. -/
def isEmpty (channel : Channel α) : Bool :=
  channel.buffer.isEmpty

/-- Whether the buffer has no room. -/
def isFull (channel : Channel α) : Bool :=
  channel.capacity ≤ channel.length

/-- How many more values the buffer can hold. -/
def freeSpace (channel : Channel α) : Nat :=
  channel.capacity - channel.length

/-- Whether values only move by handing over. -/
def isRendezvous (channel : Channel α) : Bool :=
  channel.capacity == 0

/-- Whether a blocking send would complete right now, into the buffer or by handing over. -/
def canAccept (channel : Channel α) : Bool :=
  !channel.isFull || (channel.isRendezvous && !channel.receivers.isEmpty)

/-- One of the two queues. -/
def queue (channel : Channel α) : Side → WaitQueue α
  | .senders => channel.senders
  | .receivers => channel.receivers

/-- Replaces one of the two queues. -/
def setQueue (channel : Channel α) (side : Side) (queue : WaitQueue α) : Channel α :=
  match side with
  | .senders => { channel with senders := queue }
  | .receivers => { channel with receivers := queue }

/-- A replaced queue is the one found afterwards. -/
@[simp] theorem queue_setQueue (channel : Channel α) (side : Side) (queue : WaitQueue α) :
    (channel.setQueue side queue).queue side = queue := by
  cases side <;> rfl

/-- Replacing a queue does not touch the buffer. -/
@[simp] theorem buffer_setQueue (channel : Channel α) (side : Side) (queue : WaitQueue α) :
    (channel.setQueue side queue).buffer = channel.buffer := by
  cases side <;> rfl

/-- Replacing a queue keeps the capacity. -/
@[simp] theorem capacity_setQueue (channel : Channel α) (side : Side) (queue : WaitQueue α) :
    (channel.setQueue side queue).capacity = channel.capacity := by
  cases side <;> rfl

/-- Replacing a queue keeps the generation. -/
@[simp] theorem generation_setQueue (channel : Channel α) (side : Side) (queue : WaitQueue α) :
    (channel.setQueue side queue).generation = channel.generation := by
  cases side <;> rfl

/-- Appends a value unless the buffer is full. -/
def tryPush (channel : Channel α) (value : α) : Option (Channel α) :=
  if channel.isFull then none
  else some { channel with buffer := channel.buffer ++ [value] }

/-- Removes the oldest value. -/
def tryPop (channel : Channel α) : Option (α × Channel α) :=
  match channel.buffer with
  | [] => none
  | value :: rest => some (value, { channel with buffer := rest })

/-- The values at the head of a list that find room in the buffer. -/
def fitting (channel : Channel α) (values : List α) : List α :=
  values.take channel.freeSpace

/-- Appends the values that find room, in order. -/
def pushMany (channel : Channel α) (values : List α) : Channel α :=
  { channel with buffer := channel.buffer ++ channel.fitting values }

/-- As many values fit as there is room for. -/
@[simp] theorem length_fitting (channel : Channel α) (values : List α) :
    (channel.fitting values).length = min channel.freeSpace values.length :=
  List.length_take

/-- Appending what fits keeps the buffer within the capacity. -/
theorem length_pushMany_le (channel : Channel α) (values : List α)
    (bounded : channel.length ≤ channel.capacity) :
    (channel.pushMany values).length ≤ channel.capacity := by
  simp only [length, pushMany, List.length_append, length_fitting, freeSpace] at *
  omega

/-- The oldest `max` values, fewer if fewer are buffered. -/
def oldest (channel : Channel α) (max : Nat) : List α :=
  channel.buffer.take max

/-- Removes the oldest `max` values. -/
def popMany (channel : Channel α) (max : Nat) : Channel α :=
  { channel with buffer := channel.buffer.drop max }

/-- The removed values and those still buffered make up the buffer before. -/
theorem oldest_append_popMany (channel : Channel α) (max : Nat) :
    channel.oldest max ++ (channel.popMany max).buffer = channel.buffer :=
  List.take_append_drop max channel.buffer

/-- Rendezvous only: gives a value to the first waiting receiver. Answers with that receiver's wait,
or with nothing if nobody can take the value. -/
def handOff (channel : Channel α) (value : α) : Option (Wait α × Channel α) :=
  if channel.isRendezvous then
    (channel.receivers.deliverFirst value).map fun (wait, queue) =>
      (wait, channel.setQueue .receivers queue)
  else none

/-- Rendezvous only: takes the value of the first waiting sender that offers one. Answers with the
value and that sender's wait. -/
def takeOffer (channel : Channel α) : Option (α × Wait α × Channel α) :=
  if channel.isRendezvous then
    channel.senders.takeFirstOffer.map fun (value, wait, queue) =>
      (value, wait, channel.setQueue .senders queue)
  else none

/-- The first `count` waits of one queue. -/
def front (channel : Channel α) (side : Side) (count : Nat) : List (Wait α) :=
  (channel.queue side).front count

/-- Wakes the waits that `front` lists. -/
def wake (channel : Channel α) (side : Side) (count : Nat) : Channel α :=
  channel.setQueue side ((channel.queue side).wake count)

/-- Queues a wait on one side. -/
def park (channel : Channel α) (side : Side) (parcel : Parcel α) (waker : Option TaskId) :
    Channel α :=
  channel.setQueue side ((channel.queue side).park parcel waker)

/-- Every queued wait, senders before receivers. -/
def everyone (channel : Channel α) : List (Wait α) :=
  channel.senders.waiting ++ channel.receivers.waiting

/-- Wakes every queued wait. -/
def wakeAll (channel : Channel α) : Channel α :=
  { channel with
    senders := channel.senders.wake channel.senders.length
    receivers := channel.receivers.wake channel.receivers.length }

/-! ## Transfers and the wakeups they cause -/

/-- Appends a value and wakes the first waiting receiver; nothing happens on a full channel. -/
def accept (channel : Channel α) (value : α) : Option (List (Wait α) × Channel α) :=
  (channel.tryPush value).map fun filled => (filled.front .receivers 1, filled.wake .receivers 1)

/-- Removes the oldest value and wakes the first waiting sender; nothing happens on an empty
channel. -/
def release (channel : Channel α) : Option (α × List (Wait α) × Channel α) :=
  channel.tryPop.map fun (value, drained) =>
    (value, drained.front .senders 1, drained.wake .senders 1)

/-- Appends the values that find room and wakes one receiver for each of them. -/
def acceptMany (channel : Channel α) (values : List α) : List (Wait α) × Channel α :=
  let filled := channel.pushMany values
  let count := (channel.fitting values).length
  (filled.front .receivers count, filled.wake .receivers count)

/-- Removes the oldest `max` values and wakes one sender for each of them. -/
def releaseMany (channel : Channel α) (max : Nat) : List (Wait α) × Channel α :=
  let drained := channel.popMany max
  let count := (channel.oldest max).length
  (drained.front .senders count, drained.wake .senders count)

/-- Puts a value where it can go: into the buffer, or else into the hands of a waiting receiver. -/
def give (channel : Channel α) (value : α) : List (Wait α) × Channel α :=
  match channel.accept value with
  | some accepted => accepted
  | none =>
    match channel.handOff value with
    | some (wait, served) => ([wait], served)
    | none => ([], channel)

end Channel

end ChannelBus
