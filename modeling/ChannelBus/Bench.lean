import ChannelBus.Channel

/-!
# A bench for a single channel

One channel and one wait queue of its own, worked by hand: waits are parked, polled and dropped one
at a time, without a bus, tasks or a scheduler. The two queues of the channel outlive it.
-/

namespace ChannelBus

/-- A queue on the bench. -/
inductive Bench.Place where
  /-- A queue of the channel. -/
  | channel (side : Side)
  /-- The queue that belongs to no channel. -/
  | spare
deriving DecidableEq

/-- A wait parked on the bench. -/
structure Bench.Parked where
  /-- The queue in which it was parked. -/
  place : Bench.Place
  /-- Its key in the queue. -/
  key : Nat
  /-- Whether it was dropped. -/
  dropped : Bool
deriving DecidableEq

/-- A channel, a spare queue, and the waits parked so far. -/
structure Bench where
  /-- The channel. -/
  channel : Channel UInt32
  /-- Whether the channel was dropped; its queues stay. -/
  channelDropped : Bool
  /-- The queue that belongs to no channel. -/
  spare : WaitQueue UInt32
  /-- All waits ever parked, named by their position. -/
  parked : List Bench.Parked

namespace Bench

/-- One manipulation. -/
inductive Action where
  /-- Park a wait. -/
  | park (place : Place) (parcel : Parcel UInt32)
  /-- Poll a wait for a task. -/
  | poll (index : Nat) (waker : TaskId)
  /-- Drop a wait. -/
  | drop (index : Nat)
  /-- Wake the first wait of a queue. -/
  | wakeFirst (place : Place)
  /-- Wake every wait of a queue. -/
  | wakeQueue (place : Place)
  /-- Describe a queue. -/
  | describeQueue (place : Place)
  /-- Drop the channel. -/
  | dropChannel
  /-- Append a value. -/
  | tryPush (value : UInt32)
  /-- Give a value to a waiting receiver. -/
  | handOff (value : UInt32)
  /-- Remove the oldest value. -/
  | tryPop
  /-- Take the value of a waiting sender. -/
  | takeOffer
  /-- Append the values that fit. -/
  | pushMany (values : List UInt32)
  /-- Remove the oldest values. -/
  | popMany (max : Nat)
  /-- Wake every wait of the channel. -/
  | wakeChannel
  /-- Describe the channel. -/
  | describeChannel
deriving DecidableEq

/-- The answer to a manipulation. -/
inductive Answer where
  /-- The position of a new wait. -/
  | parked (index : Nat)
  /-- The wait is still queued. -/
  | pending
  /-- The wait is over; this lay on it. -/
  | ready (parcel : Parcel UInt32)
  /-- There is no such wait, or the channel was dropped. -/
  | gone
  /-- Yes or no. -/
  | flag (value : Bool)
  /-- A number of waits or values. -/
  | count (value : Nat)
  /-- A description. -/
  | text (value : String)
  /-- The value found a place. -/
  | placed
  /-- The value is handed back. -/
  | handedBack (value : UInt32)
  /-- A value, if there was one. -/
  | value (value : Option UInt32)
  /-- Several values. -/
  | values (values : List UInt32)

/-- What a manipulation leaves; `woken` lists the dequeued waits in order. -/
structure Outcome where
  /-- The answer. -/
  answer : Answer
  /-- The bench afterwards. -/
  bench : Bench
  /-- The waits that were dequeued. -/
  woken : List (Wait UInt32)

/-- A bench with a new channel. -/
def new (capacity generation : Nat) : Bench :=
  { channel := .new capacity generation, channelDropped := false, spare := .new, parked := [] }

/-- A queue of the bench. -/
def queue (bench : Bench) : Place → WaitQueue UInt32
  | .channel side => bench.channel.queue side
  | .spare => bench.spare

/-- Replaces a queue of the bench. -/
def setQueue (bench : Bench) (place : Place) (queue : WaitQueue UInt32) : Bench :=
  match place with
  | .channel side => { bench with channel := bench.channel.setQueue side queue }
  | .spare => { bench with spare := queue }

/-- The wait at a position, if it was not dropped. -/
def parked? (bench : Bench) (index : Nat) : Option Parked :=
  (bench.parked[index]?).filter (!·.dropped)

/-- A list of numbers between square brackets. -/
def describeList (items : List String) : String :=
  "[" ++ ", ".intercalate items ++ "]"

/-- The keys of the queued waits. -/
def describe (queue : WaitQueue UInt32) : String :=
  let keys := describeList (queue.waiting.map fun wait => toString wait.key)
  s!"WaitQueue \x7b waiting: {keys} \x7d"

/-- Everything about the channel. -/
def describeChannel (channel : Channel UInt32) : String :=
  let buffer := describeList (channel.buffer.map toString)
  let senders := describe channel.senders
  let receivers := describe channel.receivers
  s!"Channel \x7b capacity: {channel.capacity}, generation: {channel.generation}, " ++
    s!"buffer: {buffer}, senders: {senders}, receivers: {receivers} \x7d"

/-- Answers without waking anybody. -/
def quietly (bench : Bench) (answer : Answer) : Outcome :=
  { answer, bench, woken := [] }

/-- Wakes the first `count` waits of a queue. -/
def wake (bench : Bench) (place : Place) (count : Nat) : Bench × List (Wait UInt32) :=
  let queue := bench.queue place
  (bench.setQueue place (queue.wake count), queue.front count)

/-- Answers a manipulation of the channel, which must not have been dropped. -/
def onChannel (bench : Bench)
    (manipulate : Channel UInt32 → Answer × Channel UInt32 × List (Wait UInt32)) : Outcome :=
  if bench.channelDropped then bench.quietly .gone
  else
    let (answer, channel, woken) := manipulate bench.channel
    { answer, bench := { bench with channel }, woken }

/-- The waits that dropping a wait wakes in its stead. -/
def successors : WaitQueue.Departure UInt32 → List (Wait UInt32)
  | .passedOn next => next.toList
  | .settled | .withdrawn | .discarded _ => []

/-- Manipulates the bench. -/
def perform (bench : Bench) : Action → Outcome
  | .park place parcel =>
    let queue := bench.queue place
    let parked : Parked := { place, key := queue.nextKey, dropped := false }
    ({ bench with parked := bench.parked ++ [parked] }.setQueue place
      (queue.park parcel none)).quietly (.parked bench.parked.length)
  | .poll index waker =>
    match bench.parked? index with
    | none => bench.quietly .gone
    | some parked =>
      let queue := bench.queue parked.place
      (bench.setQueue parked.place (queue.poll parked.key waker)).quietly
        ((queue.found? parked.key).elim .pending .ready)
  | .drop index =>
    match bench.parked? index with
    | none => bench.quietly (.flag false)
    | some parked =>
      let queue := bench.queue parked.place
      let left := { bench with
        parked := bench.parked.set index { parked with dropped := true } }
      { answer := .flag true
        bench := left.setQueue parked.place (queue.leave parked.key)
        woken := successors (queue.departure parked.key) }
  | .wakeFirst place =>
    let (bench, woken) := bench.wake place 1
    { answer := .flag !woken.isEmpty, bench, woken }
  | .wakeQueue place =>
    let (bench, woken) := bench.wake place (bench.queue place).length
    { answer := .count woken.length, bench, woken }
  | .describeQueue place => bench.quietly (.text (describe (bench.queue place)))
  | .dropChannel =>
    { bench with channelDropped := true }.quietly (.flag !bench.channelDropped)
  | .tryPush value => bench.onChannel fun channel =>
    match channel.tryPush value with
    | some channel => (.placed, channel, [])
    | none => (.handedBack value, channel, [])
  | .handOff value => bench.onChannel fun channel =>
    match channel.handOff value with
    | some (wait, channel) => (.placed, channel, [wait])
    | none => (.handedBack value, channel, [])
  | .tryPop => bench.onChannel fun channel =>
    match channel.tryPop with
    | some (value, channel) => (.value (some value), channel, [])
    | none => (.value none, channel, [])
  | .takeOffer => bench.onChannel fun channel =>
    match channel.takeOffer with
    | some (value, wait, channel) => (.value (some value), channel, [wait])
    | none => (.value none, channel, [])
  | .pushMany values => bench.onChannel fun channel =>
    (.count (channel.fitting values).length, channel.pushMany values, [])
  | .popMany max => bench.onChannel fun channel =>
    (.values (channel.oldest max), channel.popMany max, [])
  | .wakeChannel => bench.onChannel fun channel =>
    (.count channel.everyone.length, channel.wakeAll, channel.everyone)
  | .describeChannel => bench.onChannel fun channel =>
    (.text (describeChannel channel), channel, [])

end Bench

end ChannelBus
