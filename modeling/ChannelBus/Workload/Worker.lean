import ChannelBus.Scheduler.Poll
import ChannelBus.Workload.Message
import ChannelBus.Workload.Tally

/-!
# Producers and consumers

A producer sends its messages in order, one by one or in batches, and stops at the first failure. A
consumer receives until the channel is closed under it, and reports every message to the tally.
-/

namespace ChannelBus

/-- What is left for a producer to do. -/
structure Producer where
  /-- The number of the producer. -/
  id : Nat
  /-- How many messages it sends. -/
  messages : Nat
  /-- How many of them are still to be sent. -/
  remaining : Nat
  /-- The size of its batches, if it was asked for batches. -/
  batch : Option Nat
  /-- The failure that stopped it. -/
  failure : Option BusError

/-- What a consumer has done. -/
structure Consumer where
  /-- How many more times it may receive; always more than there are messages left. -/
  budget : Nat
  /-- What it has received, latest first: how many messages, and the latest of each producer. -/
  received : List Message

/-- A task of a workload. -/
inductive Worker where
  /-- A task that sends. -/
  | producer (producer : Producer)
  /-- A task that receives. -/
  | consumer (consumer : Consumer)

namespace Producer

/-- A producer that has not started. -/
def new (id messages : Nat) (batch : Option Nat) : Producer :=
  { id, messages, remaining := messages, batch, failure := none }

/-- The size of the next batch; nothing if messages go one by one, as they do if batches of at most
one message were asked for. -/
def batchSize? (producer : Producer) : Option Nat :=
  producer.batch.filter (1 < ·)

/-- The messages still to be sent, at most `count` of them. -/
def upcoming (producer : Producer) (count : Nat) : List Message :=
  Message.series producer.id (producer.messages - producer.remaining) (min count producer.remaining)

/-- The next call. -/
def next (handle : Handle) (producer : Producer) : Option (Step Message) :=
  if producer.remaining = 0 then none
  else
    match producer.batchSize? with
    | some size => some (.call 0 (.sendMany handle (producer.upcoming size)))
    | none =>
      some (.call 0 (.send handle
        (Message.pack producer.id (producer.messages - producer.remaining))))

/-- Counts messages as sent; a successful call has sent at least one. -/
def advance (producer : Producer) (count : Nat) : Producer :=
  { producer with remaining := producer.remaining - max 1 count }

/-- Stops before everything is sent. -/
def stop (producer : Producer) (failure : Option BusError) : Producer :=
  { producer with remaining := 0, failure }

/-- The producer after the answer to its call. -/
def after (producer : Producer) : Answer Message → Producer
  | .reply (.sent (.ok _)) => producer.advance 1
  | .reply (.sentMany (.ok count)) => producer.advance count
  | .reply reply => producer.stop reply.error?
  | _ => producer.stop none

/-- Every answer brings a producer nearer to its end. -/
theorem remaining_after (producer : Producer) (answer : Answer Message)
    (busy : producer.remaining ≠ 0) :
    (producer.after answer).remaining < producer.remaining := by
  unfold after
  split <;> simp only [advance, stop] <;> omega

end Producer

namespace Consumer

/-- The next call. -/
def next (handle : Handle) (consumer : Consumer) : Option (Step Message) :=
  if consumer.budget = 0 then none else some (.call 0 (.receive handle))

/-- The consumer after the answer to its call: a failure ends it. -/
def after (consumer : Consumer) : Answer Message → Consumer
  | .reply (.received (.ok message)) =>
    { budget := consumer.budget - 1, received := message :: consumer.received }
  | _ => { consumer with budget := 0 }

/-- The tally after a consumer got the answer to its call: a message that does not follow those
before it is noted as out of order, and every message is recorded. -/
def report (consumer : Consumer) (tally : Tally) : Answer Message → Tally
  | .reply (.received (.ok message)) =>
    (if message.follows consumer.received then tally else tally.disorder).record
  | _ => tally

/-- Every answer brings a consumer nearer to its end. -/
theorem budget_after (consumer : Consumer) (answer : Answer Message)
    (busy : consumer.budget ≠ 0) : (consumer.after answer).budget < consumer.budget := by
  unfold after
  split <;> simp only <;> omega

end Consumer

namespace Worker

/-- The next call of a worker on the channel of the workload. -/
def next (handle : Handle) : Worker → Option (Step Message)
  | .producer state => state.next handle
  | .consumer state => state.next handle

/-- A worker after the answer to its call. -/
def after (worker : Worker) (answer : Answer Message) : Worker :=
  match worker with
  | .producer state => .producer (state.after answer)
  | .consumer state => .consumer (state.after answer)

/-- The tally after a worker got the answer to its call. -/
def report (worker : Worker) (tally : Tally) (answer : Answer Message) : Tally :=
  match worker with
  | .producer _ => tally
  | .consumer state => state.report tally answer

/-- How many more calls a worker can make. -/
def rank : Worker → Nat
  | .producer state => state.remaining
  | .consumer state => state.budget

/-- Every answer lowers the number of calls that a worker can make. -/
theorem rank_after (handle : Handle) (worker : Worker) (step : Step Message)
    (answer : Answer Message) (follows : worker.next handle = some step) :
    (worker.after answer).rank < worker.rank := by
  cases worker with
  | producer state =>
    refine state.remaining_after answer fun idle => ?_
    simp [next, Producer.next, idle] at follows
  | consumer state =>
    refine state.budget_after answer fun idle => ?_
    simp [next, Consumer.next, idle] at follows

/-- Workers on one channel as the program of a scheduler. -/
def program (handle : Handle) : Program Worker Message :=
  { next := next handle, after, rank, rank_after := rank_after handle }

end Worker

end ChannelBus
