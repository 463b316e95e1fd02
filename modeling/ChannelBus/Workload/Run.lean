import ChannelBus.Workload.Worker

/-!
# Running a workload

Producers and consumers share one channel. A supervisor waits for the producers in order, then for
the signal that the last message was delivered, closes the channel to release the consumers, and
waits for them.

The supervisor is not a task of the scheduler. It gets a turn before the workers start and after
every `pollsPerTurn` polls, or sooner when no worker is ready. In a turn it goes on as far as it
can, except that it joins at most `joinsPerTurn` producers; the others must wait for its next turn.

The consumers share their tally beside the channel. What a consumer does with an answer it does
before anything else happens, so the tally is kept along the answers of a run.
-/

namespace ChannelBus

/-- The size of a workload. -/
structure Workload where
  /-- The capacity of the channel. -/
  capacity : Nat
  /-- The number of producers. -/
  producers : Nat
  /-- The number of consumers. -/
  consumers : Nat
  /-- How many messages each producer sends. -/
  messages : Nat
  /-- The size of batches, if messages are sent in batches. -/
  batch : Option Nat
deriving DecidableEq

/-- What a workload has done. -/
structure Summary where
  /-- The capacity of the channel. -/
  capacity : Nat
  /-- How many messages were to be delivered. -/
  expected : Nat
  /-- How many messages were delivered. -/
  delivered : Nat
  /-- How many messages each consumer received. -/
  perConsumer : List Nat
  /-- Whether each consumer received the messages of each producer in order. -/
  inOrder : Bool
  /-- The counters of the bus. -/
  stats : Stats
deriving DecidableEq

/-- Why a workload came to no summary. -/
inductive WorkloadError where
  /-- A producer has more messages than can be numbered. -/
  | tooManyMessages
  /-- There are more producers than messages can tell apart. -/
  | tooManyProducers
  /-- Nobody would receive the messages. -/
  | noConsumer
  /-- A producer failed. -/
  | producerFailed (error : BusError)
  /-- The bus or its channel could not be allocated. -/
  | faulted (fault : Fault)
  /-- The workers wait for each other. -/
  | stalled
deriving DecidableEq

/-- The sentence for an error. -/
def WorkloadError.message : WorkloadError → String
  | .tooManyMessages => s!"At most {Message.places - 1} messages per producer"
  | .tooManyProducers => s!"At most {Message.senders - 1} producers"
  | .noConsumer => "Producers need at least one consumer"
  | .producerFailed error => error.message
  | .faulted fault => fault.message
  | .stalled => "No worker can go on"

namespace Workload

/-- The scheduler of a workload. -/
abbrev Crew := Scheduler Worker Message

/-- How many messages are sent in all. -/
def expected (workload : Workload) : Nat :=
  workload.producers * workload.messages

/-- Refuses a workload that cannot be run. -/
def check (workload : Workload) : Except WorkloadError Unit :=
  if Message.places ≤ workload.messages then .error .tooManyMessages
  else if Message.senders ≤ workload.producers then .error .tooManyProducers
  else if workload.consumers = 0 ∧ workload.producers ≠ 0 ∧ workload.messages ≠ 0 then
    .error .noConsumer
  else .ok ()

/-- The workers in the order in which they start: producers, then consumers. -/
def workers (workload : Workload) : List Worker :=
  (List.range workload.producers).map
      (fun id => .producer (.new id workload.messages workload.batch)) ++
    List.replicate workload.consumers
      (.consumer { budget := workload.expected + 1, received := [] })

/-- The crew on a bus, ready to start. -/
def crew (workload : Workload) (bus : Bus Message) : Crew :=
  workload.workers.foldl Scheduler.spawn (.new [bus])

/-- The states of the workers and their tally after something happened: a worker that got an answer
reports it to the tally. -/
def hear (heard : List Worker × Tally) : Event Message → List Worker × Tally
  | .answered id answer =>
    (heard.1.modify id (·.after answer), (heard.1[id]?).elim heard.2 (·.report heard.2 answer))
  | _ => heard

/-- The tally after events that began with the workers of a crew. -/
def tallyAfter (crew : Crew) (tally : Tally) (events : List (Event Message)) : Tally :=
  (events.foldl hear (crew.tasks.map (·.state), tally)).2

/-! ## The supervisor -/

/-- How far the supervisor has got. -/
inductive Stage where
  /-- It waits for the producers, and has joined the first `joined` of them. -/
  | joining (joined : Nat)
  /-- It has closed the channel and waits for the consumers. -/
  | closed
deriving DecidableEq

/-- How far a workload has got. -/
structure State where
  /-- How far the supervisor has got. -/
  stage : Stage
  /-- What the consumers share. -/
  tally : Tally
  /-- The workers and the bus. -/
  crew : Crew

/-- A workload that has not begun, on a bus. -/
def begin (workload : Workload) (bus : Bus Message) : State :=
  { stage := .joining 0, tally := .new workload.expected, crew := workload.crew bus }

/-- Polls a worker. -/
def State.poll (handle : Handle) (state : State) (id : TaskId) : State :=
  let polled := state.crew.poll (Worker.program handle) id
  { state with tally := tallyAfter state.crew state.tally polled.2, crew := polled.1 }

/-- Polls ready workers, at most `limit` times. -/
def State.run (handle : Handle) (state : State) (limit : Nat) : State :=
  let run := Scheduler.run (Worker.program handle) limit state.crew
  { state with tally := tallyAfter state.crew state.tally run.events, crew := run.scheduler }

/-- How many producers the supervisor can join in a turn. The executor gives a task 128 units to
spend in one poll. Joining a producer that has ended takes a unit, and once all are spent the
supervisor has to wait, although the next producer may have ended too. -/
def joinsPerTurn : Nat := 128

/-- What the supervisor learns about the producers in a turn. -/
inductive Verdict where
  /-- After `joined` producers there is one that is still at work or must wait for the next turn. -/
  | waiting (joined : Nat)
  /-- A producer failed. -/
  | failed (error : BusError)
  /-- All producers are joined. -/
  | done
deriving DecidableEq

/-- Joins the producers at the head of the tasks in order, at most `allowance` of them, when
`joined` were joined before. -/
def joinProducers (allowance joined : Nat) : List (Task Worker Message) → Verdict
  | [] => .done
  | task :: tasks =>
    match task.state, allowance with
    | .consumer _, _ => .done
    | .producer _, 0 => .waiting joined
    | .producer producer, allowance + 1 =>
      if task.isLive then .waiting joined
      else
        match producer.failure with
        | some error => .failed error
        | none => joinProducers allowance (joined + 1) tasks

/-- How many messages each consumer received. -/
def perConsumer (crew : Crew) : List Nat :=
  crew.tasks.filterMap fun task =>
    match task.state with
    | .producer _ => none
    | .consumer consumer => some consumer.received.length

/-- What the workload has done once all workers are done. -/
def summarize (workload : Workload) (state : State) : Summary :=
  { capacity := workload.capacity
    expected := workload.expected
    delivered := state.tally.delivered
    perConsumer := perConsumer state.crew
    inOrder := state.tally.inOrder
    stats := (state.crew.buses.head?.map (·.stats)).getD {} }

/-- How a turn of the supervisor ends. -/
inductive Supervision where
  /-- There is more to wait for. -/
  | waiting (state : State)
  /-- All workers are done. -/
  | finished (state : State)
  /-- A producer failed. -/
  | failed (error : BusError)

/-- Waits for the consumers after the channel was closed. -/
def joinConsumers (state : State) : Supervision :=
  if state.crew.tasks.any (·.isLive) then .waiting { state with stage := .closed }
  else .finished state

/-- Closes the channel. -/
def State.close (handle : Handle) (state : State) : State :=
  { state with crew := (state.crew.act (.onBus 0 (.close handle))).scheduler }

/-- A turn of the supervisor. -/
def supervise (workload : Workload) (handle : Handle) (state : State) : Supervision :=
  match state.stage with
  | .closed => joinConsumers state
  | .joining joined =>
    match joinProducers joinsPerTurn joined (state.crew.tasks.drop joined) with
    | .waiting joined => .waiting { state with stage := .joining joined }
    | .failed error => .failed error
    | .done =>
      match state.tally.awaitDrained with
      | none => .waiting { state with stage := .joining workload.producers }
      | some tally => joinConsumers (State.close handle { state with tally })

/-- How many polls there are between two turns of the supervisor. The executor polls at most 61
ready workers in a row before the task that runs them, which is the supervisor, may go on. -/
def pollsPerTurn : Nat := 61

/-- Runs until the supervisor is done, for at most so many of its turns. -/
def drive (workload : Workload) (handle : Handle) : Nat → State → Except WorkloadError Summary
  | 0, _ => .error .stalled
  | turns + 1, state =>
    match workload.supervise handle state with
    | .failed error => .error (.producerFailed error)
    | .finished state => .ok (workload.summarize state)
    | .waiting state => workload.drive handle turns (state.run handle pollsPerTurn)

/-- More turns than any workload needs: in every turn but the last a worker is polled or a producer
is joined, and a worker is polled at most once to start, once for each message that it is woken for,
and once after the close. -/
def turnLimit (workload : Workload) : Nat :=
  2 * (workload.producers + workload.consumers + workload.expected) + 8

/-- Runs a workload on a bus of its own. -/
def run (workload : Workload) (config : Config) : Except WorkloadError Summary :=
  match workload.check with
  | .error error => .error error
  | .ok () =>
    match Bus.create config with
    | .error fault => .error (.faulted fault)
    | .ok bus =>
      let opening := bus.openChannel workload.capacity
      match opening.result with
      | .error fault => .error (.faulted fault)
      | .ok handle =>
        workload.drive handle workload.turnLimit (workload.begin opening.bus)

end Workload

end ChannelBus
