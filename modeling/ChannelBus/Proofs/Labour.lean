import ChannelBus.Proofs.Numbering
import ChannelBus.Proofs.Tries
import ChannelBus.Workload.Run

/-!
# What the workers of a workload do

Every call of a producer offers its next messages, and a successful one takes it as many messages
further. Every call of a consumer wants one message. What a worker has passed on or holds can be
told from its state and from the parcel of its call: a taken offer is passed on, and a delivered
message is held, although the worker does not know yet.
-/

namespace ChannelBus

namespace Producer

/-- What a producer asks for when it calls: it offers its next `count` messages. -/
structure Asks (handle : Handle) (producer : Producer) (call : Call Message) (count : Nat) :
    Prop where
  /-- The call is made on the channel of the workload. -/
  named : call.handle? = some handle
  /-- It is a send. -/
  sender : call.side = .senders
  /-- It wants nothing. -/
  modest : call.wants = 0
  /-- It is enabled unless it sends a batch while batches are off. -/
  enabled : ∀ config : Config, (∀ size, producer.batch = some size → 1 < size →
    config.batch = true) → config.enables call = true
  /-- It offers something. -/
  some : 0 < count
  /-- It offers no more than is left. -/
  few : count ≤ producer.remaining
  /-- The messages on offer are the next ones. -/
  offers : call.offers =
    Message.series producer.id (producer.messages - producer.remaining) count
  /-- If some of them are sent, the producer goes on behind these. -/
  after : ∀ sent, 0 < sent → sent ≤ count → producer.after (.reply (call.sent sent)) =
    { producer with remaining := producer.remaining - sent }

variable {handle : Handle} {producer : Producer}

/-- A producer offers its next messages, one by one or in batches. -/
theorem asks_of_next {step : Step Message} (follows : producer.next handle = some step) :
    ∃ call count, step = .call 0 call ∧ producer.Asks handle call count := by
  unfold next at follows
  split at follows
  case isTrue => contradiction
  case isFalse busy =>
    split at follows
    case h_1 size batched =>
      obtain rfl := Option.some.inj follows
      have asked : producer.batch = some size ∧ 1 < size := by
        simpa only [batchSize?, Option.filter_eq_some_iff, decide_eq_true_eq] using batched
      refine ⟨_, min size producer.remaining, rfl, ?_⟩
      exact {
        named := rfl
        sender := rfl
        modest := rfl
        enabled := fun config batching => batching size asked.1 asked.2
        some := by omega
        few := by omega
        offers := rfl
        after := fun sent some _ => by
          show producer.advance sent = _
          rw [advance, Nat.max_eq_right some] }
    case h_2 =>
      obtain rfl := Option.some.inj follows
      refine ⟨_, 1, rfl, ?_⟩
      exact {
        named := rfl
        sender := rfl
        modest := rfl
        enabled := fun _ _ => rfl
        some := Nat.one_pos
        few := by omega
        offers := rfl
        after := fun sent some few => by
          have one : sent = 1 := by omega
          rw [one]
          rfl }

/-- What a producer asks for when it makes a call. -/
theorem asks_of_call {call : Call Message} (follows : producer.next handle = some (.call 0 call)) :
    ∃ count, producer.Asks handle call count := by
  obtain ⟨asked, count, same, asks⟩ := asks_of_next follows
  obtain ⟨_, rfl⟩ := Step.call.inj same
  exact ⟨count, asks⟩

/-- A producer ends once nothing is left. -/
theorem remaining_of_next (ends : producer.next handle = none) : producer.remaining = 0 := by
  unfold next at ends
  split at ends
  case isTrue done => exact done
  case isFalse =>
    split at ends
    · contradiction
    · contradiction

end Producer

namespace Consumer

variable {handle : Handle} {consumer : Consumer}

/-- A consumer calls for one message. -/
theorem receives_of_next {step : Step Message} (follows : consumer.next handle = some step) :
    step = .call 0 (.receive handle) ∧ consumer.budget ≠ 0 := by
  unfold next at follows
  split at follows
  case isTrue => contradiction
  case isFalse busy => exact ⟨(Option.some.inj follows).symm, busy⟩

/-- What a consumer asks for when it makes a call. -/
theorem receives_of_call {call : Call Message}
    (follows : consumer.next handle = some (.call 0 call)) :
    call = .receive handle ∧ consumer.budget ≠ 0 := by
  obtain ⟨same, busy⟩ := receives_of_next follows
  exact ⟨(Step.call.inj same).2, busy⟩

/-- A consumer ends once its budget is used up. -/
theorem budget_of_next (ends : consumer.next handle = none) : consumer.budget = 0 := by
  unfold next at ends
  split at ends
  case isTrue done => exact done
  case isFalse => contradiction

end Consumer

namespace Worker

/-- All that workers do is call on the first bus. -/
theorem calls_of_next {handle : Handle} {worker : Worker} {step : Step Message}
    (follows : worker.next handle = some step) : ∃ call, step = .call 0 call := by
  cases worker with
  | producer state =>
    obtain ⟨call, _, same, _⟩ := Producer.asks_of_next follows
    exact ⟨call, same⟩
  | consumer state => exact ⟨_, (Consumer.receives_of_next follows).1⟩

/-- How many messages a worker has passed on: those that its calls have sent, and the one that was
taken from the parcel of its call. -/
def gone (parcel? : Option (Parcel Message)) : Worker → Nat
  | .producer state => state.messages - state.remaining + if parcel? = some .taken then 1 else 0
  | .consumer _ => 0

/-- The messages that a worker has received, latest first. -/
def received : Worker → List Message
  | .producer _ => []
  | .consumer state => state.received

/-- How many messages a worker has received. -/
def receivedCount (worker : Worker) : Nat :=
  worker.received.length

/-- The messages that a worker holds, oldest first: those that it received, and the one that was
delivered to the parcel of its call. -/
def held (parcel? : Option (Parcel Message)) : Worker → List Message
  | .producer _ => []
  | .consumer state => state.received.reverse ++
      match parcel? with
      | some (.delivered message) => [message]
      | _ => []

/-- A parcel that no message went through does not count. -/
theorem gone_of_unsettled {parcel : Parcel Message} (unsettled : parcel.isSettled = false)
    (worker : Worker) : worker.gone (some parcel) = worker.gone none := by
  cases worker with
  | producer state => cases parcel <;> first | rfl | contradiction
  | consumer state => rfl

/-- A parcel that no message went through holds none. -/
theorem held_of_unsettled {parcel : Parcel Message} (unsettled : parcel.isSettled = false)
    (worker : Worker) : worker.held (some parcel) = worker.held none := by
  cases worker with
  | producer state => rfl
  | consumer state => cases parcel <;> first | rfl | contradiction

/-- Whether a worker was told that the channel is closed. -/
def dismissed : Worker → Bool
  | .producer _ => false
  | .consumer state => state.budget == 0

/-- A consumer with more calls to make was not told so. -/
theorem dismissed_consumer {consumer : Consumer} (busy : consumer.budget ≠ 0) :
    (Worker.consumer consumer).dismissed = false :=
  beq_false_of_ne busy

/-- What a worker has received is the first part of what it holds. -/
theorem received_sublist_held (worker : Worker) (parcel? : Option (Parcel Message)) :
    worker.received.reverse.Sublist (worker.held parcel?) := by
  cases worker with
  | producer state => exact List.Sublist.refl _
  | consumer state => exact List.sublist_append_left _ _

/-- A worker has received no more than it holds. -/
theorem receivedCount_le (worker : Worker) (parcel? : Option (Parcel Message)) :
    worker.receivedCount ≤ (worker.held parcel?).length := by
  have fewer := (worker.received_sublist_held parcel?).length_le
  rwa [List.length_reverse] at fewer

end Worker

/-- The producer of a workload with this number when so much is left for it to do. -/
def Workload.producer (workload : Workload) (id remaining : Nat) : Producer :=
  { Producer.new id workload.messages workload.batch with remaining }

/-- What holds of a worker of a workload wherever it stands. A producer ends only when it has sent
everything. A consumer may receive more messages than there are, so that it ends only when it was
told that the channel is closed. -/
inductive Employed (workload : Workload) (opened : Bool) (id : Nat) :
    Task Worker Message → Prop where
  /-- A producer with some of its messages still to be sent. -/
  | producer (remaining : Nat) (phase : Phase Message) (inside : id < workload.producers)
    (few : remaining ≤ workload.messages) (done : phase = .over → remaining = 0) :
    Employed workload opened id ⟨.producer (workload.producer id remaining), phase⟩
  /-- A consumer with some of its calls still to be made. -/
  | consumer (consumer : Consumer) (phase : Phase Message) (outside : workload.producers ≤ id)
    (used : consumer.budget = 0 ∨
      consumer.budget + consumer.received.length = workload.expected + 1)
    (stays : opened = true → consumer.budget ≠ 0) (done : phase = .over → consumer.budget = 0) :
    Employed workload opened id ⟨.consumer consumer, phase⟩

/-- A worker that has not ended is where it should be at whatever phase. -/
theorem Employed.moved {workload : Workload} {opened : Bool} {id : Nat} {worker : Worker}
    {phase next : Phase Message} (employed : Employed workload opened id ⟨worker, phase⟩)
    (alive : next ≠ .over) : Employed workload opened id ⟨worker, next⟩ := by
  cases employed with
  | producer remaining _ inside few _ =>
    exact .producer remaining next inside few fun done => absurd done alive
  | consumer consumer _ outside used stays _ =>
    exact .consumer consumer next outside used stays fun done => absurd done alive

/-- A worker is still where it should be when the channel is closed. -/
theorem Employed.closed {workload : Workload} {opened : Bool} {id : Nat}
    {task : Task Worker Message}
    (employed : Employed workload opened id task) : Employed workload false id task := by
  cases employed with
  | producer remaining phase inside few done => exact .producer remaining phase inside few done
  | consumer consumer phase outside used _ done =>
    exact .consumer consumer phase outside used nofun done

/-- A consumer that receives one of the messages that there are has more calls to make. -/
theorem Employed.received {workload : Workload} {opened : Bool} {id : Nat} {consumer : Consumer}
    {phase : Phase Message} (employed : Employed workload opened id ⟨.consumer consumer, phase⟩)
    (busy : consumer.budget ≠ 0) (few : consumer.received.length < workload.expected)
    (message : Message) :
    let next := consumer.after (.reply (.received (.ok message)))
    Employed workload opened id ⟨.consumer next, .fresh⟩ ∧ next.budget ≠ 0 := by
  intro next
  cases employed with
  | consumer _ _ outside used _ _ =>
    have total : consumer.budget + consumer.received.length = workload.expected + 1 :=
      used.resolve_left busy
    have left : next.budget = consumer.budget - 1 := rfl
    have more : next.received.length = consumer.received.length + 1 := rfl
    have some : next.budget ≠ 0 := by omega
    exact ⟨.consumer next .fresh outside (.inr (by omega)) (fun _ => some) nofun, some⟩

/-- A worker that learns how its parcel was settled is where it should be, and has passed on and
holds what it did before. -/
theorem Employed.settled {workload : Workload} {opened : Bool} {id : Nat} {worker : Worker}
    {phase : Phase Message} (employed : Employed workload opened id ⟨worker, phase⟩)
    {handle : Handle} {call : Call Message} {parcel : Parcel Message} {reply : Reply Message}
    (follows : worker.next handle = some (.call 0 call)) (finds : call.Finds parcel)
    (few : (worker.held (some parcel)).length ≤ workload.expected)
    (happened : call.settledReply parcel = some reply) :
    Employed workload opened id ⟨worker.after (.reply reply), .fresh⟩ ∧
      (worker.after (.reply reply)).gone none = worker.gone (some parcel) ∧
      (worker.after (.reply reply)).held none = worker.held (some parcel) ∧
      worker.receivedCount ≤ (worker.after (.reply reply)).receivedCount ∧
      (worker.after (.reply reply)).dismissed = worker.dismissed := by
  cases employed with
  | producer remaining _ inside few done =>
    obtain ⟨count, asks⟩ := Producer.asks_of_call follows
    cases finds with
    | offered | empty | unpinned => contradiction
    | delivered value wants => exact absurd asks.modest wants
    | taken offers =>
      obtain rfl := Option.some.inj happened
      have some := asks.some
      have left : count ≤ remaining := asks.few
      have next := asks.after 1 Nat.one_pos some
      rw [Worker.after, next]
      refine ⟨.producer (remaining - 1) .fresh inside (by omega) nofun, ?_, rfl, Nat.le_refl _, rfl⟩
      show workload.messages - (remaining - 1) + 0 = workload.messages - remaining + 1
      omega
  | consumer consumer _ outside used stays done =>
    obtain ⟨rfl, busy⟩ := Consumer.receives_of_call follows
    cases finds with
    | offered | empty | unpinned => contradiction
    | taken offers => contradiction
    | delivered value wants =>
      obtain rfl := Option.some.inj happened
      have less : (consumer.received.reverse ++ [value]).length ≤ workload.expected := few
      rw [List.length_append, List.length_reverse, List.length_singleton] at less
      obtain ⟨next, more⟩ := (Employed.consumer consumer phase outside used stays done).received
        busy less value
      refine ⟨next, rfl, ?_, Nat.le_succ _, ?_⟩
      · show (value :: consumer.received).reverse ++ [] = consumer.received.reverse ++ [value]
        rw [List.reverse_cons, List.append_nil]
      · exact (Worker.dismissed_consumer more).trans (Worker.dismissed_consumer busy).symm

end ChannelBus
