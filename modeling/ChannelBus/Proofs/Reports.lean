import ChannelBus.Proofs.Labour
import ChannelBus.Proofs.Polling
import ChannelBus.Workload.Run

/-!
# The tally follows the messages

The state of a task changes only by the answers that it gets, so the states of all tasks can be
replayed from what happened. The tally of a workload is kept along the same answers. It counts every
message that a consumer has received, it tells whether each of them followed those before it, and
the signal that all were delivered is given once, for the last one.
-/

namespace ChannelBus

variable {σ α β : Type}

/-- Whether a task got an answer. -/
def Event.isAnswer : Event α → Bool
  | .answered _ _ => true
  | _ => false

namespace Scheduler

/-! ## Replaying the states of tasks -/

/-- The states of all tasks. -/
def states (scheduler : Scheduler σ α) : List σ :=
  scheduler.tasks.map (·.state)

/-- What an event makes of the states of all tasks: whoever got an answer goes on with it. -/
def replay (program : Program σ α) (states : List σ) : Event α → List σ
  | .answered id answer => states.modify id (program.after · answer)
  | _ => states

/-- The states that a trace leaves are those that its events make of the states before. -/
def Replays (program : Program σ α) (before : List σ)
    (trace : Scheduler σ α × List (Event α)) : Prop :=
  trace.1.states = trace.2.foldl (replay program) before

section Replaying

variable {program : Program σ α} {scheduler : Scheduler σ α} {id : TaskId}

/-- Events without an answer leave all states. -/
theorem foldl_replay_of_unanswered {events : List (Event α)}
    (unanswered : ∀ event ∈ events, event.isAnswer = false) (states : List σ) :
    events.foldl (replay program) states = states := by
  induction events with
  | nil => rfl
  | cons event rest ih =>
    have first := unanswered event List.mem_cons_self
    have same : replay program states event = states := by
      cases event with
      | answered => contradiction
      | polled | ended | faulted | nudged | noticed => rfl
    rw [List.foldl_cons, same,
      ih fun other later => unanswered other (List.mem_cons_of_mem _ later)]

/-- An operation on a bus answers nobody by itself. -/
theorem unanswered_onBus (scheduler : Scheduler σ α) (index : Nat)
    (operation : Bus α → Outcome α β) :
    ∀ event ∈ (scheduler.onBus index operation).events, event.isAnswer = false := by
  unfold onBus
  split
  case h_1 => exact fun _ listed => absurd listed List.not_mem_nil
  case h_2 bus here =>
    intro event listed
    obtain ⟨notice, _, rfl⟩ := List.mem_map.mp listed
    rfl

/-- A step answers nobody by itself. -/
theorem unanswered_takeStep [Stored α] (scheduler : Scheduler σ α) (id : TaskId) (step : Step α) :
    ∀ event ∈ (scheduler.takeStep id step).events, event.isAnswer = false := by
  have nobody : ∀ event ∈ ([] : List (Event α)), event.isAnswer = false :=
    fun _ listed => absurd listed List.not_mem_nil
  cases step with
  | yield =>
    intro event listed
    rw [List.mem_singleton.mp listed]
    rfl
  | call index call => exact scheduler.unanswered_onBus index (·.start call id)
  | act action =>
    cases action with
    | onBus index request => exact scheduler.unanswered_onBus index (·.perform request)
    | lastError | setLastError => exact nobody
    | raise error =>
      intro event listed
      rw [List.mem_singleton.mp listed]
      rfl

/-- Replacing a task replaces its state. -/
theorem states_setTask (scheduler : Scheduler σ α) (id : TaskId) (task : Task σ α) :
    (scheduler.setTask id task).states = scheduler.states.set id task.state :=
  List.map_set

/-- A state that is replaced goes on from the new one. -/
theorem modify_set (states : List σ) (id : Nat) (state : σ) (change : σ → σ) :
    (states.set id state).modify id change = states.set id (change state) := by
  apply List.ext_getElem?
  intro index
  rw [List.getElem?_modify, List.getElem?_set, List.getElem?_set]
  by_cases same : id = index
  · by_cases known : id < states.length
    · simp [same, same ▸ known]
    · simp [same, same ▸ known]
  · simp [same]

/-- The consequences of a step can be replayed if those of an answer can. -/
theorem replays_follow {turn : Turn σ α (Footing α)} {state : σ}
    {goOn : Answer α → Scheduler σ α → Scheduler σ α × List (Event α)}
    (unanswered : ∀ event ∈ turn.events, event.isAnswer = false)
    (goesOn : ∀ answer, Replays program (turn.scheduler.states.set id (program.after state answer))
      (goOn answer turn.scheduler)) :
    Replays program (turn.scheduler.states.set id state) (turn.follow id state goOn) := by
  obtain ⟨result, scheduler, events⟩ := turn
  cases result with
  | answered answer =>
    have later : (goOn answer scheduler).1.states = (goOn answer scheduler).2.foldl
        (replay program) (scheduler.states.set id (program.after state answer)) := goesOn answer
    show (goOn answer scheduler).1.states =
      (events ++ .answered id answer :: (goOn answer scheduler).2).foldl (replay program)
        (scheduler.states.set id state)
    rw [List.foldl_append, foldl_replay_of_unanswered unanswered, List.foldl_cons, replay,
      modify_set, later]
  | suspended phase =>
    show (scheduler.setTask id _).states = _
    rw [states_setTask, Turn.follow, foldl_replay_of_unanswered unanswered]
  | faulted fault =>
    show (scheduler.setTask id _).states = (events ++ [Event.faulted id fault]).foldl _ _
    rw [states_setTask, List.foldl_append, foldl_replay_of_unanswered unanswered]
    rfl

/-- What a task does as it goes on can be replayed. -/
theorem replays_advance [Stored α] (program : Program σ α) (scheduler : Scheduler σ α)
    (id : TaskId) (state : σ) :
    Replays program (scheduler.states.set id state) (scheduler.advance program id state) := by
  induction rank : program.rank state using Nat.strongRecOn generalizing scheduler state with
  | ind rank ih =>
    subst rank
    cases follows : program.next state with
    | none =>
      rw [advance_of_ended _ follows]
      exact scheduler.states_setTask id _
    | some step =>
      have same : (scheduler.takeStep id step).scheduler.states = scheduler.states :=
        congrArg (List.map _) (scheduler.tasks_takeStep id step)
      rw [advance_of_next _ follows, ← same]
      exact replays_follow (scheduler.unanswered_takeStep id step) fun answer =>
        ih _ (program.rank_after state step answer follows) _ _ rfl

/-- What a task does when it is resumed can be replayed. -/
theorem replays_resume [Stored α] {task : Task σ α} (here : scheduler.tasks[id]? = some task) :
    Replays program scheduler.states (scheduler.resume program id task) := by
  have stands : scheduler.states[id]? = some task.state := by
    rw [states, List.getElem?_map, here]
    rfl
  have same : scheduler.states.set id task.state = scheduler.states := by
    obtain ⟨known, equal⟩ := List.getElem?_eq_some_iff.mp stands
    rw [← equal, List.set_getElem_self]
  obtain ⟨state, phase⟩ := task
  cases phase with
  | fresh =>
    have later := replays_advance program scheduler id state
    rwa [same] at later
  | yielded =>
    have later : Replays program (scheduler.states.set id state)
        (scheduler.resume program id ⟨state, .yielded⟩) :=
      replays_follow (fun _ listed => absurd listed List.not_mem_nil)
        fun answer => replays_advance program scheduler id _
    rwa [same] at later
  | parked index suspended =>
    have kept : (scheduler.onBus index (·.resume suspended id)).scheduler.states =
        scheduler.states := congrArg (List.map _) (scheduler.tasks_onBus _ index)
    have later : Replays program
        ((scheduler.onBus index (·.resume suspended id)).scheduler.states.set id state)
        (scheduler.resume program id ⟨state, .parked index suspended⟩) :=
      replays_follow (scheduler.unanswered_onBus index (·.resume suspended id))
        fun answer => replays_advance program _ id _
    rwa [kept, same] at later
  | _ => exact rfl

/-- What a poll does can be replayed. -/
theorem replays_poll [Stored α] (program : Program σ α) (scheduler : Scheduler σ α)
    (id : TaskId) : Replays program scheduler.states (scheduler.poll program id) := by
  unfold poll
  cases alive : scheduler.live? id with
  | none => exact rfl
  | some task =>
    have here : (scheduler.unready id).tasks[id]? = some task :=
      (Option.filter_eq_some_iff.mp alive).1
    exact replays_resume here

end Replaying

end Scheduler

/-! ## Keeping the tally -/

namespace Tally

/-- The tally of workers that are to receive so many messages together. -/
structure Agrees (total : Nat) (workers : List Worker) (tally : Tally) : Prop where
  /-- So many messages are to be delivered. -/
  expected : tally.expected = total
  /-- Every message that was received is counted. -/
  delivered : tally.delivered = (workers.map (·.receivedCount)).sum
  /-- Whether each message followed those before it. -/
  inOrder : tally.inOrder = workers.all fun worker => Message.inOrder worker.received
  /-- The signal was given once if the last message was received. -/
  given : tally.drained.given = if 0 < total ∧ total ≤ tally.delivered then 1 else 0

/-- A signal that was given is still kept. -/
def Awaits (tally : Tally) : Prop :=
  tally.drained.kept = decide (0 < tally.drained.given)

section Keeping

variable {total : Nat} {tally : Tally} {before later workers : List Worker}

/-- Before anything is received the tally is empty. -/
theorem agrees_new (nothing : ∀ worker ∈ workers, worker.received = []) :
    (new total).Agrees total workers := by
  refine ⟨rfl, ?_, ?_, ?_⟩
  · show 0 = _
    symm
    rw [List.sum_eq_zero_iff_forall_eq_nat]
    intro count listed
    obtain ⟨worker, member, rfl⟩ := List.mem_map.mp listed
    rw [Worker.receivedCount, nothing worker member]
    rfl
  · show true = _
    symm
    rw [List.all_eq_true]
    intro worker member
    rw [nothing worker member]
    rfl
  · rw [if_neg]
    · rfl
    · rintro ⟨some, none⟩
      exact absurd some (Nat.not_lt.mpr none)

/-- A worker that receives nothing makes no difference. -/
theorem Agrees.replace {worker new : Worker}
    (agrees : tally.Agrees total (before ++ worker :: later))
    (same : new.received = worker.received) : tally.Agrees total (before ++ new :: later) := by
  obtain ⟨expected, delivered, inOrder, given⟩ := agrees
  have count : new.receivedCount = worker.receivedCount := congrArg List.length same
  refine ⟨expected, ?_, ?_, given⟩
  · rw [delivered]
    simp only [List.map_append, List.map_cons, count]
  · rw [inOrder]
    simp only [List.all_append, List.all_cons, same]

/-- Recording a message gives the signal if it is the last one. -/
theorem given_record (tally : Tally) : tally.record.drained.given =
    tally.drained.given + if tally.delivered + 1 = tally.expected then 1 else 0 := by
  unfold Tally.record
  dsimp only
  split <;> rfl

/-- A message is recorded by the consumer that receives it. -/
theorem Agrees.receive {consumer : Consumer}
    (agrees : tally.Agrees total (before ++ .consumer consumer :: later)) (message : Message)
    (budget : Nat) :
    ((if message.follows consumer.received then tally else tally.disorder).record).Agrees total
      (before ++ .consumer { budget, received := message :: consumer.received } :: later) := by
  obtain ⟨rfl, delivered, inOrder, given⟩ := agrees
  have noted : (if message.follows consumer.received then tally else tally.disorder) =
      { tally with inOrder := tally.inOrder && message.follows consumer.received } := by
    cases message.follows consumer.received with
    | true => simp
    | false => simp [disorder]
  rw [noted]
  refine ⟨rfl, ?_, ?_, ?_⟩
  · show tally.delivered + 1 = _
    rw [delivered]
    simp only [List.map_append, List.map_cons, List.sum_append, List.sum_cons,
      Worker.receivedCount, Worker.received, List.length_cons]
    omega
  · show (tally.inOrder && message.follows consumer.received) = _
    rw [inOrder]
    simp only [List.all_append, List.all_cons, Worker.received, Message.inOrder]
    cases message.follows consumer.received <;> simp
  -- The signal is given when the count reaches the total, and it does so only once.
  · have once : (if 0 < tally.expected ∧ tally.expected ≤ tally.delivered then 1 else 0) +
        (if tally.delivered + 1 = tally.expected then 1 else 0) =
          if 0 < tally.expected ∧ tally.expected ≤ tally.delivered + 1 then 1 else 0 := by
      split <;> split <;> split <;> omega
    rw [given_record]
    exact (congrArg (· + _) given).trans once

/-- A worker reports the answer that it gets. -/
theorem Agrees.report {worker : Worker}
    (agrees : tally.Agrees total (before ++ worker :: later)) (answer : Answer Message) :
    (worker.report tally answer).Agrees total (before ++ worker.after answer :: later) := by
  cases worker with
  | producer state => exact agrees.replace rfl
  | consumer state =>
    simp only [Worker.report, Worker.after, Consumer.report, Consumer.after]
    split
    case h_1 message => exact agrees.receive message _
    case h_2 => exact agrees.replace rfl

/-- Recording a message keeps a signal that was given. -/
theorem Awaits.record (awaits : tally.Awaits) : tally.record.Awaits := by
  unfold Awaits Tally.record
  dsimp only
  split
  case isTrue => exact (decide_eq_true (Nat.succ_pos _)).symm
  case isFalse => exact awaits

/-- A report keeps a signal that was given. -/
theorem Awaits.report (awaits : tally.Awaits) (worker : Worker) (answer : Answer Message) :
    (worker.report tally answer).Awaits := by
  cases worker with
  | producer state => exact awaits
  | consumer state =>
    simp only [Worker.report, Consumer.report]
    split
    case h_1 message =>
      apply Awaits.record
      split
      · exact awaits
      · exact awaits
    case h_2 => exact awaits

/-- The supervisor waits until everything was received, and takes the signal for it. -/
theorem Agrees.awaitDrained (agrees : tally.Agrees total workers) (awaits : tally.Awaits) :
    (tally.awaitDrained = none ∧ tally.delivered < total) ∨
      ∃ after, tally.awaitDrained = some after ∧ after.Agrees total workers ∧
        total ≤ tally.delivered := by
  obtain ⟨rfl, delivered, inOrder, given⟩ := agrees
  unfold Tally.awaitDrained Signal.take?
  by_cases some : 0 < tally.expected
  · rw [if_pos some]
    by_cases all : tally.expected ≤ tally.delivered
    · have kept : tally.drained.kept = true := by
        rw [awaits, given, if_pos ⟨some, all⟩]
        rfl
      rw [if_pos kept]
      exact .inr ⟨_, rfl, ⟨rfl, delivered, inOrder, given⟩, all⟩
    · have none : ¬ tally.drained.kept = true := by
        rw [awaits, given, if_neg fun both => all both.2]
        exact Bool.false_ne_true
      rw [if_neg none]
      exact .inl ⟨rfl, Nat.not_le.mp all⟩
  · rw [if_neg some]
    exact .inr ⟨_, rfl, ⟨rfl, delivered, inOrder, given⟩, by omega⟩

end Keeping

end Tally

namespace Workload

open Tally

section Hearing

variable {total : Nat} {tally : Tally} {workers : List Worker} {handle : Handle} {crew : Crew}

/-- An answer to a worker is reported by that worker. -/
theorem hear_answered {id : TaskId} {worker : Worker} (here : workers[id]? = some worker)
    (tally : Tally) (answer : Answer Message) : hear (workers, tally) (.answered id answer) =
      (workers.set id (worker.after answer), worker.report tally answer) := by
  rw [hear, here, List.modify_eq_set_getElem?, here]
  rfl

/-- An answer to nobody is not reported. -/
theorem hear_unknown {id : TaskId} (nobody : workers[id]? = none) (tally : Tally)
    (answer : Answer Message) : hear (workers, tally) (.answered id answer) = (workers, tally) := by
  rw [hear, nobody, List.modify_eq_set_getElem?, nobody]
  rfl

/-- The workers whose answers are heard are in the states that can be replayed. -/
theorem fst_foldl_hear (events : List (Event Message)) (workers : List Worker) (tally : Tally) :
    (events.foldl hear (workers, tally)).1 =
      events.foldl (Scheduler.replay (Worker.program handle)) workers := by
  induction events generalizing workers tally with
  | nil => rfl
  | cons event rest ih =>
    rw [List.foldl_cons, List.foldl_cons]
    cases event with
    | answered id answer => exact ih _ _
    | polled | ended | faulted | nudged | noticed => exact ih _ _

/-- The tally agrees with the workers after every event. -/
theorem agrees_hear (agrees : tally.Agrees total workers) (event : Event Message) :
    (hear (workers, tally) event).2.Agrees total (hear (workers, tally) event).1 := by
  cases event with
  | polled | ended | faulted | nudged | noticed => exact agrees
  | answered id answer =>
    cases here : workers[id]? with
    | none =>
      rw [hear_unknown here]
      exact agrees
    | some worker =>
      rw [hear_answered here]
      obtain ⟨known, rfl⟩ := List.getElem?_eq_some_iff.mp here
      obtain ⟨before, later, split, _, replaced⟩ : ∃ before later,
          workers = before ++ workers[id] :: later ∧ before.length = id ∧
            workers.set id (workers[id].after answer) =
              before ++ workers[id].after answer :: later := List.exists_of_set known
      rw [split] at agrees
      show (workers[id].report tally answer).Agrees total
        (workers.set id (workers[id].after answer))
      rw [replaced]
      exact agrees.report answer

/-- A signal that was given is kept after every event. -/
theorem awaits_hear (awaits : tally.Awaits) (event : Event Message) :
    (hear (workers, tally) event).2.Awaits := by
  cases event with
  | polled | ended | faulted | nudged | noticed => exact awaits
  | answered id answer =>
    cases here : workers[id]? with
    | none =>
      rw [hear_unknown here]
      exact awaits
    | some worker =>
      rw [hear_answered here]
      exact awaits.report worker answer

/-- The tally agrees with the workers after all events. -/
theorem agrees_foldl_hear (agrees : tally.Agrees total workers) (events : List (Event Message)) :
    (events.foldl hear (workers, tally)).2.Agrees total (events.foldl hear (workers, tally)).1 := by
  induction events generalizing workers tally with
  | nil => exact agrees
  | cons event rest ih => exact ih (agrees_hear agrees event)

/-- A signal that was given is kept after all events. -/
theorem awaits_foldl_hear (awaits : tally.Awaits) (events : List (Event Message)) :
    (events.foldl hear (workers, tally)).2.Awaits := by
  induction events generalizing workers tally with
  | nil => exact awaits
  | cons event rest ih => exact ih (awaits_hear awaits event)

/-- The tally agrees with a crew after what it did. -/
theorem agrees_tallyAfter {trace : Crew × List (Event Message)}
    (agrees : tally.Agrees total crew.states)
    (replays : Scheduler.Replays (Worker.program handle) crew.states trace) :
    (tallyAfter crew tally trace.2).Agrees total trace.1.states := by
  rw [Scheduler.Replays, ← fst_foldl_hear _ _ tally] at replays
  rw [replays]
  exact agrees_foldl_hear agrees trace.2

/-- Events may be heard in two parts. -/
theorem tallyAfter_append {trace : Crew × List (Event Message)}
    (replays : Scheduler.Replays (Worker.program handle) crew.states trace) (tally : Tally)
    (second : List (Event Message)) : tallyAfter crew tally (trace.2 ++ second) =
      tallyAfter trace.1 (tallyAfter crew tally trace.2) second := by
  have states : (trace.2.foldl hear (crew.states, tally)).1 = trace.1.states := by
    rw [fst_foldl_hear]
    exact replays.symm
  unfold tallyAfter
  rw [List.foldl_append]
  show (second.foldl hear (trace.2.foldl hear (crew.states, tally))).2 =
    (second.foldl hear (trace.1.states, (trace.2.foldl hear (crew.states, tally)).2)).2
  rw [← states]

/-- The tally agrees with the crew after a poll. -/
theorem State.agrees_poll (state : State) (agrees : state.tally.Agrees total state.crew.states)
    (handle : Handle) (id : TaskId) :
    (state.poll handle id).tally.Agrees total (state.poll handle id).crew.states :=
  agrees_tallyAfter agrees (Scheduler.replays_poll (Worker.program handle) state.crew id)

/-- A signal that was given is kept after a poll. -/
theorem State.awaits_poll (state : State) (awaits : state.tally.Awaits) (handle : Handle)
    (id : TaskId) : (state.poll handle id).tally.Awaits :=
  awaits_foldl_hear awaits _

end Hearing

end Workload

end ChannelBus
