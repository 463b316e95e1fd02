import ChannelBus.Proofs.Quiet
import ChannelBus.Proofs.Reports

/-!
# The supervisor of a workload

The supervisor opens the channel and hires the crew, joins the producers one after the other, and
closes the channel once it has the signal that everything was received. None of this spoils the
books, and nothing is buffered or on its way when the channel is closed. A turn of the supervisor
that changes nothing leaves somebody ready to be polled.
-/

open scoped List

namespace ChannelBus

namespace Workload

variable {workload : Workload} {config : Config} {bus after : Bus Message} {crew : Crew}
  {tasks : List (Task Worker Message)} {opened : Bool} {fuel : Nat}

/-! ## Hiring -/

/-- Workers who are hired stand in the order in which they were named. -/
theorem tasks_foldl_spawn (workers : List Worker) (crew : Crew) :
    (workers.foldl Scheduler.spawn crew).tasks =
        crew.tasks ++ workers.map (fun worker => ⟨worker, .fresh⟩) ∧
      (workers.foldl Scheduler.spawn crew).buses = crew.buses := by
  induction workers generalizing crew with
  | nil => exact ⟨(List.append_nil _).symm, rfl⟩
  | cons worker rest ih =>
    obtain ⟨tasks, buses⟩ := ih (crew.spawn worker)
    rw [List.foldl_cons, tasks, buses, List.map_cons]
    exact ⟨List.append_assoc _ [_] _, rfl⟩

/-- Hiring keeps a crew tidy. -/
theorem tidy_foldl_spawn {program : Program Worker Message} (workers : List Worker)
    (tidy : crew.Tidy program) : (workers.foldl Scheduler.spawn crew).Tidy program := by
  induction workers generalizing crew with
  | nil => exact tidy
  | cons worker rest ih => exact ih (tidy.spawn worker).1

/-- The crew has its bus and all its workers. -/
theorem crew_eq (workload : Workload) (bus : Bus Message) :
    (workload.crew bus).buses = [bus] ∧
      (workload.crew bus).tasks = workload.workers.map fun worker => ⟨worker, .fresh⟩ := by
  obtain ⟨tasks, buses⟩ := tasks_foldl_spawn workload.workers (.new [bus])
  exact ⟨buses, tasks⟩

/-- There is one worker for each producer and for each consumer. -/
theorem length_workers (workload : Workload) :
    workload.workers.length = workload.producers + workload.consumers := by
  rw [workers, List.length_append, List.length_map, List.length_range, List.length_replicate]

/-- Every worker is where it should be at the start, and has not done anything. -/
theorem start_of_crew {id : Nat} {task : Task Worker Message}
    (here : (workload.crew bus).tasks[id]? = some task) :
    task.phase = .fresh ∧ Employed workload true id task ∧ task.state.gone none = 0 ∧
      task.state.held none = [] ∧ task.state.dismissed = false := by
  rw [(workload.crew_eq bus).2, List.getElem?_map, Option.map_eq_some_iff] at here
  obtain ⟨worker, listed, rfl⟩ := here
  refine ⟨rfl, ?_⟩
  rw [workers, List.getElem?_append] at listed
  split at listed
  case isTrue inside =>
    rw [List.length_map, List.length_range] at inside
    rw [List.getElem?_map, List.getElem?_range inside] at listed
    obtain rfl := Option.some.inj listed
    refine ⟨.producer workload.messages .fresh inside (Nat.le_refl _) nofun, ?_, rfl, rfl⟩
    show workload.messages - workload.messages + 0 = 0
    omega
  case isFalse outside =>
    rw [List.length_map, List.length_range] at outside
    obtain rfl := List.eq_of_mem_replicate (List.mem_of_getElem? listed)
    have busy : workload.expected + 1 ≠ 0 := Nat.succ_ne_zero _
    exact ⟨.consumer _ .fresh (Nat.not_lt.mp outside) (.inr rfl) (fun _ => busy) nofun, rfl, rfl,
      Worker.dismissed_consumer busy⟩

/-- The bus of a workload with its channel. -/
theorem opens_of_create {handle : Handle} (created : Bus.create config = .ok bus)
    (succeeds : (bus.openChannel workload.capacity).result = .ok handle) :
    bus = .new config ∧ handle = ⟨0⟩ ∧
      bus.Opens (bus.openChannel workload.capacity).bus ⟨0⟩ workload.capacity ∧
      bus.Pays (bus.openChannel workload.capacity).bus { opened := 1 } ∧
      (Scheduler.new [(bus.openChannel workload.capacity).bus] : Crew) =
        ((Scheduler.new [bus] : Crew).act
          (.onBus 0 (.openChannel workload.capacity))).scheduler := by
  unfold Bus.create at created
  split at created
  case isFalse => contradiction
  case isTrue =>
    obtain rfl : Bus.new config = bus := Except.ok.inj created
    obtain ⟨fits, another, result, opens⟩ | ⟨_, result, _⟩ :=
      (Bus.new config : Bus Message).openChannel_cases workload.capacity
    · obtain rfl : handle = another := Except.ok.inj (succeeds.symm.trans result)
      have first : handle = ⟨0⟩ := by
        unfold Bus.openChannel at result
        rw [if_pos fits] at result
        exact (Except.ok.inj result).symm
      subst first
      refine ⟨rfl, rfl, opens, ?_, ?_⟩
      · have pays := (Bus.new config : Bus Message).pays_openChannel workload.capacity
        rwa [if_pos fits] at pays
      · have notices : ((Bus.new config : Bus Message).openChannel workload.capacity).notices =
            [.opened ⟨0⟩ workload.capacity 0] := by
          unfold Bus.openChannel
          rw [if_pos fits]
          rfl
        show _ = Scheduler.hearAll _
          ((Bus.new config : Bus Message).openChannel workload.capacity).notices
        rw [notices]
        rfl
    · rw [succeeds] at result
      contradiction

/-- At the start nobody waits. -/
theorem waitingOf_crew (workload : Workload) (bus : Bus Message) :
    waitingOf (workload.crew bus).tasks = fun _ => none := by
  funext id
  unfold waitingOf
  cases here : (workload.crew bus).tasks[id]? with
  | none => rfl
  | some task =>
    rw [Option.bind_some, (start_of_crew here).1]
    rfl

/-- At the start nobody has passed anything on or holds anything. -/
theorem standing_crew (workload : Workload) (bus : Bus Message) (id : Nat) :
    goneOf (standing bus (workload.crew bus).tasks) id = 0 ∧
      heldOf (standing bus (workload.crew bus).tasks) id = [] := by
  unfold goneOf heldOf standing
  cases here : (workload.crew bus).tasks[id]? with
  | none => exact ⟨rfl, rfl⟩
  | some task =>
    obtain ⟨fresh, _, gone, held, _⟩ := start_of_crew here
    have none : task.parcel? bus = none := by
      rw [Task.parcel?, fresh]
      rfl
    rw [Option.map_some, none]
    exact ⟨gone, held⟩

/-- The books of a new crew are right: every worker is to be polled once, and each message to be
passed on and to leave the buffer. -/
theorem kept_crew {handle : Handle} (created : Bus.create config = .ok bus)
    (succeeds : (bus.openChannel workload.capacity).result = .ok handle)
    (known : workload.producers ≤ Message.senders) (numbered : workload.messages ≤ Message.places)
    (batching : ∀ size, workload.batch = some size → 1 < size → config.batch = true) :
    workload.Kept true (workload.producers + workload.consumers + 2 * workload.expected)
      (bus.openChannel workload.capacity).bus
      (workload.crew (bus.openChannel workload.capacity).bus) := by
  obtain ⟨rfl, rfl, opens, pays, acts⟩ := opens_of_create created succeeds
  generalize ((Bus.new config : Bus Message).openChannel workload.capacity).bus = bus
    at opens pays acts ⊢
  have housed := (Bus.housed_new config).opens opens
  have first : bus.channel? ⟨0⟩ = some (.new workload.capacity 0) := opens.channel? ⟨0⟩
  have empty : bus.content 0 = [] := opens.content (Bus.housed_new config).sound 0
  obtain ⟨buses, tasks⟩ := workload.crew_eq bus
  have crowd : (workload.crew bus).tasks.length = workload.producers + workload.consumers := by
    rw [tasks, List.length_map, workload.length_workers]
  have stands := workload.standing_crew bus
  have settings : bus.config = config := pays.config
  have tallies : bus.config.telemetry = true →
      bus.Attended true 0 ∧ bus.Tallied workload.capacity 0 := fun telemetry =>
    Bus.tallied_of_open (settings ▸ telemetry) pays workload.capacity
  refine ⟨buses, ?_, ?_⟩
  · have opened := ((Scheduler.tidy_new (Worker.program ⟨0⟩) [config]).act
      (.onBus 0 (.openChannel workload.capacity))).1
    rw [List.map_singleton, ← acts] at opened
    exact tidy_foldl_spawn workload.workers opened
  · refine ⟨rfl, workload.waitingOf_crew bus ▸ housed, opens.nextGeneration, ?_, ?_,
      settings ▸ batching, crowd, ?_, ?_, ?_, ?_, nofun⟩
    · have named := housed.sound.identity?_of_channel? first
      exact congrArg (Option.map (·.capacity)) named
    · rw [Bus.isOpen, first]
      rfl
    · intro id task here
      rw [Task.Due, (start_of_crew here).1]
      trivial
    · intro id task here
      exact (start_of_crew here).2.1
    · refine ⟨[], ?_, ?_, fun telemetry => (tallies telemetry).2⟩
      · rw [funext fun id => (stands id).1, funext fun id => (stands id).2, empty]
        exact .new known numbered
      · have live : (workload.crew bus).tasks.countP (·.isLive) ≤ _ := List.countP_le_length
        omega
    · have nobody : (workload.crew bus).tasks.countP (·.state.dismissed) = 0 := by
        rw [List.countP_eq_zero]
        intro task listed
        obtain ⟨id, here⟩ := List.mem_iff_getElem?.mp listed
        obtain ⟨_, _, _, _, untold⟩ := start_of_crew here
        rw [untold]
        exact Bool.false_ne_true
      rw [nobody]
      exact fun telemetry => (tallies telemetry).1

/-! ## Joining -/

/-- The first `count` workers have ended. -/
def EndedBefore (count : Nat) (tasks : List (Task Worker Message)) : Prop :=
  ∀ (id : Nat) (task : Task Worker Message), tasks[id]? = some task → id < count →
    task.phase = .over

/-- What the supervisor can learn about the producers when it joins at most `allowance` of them. -/
inductive Joins (workload : Workload) (tasks : List (Task Worker Message))
    (allowance joined : Nat) : Verdict → Prop where
  /-- It goes on later with a producer that is still at work, or because it may join no more. -/
  | waiting (later : Nat) (more : joined ≤ later) (few : later < workload.producers)
      (ended : EndedBefore later tasks)
      (why : later = joined → allowance = 0 ∨
        ∃ task, tasks[joined]? = some task ∧ task.isLive = true) :
      Joins workload tasks allowance joined (.waiting later)
  /-- All producers have ended. -/
  | done (ended : EndedBefore workload.producers tasks) :
    Joins workload tasks allowance joined .done

/-- The supervisor joins the producers in order, and none of them has failed. -/
theorem joins_joinProducers (books : Books workload config opened fuel bus tasks) (allowance : Nat)
    {joined : Nat} (inside : joined ≤ workload.producers) (ended : EndedBefore joined tasks) :
    workload.Joins tasks allowance joined
      (joinProducers allowance joined (tasks.drop joined)) := by
  by_cases more : joined < tasks.length
  · have here := List.getElem?_eq_getElem more
    rw [List.drop_eq_getElem_cons more]
    generalize tasks[joined] = task at here
    have employed := books.employed joined task here
    cases employed with
    | consumer _ _ outside =>
      have all : joined = workload.producers := Nat.le_antisymm inside outside
      unfold joinProducers
      exact .done (all ▸ ended)
    | producer remaining phase few _ _ =>
      cases allowance with
      | zero =>
        unfold joinProducers
        exact .waiting joined (Nat.le_refl _) few ended fun _ => .inl rfl
      | succ allowance =>
        unfold joinProducers
        dsimp only
        split
        case isTrue alive =>
          exact .waiting joined (Nat.le_refl _) few ended fun _ => .inr ⟨_, here, alive⟩
        case isFalse dead =>
          have next : EndedBefore (joined + 1) tasks := by
            intro id task there early
            by_cases same : id = joined
            · subst same
              obtain rfl := Option.some.inj (here.symm.trans there)
              by_contra live
              exact dead (Scheduler.isLive_iff.mpr live)
            · exact ended id task there (by omega)
          -- A producer that ended has no failure, and the supervisor goes on with the next one.
          have joins := joins_joinProducers books allowance few next
          have goesOn : workload.Joins tasks (allowance + 1) joined
              (joinProducers allowance (joined + 1) (tasks.drop (joined + 1))) := by
            generalize joinProducers allowance (joined + 1) _ = verdict at joins ⊢
            cases joins with
            | done all => exact .done all
            | waiting later further early all _ =>
              exact .waiting later (by omega) early all (by omega)
          exact goesOn
  · have all : joined = workload.producers := by
      have crowd := books.crowd
      omega
    rw [List.drop_eq_nil_of_le (Nat.not_lt.mp more), joinProducers]
    exact .done (all ▸ ended)

/-! ## Closing -/

/-- As many messages are counted as all workers have received. -/
theorem delivered_eq {tally : Tally} (agrees : tally.Agrees workload.expected crew.states) :
    tally.delivered = (crew.tasks.map fun task => task.state.receivedCount).sum := by
  rw [agrees.delivered, Scheduler.states, List.map_map]
  rfl

/-- Nobody has received anything at the start. -/
theorem agrees_begin (workload : Workload) (bus : Bus Message) :
    (Tally.new workload.expected).Agrees workload.expected (workload.crew bus).states := by
  apply Tally.agrees_new
  intro worker listed
  rw [Scheduler.states, (workload.crew_eq bus).2, List.map_map] at listed
  obtain ⟨other, member, rfl⟩ := List.mem_map.mp listed
  rcases List.mem_append.mp member with produces | consumes
  · obtain ⟨id, _, rfl⟩ := List.mem_map.mp produces
    rfl
  · obtain rfl := List.eq_of_mem_replicate consumes
    rfl

namespace Kept

variable (kept : workload.Kept opened fuel bus crew)
  (received : workload.expected ≤ (crew.tasks.map fun task => task.state.receivedCount).sum)
include kept received

/-- Once everything was received, nothing is buffered. -/
theorem content_eq_nil : bus.content 0 = [] := by
  obtain ⟨history, accounts⟩ := kept.books.accounts
  have few := accounts.received_le kept.books.crowd
  exact accounts.ledger.buffer_eq_nil (Nat.le_trans received few)

/-- Once everything was received, nobody has yet to learn of a message that was delivered to it. -/
theorem undelivered (address : Address) (message : Message) :
    bus.parcel? address ≠ some (.delivered message) := by
  intro lies
  obtain ⟨owner, suspended, task, _, _, here, finds, due, _, stands⟩ := kept.books.owner lies
  obtain ⟨history, accounts⟩ := kept.books.accounts
  have same : task.parcel? bus = some (.delivered message) := by
    rw [standing, here] at stands
    exact (Prod.mk.inj (Option.some.inj stands)).2
  have more : task.state.receivedCount < (task.state.held (task.parcel? bus)).length := by
    obtain ⟨state, phase⟩ := task
    cases state with
    | producer producer =>
      obtain ⟨_, asks⟩ := Producer.asks_of_call due
      cases finds with
      | delivered _ wants => exact absurd asks.modest wants
    | consumer consumer =>
      rw [same]
      show consumer.received.length < (consumer.received.reverse ++ [message]).length
      rw [List.length_append, List.length_reverse]
      exact Nat.lt_succ_self _
  have less : (crew.tasks.map fun task => task.state.receivedCount).sum <
      (crew.tasks.map fun task => (task.state.held (task.parcel? bus)).length).sum := by
    apply List.sum_lt_sum
    · intro other _
      exact other.state.receivedCount_le _
    · exact ⟨task, List.mem_of_getElem? here, more⟩
  rw [← accounts.length_history kept.books.crowd] at less
  have few := accounts.ledger.length_le
  omega

end Kept

/-- Closing the channel pays for whoever is woken. -/
theorem Kept.pays_close (kept : workload.Kept true fuel bus crew) (empty : bus.content 0 = []) :
    ∃ woken, bus.Pays (bus.close ⟨0⟩).bus { closed := 1, woken } := by
  obtain ⟨channel, here⟩ := Option.isSome_iff_exists.mp kept.books.gate
  have lost : (bus.length ⟨0⟩).getD 0 = 0 := by
    rw [kept.books.content_eq here] at empty
    rw [Bus.length, here, Option.map_some, Channel.length, empty]
    rfl
  obtain ⟨woken, pays⟩ := bus.pays_close ⟨0⟩
  rw [kept.books.gate, lost] at pays
  exact ⟨woken, pays⟩

/-- Once all producers have ended, no more workers are alive than there are consumers. -/
theorem countP_live_le (crowd : tasks.length = workload.producers + workload.consumers)
    (ended : EndedBefore workload.producers tasks) :
    tasks.countP (·.isLive) ≤ workload.consumers := by
  have none : (tasks.take workload.producers).countP (·.isLive) = 0 := by
    rw [List.countP_eq_zero]
    intro task listed
    obtain ⟨id, here⟩ := List.mem_iff_getElem?.mp listed
    rw [List.getElem?_take] at here
    split at here
    case isTrue inside =>
      rw [Scheduler.isLive_iff, Classical.not_not]
      exact ended id task here inside
    case isFalse => contradiction
  have rest : (tasks.drop workload.producers).countP (·.isLive) ≤ _ := List.countP_le_length
  rw [List.length_drop, crowd] at rest
  rw [← List.take_append_drop workload.producers tasks, List.countP_append, none]
  omega

/-- The supervisor closes the channel once everything was received. Then every consumer is to be
polled once more at most. -/
theorem Kept.close (kept : workload.Kept true fuel bus crew)
    (ended : EndedBefore workload.producers crew.tasks)
    (received : workload.expected ≤ (crew.tasks.map fun task => task.state.receivedCount).sum) :
    ∃ after, workload.Kept false workload.consumers after
        (crew.act (.onBus 0 (.close ⟨0⟩))).scheduler ∧
      (crew.act (.onBus 0 (.close ⟨0⟩))).scheduler.tasks = crew.tasks := by
  obtain ⟨_, buses, tasks⟩ := Scheduler.onBus_only kept.only (·.perform (.close ⟨0⟩))
  have books := kept.books
  have shuts := books.housed.sound.shuts_close ⟨0⟩
  have empty := kept.content_eq_nil received
  obtain ⟨woken, pays⟩ := kept.pays_close empty
  obtain ⟨history, accounts⟩ := books.accounts
  have few := accounts.received_le books.crowd
  obtain ⟨ledger, covered, tallied⟩ := accounts
  have live := countP_live_le books.crowd ended
  have buses : (crew.act (.onBus 0 (.close ⟨0⟩))).scheduler.buses = [(bus.close ⟨0⟩).bus] := buses
  have tasks : (crew.act (.onBus 0 (.close ⟨0⟩))).scheduler.tasks = crew.tasks := tasks
  refine ⟨_, ⟨buses, (kept.tidy.act _).1, tasks ▸ ?_⟩, tasks⟩
  generalize (bus.close ⟨0⟩).bus = after at shuts pays
  have settings : after.config = bus.config := pays.config
  have gone : after.channel? ⟨0⟩ = none := shuts.channel? ⟨0⟩
  have closed : after.isOpenAs 0 = false := by
    rw [Bool.eq_false_iff]
    intro still
    obtain ⟨handle, channel, here, generation⟩ := Bus.isOpenAs_iff.mp still
    obtain ⟨first, there⟩ := Option.isSome_iff_exists.mp books.gate
    rw [shuts.channel?] at here
    split at here
    case isTrue => contradiction
    case isFalse apart =>
      have same : handle = ⟨0⟩ := books.housed.sound.handle_unique here there
        (generation.trans (books.generation_eq there).symm)
      exact apart (List.mem_singleton.mpr same)
  have content := shuts.sound.content_of_closed closed
  have stands : standing after crew.tasks = standing bus crew.tasks := by
    funext id
    exact standing_kept fun suspended _ => shuts.parcel? books.housed.sound _
  refine ⟨rfl, books.housed.shuts shuts, shuts.nextGeneration.trans books.sole, ?_, ?_,
    settings ▸ books.batching, books.crowd, books.due, ?_, ⟨history, ?_, ?_, ?_⟩, ?_,
    fun _ => received⟩
  · exact (Bus.Evolves.shuts shuts).capacity books.housed.sound books.sized
  · rw [Bus.isOpen, gone]
    rfl
  · intro id task here
    exact (books.employed id task here).closed
  · rw [stands, content, ← empty]
    exact ledger
  · rw [content]
    show _ ≤ _ + 0
    omega
  · intro telemetry
    rw [settings] at telemetry
    exact (tallied telemetry).close pays telemetry
  · intro telemetry
    rw [settings] at telemetry
    exact (books.attended telemetry).close pays telemetry

/-! ## A turn of the supervisor -/

/-- What holds of a workload between two polls, with a bound on the polls and turns that are still
to come. -/
inductive Holds (workload : Workload) (budget : Nat) : State → Prop where
  /-- The channel is open, and the producers that were joined have ended. There is a turn to come
  for each of the others and one that closes the channel; then each consumer may be polled. -/
  | joining (joined : Nat) (tally : Tally) (crew : Crew) (bus : Bus Message) (fuel : Nat)
      (kept : workload.Kept true fuel bus crew) (inside : joined ≤ workload.producers)
      (ended : EndedBefore joined crew.tasks)
      (agrees : tally.Agrees workload.expected crew.states) (awaits : tally.Awaits)
      (enough : fuel + (workload.producers - joined) + 1 + workload.consumers ≤ budget) :
      Holds workload budget { stage := .joining joined, tally, crew }
  /-- The channel was closed. -/
  | closed (tally : Tally) (crew : Crew) (bus : Bus Message) (fuel : Nat)
      (kept : workload.Kept false fuel bus crew)
      (agrees : tally.Agrees workload.expected crew.states) (enough : fuel ≤ budget) :
      Holds workload budget { stage := .closed, tally, crew }

/-- How a turn of the supervisor can end. -/
inductive Advises (workload : Workload) (budget : Nat) (state : State) : Supervision → Prop where
  /-- Nothing changes, and somebody is ready. -/
  | stays (busy : state.crew.ready ≠ []) : Advises workload budget state (.waiting state)
  /-- The supervisor is at a later stage. -/
  | goesOn (next : State) (left : Nat) (changed : next.stage ≠ state.stage)
      (paid : budget = left + 1) (holds : workload.Holds left next) :
      Advises workload budget state (.waiting next)
  /-- Everyone is done. -/
  | finishes (after : State) (bus : Bus Message) (fuel : Nat)
      (kept : workload.Kept false fuel bus after.crew)
      (agrees : after.tally.Agrees workload.expected after.crew.states)
      (ended : ∀ task ∈ after.crew.tasks, task.phase = .over) :
      Advises workload budget state (.finished after)

/-- Once nobody is alive everyone is done. -/
theorem over_of_not_any (none : ¬ (tasks.any (·.isLive)) = true) :
    ∀ task ∈ tasks, task.phase = .over := by
  intro task listed
  by_contra live
  exact none (List.any_eq_true.mpr ⟨task, listed, Scheduler.isLive_iff.mpr live⟩)

section Turns

variable {tally : Tally} {budget : Nat}

/-- A turn after the channel was closed. -/
theorem Kept.advises_of_closed (kept : workload.Kept false fuel bus crew)
    (agrees : tally.Agrees workload.expected crew.states) :
    workload.Advises budget { stage := .closed, tally, crew }
      (workload.supervise ⟨0⟩ { stage := .closed, tally, crew }) := by
  unfold supervise joinConsumers
  dsimp only
  split
  case isTrue some =>
    apply Advises.stays
    intro quiet
    obtain ⟨task, listed, alive⟩ := List.any_eq_true.mp some
    obtain ⟨id, here⟩ := List.mem_iff_getElem?.mp listed
    exact Scheduler.isLive_iff.mp alive (kept.over_of_closed quiet rfl here)
  case isFalse none => exact .finishes _ bus fuel kept agrees (over_of_not_any none)

/-- The turn that closes the channel. -/
theorem Kept.advises_of_close {joined : Nat} {before : Tally}
    (kept : workload.Kept true fuel bus crew)
    (ended : EndedBefore workload.producers crew.tasks)
    (agrees : tally.Agrees workload.expected crew.states)
    (all : workload.expected ≤ (crew.tasks.map fun task => task.state.receivedCount).sum)
    (enough : workload.consumers < budget) :
    workload.Advises budget { stage := .joining joined, tally := before, crew }
      (joinConsumers (State.close ⟨0⟩ { stage := .joining joined, tally, crew })) := by
  obtain ⟨after, closed, tasks⟩ := kept.close ended all
  have still : tally.Agrees workload.expected
      (crew.act (.onBus 0 (.close ⟨0⟩))).scheduler.states := by
    rw [Scheduler.states, tasks]
    exact agrees
  unfold joinConsumers
  split
  case isTrue =>
    apply Advises.goesOn _ (budget - 1)
    · exact Stage.noConfusion
    · omega
    · exact .closed tally _ after _ closed still (by omega)
  case isFalse none => exact .finishes _ after _ closed still (over_of_not_any none)

end Turns

/-- A turn of the supervisor leaves what holds, and it goes on if nobody is ready. -/
theorem Holds.advises {budget : Nat} {state : State} (holds : workload.Holds budget state)
    (consumed : workload.consumers ≠ 0 ∨ workload.producers = 0 ∨ workload.messages = 0) :
    workload.Advises budget state (workload.supervise ⟨0⟩ state) := by
  cases holds with
  | closed tally crew bus fuel kept agrees enough => exact kept.advises_of_closed agrees
  | joining joined tally crew bus fuel kept inside ended agrees awaits enough =>
    have joins := joins_joinProducers kept.books joinsPerTurn inside ended
    -- Joining more producers costs a turn, but leaves as many fewer to be joined.
    have later : ∀ more, joined ≤ more → more ≤ workload.producers → EndedBefore more crew.tasks →
        more ≠ joined → workload.Advises budget { stage := .joining joined, tally, crew }
          (.waiting { stage := .joining more, tally, crew }) := by
      intro more further few ended apart
      apply Advises.goesOn _ (budget - 1)
      · exact fun equal => apart (Stage.joining.inj equal)
      · omega
      · exact .joining more tally crew bus fuel kept few ended agrees awaits (by omega)
    unfold supervise
    dsimp only
    generalize joinProducers joinsPerTurn joined _ = verdict at joins
    cases joins with
    | waiting more further few ended why =>
      by_cases same : more = joined
      · rw [same]
        apply Advises.stays
        intro quiet
        obtain none | ⟨task, here, alive⟩ := why same
        · contradiction
        · have early : joined < workload.producers := same ▸ few
          exact Scheduler.isLive_iff.mp alive (kept.producer_over quiet consumed rfl here early)
      · exact later more further (Nat.le_of_lt few) ended same
    | done ended =>
      dsimp only
      have counted := delivered_eq agrees
      rcases agrees.awaitDrained awaits with ⟨waits, short⟩ | ⟨after, takes, still, all⟩
      · rw [waits]
        by_cases same : workload.producers = joined
        · rw [same]
          apply Advises.stays
          intro quiet
          have all := kept.all_received quiet consumed rfl
          omega
        · exact later _ inside (Nat.le_refl _) ended same
      · rw [takes]
        exact kept.advises_of_close ended still (counted ▸ all) (by omega)

/-- The supervisor closes the channel only once everything was received. -/
theorem received_of_closes {joined : Nat} {state next : State} {handle : Handle}
    (agrees : state.tally.Agrees workload.expected state.crew.states) (awaits : state.tally.Awaits)
    (stage : state.stage = .joining joined)
    (closes : workload.supervise handle state = .waiting next ∧ next.stage = .closed ∨
      workload.supervise handle state = .finished next) :
    workload.expected ≤ (state.crew.tasks.map fun task => task.state.receivedCount).sum := by
  unfold supervise at closes
  rw [stage] at closes
  dsimp only at closes
  generalize joinProducers joinsPerTurn joined _ = verdict at closes
  cases verdict with
  | waiting later =>
    obtain ⟨same, closed⟩ | same := closes
    · obtain rfl := Supervision.waiting.inj same
      contradiction
    · contradiction
  | failed error =>
    obtain ⟨same, _⟩ | same := closes
    · contradiction
    · contradiction
  | done =>
    rcases agrees.awaitDrained awaits with ⟨waits, _⟩ | ⟨after, _, _, all⟩
    · simp only [waits] at closes
      obtain ⟨same, closed⟩ | same := closes
      · obtain rfl := Supervision.waiting.inj same
        contradiction
      · contradiction
    · exact delivered_eq agrees ▸ all

end Workload

end ChannelBus
