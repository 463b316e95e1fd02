import ChannelBus.Proofs.Supervision

/-!
# Every schedule of a workload completes

A schedule lets, again and again, some ready worker be polled or the supervisor take a turn that
changes something. Whichever it chooses, only so many moves can be made, and as long as the
supervisor is not done another one can. All the time the tally counts what the consumers received,
and the signal that the last message was delivered is given once. In the end every message has been
received once, in order.
-/

open scoped List

namespace ChannelBus

/-- A worker that does not wait holds what it received. -/
theorem Worker.held_none (worker : Worker) : worker.held none = worker.received.reverse := by
  cases worker with
  | producer state => rfl
  | consumer state => exact List.append_nil _

namespace Workload

variable {workload : Workload} {crew : Crew} {handle : Handle}

/-! ## What is achieved -/

/-- A workload has done what it was for. -/
structure Completed (workload : Workload) (state : State) : Prop where
  /-- All messages of all producers were expected. -/
  expected : (workload.summarize state).expected = workload.producers * workload.messages
  /-- All of them were delivered. -/
  delivered : (workload.summarize state).delivered = workload.producers * workload.messages
  /-- The consumers received so many together. -/
  perConsumer : (workload.summarize state).perConsumer.sum =
    workload.producers * workload.messages
  /-- Each consumer received the messages of each producer in order, as the tally tells. -/
  inOrder : (workload.summarize state).inOrder = true
  /-- Each consumer received the messages of each producer in order, as the messages tell. -/
  ascending : ∀ task ∈ state.crew.tasks, Message.Ascending task.state.received.reverse
  /-- Each message of each producer was received once. -/
  received : (state.crew.tasks.flatMap (·.state.received)).map Message.decode ~
    List.range workload.producers ×ˢ List.range workload.messages
  /-- The signal was given once, unless nothing was to be delivered. -/
  signalled : state.tally.drained.given =
    if workload.producers * workload.messages = 0 then 0 else 1

/-- The tally of a workload is right. -/
structure Counted (workload : Workload) (state : State) : Prop where
  /-- As many messages were delivered as the consumers received together. -/
  delivered : state.tally.delivered = (perConsumer state.crew).sum
  /-- No more is delivered than there is. -/
  within : state.tally.delivered ≤ workload.expected
  /-- No message came out of order. -/
  inOrder : state.tally.inOrder = true
  /-- Each consumer has the messages of each producer in order. -/
  ascending : ∀ task ∈ state.crew.tasks, Message.Ascending task.state.received.reverse
  /-- The signal is given once, when the last message is delivered and not before. -/
  signalled : state.tally.drained.given =
    if 0 < workload.expected ∧ state.tally.delivered = workload.expected then 1 else 0

/-- As many messages were received by all consumers as by all workers. -/
theorem sum_perConsumer (crew : Crew) :
    (perConsumer crew).sum = (crew.tasks.map fun task => task.state.receivedCount).sum := by
  unfold perConsumer
  induction crew.tasks with
  | nil => rfl
  | cons task rest ih =>
    obtain ⟨state, phase⟩ := task
    cases state with
    | producer producer =>
      rw [List.map_cons, List.sum_cons, List.filterMap_cons, ih]
      exact (Nat.zero_add _).symm
    | consumer consumer =>
      rw [List.map_cons, List.sum_cons, List.filterMap_cons]
      show (_ :: _).sum = _
      rw [List.sum_cons, ih]
      rfl

section Counting

variable {fuel : Nat} {bus : Bus Message} {opened : Bool} {tally : Tally} {stage : Stage}

/-- What a worker has received is in the order of the producers. -/
theorem Kept.ascending (kept : workload.Kept opened fuel bus crew) {task : Task Worker Message}
    (listed : task ∈ crew.tasks) : Message.Ascending task.state.received.reverse := by
  obtain ⟨history, accounts⟩ := kept.books.accounts
  obtain ⟨id, here⟩ := List.mem_iff_getElem?.mp listed
  have ascending := accounts.ledger.ascending id
  rw [heldOf, standing, here, Option.map_some] at ascending
  exact ascending.sublist (task.state.received_sublist_held _)

/-- The tally of a workload that is kept is right. -/
theorem Kept.counted (kept : workload.Kept opened fuel bus crew)
    (agrees : tally.Agrees workload.expected crew.states) :
    workload.Counted { stage, tally, crew } := by
  obtain ⟨history, accounts⟩ := kept.books.accounts
  have few := accounts.received_le kept.books.crowd
  have most := accounts.ledger.length_le
  have counted := delivered_eq agrees
  have within : tally.delivered ≤ workload.expected := by omega
  refine ⟨counted.trans (sum_perConsumer crew).symm, within, ?_,
    fun task listed => kept.ascending listed, ?_⟩
  · show tally.inOrder = true
    rw [agrees.inOrder, List.all_eq_true]
    intro worker listed
    obtain ⟨task, member, rfl⟩ := List.mem_map.mp listed
    have inOrder := (kept.ascending member).inOrder
    rwa [List.reverse_reverse] at inOrder
  · show tally.drained.given = _
    rw [agrees.given]
    by_cases last : 0 < workload.expected ∧ workload.expected ≤ tally.delivered
    · rw [if_pos last, if_pos ⟨last.1, Nat.le_antisymm within last.2⟩]
    · rw [if_neg last, if_neg fun both => last ⟨both.1, Nat.le_of_eq both.2.symm⟩]

/-- When everyone is done, the workload has done what it was for. -/
theorem Kept.completed (kept : workload.Kept false fuel bus crew)
    (agrees : tally.Agrees workload.expected crew.states)
    (ended : ∀ task ∈ crew.tasks, task.phase = .over) :
    workload.Completed { stage, tally, crew } := by
  have crowd := kept.books.crowd
  have all := kept.books.shut rfl
  obtain ⟨history, accounts⟩ := kept.books.accounts
  have left := accounts.length_of_received crowd all
  have few := accounts.received_le crowd
  have sum : (crew.tasks.map fun task => task.state.receivedCount).sum = workload.expected := by
    omega
  have holds : ∀ id task, crew.tasks[id]? = some task →
      heldOf (standing bus crew.tasks) id = task.state.received.reverse := by
    intro id task here
    have none : task.parcel? bus = none := by
      rw [Task.parcel?, ended task (List.mem_of_getElem? here)]
      rfl
    rw [heldOf, standing, here, Option.map_some, none]
    exact task.state.held_none
  have counted : workload.Counted { stage, tally, crew } := kept.counted agrees
  have delivered : tally.delivered = workload.expected := (delivered_eq agrees).trans sum
  refine ⟨rfl, delivered, (sum_perConsumer crew).trans sum, counted.inOrder, counted.ascending, ?_,
    ?_⟩
  · have shared := accounts.ledger.decode_perm_product (Nat.le_of_eq left.symm)
    apply List.Perm.trans _ shared
    apply List.Perm.map
    have held : (List.range crew.tasks.length).flatMap (heldOf (standing bus crew.tasks)) =
        crew.tasks.flatMap (·.state.received.reverse) := by
      rw [List.flatMap_def, List.flatMap_def]
      apply congrArg List.flatten
      apply (map_eq_map_range _).symm
      intro id task here
      exact (holds id task here).symm
    rw [← crowd, held]
    apply List.Perm.flatMap_left
    intro task _
    exact (List.reverse_perm _).symm
  · refine counted.signalled.trans ?_
    by_cases none : workload.producers * workload.messages = 0
    · rw [if_neg fun both => Nat.ne_of_gt both.1 none, if_pos none]
    · rw [if_pos ⟨Nat.pos_of_ne_zero none, delivered⟩, if_neg none]

end Counting

/-! ## Schedules -/

/-- One move of a schedule. -/
inductive Moves (workload : Workload) (handle : Handle) : State → State → Prop where
  /-- A ready worker is polled. -/
  | poll {state : State} {id : TaskId} (isReady : id ∈ state.crew.ready) :
      Moves workload handle state (state.poll handle id)
  /-- The supervisor has a turn that changes something. -/
  | turn {state next : State} (waits : workload.supervise handle state = .waiting next)
      (changed : next ≠ state) : Moves workload handle state next

/-- What can be reached by some schedule in so many moves. -/
inductive Reaches (workload : Workload) (handle : Handle) (start : State) : Nat → State → Prop where
  /-- Nothing was done yet. -/
  | start : Reaches workload handle start 0 start
  /-- One more move was made. -/
  | move {count : Nat} {state next : State} (reaches : Reaches workload handle start count state)
      (moves : workload.Moves handle state next) : Reaches workload handle start (count + 1) next

/-- One schedule after another. -/
theorem Reaches.trans {start middle state : State} {first second : Nat}
    (reaches : workload.Reaches handle start first middle)
    (further : workload.Reaches handle middle second state) :
    workload.Reaches handle start (first + second) state := by
  induction further with
  | start => exact reaches
  | move _ moves ih => exact ih.move moves

/-- The next turn of the supervisor closes the channel. -/
def Closes (workload : Workload) (handle : Handle) (state : State) : Prop :=
  ∃ joined next, state.stage = .joining joined ∧
    (workload.supervise handle state = .waiting next ∧ next.stage = .closed ∨
      workload.supervise handle state = .finished next)

/-- Nothing is buffered by the open channel, and no message was delivered to a worker that has yet
to learn of it. -/
def Emptied (handle : Handle) (crew : Crew) : Prop :=
  ∃ bus channel, crew.buses = [bus] ∧ bus.channel? handle = some channel ∧ channel.buffer = [] ∧
    ∀ address message, bus.parcel? address ≠ some (.delivered message)

section Running

variable {budget : Nat} {state : State}

/-- The crew is tidy and its books and its tally are right. -/
theorem Holds.kept (holds : workload.Holds budget state) :
    (∃ opened fuel bus, workload.Kept opened fuel bus state.crew) ∧
      state.tally.Agrees workload.expected state.crew.states := by
  cases holds with
  | closed _ _ bus fuel kept agrees => exact ⟨⟨false, fuel, bus, kept⟩, agrees⟩
  | joining _ _ _ bus fuel kept _ _ agrees => exact ⟨⟨true, fuel, bus, kept⟩, agrees⟩

/-- The tally is right. -/
theorem Holds.counted (holds : workload.Holds budget state) : workload.Counted state := by
  obtain ⟨⟨_, _, _, kept⟩, agrees⟩ := holds.kept
  exact kept.counted agrees

/-- A poll of a ready worker uses up some of the budget. -/
theorem Holds.poll (holds : workload.Holds budget state) {id : TaskId}
    (isReady : id ∈ state.crew.ready) :
    ∃ left, budget = left + 1 ∧ workload.Holds left (state.poll ⟨0⟩ id) := by
  cases holds with
  | closed tally crew bus fuel kept agrees enough =>
    obtain ⟨left, after, rfl, polled, _⟩ := kept.poll isReady
    have still := (State.mk .closed tally crew).agrees_poll agrees ⟨0⟩ id
    exact ⟨budget - 1, by omega, .closed _ _ after left polled still (by omega)⟩
  | joining joined tally crew bus fuel kept inside ended agrees awaits enough =>
    obtain ⟨left, after, rfl, polled, _, rest⟩ := kept.poll isReady
    have still := (State.mk (.joining joined) tally crew).agrees_poll agrees ⟨0⟩ id
    have waits := (State.mk (.joining joined) tally crew).awaits_poll awaits ⟨0⟩ id
    refine ⟨budget - 1, by omega, .joining joined _ _ after left polled inside ?_ still waits
      (by omega)⟩
    intro other task here early
    have known : other < crew.tasks.length := by
      rw [kept.books.crowd]
      omega
    have before := List.getElem?_eq_getElem known
    have finished := ended other _ before early
    obtain rfl := Option.some.inj (here.symm.trans (rest other _ before finished))
    exact finished

/-- A run polls the worker at the front and goes on. -/
theorem State.run_of_ready {id : TaskId} {rest : List TaskId}
    (ready : state.crew.ready = id :: rest)
    (tidy : state.crew.Tidy (Worker.program ⟨0⟩)) (limit : Nat) :
    state.run ⟨0⟩ (limit + 1) = (state.poll ⟨0⟩ id).run ⟨0⟩ limit := by
  have replays := Scheduler.replays_poll (Worker.program ⟨0⟩) state.crew id
  have split := fun second => tallyAfter_append replays state.tally second
  simp only [State.run, State.poll, Scheduler.run, tidy.skipDead, ready, split]

/-- Polling from the front is a schedule, and it makes a move if somebody is ready. -/
theorem Holds.run (holds : workload.Holds budget state) (limit : Nat) :
    ∃ count, workload.Reaches ⟨0⟩ state count (state.run ⟨0⟩ limit) ∧
      (0 < limit → state.crew.ready ≠ [] → 0 < count) := by
  induction limit generalizing budget state with
  | zero => exact ⟨0, .start, fun none => absurd none (Nat.lt_irrefl 0)⟩
  | succ limit ih =>
    obtain ⟨⟨_, _, _, kept⟩, _⟩ := holds.kept
    cases ready : state.crew.ready with
    | nil =>
      have still : state.run ⟨0⟩ (limit + 1) = state := by
        simp only [State.run, Scheduler.run, kept.tidy.skipDead, ready]
        rfl
      rw [still]
      exact ⟨0, .start, fun _ busy => absurd rfl busy⟩
    | cons id rest =>
      have isReady : id ∈ state.crew.ready := ready ▸ List.mem_cons_self
      obtain ⟨left, _, after⟩ := holds.poll isReady
      obtain ⟨count, reaches, _⟩ := ih after
      have first : workload.Reaches ⟨0⟩ state 1 (state.poll ⟨0⟩ id) := .move .start (.poll isReady)
      rw [State.run_of_ready ready kept.tidy]
      exact ⟨1 + count, first.trans reaches, fun _ _ => by omega⟩

variable (consumed : workload.consumers ≠ 0 ∨ workload.producers = 0 ∨ workload.messages = 0)
include consumed

/-- Every move uses up some of the budget. -/
theorem Holds.move {next : State} (holds : workload.Holds budget state)
    (moves : workload.Moves ⟨0⟩ state next) :
    ∃ left, budget = left + 1 ∧ workload.Holds left next := by
  cases moves with
  | poll isReady => exact holds.poll isReady
  | turn waits changed =>
    have advises := holds.advises consumed
    rw [waits] at advises
    cases advises with
    | stays => exact absurd rfl changed
    | goesOn _ left _ paid later => exact ⟨left, paid, later⟩

/-- What holds at the start holds after any moves, and these are paid from the budget. -/
theorem Holds.reaches {start : State} {count : Nat} (holds : workload.Holds budget start)
    (reaches : workload.Reaches ⟨0⟩ start count state) :
    ∃ left, budget = left + count ∧ workload.Holds left state := by
  induction reaches with
  | start => exact ⟨budget, rfl, holds⟩
  | move _ moves ih =>
    obtain ⟨more, paid, before⟩ := ih
    obtain ⟨left, rfl, after⟩ := before.move consumed moves
    exact ⟨left, by omega, after⟩

/-- As long as the supervisor is not done, a move can be made. -/
theorem Holds.progress (holds : workload.Holds budget state) :
    (∃ next, workload.Moves ⟨0⟩ state next) ∨
      ∃ after, workload.supervise ⟨0⟩ state = .finished after := by
  have advises := holds.advises consumed
  generalize turn : workload.supervise ⟨0⟩ state = supervision at advises
  cases advises with
  | stays busy =>
    obtain ⟨id, isReady⟩ := List.exists_mem_of_ne_nil _ busy
    exact .inl ⟨_, .poll isReady⟩
  | goesOn next _ changed =>
    exact .inl ⟨_, .turn turn fun same => changed (congrArg State.stage same)⟩
  | finishes after => exact .inr ⟨after, rfl⟩

/-- No producer fails, and when the supervisor is done the workload has done what it was for. -/
theorem Holds.outcome (holds : workload.Holds budget state) :
    (∀ error, workload.supervise ⟨0⟩ state ≠ .failed error) ∧
      ∀ after, workload.supervise ⟨0⟩ state = .finished after → workload.Completed after := by
  have advises := holds.advises consumed
  constructor
  · intro error fails
    rw [fails] at advises
    contradiction
  · intro after finished
    rw [finished] at advises
    cases advises with
    | finishes _ bus fuel kept agrees ended => exact kept.completed agrees ended

/-! ## The schedule of the driver -/

/-- The driver comes to the end of a schedule if it has more turns than there can be moves. -/
theorem Holds.drive (holds : workload.Holds budget state) (turns : Nat)
    (enough : budget < turns) : ∃ count last after,
      workload.Reaches ⟨0⟩ state count last ∧
      workload.supervise ⟨0⟩ last = .finished after ∧
      workload.drive ⟨0⟩ turns state = .ok (workload.summarize after) := by
  induction turns generalizing budget state with
  | zero => omega
  | succ turns ih =>
    have advises := holds.advises consumed
    unfold Workload.drive
    generalize turn : workload.supervise ⟨0⟩ state = supervision at advises ⊢
    cases advises with
    | finishes after => exact ⟨0, state, after, .start, turn, rfl⟩
    | stays busy =>
      obtain ⟨count, reaches, some⟩ := holds.run pollsPerTurn
      have moved : 0 < count := some (by decide) busy
      obtain ⟨left, paid, later⟩ := holds.reaches consumed reaches
      obtain ⟨more, last, after, further, finished, result⟩ := ih later (by omega)
      exact ⟨count + more, last, after, reaches.trans further, finished, result⟩
    | goesOn next left changed paid later =>
      obtain ⟨count, reaches, _⟩ := later.run pollsPerTurn
      obtain ⟨_, _, ends⟩ := later.reaches consumed reaches
      obtain ⟨more, last, after, further, finished, result⟩ := ih ends (by omega)
      have first : workload.Reaches ⟨0⟩ state 1 next :=
        .move .start (.turn turn fun same => changed (congrArg State.stage same))
      refine ⟨1 + count + more, last, after, ?_, finished, result⟩
      exact (first.trans reaches).trans further

end Running

/-- When the channel is about to be closed it is empty. -/
theorem Holds.emptied {budget : Nat} {state : State} (holds : workload.Holds budget state)
    (closes : workload.Closes ⟨0⟩ state) : Emptied ⟨0⟩ state.crew := by
  obtain ⟨joined, next, same, turn⟩ := closes
  cases holds with
  | closed => contradiction
  | joining _ _ _ bus fuel kept _ _ agrees awaits =>
    have received := received_of_closes agrees awaits same turn
    obtain ⟨channel, here⟩ := Option.isSome_iff_exists.mp kept.books.gate
    refine ⟨bus, channel, kept.only, here, ?_, kept.undelivered received⟩
    rw [← kept.books.content_eq here]
    exact kept.content_eq_nil received

/-- A workload can begin on a bus that has just opened its channel. -/
theorem holds_begin {bus : Bus Message} {handle : Handle} {config : Config}
    (known : workload.producers < Message.senders) (numbered : workload.messages < Message.places)
    (batching : ∀ size, workload.batch = some size → 1 < size → config.batch = true)
    (created : Bus.create config = .ok bus)
    (allocated : (bus.openChannel workload.capacity).result = .ok handle) :
    workload.Holds (2 * (workload.producers + workload.consumers + workload.expected) + 1)
      (workload.begin (bus.openChannel workload.capacity).bus) := by
  have kept := kept_crew created allocated (Nat.le_of_lt known) (Nat.le_of_lt numbered) batching
  refine .joining 0 _ _ _ _ kept (Nat.zero_le _) ?_ (workload.agrees_begin _) rfl (by omega)
  exact fun _ _ _ early => absurd early (Nat.not_lt_zero _)

/-! ## The result -/

/-- Every schedule of a workload completes. Whatever the capacity, the number of workers and the
size of batches, and whoever of those that are ready goes on: only so many moves can be made, and as
long as the supervisor is not done another one can be. No producer fails, nothing is delivered
twice, the tally counts what the consumers received, and the signal that the last message was
delivered is given once. The channel is empty when it is closed, and in the end every message was
received once, in order. The driver makes one of these schedules, and comes to its end. -/
theorem every_schedule_completes (workload : Workload) (config : Config) (bus : Bus Message)
    (handle : Handle) (known : workload.producers < Message.senders)
    (numbered : workload.messages < Message.places)
    (consumed : workload.consumers ≠ 0 ∨ workload.producers = 0 ∨ workload.messages = 0)
    (batching : ∀ size, workload.batch = some size → 1 < size → config.batch = true)
    (created : Bus.create config = .ok bus)
    (allocated : (bus.openChannel workload.capacity).result = .ok handle) :
    let start : State := workload.begin (bus.openChannel workload.capacity).bus
    (∀ count state, workload.Reaches handle start count state →
      count ≤ 2 * (workload.producers + workload.consumers + workload.expected) + 1 ∧
      ((∃ next, workload.Moves handle state next) ∨
        ∃ after, workload.supervise handle state = .finished after) ∧
      (∀ error, workload.supervise handle state ≠ .failed error) ∧
      (∀ after, workload.supervise handle state = .finished after → workload.Completed after) ∧
      state.tally.delivered ≤ workload.expected ∧
      workload.Counted state ∧
      (workload.Closes handle state → Emptied handle state.crew)) ∧
    ∃ count state after, workload.Reaches handle start count state ∧
      workload.supervise handle state = .finished after ∧
      workload.run config = .ok (workload.summarize after) := by
  intro start
  have holds := holds_begin known numbered batching created allocated
  obtain ⟨_, rfl, _⟩ := opens_of_create created allocated
  constructor
  · intro count state reaches
    obtain ⟨left, paid, later⟩ := holds.reaches consumed reaches
    obtain ⟨succeeds, completes⟩ := later.outcome consumed
    exact ⟨by omega, later.progress consumed, succeeds, completes, later.counted.within,
      later.counted, later.emptied⟩
  · obtain ⟨count, state, after, reaches, finished, driven⟩ :=
      holds.drive consumed workload.turnLimit (by unfold turnLimit; omega)
    refine ⟨count, state, after, reaches, finished, ?_⟩
    have checked : workload.check = .ok () := by
      rw [check, if_neg (Nat.not_le.mpr numbered), if_neg (Nat.not_le.mpr known), if_neg]
      rintro ⟨none, some, more⟩
      obtain staffed | idle | idle := consumed <;> contradiction
    rw [run, checked, created]
    simp only [allocated]
    exact driven

/-- Two producers send three messages each, in batches of two, to two consumers with which they have
to meet. -/
def meetingWorkload : Workload :=
  { capacity := 0, producers := 2, consumers := 2, messages := 3, batch := some 2 }

/-- Every meeting takes place. -/
theorem every_schedule_completes_of_meeting :
    let bus : Bus Message := .new {}
    meetingWorkload.producers < Message.senders ∧ meetingWorkload.messages < Message.places ∧
      meetingWorkload.consumers ≠ 0 ∧ Bus.create {} = .ok bus ∧
      (bus.openChannel meetingWorkload.capacity).result = .ok ⟨0⟩ ∧
      ∃ after, meetingWorkload.run {} = .ok (meetingWorkload.summarize after) ∧
        meetingWorkload.Completed after := by
  intro bus
  have known : meetingWorkload.producers < Message.senders := by decide
  have numbered : meetingWorkload.messages < Message.places := by decide
  have staffed : meetingWorkload.consumers ≠ 0 := by decide
  have created : Bus.create {} = .ok bus := rfl
  have allocated : (bus.openChannel meetingWorkload.capacity).result = .ok ⟨0⟩ := rfl
  obtain ⟨each, count, state, after, reaches, finished, runs⟩ :=
    every_schedule_completes meetingWorkload {} bus ⟨0⟩ known numbered (.inl staffed)
      (fun _ _ _ => rfl) created allocated
  obtain ⟨_, _, _, completes, _⟩ := each count state reaches
  exact ⟨known, numbered, staffed, created, allocated, after, runs, completes after finished⟩

end Workload

end ChannelBus
