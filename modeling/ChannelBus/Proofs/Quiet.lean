import ChannelBus.Proofs.Findable
import ChannelBus.Proofs.Shifts

/-!
# When no worker is ready

Between two polls every worker that is alive is ready or queued on the channel. When nobody is
ready, nobody is on the way back from the channel either, so that whoever is queued there cannot be
served: a queued sender finds no room, a queued receiver nothing in the buffer. A sender and a
receiver are never queued together, for a rendezvous would have room and another channel would be
empty and full. A consumer stays as long as the channel is open; hence all producers are done then,
and everything they sent has been received.
-/

open scoped List

namespace ChannelBus

variable {σ α : Type}

namespace Scheduler

/-- As many tasks are listed as are alive. -/
theorem length_living (scheduler : Scheduler σ α) :
    scheduler.living.length = scheduler.tasks.countP (·.isLive) := by
  have numbered : scheduler.tasks.map (·.isLive) =
      (List.range scheduler.tasks.length).map fun id => (scheduler.live? id).isSome := by
    apply map_eq_map_range
    intro id task here
    rw [live?, here, Option.isSome_filter]
    rfl
  have counted : scheduler.tasks.countP (·.isLive) =
      (scheduler.tasks.map (·.isLive)).countP id := by
    rw [List.countP_map]
    rfl
  rw [counted, numbered, List.countP_map, living, ← List.countP_eq_length_filter]
  rfl

end Scheduler

/-- What holds of the crew of a workload between two polls: it is tidy, and its books are right. -/
structure Workload.Kept (workload : Workload) (opened : Bool) (fuel : Nat) (bus : Bus Message)
    (crew : Workload.Crew) : Prop where
  /-- There is one bus. -/
  only : crew.buses = [bus]
  /-- Every live worker is ready or seated, once. -/
  tidy : crew.Tidy (Worker.program ⟨0⟩)
  /-- The books are right. -/
  books : Books workload bus.config opened fuel bus crew.tasks

namespace Workload.Kept

variable {workload : Workload} {opened : Bool} {fuel : Nat} {bus : Bus Message}
  {crew : Workload.Crew} {id : TaskId} {task : Task Worker Message}

/-- The work that is left covers a poll of every worker that is ready. -/
theorem length_ready_le (kept : workload.Kept opened fuel bus crew) : crew.ready.length ≤ fuel := by
  have here : crew.buses[0]? = some bus := by rw [kept.only]; rfl
  have manned : (bus.roster.filterMap (·.waker)).length = bus.roster.length := by
    rw [List.length_filterMap_eq_countP, List.countP_eq_length]
    intro seat inside
    obtain ⟨owner, suspended, _, rfl⟩ := kept.tidy.balanced.manned 0 bus seat here inside
    rfl
  have seats : seated crew.buses = bus.roster.filterMap (·.waker) := by
    rw [seated, kept.only, List.flatMap_singleton]
  have accounted := kept.tidy.balanced.accounted.length_eq
  rw [List.length_append, seats, manned, crew.length_living] at accounted
  obtain ⟨history, ledger, covered, _⟩ := kept.books.accounts
  have few := ledger.length_le
  omega

/-- A poll of a ready worker uses up some of the work that is left. The settings stay, and nobody
who is done is touched. -/
theorem poll (kept : workload.Kept opened fuel bus crew) (isReady : id ∈ crew.ready) :
    ∃ left after, fuel = left + 1 ∧
      workload.Kept opened left after (crew.poll (Worker.program ⟨0⟩) id).1 ∧
      after.config = bus.config ∧
      ∀ (other : Nat) (task : Task Worker Message), crew.tasks[other]? = some task →
        task.phase = .over →
        (crew.poll (Worker.program ⟨0⟩) id).1.tasks[other]? = some task := by
  have some : 0 < crew.ready.length := List.length_pos_of_mem isReady
  have covered := kept.length_ready_le
  obtain ⟨left, rfl⟩ : ∃ left, fuel = left + 1 := ⟨fuel - 1, by omega⟩
  obtain ⟨after, polled, only, tasks, books⟩ :=
    kept.books.poll kept.only kept.tidy isReady
  have settings := books.settings
  refine ⟨left, after, rfl, ⟨only, (kept.tidy.poll id).1, settings.symm ▸ books⟩, settings, ?_⟩
  intro other task here done
  rw [tasks, List.getElem?_set_ne, here]
  rintro rfl
  obtain ⟨former, _, there, live⟩ := kept.tidy.live_of_ready isReady
  obtain rfl := Option.some.inj (here.symm.trans there)
  exact Scheduler.isLive_iff.mp live done

/-! ## Nobody is ready -/

section Quiet

variable (kept : workload.Kept opened fuel bus crew) (quiet : crew.ready = [])
include kept quiet

/-- Everyone who is alive has a seat. -/
theorem mem_seated (here : crew.tasks[id]? = some task) (alive : task.isLive = true) :
    id ∈ seated crew.buses := by
  have listed : id ∈ crew.living := by
    rw [Scheduler.mem_living, Scheduler.live?_eq_some_iff.mpr ⟨here, alive⟩]
    rfl
  have accounted := kept.tidy.balanced.accounted.mem_iff.mpr listed
  rwa [quiet, List.nil_append] at accounted

/-- Everyone who is alive is queued on the channel. -/
theorem queued (here : crew.tasks[id]? = some task) (alive : task.isLive = true) :
    ∃ suspended channel entry, task.phase = .parked 0 suspended ∧
      bus.channel? ⟨0⟩ = some channel ∧
      task.state.next ⟨0⟩ = some (.call 0 suspended.call) ∧
      entry ∈ (channel.queue suspended.call.side).waiting ∧ entry.key = suspended.ticket.key := by
  obtain ⟨place, entry, inside, named⟩ :=
    Scheduler.entry_of_seated (kept.mem_seated quiet here alive)
  obtain ⟨owner, waker, _, _, waiting⟩ := kept.tidy.owner inside
  obtain rfl : owner = id := Option.some.inj (waker.symm.trans named)
  obtain ⟨former, suspended, channel, there, parked, found, ticket⟩ := waiting.parked
  obtain rfl := Option.some.inj (here.symm.trans there)
  obtain ⟨bus', known, opened⟩ := Scheduler.channelAt?_eq_some_iff.mp found
  have due : task.Due (Worker.program ⟨0⟩) := kept.books.due owner task here
  rw [Task.Due, parked] at due
  obtain ⟨_, called⟩ := Worker.calls_of_next due
  obtain ⟨first, _⟩ := Step.call.inj called
  rw [first] at due parked known
  rw [kept.only] at known
  obtain rfl : bus = bus' := Option.some.inj known
  have waits : waitingOf crew.tasks owner = some suspended :=
    waitingOf_eq_some_iff.mpr ⟨task, 0, here, parked⟩
  have houses := kept.books.housed.houses owner suspended waits
  obtain ⟨state, phase⟩ := task
  have handle := houses.handle ⟨0⟩ (kept.books.enabled here due).1
  have side := houses.side
  rw [ticket] at handle side
  have handle : place.handle = ⟨0⟩ := handle
  have side : place.side = suspended.call.side := side
  rw [handle] at opened
  obtain ⟨another, foundToo, member⟩ := Scheduler.mem_queued.mp inside
  obtain rfl := Option.some.inj (found.symm.trans foundToo)
  rw [side] at member
  refine ⟨suspended, channel, entry, parked, opened, due, member, ?_⟩
  rw [ticket]

/-- A worker that waits has not been told anything yet: it holds no more than what it received. -/
theorem held_eq (here : crew.tasks[id]? = some task) (alive : task.isLive = true) :
    task.state.held (task.parcel? bus) = task.state.held none := by
  obtain ⟨suspended, _, _, parked, _⟩ := kept.queued quiet here alive
  have waits : waitingOf crew.tasks id = some suspended :=
    waitingOf_eq_some_iff.mpr ⟨task, 0, here, parked⟩
  have known : crew.buses[0]? = some bus := by rw [kept.only]; rfl
  have waiting : crew.waits id = some (0, suspended) :=
    Scheduler.waits_eq_some_iff.mpr ⟨task, here, parked⟩
  have holds := (kept.tidy.balanced.holds_iff known waiting).mpr (kept.mem_seated quiet here alive)
  have houses := kept.books.housed.houses id suspended waits
  obtain ⟨parcel, lies, _⟩ := houses.parcel
  have unsettled := houses.unsettled_of_queued kept.books.housed.sound holds lies
  have same : task.parcel? bus = some parcel := by
    rw [Task.parcel?, parked, ← lies]
    rfl
  rw [same, Worker.held_of_unsettled unsettled]

/-- Nobody is on the way back from the channel. -/
theorem woken_eq_nil {channel : Channel Message} (here : bus.channel? ⟨0⟩ = some channel)
    (side : Side) : (channel.queue side).woken = [] := by
  rw [List.eq_nil_iff_forall_not_mem]
  intro wait woken
  have sound := kept.books.housed.sound
  have keyed := ((sound.of_channel? here).orderly side).keyed
  have lies : bus.parcel? ⟨channel.generation, side, wait.key⟩ = some wait.parcel := by
    rw [Bus.parcel?, sound.identity?_of_channel? here, Option.bind_some]
    exact keyed.parcel?_of_mem (List.mem_append_right _ woken)
  obtain ⟨owner, suspended, waits, there⟩ := kept.books.housed.owned _ _ lies
  obtain ⟨task, index, listed, parked⟩ := waitingOf_eq_some_iff.mp waits
  have alive : task.isLive = true := by
    rw [Scheduler.isLive_iff, parked]
    intro gone
    cases gone
  obtain ⟨again, other, entry, parkedToo, hereToo, _, inside, key⟩ :=
    kept.queued quiet listed alive
  obtain ⟨_, rfl⟩ := Phase.parked.inj (parked.symm.trans parkedToo)
  obtain rfl := Option.some.inj (here.symm.trans hereToo)
  have houses := kept.books.housed.houses owner suspended waits
  obtain ⟨_, itsSide, itsKey⟩ := Address.mk.inj there
  have itsSide : suspended.ticket.side = side := itsSide
  rw [← houses.side, itsSide] at inside
  have holds : (channel.queue side).holds suspended.ticket.key = true :=
    WaitQueue.holds_iff.mpr ⟨entry, inside, key⟩
  exact keyed.woken_ne holds wait woken itsKey.symm

/-- Queued senders find no room, and queued receivers nothing in the buffer. -/
theorem stuck {channel : Channel Message} (here : bus.channel? ⟨0⟩ = some channel) :
    (channel.senders.waiting ≠ [] → channel.room = 0) ∧
      (channel.receivers.waiting ≠ [] → channel.buffer = []) := by
  have there : crew.buses[0]? = some bus := by rw [kept.only]; rfl
  have served := kept.tidy.balanced.served 0 bus there ⟨0⟩ channel here
  have nobody : ∀ side, (channel.queue side).pending = 0 := by
    intro side
    rw [WaitQueue.pending, kept.woken_eq_nil quiet here side, List.countP_nil]
  constructor
  · intro waiting
    have covered := served.senders waiting
    have none : channel.senders.pending = 0 := nobody .senders
    rw [none] at covered
    exact Nat.le_zero.mp covered
  · intro waiting
    have covered := served.receivers waiting
    have none : channel.receivers.pending = 0 := nobody .receivers
    rw [none] at covered
    exact List.eq_nil_of_length_eq_zero (Nat.le_zero.mp covered)

/-- After the channel was closed everyone is done. -/
theorem over_of_closed (closed : opened = false) (here : crew.tasks[id]? = some task) :
    task.phase = .over := by
  by_contra live
  obtain ⟨_, channel, _, _, still, _⟩ := kept.queued quiet here (Scheduler.isLive_iff.mpr live)
  have gate := kept.books.gate
  rw [Bus.isOpen, still, closed] at gate
  contradiction

variable (consumed : workload.consumers ≠ 0 ∨ workload.producers = 0 ∨ workload.messages = 0)

/-- While the channel is open every consumer waits to receive, and finds nothing in the buffer. -/
theorem receivers_waiting (isOpen : opened = true) (staffed : workload.consumers ≠ 0) :
    ∃ channel, bus.channel? ⟨0⟩ = some channel ∧ channel.receivers.waiting ≠ [] ∧
      channel.buffer = [] := by
  have inside : workload.producers < crew.tasks.length := by
    rw [kept.books.crowd]
    omega
  have here := List.getElem?_eq_getElem inside
  generalize crew.tasks[workload.producers] = task at here
  have employed := kept.books.employed _ task here
  cases employed with
  | producer _ _ early => exact absurd early (Nat.lt_irrefl _)
  | consumer consumer phase _ _ stays done =>
    have alive : (⟨.consumer consumer, phase⟩ : Task Worker Message).isLive = true :=
      Scheduler.isLive_iff.mpr fun ended => stays isOpen (done ended)
    obtain ⟨suspended, channel, entry, _, opened, due, waiting, _⟩ := kept.queued quiet here alive
    obtain ⟨call, _⟩ := Consumer.receives_of_call due
    rw [call] at waiting
    have waiting : entry ∈ channel.receivers.waiting := waiting
    have queued : channel.receivers.waiting ≠ [] := List.ne_nil_of_mem waiting
    exact ⟨channel, opened, queued, (kept.stuck quiet opened).2 queued⟩

include consumed

/-- While the channel is open all producers are done. -/
theorem producer_over (isOpen : opened = true) (here : crew.tasks[id]? = some task)
    (inside : id < workload.producers) : task.phase = .over := by
  by_contra live
  obtain ⟨suspended, channel, entry, _, opened, due, waiting, _⟩ :=
    kept.queued quiet here (Scheduler.isLive_iff.mpr live)
  have employed := kept.books.employed id task here
  cases employed with
  | consumer _ _ outside => exact absurd inside (Nat.not_lt.mpr outside)
  | producer remaining phase _ few _ =>
    obtain ⟨count, asks⟩ := Producer.asks_of_call due
    have some := asks.some
    have left : count ≤ remaining := asks.few
    rw [asks.sender] at waiting
    have waiting : entry ∈ channel.senders.waiting := waiting
    have full := (kept.stuck quiet opened).1 (List.ne_nil_of_mem waiting)
    have consumers : workload.consumers ≠ 0 := by omega
    obtain ⟨another, openedToo, queued, empty⟩ :=
      kept.receivers_waiting quiet isOpen consumers
    obtain rfl := Option.some.inj (opened.symm.trans openedToo)
    have ready : 0 < channel.room := by
      unfold Channel.room
      split
      case isTrue => exact List.length_pos_iff.mpr queued
      case isFalse plain =>
        have capacity : channel.capacity ≠ 0 := by
          simpa only [Channel.isRendezvous, beq_iff_eq] using plain
        rw [Channel.freeSpace, Channel.length, empty, List.length_nil]
        omega
    omega

/-- While the channel is open everything that was sent has left the buffer. -/
theorem length_history {history : List Message} (isOpen : opened = true)
    (accounts : Accounts workload fuel bus crew.tasks history) :
    history.length = workload.expected := by
  have all : ∀ producer ∈ List.range workload.producers,
      goneOf (standing bus crew.tasks) producer = workload.messages := by
    intro producer listed
    have inside := List.mem_range.mp listed
    have known : producer < crew.tasks.length := by
      rw [kept.books.crowd]
      omega
    have here := List.getElem?_eq_getElem known
    generalize crew.tasks[producer] = task at here
    have finished := kept.producer_over quiet consumed isOpen here inside
    have employed := kept.books.employed producer task here
    cases employed with
    | consumer _ _ outside => exact absurd inside (Nat.not_lt.mpr outside)
    | producer remaining phase _ _ done =>
      obtain rfl := done finished
      obtain rfl : phase = .over := finished
      rw [goneOf, standing, here]
      rfl
  have length := accounts.ledger.length_eq
  rw [List.map_congr_left all, Ledger.sum_messages] at length
  by_cases nothing : workload.expected = 0
  · omega
  · have consumers : workload.consumers ≠ 0 := by
      intro none
      apply nothing
      obtain some | none | none := consumed
      · contradiction
      · rw [Workload.expected, none, Nat.zero_mul]
      · rw [Workload.expected, none, Nat.mul_zero]
    obtain ⟨channel, opened, _, empty⟩ := kept.receivers_waiting quiet isOpen consumers
    rw [kept.books.content_eq opened, empty] at length
    exact length

/-- While the channel is open everything that was expected has been received. -/
theorem all_received (isOpen : opened = true) :
    workload.expected ≤ (crew.tasks.map fun task => task.state.receivedCount).sum := by
  obtain ⟨history, accounts⟩ := kept.books.accounts
  have told : ∀ task ∈ crew.tasks,
      (task.state.held (task.parcel? bus)).length = task.state.receivedCount := by
    intro task listed
    obtain ⟨id, here⟩ := List.mem_iff_getElem?.mp listed
    have employed := kept.books.employed id task here
    cases employed with
    | producer => rfl
    | consumer consumer phase _ _ stays done =>
      have alive : (⟨.consumer consumer, phase⟩ : Task Worker Message).isLive = true :=
        Scheduler.isLive_iff.mpr fun ended => stays isOpen (done ended)
      rw [kept.held_eq quiet here alive]
      show (consumer.received.reverse ++ []).length = consumer.received.length
      rw [List.append_nil, List.length_reverse]
  have length := accounts.length_history kept.books.crowd
  rw [List.map_congr_left told, kept.length_history quiet consumed isOpen accounts] at length
  omega

end Quiet

end Workload.Kept

end ChannelBus
