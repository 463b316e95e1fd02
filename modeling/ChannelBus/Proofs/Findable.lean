import ChannelBus.Proofs.Polling
import ChannelBus.Scheduler.Script
import Mathlib.Data.List.Nodup

/-!
# Every suspended task is findable

Whatever is done to a scheduler, between two polls a live task is either ready, and then no queue
has an entry of it, or it waits in one queue of one open channel, by one entry, which carries its
waker. There are no other entries: each is the current wait of one live task.
-/

open scoped List

namespace ChannelBus

variable {σ α : Type}

/-- A queue of an open channel. -/
structure Place where
  /-- The bus. -/
  bus : Nat
  /-- The handle under which the channel is open. -/
  handle : Handle
  /-- Which of its queues. -/
  side : Side
deriving DecidableEq

namespace Scheduler

/-- The channel that is open at a place. -/
def channelAt? (scheduler : Scheduler σ α) (place : Place) : Option (Channel α) :=
  (scheduler.buses[place.bus]?).bind (·.channel? place.handle)

/-- The entries of the queue at a place, none if no channel is open there. -/
def queued (scheduler : Scheduler σ α) (place : Place) : List (Wait α) :=
  (scheduler.channelAt? place).elim [] fun channel => (channel.queue place.side).waiting

/-- A task is parked in the queue at a place, and this is its entry. -/
structure WaitsBy (scheduler : Scheduler σ α) (id : TaskId) (place : Place) (entry : Wait α) :
    Prop where
  /-- The entry is queued. -/
  queued : entry ∈ scheduler.queued place
  /-- The task is parked with a ticket for that entry. -/
  parked : ∃ task suspended channel, scheduler.tasks[id]? = some task ∧
    task.phase = .parked place.bus suspended ∧ scheduler.channelAt? place = some channel ∧
    suspended.ticket = ⟨place.handle, channel.generation, place.side, entry.key⟩

section Places

variable {program : Program σ α} {scheduler : Scheduler σ α} {id other : TaskId} {place : Place}
  {entry another : Wait α}

/-- A channel is open at a place if it is open on that bus under that handle. -/
theorem channelAt?_eq_some_iff {channel : Channel α} :
    scheduler.channelAt? place = some channel ↔ ∃ bus, scheduler.buses[place.bus]? = some bus ∧
      bus.channel? place.handle = some channel :=
  Option.bind_eq_some_iff

/-- Entries are queued on open channels. -/
theorem mem_queued : entry ∈ scheduler.queued place ↔ ∃ channel,
    scheduler.channelAt? place = some channel ∧ entry ∈ (channel.queue place.side).waiting := by
  unfold queued
  cases scheduler.channelAt? place <;> simp

/-- An entry is a seat of its bus. -/
theorem seat_of_queued {channel : Channel α} (here : scheduler.channelAt? place = some channel)
    (inside : entry ∈ (channel.queue place.side).waiting) : ∃ bus,
      scheduler.buses[place.bus]? = some bus ∧ bus.channel? place.handle = some channel ∧
      channel.seat place.side entry ∈ bus.roster := by
  obtain ⟨bus, known, opened⟩ := channelAt?_eq_some_iff.mp here
  refine ⟨bus, known, opened, Bus.mem_roster.mpr ⟨place.handle, channel, opened, ?_⟩⟩
  exact Channel.mem_roster.mpr ⟨place.side, entry, inside, rfl⟩

/-- Whoever waits by an entry waits at its address. -/
theorem WaitsBy.waits (waiting : scheduler.WaitsBy id place entry) : ∃ suspended channel,
    scheduler.waits id = some (place.bus, suspended) ∧
    scheduler.channelAt? place = some channel ∧
    suspended.ticket = ⟨place.handle, channel.generation, place.side, entry.key⟩ := by
  obtain ⟨task, suspended, channel, here, parked, opened, ticket⟩ := waiting.parked
  exact ⟨suspended, channel, waits_eq_some_iff.mpr ⟨task, here, parked⟩, opened, ticket⟩

/-- Every entry is that of a live task which is not ready, and carries its waker. -/
theorem Tidy.owner (tidy : scheduler.Tidy program) (inside : entry ∈ scheduler.queued place) :
    ∃ id, entry.waker = some id ∧ id ∉ scheduler.ready ∧ (scheduler.live? id).isSome = true ∧
      scheduler.WaitsBy id place entry := by
  obtain ⟨channel, here, waiting⟩ := mem_queued.mp inside
  obtain ⟨bus, known, opened, seat⟩ := seat_of_queued here waiting
  obtain ⟨id, suspended, waits, same⟩ := tidy.balanced.manned place.bus bus _ known seat
  have waker : entry.waker = some id := (congrArg Seat.waker same).symm
  have isSeated : id ∈ seated scheduler.buses :=
    List.mem_filterMap.mpr ⟨_, List.mem_flatMap.mpr ⟨bus, List.mem_of_getElem? known, seat⟩, waker⟩
  have notReady : id ∉ scheduler.ready := fun isReady => tidy.balanced.not_seated isReady isSeated
  have alive : (scheduler.live? id).isSome = true :=
    mem_living.mp (tidy.balanced.accounted.mem_iff.mp (List.mem_append_right _ isSeated))
  -- The channel of the ticket is the one that is open here, since only one has its generation.
  have address := congrArg Seat.address same
  have homes := ((tidy.balanced.housed place.bus bus known).houses id suspended
    (Waits.onBus_eq_some_iff.mpr waits)).homes
  have handle := homes place.handle channel opened (congrArg Address.generation address).symm
  have ticket : suspended.ticket = ⟨place.handle, channel.generation, place.side, entry.key⟩ := by
    have generation : suspended.ticket.generation = channel.generation :=
      congrArg Address.generation address
    have side : suspended.ticket.side = place.side := congrArg Address.side address
    have key : suspended.ticket.key = entry.key := congrArg Address.key address
    rw [handle, ← generation, ← side, ← key]
  obtain ⟨task, spawned, parked⟩ := waits_eq_some_iff.mp waits
  exact ⟨id, waker, notReady, alive, inside, task, suspended, channel, spawned, parked, here,
    ticket⟩

/-- No two entries of a queue have the same key. -/
theorem Tidy.keys_nodup (tidy : scheduler.Tidy program) (place : Place) :
    ((scheduler.queued place).map (·.key)).Nodup := by
  unfold queued
  cases opened : scheduler.channelAt? place with
  | none => exact List.nodup_nil
  | some channel =>
    obtain ⟨bus, known, here⟩ := channelAt?_eq_some_iff.mp opened
    have sound := (tidy.balanced.housed place.bus bus known).sound.of_channel? here
    have keyed := (sound.orderly place.side).keyed
    exact keyed.distinct.sublist ((List.sublist_append_left _ _).map _)

/-- A task waits by one entry. -/
theorem Tidy.one_entry (tidy : scheduler.Tidy program) {elsewhere : Place}
    (waiting : scheduler.WaitsBy id place entry)
    (waitingToo : scheduler.WaitsBy id elsewhere another) :
    elsewhere = place ∧ another = entry := by
  obtain ⟨suspended, channel, waits, opened, ticket⟩ := waiting.waits
  obtain ⟨suspendedToo, channelToo, waitsToo, openedToo, ticketToo⟩ := waitingToo.waits
  obtain ⟨bus, rfl⟩ := Prod.mk.inj (Option.some.inj (waitsToo.symm.trans waits))
  obtain ⟨handle, _, side, key⟩ := Ticket.mk.inj (ticketToo.symm.trans ticket)
  have same : elsewhere = place := by
    obtain ⟨_, _, _⟩ := place
    obtain ⟨_, _, _⟩ := elsewhere
    exact (Place.mk.injEq ..).mpr ⟨bus, handle, side⟩
  subst same
  have distinct := tidy.keys_nodup elsewhere
  exact ⟨rfl, List.inj_on_of_nodup_map distinct waitingToo.queued waiting.queued key⟩

/-- An entry is that of one task. -/
theorem Tidy.one_task (tidy : scheduler.Tidy program)
    (waiting : scheduler.WaitsBy id place entry)
    (waitingToo : scheduler.WaitsBy other place entry) : other = id := by
  obtain ⟨suspended, channel, waits, opened, ticket⟩ := waiting.waits
  obtain ⟨suspendedToo, channelToo, waitsToo, openedToo, ticketToo⟩ := waitingToo.waits
  obtain rfl : channel = channelToo := Option.some.inj (opened.symm.trans openedToo)
  obtain ⟨bus, known, _⟩ := channelAt?_eq_some_iff.mp opened
  refine ((tidy.balanced.housed place.bus bus known).apart id other suspended suspendedToo
    (Waits.onBus_eq_some_iff.mpr waits) (Waits.onBus_eq_some_iff.mpr waitsToo) ?_).symm
  rw [ticket, ticketToo]

/-- A task that has a seat has an entry. -/
theorem entry_of_seated (isSeated : id ∈ seated scheduler.buses) :
    ∃ place, ∃ entry ∈ scheduler.queued place, entry.waker = some id := by
  obtain ⟨seat, inside, waker⟩ := List.mem_filterMap.mp isSeated
  obtain ⟨bus, member, onBus⟩ := List.mem_flatMap.mp inside
  obtain ⟨index, known⟩ := List.mem_iff_getElem?.mp member
  obtain ⟨handle, channel, opened, onChannel⟩ := Bus.mem_roster.mp onBus
  obtain ⟨side, entry, queued, rfl⟩ := Channel.mem_roster.mp onChannel
  refine ⟨⟨index, handle, side⟩, entry, mem_queued.mpr ⟨channel, ?_, queued⟩, waker⟩
  exact channelAt?_eq_some_iff.mpr ⟨bus, known, opened⟩

/-- A closed channel stays closed, and it is not open under any handle. -/
theorem Tidy.closed_later {later : Scheduler σ α} (tidy : later.Tidy program)
    (after : scheduler.Later later) {index : Nat} {bus : Bus α}
    {channel : Channel α} (known : scheduler.buses[index]? = some bus)
    (retired : channel ∈ bus.retired) : ∃ busLater, later.buses[index]? = some busLater ∧
      (∃ remains ∈ busLater.retired, remains.generation = channel.generation ∧ remains.Drained) ∧
      ∀ handle opened, busLater.channel? handle = some opened →
        opened.generation ≠ channel.generation := by
  have inside : index < later.buses.length := by
    rw [after.length]
    exact (List.getElem?_eq_some_iff.mp known).1
  have there := List.getElem?_eq_getElem inside
  have sound := (tidy.balanced.housed index _ there).sound
  have closed := after.closed index bus _ channel.generation known there ⟨channel, retired, rfl⟩
  obtain ⟨remains, still, same⟩ := closed
  refine ⟨_, there, ⟨remains, still, same, sound.drained remains still⟩, ?_⟩
  intro handle opened here
  exact Bus.generation_ne_of_closed (sound.closed_iff.mp ⟨remains, still, same⟩).1.2 here

end Places

/-- Every suspended task is findable. Whatever was done to a scheduler, the ready queue lists live
tasks, each once. A live task is either ready, and then no entry carries its waker, or it waits by
one entry in one queue of one open channel, and that entry carries its waker. Conversely every entry
is that of one live task, which is not ready and waits by it at present. A closed channel has nobody
queued, and whatever is done later it stays so: it remains closed and is open under no handle. -/
theorem every_task_findable [Stored α] (program : Program σ α) (configs : List Config)
    (deeds : List (Deed σ α)) :
    let scheduler := (new (configs.map Bus.new)).after program deeds
    (scheduler.ready.Nodup ∧ (∀ id ∈ scheduler.ready, (scheduler.live? id).isSome = true) ∧
      ∀ place, ((scheduler.queued place).map (·.key)).Nodup) ∧
    (∀ id, (scheduler.live? id).isSome = true →
      (id ∈ scheduler.ready ∧ ∀ place, ∀ entry ∈ scheduler.queued place, entry.waker ≠ some id ∧
        ¬ scheduler.WaitsBy id place entry) ∨
      (id ∉ scheduler.ready ∧ ∃ place entry, scheduler.WaitsBy id place entry ∧
        entry.waker = some id ∧
        ∀ elsewhere another, another ∈ scheduler.queued elsewhere →
          another.waker = some id ∨ scheduler.WaitsBy id elsewhere another →
          elsewhere = place ∧ another = entry)) ∧
    (∀ place, ∀ entry ∈ scheduler.queued place, ∃ id, entry.waker = some id ∧
      id ∉ scheduler.ready ∧ (scheduler.live? id).isSome = true ∧
      scheduler.WaitsBy id place entry ∧
      ∀ other, scheduler.WaitsBy other place entry → other = id) ∧
    (∀ (index : Nat) (bus : Bus α), scheduler.buses[index]? = some bus →
      ∀ channel ∈ bus.retired, channel.Drained ∧ ∀ more, ∃ later : Bus α,
        (scheduler.after program more).buses[index]? = some later ∧
        (∃ remains ∈ later.retired, remains.generation = channel.generation ∧ remains.Drained) ∧
        ∀ handle opened, later.channel? handle = some opened →
          opened.generation ≠ channel.generation) := by
  intro scheduler
  have tidy : scheduler.Tidy program := ((tidy_new program configs).after deeds).1
  have nodup := List.nodup_append.mp tidy.balanced.nodup
  refine ⟨⟨nodup.1, fun id isReady => ?_, tidy.keys_nodup⟩, fun id alive => ?_,
    fun place entry inside => ?_, fun index bus known channel retired => ⟨?_, fun more => ?_⟩⟩
  · exact mem_living.mp (tidy.balanced.accounted.mem_iff.mp (List.mem_append_left _ isReady))
  · have listed := tidy.balanced.accounted.mem_iff.mpr (mem_living.mpr alive)
    rcases List.mem_append.mp listed with isReady | isSeated
    · have foreign : ∀ place, ∀ entry ∈ scheduler.queued place, entry.waker ≠ some id := by
        intro place entry inside own
        obtain ⟨owner, waker, notReady, _⟩ := tidy.owner inside
        obtain rfl : owner = id := Option.some.inj (waker.symm.trans own)
        exact notReady isReady
      refine .inl ⟨isReady, fun place entry inside => ⟨foreign place entry inside, fun waits => ?_⟩⟩
      obtain ⟨owner, waker, _, _, waiting⟩ := tidy.owner inside
      obtain rfl := tidy.one_task waits waiting
      exact foreign place entry inside waker
    · obtain ⟨place, entry, inside, own⟩ := entry_of_seated isSeated
      obtain ⟨owner, waker, notReady, _, waiting⟩ := tidy.owner inside
      obtain rfl : owner = id := Option.some.inj (waker.symm.trans own)
      refine .inr ⟨notReady, place, entry, waiting, own, fun elsewhere another there named => ?_⟩
      rcases named with ownToo | waitsToo
      · obtain ⟨ownerToo, wakerToo, _, _, waitingToo⟩ := tidy.owner there
        obtain rfl : ownerToo = owner := Option.some.inj (wakerToo.symm.trans ownToo)
        exact tidy.one_entry waiting waitingToo
      · exact tidy.one_entry waiting waitsToo
  · obtain ⟨id, waker, notReady, alive, waiting⟩ := tidy.owner inside
    exact ⟨id, waker, notReady, alive, waiting, fun other => tidy.one_task waiting⟩
  · exact (tidy.balanced.housed index bus known).sound.drained channel retired
  · obtain ⟨tidyLater, after⟩ := tidy.after more
    exact tidyLater.closed_later after known retired

/-- A sender waits at a full channel, a second channel is closed, and a second task is ready. -/
def parkedDeeds : List (Deed (Script UInt32) UInt32) :=
  [.act (.onBus 0 (.openChannel 1)), .act (.onBus 0 (.openChannel 0)),
    .act (.onBus 0 (.close ⟨1⟩)),
    .spawn (.ofSteps [.call 0 (.send ⟨0⟩ 5), .call 0 (.send ⟨0⟩ 6)] 1 false), .run 9,
    .spawn (.ofSteps [.yield] 1 false)]

/-- The sender is found by the one entry in the queue, and it is not ready. -/
theorem every_task_findable_of_parked :
    let scheduler : Scheduler (Script UInt32) UInt32 :=
      (new ([{}].map Bus.new)).after Script.program parkedDeeds
    let place : Place := ⟨0, ⟨0⟩, .senders⟩
    scheduler.ready = [1] ∧ scheduler.queued place = [⟨0, some 0, .offered 6⟩] ∧
      scheduler.WaitsBy 0 place ⟨0, some 0, .offered 6⟩ ∧ 0 ∉ scheduler.ready := by
  obtain ⟨_, _, owned, _⟩ := every_task_findable Script.program [{}] parkedDeeds
  obtain ⟨id, waker, notReady, _, waiting, _⟩ :=
    owned ⟨0, ⟨0⟩, .senders⟩ ⟨0, some 0, .offered 6⟩ (by decide +kernel)
  obtain rfl : 0 = id := Option.some.inj waker
  exact ⟨by decide +kernel, by decide +kernel, waiting, notReady⟩

end Scheduler

end ChannelBus
