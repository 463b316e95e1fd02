import ChannelBus.Proofs.Completion

/-!
# What a workload has counted in the end

Which workers meet and how often one of them parks depends on the schedule, and so do the counters.
What holds of them after every schedule follows from the tally of the workload: once all workers
have ended, every message was delivered, no call is queued, and each consumer was told once that the
channel is closed.
-/

namespace ChannelBus

namespace Books

variable {workload : Workload} {config : Config} {opened : Bool} {fuel : Nat} {bus : Bus Message}
  {tasks : List (Task Worker Message)}

/-- When everyone is done, all consumers were told that the channel is closed. -/
theorem countP_dismissed (books : Books workload config opened fuel bus tasks)
    (ended : ∀ task ∈ tasks, task.phase = .over) :
    tasks.countP (·.state.dismissed) = workload.consumers := by
  have producers : (tasks.take workload.producers).countP (·.state.dismissed) = 0 := by
    rw [List.countP_eq_zero]
    intro task listed
    obtain ⟨id, here⟩ := List.mem_iff_getElem?.mp listed
    rw [List.getElem?_take] at here
    split at here
    case isTrue inside =>
      have employed := books.employed id task here
      cases employed with
      | producer => exact Bool.false_ne_true
      | consumer _ _ outside => exact absurd inside (Nat.not_lt.mpr outside)
    case isFalse => contradiction
  have consumers : (tasks.drop workload.producers).countP (·.state.dismissed) =
      (tasks.drop workload.producers).length := by
    rw [List.countP_eq_length]
    intro task listed
    obtain ⟨offset, here⟩ := List.mem_iff_getElem?.mp listed
    rw [List.getElem?_drop] at here
    have employed := books.employed (workload.producers + offset) task here
    cases employed with
    | producer _ _ inside => omega
    | consumer consumer phase _ _ _ done =>
      exact beq_iff_eq.mpr (done (ended _ (List.mem_of_getElem? here)))
  rw [← List.take_append_drop workload.producers tasks, List.countP_append, producers, consumers,
    List.length_drop, books.crowd]
  omega

end Books

namespace Workload

variable {workload : Workload} {config : Config} {crew : Crew} {state after : State} {budget : Nat}

/-- When everyone is done, the counters are those of a workload that has done what it was for. -/
theorem Kept.balanced {fuel : Nat} {bus : Bus Message}
    (kept : workload.Kept false fuel bus state.crew)
    (ended : ∀ task ∈ state.crew.tasks, task.phase = .over)
    (telemetry : bus.config.telemetry = true) :
    workload.Balanced (workload.summarize state).stats := by
  obtain ⟨history, accounts⟩ := kept.books.accounts
  have delivered := accounts.length_of_received kept.books.crowd (kept.books.shut rfl)
  have tallied := accounts.tallied telemetry
  have attended := kept.books.attended telemetry
  rw [delivered] at tallied
  rw [kept.books.countP_dismissed ended] at attended
  have stats : (workload.summarize state).stats = bus.stats := by
    rw [summarize, kept.only]
    rfl
  rw [stats]
  exact balanced_of_tallied attended tallied

/-! ## The settings -/

/-- The settings of the buses of a crew. -/
def settings (crew : Crew) : List Config :=
  crew.buses.map (·.config)

/-- A poll of a ready worker leaves the settings. -/
theorem Holds.settings_poll (holds : workload.Holds budget state) {id : TaskId}
    (isReady : id ∈ state.crew.ready) :
    settings (state.poll ⟨0⟩ id).crew = settings state.crew := by
  obtain ⟨⟨_, _, bus, kept⟩, _⟩ := holds.kept
  obtain ⟨_, later, _, polled, same, _⟩ := kept.poll isReady
  have only : (state.poll ⟨0⟩ id).crew.buses = [later] := polled.only
  rw [settings, settings, only, kept.only, List.map_singleton, List.map_singleton, same]

/-- The state after a turn of the supervisor. -/
def Supervision.state? : Supervision → Option State
  | .waiting state | .finished state => some state
  | .failed _ => none

/-- Waiting for the consumers leaves the crew. -/
theorem crew_of_joinConsumers (joined : (joinConsumers state).state? = some after) :
    after.crew = state.crew := by
  unfold joinConsumers at joined
  split at joined
  case isTrue =>
    obtain rfl := Option.some.inj joined
    rfl
  case isFalse =>
    obtain rfl := Option.some.inj joined
    rfl

/-- A turn of the supervisor leaves the crew, or closes the channel. -/
theorem crew_of_supervise {handle : Handle}
    (turn : (workload.supervise handle state).state? = some after) :
    after.crew = state.crew ∨ after.crew = (state.close handle).crew := by
  unfold supervise at turn
  split at turn
  case h_1 => exact .inl (crew_of_joinConsumers turn)
  case h_2 =>
    split at turn
    case h_1 =>
      obtain rfl := Option.some.inj turn
      exact .inl rfl
    case h_2 => contradiction
    case h_3 =>
      split at turn
      case h_1 =>
        obtain rfl := Option.some.inj turn
        exact .inl rfl
      case h_2 => exact .inr ((crew_of_joinConsumers turn).trans rfl)

/-- A turn of the supervisor leaves the settings. -/
theorem Holds.settings_turn (holds : workload.Holds budget state)
    (turn : (workload.supervise ⟨0⟩ state).state? = some after) :
    settings after.crew = settings state.crew := by
  obtain ⟨⟨_, _, bus, kept⟩, _⟩ := holds.kept
  obtain same | same := crew_of_supervise turn
  · rw [same]
  · obtain ⟨_, buses, _⟩ := Scheduler.onBus_only kept.only (·.perform (.close ⟨0⟩))
    have buses : (state.close ⟨0⟩).crew.buses = [(bus.close ⟨0⟩).bus] := buses
    obtain ⟨woken, pays⟩ := bus.pays_close ⟨0⟩
    rw [settings, settings, same, buses, kept.only, List.map_singleton, List.map_singleton,
      pays.config]

variable (consumed : workload.consumers ≠ 0 ∨ workload.producers = 0 ∨ workload.messages = 0)
include consumed

/-- The settings stay over every schedule. -/
theorem Holds.settings_reaches {start : State} {count : Nat} (holds : workload.Holds budget start)
    (reaches : workload.Reaches ⟨0⟩ start count state) :
    settings state.crew = settings start.crew := by
  induction reaches with
  | start => rfl
  | move reaches moves ih =>
    obtain ⟨_, _, before⟩ := holds.reaches consumed reaches
    cases moves with
    | poll isReady => exact (before.settings_poll isReady).trans ih
    | turn waits _ => exact (before.settings_turn (waits ▸ rfl)).trans ih

/-- When the supervisor is done, the counters are those of a workload that has done what it was
for. -/
theorem Holds.balanced (holds : workload.Holds budget state)
    (finished : workload.supervise ⟨0⟩ state = .finished after)
    (settled : settings state.crew = [config]) (telemetry : config.telemetry = true) :
    workload.Balanced (workload.summarize after).stats := by
  have same : settings after.crew = settings state.crew := holds.settings_turn (finished ▸ rfl)
  have advises := holds.advises consumed
  rw [finished] at advises
  cases advises with
  | finishes _ bus fuel kept _ ended =>
    rw [settled, settings, kept.only] at same
    have config : bus.config = config := (List.cons.inj same).1
    exact kept.balanced ended (config ▸ telemetry)

omit consumed

/-! ## The result -/

/-- What is known of a workload that can be run. -/
theorem valid_of_check (checked : workload.check = .ok ()) :
    workload.messages < Message.places ∧ workload.producers < Message.senders ∧
      (workload.consumers ≠ 0 ∨ workload.producers = 0 ∨ workload.messages = 0) := by
  unfold check at checked
  split at checked
  case isTrue => contradiction
  case isFalse numbered =>
    split at checked
    case isTrue => contradiction
    case isFalse known =>
      split at checked
      case isTrue => contradiction
      case isFalse consumed => exact ⟨Nat.not_le.mp numbered, Nat.not_le.mp known, by omega⟩

/-- The counters of every schedule balance. Every schedule of a workload that can be run comes to an
end, and whichever of the ready workers went on, what the bus counted is the same but for how often
workers parked and, on a rendezvous channel, how often the sender came second. The driver makes one
of these schedules. -/
theorem every_schedule_balances (workload : Workload) (config : Config) (bus : Bus Message)
    (handle : Handle) (checked : workload.check = .ok ()) (telemetry : config.telemetry = true)
    (batching : ∀ size, workload.batch = some size → 1 < size → config.batch = true)
    (created : Bus.create config = .ok bus)
    (allocated : (bus.openChannel workload.capacity).result = .ok handle) :
    let start : State := workload.begin (bus.openChannel workload.capacity).bus
    (∀ count state, workload.Reaches handle start count state →
      count ≤ 2 * (workload.producers + workload.consumers + workload.expected) + 1 ∧
      ((∃ next, workload.Moves handle state next) ∨
        ∃ after, workload.supervise handle state = .finished after) ∧
      ∀ after, workload.supervise handle state = .finished after →
        workload.Balanced (workload.summarize after).stats) ∧
    ∃ summary, workload.run config = .ok summary ∧ workload.Balanced summary.stats := by
  intro start
  obtain ⟨numbered, known, consumed⟩ := valid_of_check checked
  have holds := holds_begin known numbered batching created allocated
  obtain ⟨rfl, rfl, _, pays, _⟩ := opens_of_create created allocated
  have settled : settings start.crew = [config] := by
    have only : start.crew.buses = [((Bus.new config : Bus Message).openChannel
      workload.capacity).bus] := (workload.crew_eq _).1
    rw [settings, only, List.map_singleton, pays.config]
    rfl
  have balances : ∀ count state, workload.Reaches ⟨0⟩ start count state → ∀ after,
      workload.supervise ⟨0⟩ state = .finished after →
        workload.Balanced (workload.summarize after).stats := by
    intro count state reaches after finished
    obtain ⟨_, _, later⟩ := holds.reaches consumed reaches
    have same := (holds.settings_reaches consumed reaches).trans settled
    exact later.balanced consumed finished same telemetry
  constructor
  · intro count state reaches
    obtain ⟨left, paid, later⟩ := holds.reaches consumed reaches
    exact ⟨by omega, later.progress consumed, balances count state reaches⟩
  · obtain ⟨count, state, after, reaches, finished, driven⟩ :=
      holds.drive consumed workload.turnLimit (by unfold turnLimit; omega)
    refine ⟨workload.summarize after, ?_, balances count state reaches after finished⟩
    rw [run, checked, created]
    simp only [allocated]
    exact driven

/-- The counters balance whether the workers of a small workload have to meet or not. -/
theorem every_schedule_balances_of_meeting :
    let buffered := { meetingWorkload with capacity := 2 }
    meetingWorkload.check = .ok () ∧ buffered.check = .ok () ∧
      (∃ summary, meetingWorkload.run {} = .ok summary ∧ meetingWorkload.Balanced summary.stats) ∧
      ∃ summary, buffered.run {} = .ok summary ∧ buffered.Balanced summary.stats := by
  intro buffered
  have telemetry : ({} : Config).telemetry = true := rfl
  have created : Bus.create {} = .ok (.new {} : Bus Message) := rfl
  have meets : meetingWorkload.check = .ok () := by decide
  have buffers : buffered.check = .ok () := by decide
  obtain ⟨_, met⟩ := every_schedule_balances meetingWorkload {} (.new {}) ⟨0⟩ meets telemetry
    (fun _ _ _ => rfl) created rfl
  obtain ⟨_, stored⟩ := every_schedule_balances buffered {} (.new {}) ⟨0⟩ buffers telemetry
    (fun _ _ _ => rfl) created rfl
  exact ⟨meets, buffers, met, stored⟩

end Workload

end ChannelBus
