import ChannelBus.Proofs.Scheduling

/-!
# What polls and drops leave of a scheduler

Whatever is done to a tidy scheduler leaves it tidy: it polls a task, runs, spawns or drops one, or
is acted upon from outside. While a task runs, each of its steps keeps everything else tidy, and the
task goes on until it suspends or ends.
-/

open scoped List

namespace ChannelBus

variable {σ α : Type}

namespace Scheduler

/-! ## The steps of a task -/

section Acting

variable {program : Program σ α} {scheduler : Scheduler σ α} {id : TaskId}

/-- An act changes no task. -/
theorem tasks_act [Stored α] (scheduler : Scheduler σ α) (action : Action α) :
    (scheduler.act action).scheduler.tasks = scheduler.tasks := by
  cases action with
  | onBus index request => exact scheduler.tasks_onBus (·.perform request) index
  | lastError | setLastError | raise => rfl

/-- A step changes no task. -/
theorem tasks_takeStep [Stored α] (scheduler : Scheduler σ α) (id : TaskId) (step : Step α) :
    (scheduler.takeStep id step).scheduler.tasks = scheduler.tasks := by
  cases step with
  | yield => exact (scheduler.ring_keeps id).2
  | act action => exact scheduler.tasks_act action
  | call index call => exact scheduler.tasks_onBus (·.start call id) index

/-- An act that never waits. -/
theorem TidyBut.act [Stored α] (tidy : scheduler.TidyBut program id .over) (action : Action α) :
    (scheduler.act action).scheduler.TidyBut program id .over ∧
      scheduler.Later (scheduler.act action).scheduler := by
  cases action with
  | onBus index request =>
    have settles : ∀ bus, scheduler.buses[index]? = some bus →
        bus.Settles ((scheduler.waits.reassign id none).onBus index) id (bus.perform request)
          none := by
      intro bus here
      obtain ⟨limit, below⟩ := tidy.balanced.bounded
      have idle := Waits.onBus_of_idle (Waits.reassign_self scheduler.waits id none) index
      exact (tidy.balanced.housed index bus here).settles_perform
        (tidy.balanced.served index bus here) (below index) idle request
    have later := scheduler.later_onBus index (·.perform request) fun bus _ here =>
      (settles bus here).closed (tidy.balanced.housed index bus here).sound
    refine ⟨?_, later⟩
    show (scheduler.onBus index (·.perform request)).scheduler.TidyBut program id .over
    cases here : scheduler.buses[index]? with
    | none =>
      rw [scheduler.onBus_of_unknown _ here]
      exact tidy
    | some bus => exact tidy.onBus here (·.perform request) (settles bus here)
  | lastError => exact ⟨tidy, .refl _⟩
  | setLastError code => exact ⟨tidy.congr rfl rfl rfl, .of_same rfl (Nat.le_refl _)⟩
  | raise error => exact ⟨tidy.congr rfl rfl rfl, .of_same rfl (Nat.le_refl _)⟩

end Acting

/-- Where a step leaves the running task: it has gone on, or it stands at a phase. -/
def Footing.phase : Footing α → Phase α
  | .answered _ | .faulted _ => .over
  | .suspended phase => phase

/-- The phase of a task after a try of its call. -/
theorem Footing.phase_ofProgress (index : Nat) (progress : Progress α) :
    (Footing.ofProgress index (.ok progress)).phase =
      progress.suspended?.elim .over (.parked index) := by
  cases progress <;> rfl

section Stepping

variable {program : Program σ α} {scheduler : Scheduler σ α} {id : TaskId}

/-- A task that steps aside is ready again. -/
theorem TidyBut.yield (tidy : scheduler.TidyBut program id .over) :
    (scheduler.ring id).TidyBut program id .yielded := by
  obtain ⟨notReady, _⟩ := tidy.absent
  obtain ⟨buses, tasks⟩ := scheduler.ring_keeps id
  have ready := scheduler.ready_ring notReady
  have living : (scheduler.ring id).living = scheduler.living := by
    unfold Scheduler.living live?
    rw [tasks]
  have waiting : (scheduler.ring id).waits = scheduler.waits := by
    unfold Scheduler.waits
    rw [tasks]
  refine ⟨?_, fun other task apart there => tidy.due other task apart (tasks ▸ there)⟩
  rw [buses, ready, living, waiting]
  exact tidy.balanced.enlist (by simp [Phase.listed])

/-- What a step of the running task leaves. -/
theorem TidyBut.takeStep [Stored α] (tidy : scheduler.TidyBut program id .over) (step : Step α) :
    (scheduler.takeStep id step).scheduler.TidyBut program id
        (scheduler.takeStep id step).result.phase ∧
      scheduler.Later (scheduler.takeStep id step).scheduler ∧
      ∀ state phase, program.next state = some step →
        (scheduler.takeStep id step).result = .suspended phase →
        Task.Due program ⟨state, phase⟩ := by
  cases step with
  | yield =>
    obtain ⟨buses, tasks⟩ := scheduler.ring_keeps id
    refine ⟨tidy.yield, .of_same buses (Nat.le_of_eq (congrArg _ tasks.symm)),
      fun state phase follows stands => ?_⟩
    obtain rfl : Phase.yielded = phase := Footing.suspended.inj stands
    exact follows
  | act action =>
    obtain ⟨after, later⟩ := tidy.act action
    simp only [Scheduler.takeStep]
    cases (scheduler.act action).result with
    | error fault => exact ⟨after, later, nofun⟩
    | ok answer => exact ⟨after, later, nofun⟩
  | call index call =>
    have settles : ∀ bus, scheduler.buses[index]? = some bus →
        bus.Settles ((scheduler.waits.reassign id none).onBus index) id (bus.start call id)
          (bus.start call id).result.suspended? := by
      intro bus here
      have idle := Waits.onBus_of_idle (Waits.reassign_self scheduler.waits id none) index
      exact (tidy.balanced.housed index bus here).settles_start
        (tidy.balanced.served index bus here) idle call
    have later := scheduler.later_onBus index (·.start call id) fun bus _ here =>
      (settles bus here).closed (tidy.balanced.housed index bus here).sound
    cases here : scheduler.buses[index]? with
    | none =>
      simp only [Scheduler.takeStep, scheduler.onBus_of_unknown _ here]
      exact ⟨tidy, .refl _, nofun⟩
    | some bus =>
      have after := tidy.onBus here (·.start call id) (settles bus here)
      have result := (scheduler.onBus_of_known (·.start call id) here).1
      simp only [Scheduler.takeStep, result]
      refine ⟨?_, later, fun state phase follows stands => ?_⟩
      · rw [Footing.phase_ofProgress]
        exact after
      · cases progress : (bus.start call id).result with
        | finished reply =>
          rw [progress] at stands
          contradiction
        | parked parked =>
          rw [progress] at stands
          obtain rfl : Phase.parked index parked = phase := Footing.suspended.inj stands
          have sound := (tidy.balanced.housed index bus here).sound
          have same : parked.call = call := sound.call_start (by rw [progress]; rfl)
          show program.next state = some (.call index parked.call)
          rw [same, follows]

/-- A task that has come to its end is over. -/
theorem advance_of_ended [Stored α] (scheduler : Scheduler σ α) {state : σ}
    (ended : program.next state = none) (id : TaskId) : scheduler.advance program id state =
      (scheduler.setTask id { state, phase := .over }, [.ended id]) := by
  rw [advance]
  split
  case h_1 => rfl
  case h_2 step follows => simp [ended] at follows

/-- A task takes its next step and goes on. -/
theorem advance_of_next [Stored α] (scheduler : Scheduler σ α) {state : σ} {step : Step α}
    (follows : program.next state = some step) (id : TaskId) :
    scheduler.advance program id state =
      (scheduler.takeStep id step).follow id state fun answer scheduler =>
        advance program scheduler id (program.after state answer) := by
  rw [advance]
  split
  case h_1 ended => simp [ended] at follows
  case h_2 other found =>
    obtain rfl : step = other := Option.some.inj (follows.symm.trans found)
    rfl

/-- What holds while a task runs, and afterwards, is shown step by step. -/
theorem advance_induction [Stored α] (inside : Scheduler σ α → σ → Prop)
    (outside : Scheduler σ α → Prop)
    (ends : ∀ scheduler state, inside scheduler state → program.next state = none →
      outside (scheduler.setTask id ⟨state, .over⟩))
    (answered : ∀ scheduler state step answer, inside scheduler state →
      program.next state = some step →
      (scheduler.takeStep id step).result = .answered answer →
      inside (scheduler.takeStep id step).scheduler (program.after state answer))
    (stops : ∀ scheduler state step, inside scheduler state → program.next state = some step →
      (∀ answer, (scheduler.takeStep id step).result ≠ .answered answer) →
      outside ((scheduler.takeStep id step).scheduler.setTask id
        ⟨state, (scheduler.takeStep id step).result.phase⟩))
    {state : σ} (runs : inside scheduler state) :
    outside (scheduler.advance program id state).1 := by
  induction rank : program.rank state using Nat.strongRecOn generalizing scheduler state with
  | ind rank ih =>
    subst rank
    cases follows : program.next state with
    | none =>
      rw [advance_of_ended _ follows]
      exact ends scheduler state runs follows
    | some step =>
      rw [advance_of_next _ follows]
      cases result : (scheduler.takeStep id step).result with
      | answered answer =>
        simp only [Turn.follow, result]
        exact ih _ (program.rank_after state step answer follows)
          (answered scheduler state step answer runs follows result) rfl
      | suspended phase =>
        have stopped := stops scheduler state step runs follows (by simp [result])
        simp only [Turn.follow, result]
        simpa only [result, Footing.phase] using stopped
      | faulted fault =>
        have stopped := stops scheduler state step runs follows (by simp [result])
        simp only [Turn.follow, result]
        simpa only [result, Footing.phase] using stopped

/-- A running task leaves a tidy scheduler once it suspends or ends. -/
theorem TidyBut.advance [Stored α] (tidy : scheduler.TidyBut program id .over)
    (known : id < scheduler.tasks.length) (state : σ) :
    (scheduler.advance program id state).1.Tidy program ∧
      scheduler.Later (scheduler.advance program id state).1 := by
  refine advance_induction
    (fun middle _ => middle.TidyBut program id .over ∧ scheduler.Later middle)
    (fun after => after.Tidy program ∧ scheduler.Later after) ?_ ?_ ?_ ⟨tidy, .refl _⟩
  · rintro middle state ⟨tidy, later⟩ _
    have stays := Nat.lt_of_lt_of_le known later.tasks
    exact ⟨tidy.settle stays trivial, later.trans (later_setTask _ _ _)⟩
  · rintro middle state step answer ⟨tidy, later⟩ follows result
    obtain ⟨after, further, _⟩ := tidy.takeStep step
    rw [result] at after
    exact ⟨after, later.trans further⟩
  · rintro middle state step ⟨tidy, later⟩ follows _
    obtain ⟨after, further, due⟩ := tidy.takeStep step
    have later := later.trans further
    have stays := Nat.lt_of_lt_of_le known later.tasks
    refine ⟨after.settle stays ?_, later.trans (later_setTask _ _ _)⟩
    cases result : (middle.takeStep id step).result with
    | answered | faulted => trivial
    | suspended phase => exact due state phase follows result

/-- The consequences of a step leave a tidy scheduler: an answered task goes on, and any other
stands where it is. -/
theorem tidy_follow [Stored α] (turn : Turn σ α (Footing α)) {state : σ}
    (tidy : turn.scheduler.TidyBut program id turn.result.phase)
    (known : id < turn.scheduler.tasks.length)
    (due : ∀ phase, turn.result = .suspended phase → Task.Due program ⟨state, phase⟩) :
    let after := (turn.follow id state fun answer scheduler =>
      scheduler.advance program id (program.after state answer)).1
    after.Tidy program ∧ turn.scheduler.Later after := by
  obtain ⟨result, scheduler, events⟩ := turn
  cases result with
  | answered answer => exact tidy.advance known (program.after state answer)
  | suspended phase => exact ⟨tidy.settle known (due phase rfl), later_setTask _ _ _⟩
  | faulted fault => exact ⟨tidy.settle known trivial, later_setTask _ _ _⟩

end Stepping

/-! ## Polls and drops -/

section Deeds

variable {program : Program σ α} {scheduler : Scheduler σ α} {id : TaskId} {task : Task σ α}

/-- Only live tasks are ready. -/
theorem Tidy.live_of_ready (tidy : scheduler.Tidy program) (isReady : id ∈ scheduler.ready) :
    ∃ task, scheduler.live? id = some task ∧ scheduler.tasks[id]? = some task ∧
      task.isLive = true := by
  have listed := tidy.balanced.accounted.mem_iff.mp (List.mem_append_left _ isReady)
  obtain ⟨task, alive⟩ := Option.isSome_iff_exists.mp (mem_living.mp listed)
  exact ⟨task, alive, live?_eq_some_iff.mp alive⟩

/-- A live task that does not wait is ready. -/
theorem Tidy.ready_of_idle (tidy : scheduler.Tidy program) (alive : id ∈ scheduler.living)
    (idle : scheduler.waits id = none) : id ∈ scheduler.ready ∧ id ∉ seated scheduler.buses := by
  have unseated : id ∉ seated scheduler.buses := by
    intro isSeated
    obtain ⟨seat, inside, named⟩ := List.mem_filterMap.mp isSeated
    obtain ⟨bus, member, onBus⟩ := List.mem_flatMap.mp inside
    obtain ⟨index, here⟩ := List.mem_iff_getElem?.mp member
    obtain ⟨owner, suspended, waits, rfl⟩ := tidy.balanced.manned index bus seat here onBus
    obtain rfl : owner = id := Option.some.inj named
    rw [idle] at waits
    contradiction
  have listed := tidy.balanced.accounted.mem_iff.mpr alive
  exact ⟨(List.mem_append.mp listed).resolve_right unseated, unseated⟩

/-- A task that does not wait starts to run. -/
theorem Tidy.unready (tidy : scheduler.Tidy program) (alive : id ∈ scheduler.living)
    (idle : scheduler.waits id = none) : (scheduler.unready id).TidyBut program id .over := by
  have left := tidy.balanced.remove idle (tidy.ready_of_idle alive idle).2
  have same : scheduler.waits.reassign id none = scheduler.waits := by
    funext other
    by_cases equal : other = id
    · rw [equal, Waits.reassign_self, idle]
    · exact Waits.reassign_of_ne _ equal none
  refine ⟨?_, fun other task _ there => tidy.due other task there⟩
  show Balanced scheduler.buses (scheduler.ready.filter (· != id))
    (scheduler.living.filter (· != id)) (scheduler.waits.reassign id none)
  rw [same]
  exact left

/-- The bus on which a task waits is there. -/
theorem Tidy.bus_of_waits (tidy : scheduler.Tidy program) {index : Nat} {suspended : Suspended α}
    (waits : scheduler.waits id = some (index, suspended)) :
    ∃ bus, scheduler.buses[index]? = some bus :=
  ⟨_, List.getElem?_eq_getElem (tidy.balanced.placed id index suspended waits)⟩

/-- A poll of a task that is queued changes nothing. -/
theorem Tidy.poll_of_queued [Stored α] (tidy : scheduler.Tidy program)
    (here : scheduler.tasks[id]? = some task) {index : Nat} {suspended : Suspended α}
    (parked : task.phase = .parked index suspended) (queued : id ∈ seated scheduler.buses) :
    (scheduler.poll program id).1 = scheduler := by
  have waits := waits_eq_some_iff.mpr ⟨task, here, parked⟩
  obtain ⟨bus, known⟩ := tidy.bus_of_waits waits
  have holds := (tidy.balanced.holds_iff known waits).mpr queued
  have housed := tidy.balanced.housed index bus known
  have own : ∀ seat ∈ bus.roster, seat.address = suspended.ticket.address →
      seat.waker = some id := by
    intro seat inside same
    obtain ⟨owner, another, waitsHere, rfl⟩ := tidy.balanced.manned index bus seat known inside
    obtain rfl : owner = id := housed.apart owner id another suspended
      (Waits.onBus_eq_some_iff.mpr waitsHere) (Waits.onBus_eq_some_iff.mpr waits) same
    rfl
  have resumed := housed.sound.resume_of_seated holds own
  have notReady : id ∉ scheduler.ready := fun isReady =>
    tidy.balanced.not_seated isReady queued
  have alive : scheduler.live? id = some task :=
    live?_eq_some_iff.mpr ⟨here, isLive_iff.mpr (by simp [parked])⟩
  have still : scheduler.unready id = scheduler := by
    rw [Scheduler.unready, filter_ne_of_not_mem notReady]
  have sameBus : scheduler.buses.set index bus = scheduler.buses := by
    obtain ⟨inside, rfl⟩ := List.getElem?_eq_some_iff.mp known
    exact List.set_getElem_self inside
  have sameTask : scheduler.tasks.set id ⟨task.state, task.phase⟩ = scheduler.tasks := by
    obtain ⟨inside, rfl⟩ := List.getElem?_eq_some_iff.mp here
    exact List.set_getElem_self inside
  have turn : scheduler.onBus index (·.resume suspended id) =
      { result := .ok (.parked suspended), scheduler, events := [] } := by
    simp [onBus, known, resumed, Bus.unchanged, sameBus, hearAll]
  simp only [poll, alive, still, Scheduler.resume, parked, turn, Footing.ofProgress, Turn.follow]
  rw [setTask, ← parked, sameTask]

/-- Resuming a task that was taken out of the queue settles its call, or queues it again. -/
theorem Tidy.settles_resume (tidy : scheduler.Tidy program) {index : Nat} {bus : Bus α}
    {suspended : Suspended α} (waiting : scheduler.waits id = some (index, suspended))
    (known : scheduler.buses[index]? = some bus) (unseated : id ∉ seated scheduler.buses) :
    bus.Settles (scheduler.waits.onBus index) id (bus.resume suspended id)
      (bus.resume suspended id).result.suspended? := by
  have onBus := Waits.onBus_eq_some_iff.mpr waiting
  obtain ⟨limit, below⟩ := tidy.balanced.bounded
  exact (tidy.balanced.housed index bus known).settles_resume
    (tidy.balanced.served index bus known) (below index) onBus
    (tidy.balanced.dequeued known waiting unseated)

/-- What resuming a woken task leaves. -/
theorem Tidy.resume_of_dequeued (tidy : scheduler.Tidy program)
    (here : scheduler.tasks[id]? = some task) {index : Nat} {suspended : Suspended α}
    (parked : task.phase = .parked index suspended) (dequeued : id ∉ seated scheduler.buses) :
    let turn := (scheduler.unready id).onBus index (·.resume suspended id)
    ∃ progress, turn.result = .ok progress ∧
      turn.scheduler.TidyBut program id (progress.suspended?.elim .over (.parked index)) ∧
      scheduler.Later turn.scheduler ∧
      ∀ again, progress = .parked again → Task.Due program ⟨task.state, .parked index again⟩ := by
  intro turn
  have waits := waits_eq_some_iff.mpr ⟨task, here, parked⟩
  obtain ⟨bus, known⟩ := tidy.bus_of_waits waits
  have housed := tidy.balanced.housed index bus known
  have onBus := Waits.onBus_eq_some_iff.mpr waits
  obtain ⟨limit, below⟩ := tidy.balanced.bounded
  have settles := tidy.settles_resume waits known dequeued
  refine ⟨(bus.resume suspended id).result, ?_, ?_, ?_, fun again parks => ?_⟩
  · exact ((scheduler.unready id).onBus_of_known _ known).1
  · have others : (scheduler.unready id).ready = scheduler.ready.filter (· != id) := rfl
    exact tidyBut_onBus (scheduler.unready id) tidy.balanced others rfl (fun _ => rfl)
      (fun other task _ there => tidy.due other task there) known
      (·.resume suspended id) dequeued
      (fun other apart => Waits.onBus_of_elsewhere waits apart) settles
  · have freed : scheduler.Later (scheduler.unready id) := .of_same rfl (Nat.le_refl _)
    refine freed.trans ((scheduler.unready id).later_onBus index (·.resume suspended id) ?_)
    intro other _ there
    obtain rfl : bus = other := Option.some.inj (known.symm.trans there)
    exact settles.closed housed.sound
  · have same : again.call = suspended.call :=
      housed.call_resume (below index) onBus (by rw [parks]; rfl)
    have due := tidy.due id task here
    rw [Task.Due, parked] at due
    show program.next task.state = some (.call index again.call)
    rw [same]
    exact due

/-- A poll keeps a scheduler tidy. -/
theorem Tidy.poll [Stored α] (tidy : scheduler.Tidy program) (id : TaskId) :
    (scheduler.poll program id).1.Tidy program ∧
      scheduler.Later (scheduler.poll program id).1 := by
  cases alive : scheduler.live? id with
  | none =>
    rw [Scheduler.poll, alive]
    exact ⟨tidy, .refl _⟩
  | some task =>
    obtain ⟨here, live⟩ := live?_eq_some_iff.mp alive
    have known := (List.getElem?_eq_some_iff.mp here).1
    have listed : id ∈ scheduler.living := mem_living.mpr (by rw [alive]; rfl)
    have freed : scheduler.Later (scheduler.unready id) := .of_same rfl (Nat.le_refl _)
    have polled : (scheduler.poll program id).1 =
        ((scheduler.unready id).resume program id task).1 := by
      rw [Scheduler.poll, alive]
    cases phase : task.phase with
    | fresh =>
      have idle : scheduler.waits id = none := by simp [waits, here, phase, Phase.parked?]
      obtain ⟨after, later⟩ := (tidy.unready listed idle).advance known task.state
      rw [polled, Scheduler.resume, phase]
      exact ⟨after, freed.trans later⟩
    | yielded =>
      have idle : scheduler.waits id = none := by simp [waits, here, phase, Phase.parked?]
      obtain ⟨after, later⟩ :=
        (tidy.unready listed idle).advance known (program.after task.state .done)
      rw [polled, Scheduler.resume, phase]
      exact ⟨after, freed.trans later⟩
    | parked index suspended =>
      by_cases queued : id ∈ seated scheduler.buses
      · rw [tidy.poll_of_queued here phase queued]
        exact ⟨tidy, .refl _⟩
      · obtain ⟨progress, result, runs, later, due⟩ := tidy.resume_of_dequeued here phase queued
        rw [polled, Scheduler.resume, phase]
        let resumed := (scheduler.unready id).onBus index (·.resume suspended id)
        let turn : Turn σ α (Footing α) :=
          { resumed with result := .ofProgress index resumed.result }
        have stands : turn.scheduler.TidyBut program id turn.result.phase := by
          show resumed.scheduler.TidyBut program id (Footing.ofProgress index resumed.result).phase
          rw [result, Footing.phase_ofProgress]
          exact runs
        have inStep : ∀ phase, turn.result = .suspended phase →
            Task.Due program ⟨task.state, phase⟩ := by
          intro phase parks
          have same : turn.result = .ofProgress index (.ok progress) :=
            congrArg (Footing.ofProgress index) result
          rw [same] at parks
          cases progress with
          | finished reply => contradiction
          | parked again =>
            obtain rfl : Phase.parked index again = phase := Footing.suspended.inj parks
            exact due again rfl
        obtain ⟨after, further⟩ := tidy_follow turn stands
          (Nat.lt_of_lt_of_le known later.tasks) inStep
        exact ⟨after, later.trans further⟩
    | _ => exact absurd phase (isLive_iff.mp live)

/-- A task that was never spawned does not count. -/
theorem tidyBut_unknown_iff (unknown : scheduler.tasks.length ≤ id) :
    scheduler.TidyBut program id .over ↔ scheduler.Tidy program := by
  have absent : id ∉ scheduler.living := fun listed =>
    Nat.not_lt.mpr unknown (List.mem_range.mp (List.mem_filter.mp listed).1)
  have nobody : scheduler.tasks[id]? = none := List.getElem?_eq_none unknown
  have same : scheduler.waits.reassign id none = scheduler.waits := by
    funext other
    by_cases equal : other = id
    · rw [equal, Waits.reassign_self, waits, nobody]
      rfl
    · exact Waits.reassign_of_ne _ equal none
  have listed : (Phase.over : Phase α).listed id ++ scheduler.living.filter (· != id) =
      scheduler.living := filter_ne_of_not_mem absent
  constructor
  · rintro ⟨balanced, due⟩
    rw [listed, Phase.parked?, same] at balanced
    refine ⟨balanced, fun other task here => due other task ?_ here⟩
    rintro rfl
    rw [nobody] at here
    contradiction
  · rintro ⟨balanced, due⟩
    refine ⟨?_, fun other task _ here => due other task here⟩
    rw [listed, Phase.parked?, same]
    exact balanced

/-- An act from outside of any task. -/
theorem Tidy.act [Stored α] (tidy : scheduler.Tidy program) (action : Action α) :
    (scheduler.act action).scheduler.Tidy program ∧
      scheduler.Later (scheduler.act action).scheduler := by
  have outside := (tidyBut_unknown_iff (Nat.le_refl _)).mpr tidy
  obtain ⟨after, later⟩ := outside.act action
  have unknown : (scheduler.act action).scheduler.tasks.length ≤ scheduler.tasks.length :=
    Nat.le_of_eq (congrArg _ (scheduler.tasks_act action))
  exact ⟨(tidyBut_unknown_iff unknown).mp after, later⟩

/-- A new task is ready. -/
theorem Tidy.spawn (tidy : scheduler.Tidy program) (state : σ) :
    (scheduler.spawn state).Tidy program ∧ scheduler.Later (scheduler.spawn state) := by
  have grown : scheduler.tasks.length ≤ (scheduler.spawn state).tasks.length := by
    simp [Scheduler.spawn]
  have absent : scheduler.tasks.length ∉ scheduler.living := fun listed =>
    Nat.lt_irrefl _ (List.mem_range.mp (List.mem_filter.mp listed).1)
  refine ⟨⟨?_, fun other task here => ?_⟩, .of_same rfl grown⟩
  · rw [waits_spawn, living_spawn]
    exact (tidy.balanced.enlist absent).perm (List.perm_append_singleton _ _).symm
  · rw [getElem?_spawn] at here
    by_cases same : other = scheduler.tasks.length
    · rw [if_pos same] at here
      obtain rfl := Option.some.inj here
      trivial
    · rw [if_neg same] at here
      exact tidy.due other task here

/-- What cancelling the call of a parked task leaves. -/
theorem Tidy.cancel (tidy : scheduler.Tidy program) (here : scheduler.tasks[id]? = some task)
    {index : Nat} {suspended : Suspended α} (parked : task.phase = .parked index suspended) :
    let turn := (scheduler.unready id).onBus index (·.cancel suspended)
    turn.scheduler.TidyBut program id .over ∧ scheduler.Later turn.scheduler := by
  intro turn
  have waiting := waits_eq_some_iff.mpr ⟨task, here, parked⟩
  obtain ⟨bus, known⟩ := tidy.bus_of_waits waiting
  have housed := tidy.balanced.housed index bus known
  have onBus := Waits.onBus_eq_some_iff.mpr waiting
  obtain ⟨settled, served, evolves⟩ :=
    housed.settles_cancel (tidy.balanced.served index bus known) onBus
  have freed : scheduler.Later (scheduler.unready id) := .of_same rfl (Nat.le_refl _)
  have due : ∀ (other : TaskId) (task : Task σ α), other ≠ id →
      (scheduler.unready id).tasks[other]? = some task → task.Due program :=
    fun other task _ there => tidy.due other task there
  refine ⟨?_, freed.trans ((scheduler.unready id).later_onBus index (·.cancel suspended) ?_)⟩
  · by_cases queued : (bus.ticketQueue suspended.ticket).holds suspended.ticket.key = true
    · have after := tidy.balanced.withdraw known waiting queued
      have silent : (bus.cancel suspended).notices.filterMap Notice.wakes? = [] := by
        rw [(housed.sound.cancel_queued queued).1]
        rfl
      refine tidyBut_of_balanced (scheduler.unready id) known (·.cancel suspended) ?_ due
      rw [silent, List.append_nil]
      exact after
    · obtain ⟨woken, rings⟩ := housed.sound.rings_cancel (Bool.eq_false_iff.mpr queued)
      have unseated : id ∉ seated scheduler.buses := fun isSeated =>
        queued ((tidy.balanced.holds_iff known waiting).mpr isSeated)
      have others : (scheduler.unready id).ready = scheduler.ready.filter (· != id) := rfl
      have settles : bus.Settles (scheduler.waits.onBus index) id (bus.cancel suspended) none :=
        ⟨settled, served, evolves, woken, rings⟩
      exact tidyBut_onBus (scheduler.unready id) tidy.balanced others rfl (fun _ => rfl) due known
        (·.cancel suspended) unseated (fun _ => Waits.onBus_of_elsewhere waiting) settles
  · intro other _ there
    obtain rfl : bus = other := Option.some.inj (known.symm.trans there)
    exact evolves.closed housed.sound settled.sound

/-- A task that is dropped leaves a tidy scheduler. -/
theorem Tidy.dropTask (tidy : scheduler.Tidy program) (id : TaskId) :
    (scheduler.dropTask id).1.Tidy program ∧ scheduler.Later (scheduler.dropTask id).1 := by
  cases alive : scheduler.live? id with
  | none =>
    rw [Scheduler.dropTask, alive]
    exact ⟨tidy, .refl _⟩
  | some task =>
    obtain ⟨here, live⟩ := live?_eq_some_iff.mp alive
    have known := (List.getElem?_eq_some_iff.mp here).1
    have listed : id ∈ scheduler.living := mem_living.mpr (by rw [alive]; rfl)
    have freed : scheduler.Later (scheduler.unready id) := .of_same rfl (Nat.le_refl _)
    have leaves : scheduler.waits id = none →
        ((scheduler.unready id).setTask id ⟨task.state, .over⟩).Tidy program ∧
          scheduler.Later ((scheduler.unready id).setTask id ⟨task.state, .over⟩) := fun idle =>
      ⟨(tidy.unready listed idle).settle known trivial, freed.trans (later_setTask _ _ _)⟩
    rw [Scheduler.dropTask, alive]
    cases phase : task.phase with
    | fresh =>
      simp only [phase]
      exact leaves (by simp [waits, here, phase, Phase.parked?])
    | yielded =>
      simp only [phase]
      exact leaves (by simp [waits, here, phase, Phase.parked?])
    | parked index suspended =>
      obtain ⟨after, later⟩ := tidy.cancel here phase
      have stays := Nat.lt_of_lt_of_le known later.tasks
      simp only [phase]
      rw [onBus_setTask]
      exact ⟨after.settle stays trivial, later.trans (later_setTask _ _ _)⟩
    | _ => exact absurd phase (isLive_iff.mp live)

/-- Nobody who is ready is dead. -/
theorem Tidy.skipDead (tidy : scheduler.Tidy program) : scheduler.skipDead = scheduler := by
  have alive : ∀ id ∈ scheduler.ready, (scheduler.live? id).isNone = false := by
    intro id member
    obtain ⟨task, alive, _⟩ := tidy.live_of_ready member
    rw [alive]
    rfl
  have kept : scheduler.ready.dropWhile (fun id => (scheduler.live? id).isNone) =
      scheduler.ready := by
    cases ready : scheduler.ready with
    | nil => rfl
    | cons id rest =>
      have here : id ∈ scheduler.ready := by
        rw [ready]
        exact List.mem_cons_self
      rw [List.dropWhile_cons_of_neg]
      simp [alive id here]
  rw [Scheduler.skipDead, kept]

/-- Running a scheduler keeps it tidy. -/
theorem Tidy.run [Stored α] (tidy : scheduler.Tidy program) (limit : Nat) :
    (scheduler.run program limit).scheduler.Tidy program ∧
      scheduler.Later (scheduler.run program limit).scheduler := by
  induction limit generalizing scheduler with
  | zero => exact ⟨tidy, .refl _⟩
  | succ limit ih =>
    rw [Scheduler.run, tidy.skipDead]
    cases scheduler.ready with
    | nil => exact ⟨tidy, .refl _⟩
    | cons id rest =>
      obtain ⟨polled, later⟩ := tidy.poll id
      obtain ⟨after, further⟩ := ih polled
      exact ⟨after, later.trans further⟩

end Deeds

end Scheduler

/-! ## Histories -/

/-- One thing that whoever drives a scheduler does to it. -/
inductive Deed (σ α : Type) where
  /-- Act on the buses or on the error slot. -/
  | act (action : Action α)
  /-- Spawn a task. -/
  | spawn (state : σ)
  /-- Poll one task, ready or not. -/
  | poll (task : TaskId)
  /-- Poll ready tasks from the front, at most `limit` times. -/
  | run (limit : Nat)
  /-- Drop one task. -/
  | dropTask (task : TaskId)

namespace Scheduler

/-- A new scheduler is tidy. -/
theorem tidy_new (program : Program σ α) (configs : List Config) :
    (new (configs.map Bus.new) : Scheduler σ α).Tidy program :=
  ⟨Balanced.new configs, nofun⟩

variable [Stored α]

/-- The scheduler after one deed. -/
def undergo (program : Program σ α) (scheduler : Scheduler σ α) : Deed σ α → Scheduler σ α
  | .act action => (scheduler.act action).scheduler
  | .spawn state => scheduler.spawn state
  | .poll task => (scheduler.poll program task).1
  | .run limit => (scheduler.run program limit).scheduler
  | .dropTask task => (scheduler.dropTask task).1

/-- The scheduler after a history of deeds. -/
def after (program : Program σ α) (scheduler : Scheduler σ α) (deeds : List (Deed σ α)) :
    Scheduler σ α :=
  deeds.foldl (undergo program) scheduler

variable {program : Program σ α} {scheduler : Scheduler σ α}

/-- Each deed leaves a tidy scheduler. -/
theorem Tidy.undergo (tidy : scheduler.Tidy program) (deed : Deed σ α) :
    (scheduler.undergo program deed).Tidy program ∧
      scheduler.Later (scheduler.undergo program deed) := by
  cases deed with
  | act action => exact tidy.act action
  | spawn state => exact tidy.spawn state
  | poll task => exact tidy.poll task
  | run limit => exact tidy.run limit
  | dropTask task => exact tidy.dropTask task

/-- A scheduler is tidy throughout its history. -/
theorem Tidy.after (tidy : scheduler.Tidy program) (deeds : List (Deed σ α)) :
    (scheduler.after program deeds).Tidy program ∧
      scheduler.Later (scheduler.after program deeds) := by
  induction deeds generalizing scheduler with
  | nil => exact ⟨tidy, .refl _⟩
  | cons deed rest ih =>
    obtain ⟨next, later⟩ := tidy.undergo deed
    obtain ⟨last, further⟩ := ih next
    exact ⟨last, later.trans further⟩

end Scheduler

end ChannelBus
