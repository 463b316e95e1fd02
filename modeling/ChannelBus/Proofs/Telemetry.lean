import ChannelBus.Proofs.Muting
import ChannelBus.Proofs.Polling
import ChannelBus.Scheduler.Command

/-!
# Telemetry does not interfere

Two schedulers that differ in nothing but the telemetry of their buses go through the same history
in step: they give the same answers, wake the same tasks in the same order, raise the same errors
and have the same channels, tasks and ready queues. The one exception is an answer that tells the
counters, and a program may look at it as long as it does not act on what it sees.

The two histories are compared by way of a third one, in which every bus is muted: whatever is done
to a muted scheduler leaves what it would have left of the scheduler itself, muted. So the counters
of a scheduler without telemetry stay at zero, too.
-/

namespace ChannelBus

variable {σ α β : Type}

/-- A program does not act on what the counters show. -/
def Program.Blind (program : Program σ α) : Prop :=
  ∀ state stats, program.after state (.stats stats) = program.after state (.stats {})

/-- Scripts go on after the counters as after any other answer that is no failure. -/
theorem Script.blind : (Script.program : Program (Script α) α).Blind :=
  fun _ _ => rfl

/-- A blind program goes on in the same state whether the counters are on or off. -/
theorem Program.Blind.after_muted {program : Program σ α} (blind : program.Blind) (state : σ)
    (answer : Answer α) : program.after state answer.muted = program.after state answer := by
  cases answer with
  | stats stats => exact (blind state stats).symm
  | done | opened | flag | number | handles | code | raised | reply => rfl

/-- An event without the counters that it tells, if it tells them. -/
def Event.muted : Event α → Event α
  | .answered task answer => .answered task answer.muted
  | event => event

/-- What a bus did at an event. -/
def Event.notice? : Event α → Option Notice
  | .noticed notice => some notice
  | _ => none

/-- Muting keeps what the buses did. -/
theorem Event.notice?_muted (event : Event α) : event.muted.notice? = event.notice? := by
  cases event <;> rfl

/-- A response without the counters that it tells, if it tells them. -/
def Response.muted : Response α → Response α
  | .answered answer => .answered answer.muted
  | response => response

/-- Only the counters go from a response. -/
theorem Response.muted_eq_self {response : Response α}
    (plain : ∀ stats, response ≠ .answered (.stats stats)) : response.muted = response := by
  cases response with
  | answered answer =>
    exact congrArg _ (Answer.muted_eq_self fun stats same => plain stats (same ▸ rfl))
  | faulted | spawned | polls | found => rfl

/-- What a bus holds of channels: the open ones by their handles, the closed ones, and the number
of the next one. -/
def Bus.channels (bus : Bus α) : List (Option (Channel α)) × List (Channel α) × Nat :=
  (bus.slots, bus.retired, bus.nextGeneration)

/-- A command to a scheduler of scripts as a deed. -/
def Command.deed : Command α → Deed (Script α) α
  | .act action => .act action
  | .spawn script => .spawn script
  | .run limit => .run limit
  | .poll task => .poll task
  | .dropTask task => .dropTask task

namespace Scheduler

/-- A scheduler with the counters of all its buses off and at zero. -/
def muted (scheduler : Scheduler σ α) : Scheduler σ α :=
  { scheduler with buses := scheduler.buses.map Bus.muted }

/-- A turn with the counters off; `change` takes them out of its result. -/
def Turn.muted (change : β → β) (turn : Turn σ α β) : Turn σ α β :=
  { result := change turn.result
    scheduler := turn.scheduler.muted
    events := turn.events.map Event.muted }

/-- Where a step leaves a task if it is not told the counters. -/
def Footing.muted : Footing α → Footing α
  | .answered answer => .answered answer.muted
  | footing => footing

/-- What a task leaves when the counters are off. -/
def mutedTrace (trace : Scheduler σ α × List (Event α)) : Scheduler σ α × List (Event α) :=
  (trace.1.muted, trace.2.map Event.muted)

/-! ## Waking and acting -/

section Acting

variable (scheduler : Scheduler σ α)

/-- A muted scheduler makes the same task ready. -/
theorem ring_muted (id : TaskId) : scheduler.muted.ring id = (scheduler.ring id).muted := by
  have same : scheduler.muted.ready = scheduler.ready := rfl
  unfold ring
  rw [same]
  split <;> rfl

/-- A muted scheduler draws the same consequences of a notice. -/
theorem hear_muted (notice : Notice) :
    scheduler.muted.hear notice = (scheduler.hear notice).muted := by
  unfold hear
  cases notice.wakes? with
  | none => cases notice.raises? <;> rfl
  | some waker =>
    simp only [Option.elim_some, ring_muted]
    cases notice.raises? <;> rfl

/-- A muted scheduler draws the same consequences of several notices. -/
theorem hearAll_muted (notices : List Notice) :
    scheduler.muted.hearAll notices = (scheduler.hearAll notices).muted := by
  induction notices generalizing scheduler with
  | nil => rfl
  | cons notice rest ih =>
    simp only [hearAll, List.foldl_cons, hear_muted] at ih ⊢
    exact ih (scheduler.hear notice)

/-- An operation that does the same to a muted bus does the same on a muted scheduler. -/
theorem onBus_muted (operation : Bus α → Outcome α β) (change : β → β)
    (same : ∀ bus, operation bus.muted = ((operation bus).map change).muted) (index : Nat) :
    scheduler.muted.onBus index operation =
      (scheduler.onBus index operation).muted (Except.map change) := by
  have here : scheduler.muted.buses[index]? = (scheduler.buses[index]?).map Bus.muted := by
    simp [muted]
  unfold onBus
  rw [here]
  cases scheduler.buses[index]? with
  | none => rfl
  | some bus =>
    have replaced : { scheduler.muted with
        buses := scheduler.muted.buses.set index (operation bus).bus.muted } =
          { scheduler with buses := scheduler.buses.set index (operation bus).bus }.muted := by
      simp only [muted, List.map_set]
    have noticed : (operation bus).notices.map (Event.noticed (α := α)) =
        ((operation bus).notices.map Event.noticed).map Event.muted := by
      simp [Event.muted, Function.comp_def]
    simp only [Option.map_some, same bus, Outcome.map, Outcome.muted, Turn.muted, replaced,
      hearAll_muted, ← noticed]
    rfl

/-- An operation that is blind to the counters does the same on a muted scheduler. -/
theorem onBus_blind {operation : Bus α → Outcome α β} (blind : Bus.Blind operation) (index : Nat) :
    scheduler.muted.onBus index operation = (scheduler.onBus index operation).muted id := by
  have turn := scheduler.onBus_muted operation id blind index
  rwa [show (Except.map id : Except Fault β → Except Fault β) = id from
    funext fun result => by cases result <;> rfl] at turn

/-- A muted scheduler acts the same, but does not tell the counters. -/
theorem act_muted [Stored α] (action : Action α) :
    scheduler.muted.act action = (scheduler.act action).muted (Except.map Answer.muted) := by
  cases action with
  | onBus index request =>
    have turn := scheduler.onBus_muted (·.perform request) (Except.map Answer.muted)
      (fun bus => bus.perform_muted request) index
    simp only [act, turn, Turn.muted]
    congr 1
    cases (scheduler.onBus index (·.perform request)).result <;> rfl
  | lastError => rfl
  | setLastError code => rfl
  | raise error =>
    simp only [act, hear_muted]
    rfl

end Acting

/-! ## Steps of a task -/

section Stepping

/-- A task takes the same step on a muted scheduler. -/
theorem takeStep_muted [Stored α] (scheduler : Scheduler σ α) (id : TaskId) (step : Step α) :
    scheduler.muted.takeStep id step = (scheduler.takeStep id step).muted Footing.muted := by
  cases step with
  | yield =>
    simp only [takeStep, ring_muted]
    rfl
  | act action =>
    simp only [takeStep, act_muted, Turn.muted]
    congr 1
    cases (scheduler.act action).result <;> rfl
  | call index call =>
    simp only [takeStep, scheduler.onBus_blind (Bus.blind_start id call) index, Turn.muted]
    congr 1
    cases (scheduler.onBus index (·.start call id)).result with
    | error fault => rfl
    | ok progress => cases progress <;> rfl

/-- A task goes on after the same step on a muted scheduler if it goes on in the same way. -/
theorem follow_muted (turn : Turn σ α (Footing α)) (id : TaskId) (state : σ)
    {goOn : Answer α → Scheduler σ α → Scheduler σ α × List (Event α)}
    (same : ∀ answer scheduler, goOn answer.muted scheduler.muted =
      mutedTrace (goOn answer scheduler)) :
    (turn.muted Footing.muted).follow id state goOn = mutedTrace (turn.follow id state goOn) := by
  obtain ⟨result, scheduler, events⟩ := turn
  cases result with
  | answered answer =>
    simp only [Turn.follow, Turn.muted, Footing.muted, same]
    simp [mutedTrace, Event.muted]
  | suspended phase => rfl
  | faulted fault =>
    simp [Turn.follow, Turn.muted, Footing.muted, mutedTrace, Event.muted, muted, setTask]

variable [Stored α] {program : Program σ α} (scheduler : Scheduler σ α)

/-- A task goes on in the same way on a muted scheduler. -/
theorem advance_muted (blind : program.Blind) (id : TaskId) (state : σ) :
    scheduler.muted.advance program id state = mutedTrace (scheduler.advance program id state) := by
  induction rank : program.rank state using Nat.strongRecOn generalizing scheduler state with
  | ind rank ih =>
    subst rank
    cases follows : program.next state with
    | none =>
      rw [advance_of_ended _ follows, advance_of_ended _ follows]
      rfl
    | some step =>
      rw [advance_of_next _ follows, advance_of_next _ follows, takeStep_muted]
      refine follow_muted _ id state fun answer later => ?_
      rw [blind.after_muted]
      exact ih _ (program.rank_after state step answer follows) later _ rfl

/-- A task is resumed in the same way on a muted scheduler. -/
theorem resume_muted (blind : program.Blind) (id : TaskId) (task : Task σ α) :
    scheduler.muted.resume program id task = mutedTrace (scheduler.resume program id task) := by
  have goesOn : ∀ (answer : Answer α) (later : Scheduler σ α),
      later.muted.advance program id (program.after task.state answer.muted) =
        mutedTrace (later.advance program id (program.after task.state answer)) := by
    intro answer later
    rw [blind.after_muted]
    exact later.advance_muted blind id _
  obtain ⟨state, phase⟩ := task
  cases phase with
  | fresh => exact scheduler.advance_muted blind id state
  | yielded =>
    simp only [resume]
    refine Eq.trans ?_ (follow_muted _ id state fun answer later => goesOn answer later)
    rfl
  | parked index suspended =>
    have turn := scheduler.onBus_blind (Bus.blind_resume id suspended) index
    simp only [resume, turn]
    refine Eq.trans ?_ (follow_muted _ id state fun answer later => goesOn answer later)
    simp only [Turn.muted]
    congr 2
    cases (scheduler.onBus index (·.resume suspended id)).result with
    | error fault => rfl
    | ok progress => cases progress <;> rfl
  | _ => rfl

/-- A task is polled in the same way on a muted scheduler. -/
theorem poll_muted (blind : program.Blind) (id : TaskId) :
    scheduler.muted.poll program id = mutedTrace (scheduler.poll program id) := by
  have same : scheduler.muted.live? id = scheduler.live? id := rfl
  simp only [poll, same]
  cases scheduler.live? id with
  | none => rfl
  | some task =>
    have resumed := (scheduler.unready id).resume_muted blind id task
    have alone : scheduler.muted.unready id = (scheduler.unready id).muted := rfl
    simp only [alone, resumed]
    rfl

/-- The polls of a run and what they leave when the counters are off. -/
def Run.muted (run : Run σ α) : Run σ α :=
  { polls := run.polls, scheduler := run.scheduler.muted, events := run.events.map Event.muted }

/-- A muted scheduler runs in the same way. -/
theorem run_muted (blind : program.Blind) (limit : Nat) :
    scheduler.muted.run program limit = (scheduler.run program limit).muted := by
  induction limit generalizing scheduler with
  | zero => rfl
  | succ limit ih =>
    have skipped : scheduler.muted.skipDead = scheduler.skipDead.muted := rfl
    have same : scheduler.skipDead.muted.ready = scheduler.skipDead.ready := rfl
    simp only [run, skipped, same]
    cases front : scheduler.skipDead.ready with
    | nil => rfl
    | cons id rest =>
      simp only [poll_muted _ blind, mutedTrace, ih]
      simp [Run.muted]

end Stepping

/-! ## Histories -/

section Histories

/-- A task is dropped in the same way on a muted scheduler. -/
theorem dropTask_muted (scheduler : Scheduler σ α) (id : TaskId) :
    scheduler.muted.dropTask id = mutedTrace (scheduler.dropTask id) := by
  have same : scheduler.muted.live? id = scheduler.live? id := rfl
  simp only [dropTask, same]
  cases scheduler.live? id with
  | none => rfl
  | some task =>
    obtain ⟨state, phase⟩ := task
    cases phase with
    | parked index suspended =>
      have turn := ((scheduler.unready id).setTask id ⟨state, .over⟩).onBus_blind
        (Bus.blind_cancel suspended) index
      have alone : (scheduler.muted.unready id).setTask id ⟨state, .over⟩ =
        ((scheduler.unready id).setTask id ⟨state, .over⟩).muted := rfl
      simp only [alone, turn]
      rfl
    | _ => rfl

variable [Stored α] {program : Program σ α} (scheduler : Scheduler σ α)

/-- The response to a deed, the scheduler afterwards, and what happened. -/
def react (program : Program σ α) (scheduler : Scheduler σ α) :
    Deed σ α → Response α × Scheduler σ α × List (Event α)
  | .act action =>
    let turn := scheduler.act action
    let response := match turn.result with
      | .ok answer => .answered answer
      | .error fault => .faulted fault
    (response, turn.scheduler, turn.events)
  | .spawn state => (.spawned scheduler.tasks.length, scheduler.spawn state, [])
  | .poll task => (.found (scheduler.live? task).isSome, scheduler.poll program task)
  | .run limit =>
    let run := scheduler.run program limit
    (.polls run.polls, run.scheduler, run.events)
  | .dropTask task => (.found (scheduler.live? task).isSome, scheduler.dropTask task)

/-- The scheduler after a deed is the one that its reaction leaves. -/
theorem react_undergo (program : Program σ α) (deed : Deed σ α) :
    (scheduler.react program deed).2.1 = scheduler.undergo program deed := by
  cases deed <;> rfl

/-- To obey a command is to react to it as a deed. -/
theorem obey_eq_react (scheduler : ScriptScheduler α) (command : Command α) :
    scheduler.obey command = scheduler.react Script.program command.deed := by
  cases command <;> rfl

/-- A muted scheduler reacts in the same way, but does not tell the counters. -/
theorem react_muted (blind : program.Blind) (deed : Deed σ α) :
    scheduler.muted.react program deed =
      ((scheduler.react program deed).1.muted, mutedTrace (scheduler.react program deed).2) := by
  cases deed with
  | act action =>
    simp only [react, act_muted, Turn.muted]
    cases (scheduler.act action).result <;> rfl
  | spawn state => rfl
  | poll task =>
    simp only [react, poll_muted _ blind]
    rfl
  | run limit =>
    simp only [react, run_muted _ blind]
    rfl
  | dropTask task =>
    simp only [react, dropTask_muted]
    rfl

/-- A muted scheduler goes through every history in the same way. -/
theorem after_muted (blind : program.Blind) (deeds : List (Deed σ α)) :
    scheduler.muted.after program deeds = (scheduler.after program deeds).muted := by
  induction deeds generalizing scheduler with
  | nil => rfl
  | cons deed rest ih =>
    have next : scheduler.muted.undergo program deed = (scheduler.undergo program deed).muted := by
      rw [← react_undergo, react_muted _ blind, ← react_undergo]
      rfl
    show (scheduler.muted.undergo program deed).after program rest = _
    rw [next]
    exact ih (scheduler.undergo program deed)

end Histories

/-! ## Two histories -/

/-- A new scheduler whose buses have these settings, but all of them with telemetry or all
without. -/
def newWith (configs : List Config) (telemetry : Bool) : Scheduler σ α :=
  new (configs.map fun config => .new (config.withTelemetry telemetry))

/-- Muting takes nothing but the telemetry from a new scheduler. -/
theorem newWith_muted (configs : List Config) (telemetry : Bool) :
    (newWith configs telemetry : Scheduler σ α).muted = newWith configs false := by
  simp only [muted, newWith, new, List.map_map]
  rfl

/-- Two schedulers with the same settings, but one with telemetry and one without, go through every
history in step, as long as no program acts on what the counters show. After any deeds they react
to the next one with the same response and the same events, wakeups among them in the same order;
only an answer that tells the counters differs, and only in them. They have the same ready queue,
the same error slot, the same tasks and the same channels, and without telemetry all counters stay
at zero. -/
theorem telemetry_never_interferes [Stored α] (program : Program σ α) (blind : program.Blind)
    (configs : List Config) (deeds : List (Deed σ α)) (deed : Deed σ α) :
    let loud : Scheduler σ α := (newWith configs true).after program deeds
    let silent : Scheduler σ α := (newWith configs false).after program deeds
    let (response, _, events) := loud.react program deed
    let (silentResponse, _, silentEvents) := silent.react program deed
    (silentResponse = response.muted ∧
      ((∀ stats, response ≠ .answered (.stats stats)) → silentResponse = response)) ∧
    (silentEvents = events.map Event.muted ∧
      silentEvents.filterMap Event.notice? = events.filterMap Event.notice?) ∧
    silent.ready = loud.ready ∧ silent.lastError = loud.lastError ∧ silent.tasks = loud.tasks ∧
    silent.buses.map (·.channels) = loud.buses.map (·.channels) ∧
    ∀ bus ∈ silent.buses, bus.stats = {} := by
  intro loud silent
  have muted : silent = loud.muted := by
    have history := (newWith configs true).after_muted blind deeds
    rwa [newWith_muted] at history
  rw [muted, loud.react_muted blind deed]
  refine ⟨⟨rfl, Response.muted_eq_self⟩, ⟨rfl, ?_⟩, rfl, rfl, rfl, ?_, ?_⟩
  · show ((loud.react program deed).2.2.map Event.muted).filterMap Event.notice? = _
    rw [List.filterMap_map]
    exact List.filterMap_congr fun event _ => event.notice?_muted
  · show (loud.buses.map Bus.muted).map (·.channels) = _
    rw [List.map_map]
    rfl
  · intro bus known
    obtain ⟨original, _, rfl⟩ := List.mem_map.mp known
    rfl

/-- A script fills a channel and parks, and room is made for it. With telemetry and without, it is
polled once more, and nothing is counted without. -/
theorem telemetry_never_interferes_of_script :
    let deeds : List (Deed (Script UInt32) UInt32) :=
      [.act (.onBus 0 (.openChannel 1)),
        .spawn (.ofSteps [.call 0 (.send ⟨0⟩ 5), .call 0 (.send ⟨0⟩ 6)] 1 false), .run 9,
        .act (.onBus 0 (.tryReceive ⟨0⟩))]
    let loud : ScriptScheduler UInt32 := (newWith [{}] true).after Script.program deeds
    let silent : ScriptScheduler UInt32 := (newWith [{}] false).after Script.program deeds
    (loud.obey (.run 9)).1 = .polls 1 ∧ (silent.obey (.run 9)).1 = (loud.obey (.run 9)).1 ∧
      silent.ready = [0] ∧ silent.ready = loud.ready ∧
      loud.buses.map (·.stats.wakeups) = [1] ∧ ∀ bus ∈ silent.buses, bus.stats = {} := by
  intro deeds loud silent
  have polled : (loud.run Script.program 9).polls = 1 := by decide +kernel
  have response : (loud.react Script.program (.run 9)).1 = .polls 1 :=
    congrArg Response.polls polled
  obtain ⟨⟨_, same⟩, _, ready, _, _, _, zero⟩ :=
    telemetry_never_interferes Script.program Script.blind [{}] deeds (.run 9)
  simp only [obey_eq_react]
  exact ⟨response, same fun stats => nofun, by decide +kernel, ready, by decide +kernel, zero⟩

end Scheduler

end ChannelBus
