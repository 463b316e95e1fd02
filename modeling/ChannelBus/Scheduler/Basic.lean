import ChannelBus.Bus.Request

/-!
# Cooperative scheduling

A scheduler holds a number of buses, the error slot that they share, the tasks, and the queue of
tasks that are ready to be polled. One task runs at a time and nothing runs between two polls.
Waking a task appends it to the ready queue unless it is already there.

What a task does is given by a `Program`: from the state of the task, its next step, and from the
answer to that step, the next state. A program carries a rank that falls with every step, so that a
task has finitely many steps and a poll always comes to an end.
-/

namespace ChannelBus

variable {σ α β : Type}

/-- An act of a task, or of whoever drives the scheduler, that never waits. -/
inductive Action (α : Type) where
  /-- Ask a bus. -/
  | onBus (bus : Nat) (request : Request α)
  /-- Read the error slot. -/
  | lastError
  /-- Overwrite the error slot. -/
  | setLastError (code : ErrorCode)
  /-- Raise an error by hand. -/
  | raise (error : BusError)
deriving DecidableEq

/-- One step of a task. -/
inductive Step (α : Type) where
  /-- Act without waiting. -/
  | act (action : Action α)
  /-- Call a bus and wait for the reply. -/
  | call (bus : Nat) (call : Call α)
  /-- Let the other ready tasks run first. -/
  | yield
deriving DecidableEq

/-- What tasks do. -/
structure Program (σ α : Type) where
  /-- The next step of a task in this state; nothing if it has come to its end. -/
  next : σ → Option (Step α)
  /-- The state after the answer to the step. -/
  after : σ → Answer α → σ
  /-- A bound on the steps still to come. -/
  rank : σ → Nat
  /-- Every step lowers the bound. -/
  rank_after : ∀ state step answer, next state = some step → rank (after state answer) < rank state

/-- Where a task stands between polls. -/
inductive Phase (α : Type) where
  /-- It has not been polled yet. -/
  | fresh
  /-- It stepped aside for others. -/
  | yielded
  /-- It waits for the reply to a call. -/
  | parked (bus : Nat) (suspended : Suspended α)
  /-- It has ended, met a fault, or was dropped. -/
  | over
deriving DecidableEq

/-- A task. -/
structure Task (σ α : Type) where
  /-- The state of its program. -/
  state : σ
  /-- Where it stands. -/
  phase : Phase α
deriving DecidableEq

/-- Whether a task can still be polled. -/
def Task.isLive (task : Task σ α) : Bool :=
  match task.phase with
  | .over => false
  | .fresh | .yielded | .parked _ _ => true

/-- Something to report about a scheduler. -/
inductive Event (α : Type) where
  /-- A task is about to be polled. -/
  | polled (task : TaskId)
  /-- A task came to its end. -/
  | ended (task : TaskId)
  /-- A task met a fault and is gone. -/
  | faulted (task : TaskId) (fault : Fault)
  /-- A task got the answer to a step. -/
  | answered (task : TaskId) (answer : Answer α)
  /-- A task made itself ready in order to step aside. -/
  | nudged (task : TaskId)
  /-- A bus did something. -/
  | noticed (notice : Notice)

/-- Buses and the tasks that share them. -/
structure Scheduler (σ α : Type) where
  /-- The buses, named by their position. -/
  buses : List (Bus α)
  /-- The error slot. -/
  lastError : ErrorCode
  /-- All tasks ever spawned, named by their position. -/
  tasks : List (Task σ α)
  /-- The tasks to poll, front first. -/
  ready : List TaskId
deriving DecidableEq

namespace Scheduler

/-- A scheduler without tasks. -/
def new (buses : List (Bus α)) : Scheduler σ α :=
  { buses, lastError := .clear, tasks := [], ready := [] }

/-- A scheduler with one bus for each configuration. -/
def create (configs : List Config) : Except Fault (Scheduler σ α) :=
  (configs.mapM Bus.create).map new

/-! ## Waking -/

/-- Makes a task ready. -/
def ring (scheduler : Scheduler σ α) (task : TaskId) : Scheduler σ α :=
  if task ∈ scheduler.ready then scheduler
  else { scheduler with ready := scheduler.ready ++ [task] }

/-- Draws the consequences of a notice: a woken task becomes ready, a raised error is recorded. -/
def hear (scheduler : Scheduler σ α) (notice : Notice) : Scheduler σ α :=
  let scheduler := notice.wakes?.elim scheduler scheduler.ring
  notice.raises?.elim scheduler fun error => { scheduler with lastError := error.code }

/-- Draws the consequences of several notices in their order. -/
def hearAll (scheduler : Scheduler σ α) (notices : List Notice) : Scheduler σ α :=
  notices.foldl hear scheduler

/-! ## Acting on buses -/

/-- What an act leaves. -/
structure Turn (σ α β : Type) where
  /-- The answer. -/
  result : β
  /-- The scheduler afterwards. -/
  scheduler : Scheduler σ α
  /-- What happened, in order. -/
  events : List (Event α)

/-- Runs an operation on one bus and draws its consequences. -/
def onBus (scheduler : Scheduler σ α) (index : Nat) (operation : Bus α → Outcome α β) :
    Turn σ α (Except Fault β) :=
  match scheduler.buses[index]? with
  | none => { result := .error .unknownBus, scheduler, events := [] }
  | some bus =>
    let outcome := operation bus
    let scheduler := { scheduler with buses := scheduler.buses.set index outcome.bus }
    { result := .ok outcome.result
      scheduler := scheduler.hearAll outcome.notices
      events := outcome.notices.map .noticed }

/-- Acts without waiting. -/
def act [Stored α] (scheduler : Scheduler σ α) : Action α → Turn σ α (Answered α)
  | .onBus index request =>
    let turn := scheduler.onBus index (·.perform request)
    { turn with result := turn.result.bind id }
  | .lastError => { result := .ok (.code scheduler.lastError), scheduler, events := [] }
  | .setLastError code =>
    { result := .ok .done, scheduler := { scheduler with lastError := code }, events := [] }
  | .raise error =>
    { result := .ok (.raised error)
      scheduler := scheduler.hear (.raised error)
      events := [.noticed (.raised error)] }

/-! ## Tasks -/

/-- The task with this number, if it can still be polled. -/
def live? (scheduler : Scheduler σ α) (id : TaskId) : Option (Task σ α) :=
  (scheduler.tasks[id]?).filter (·.isLive)

/-- Replaces a task. -/
def setTask (scheduler : Scheduler σ α) (id : TaskId) (task : Task σ α) : Scheduler σ α :=
  { scheduler with tasks := scheduler.tasks.set id task }

/-- Removes a task from the ready queue. -/
def unready (scheduler : Scheduler σ α) (id : TaskId) : Scheduler σ α :=
  { scheduler with ready := scheduler.ready.filter (· != id) }

/-- Adds a task, ready to be polled. Its number is the number of tasks spawned before. -/
def spawn (scheduler : Scheduler σ α) (state : σ) : Scheduler σ α :=
  { scheduler with
    tasks := scheduler.tasks ++ [{ state, phase := .fresh }]
    ready := scheduler.ready ++ [scheduler.tasks.length] }

/-- Drops a task wherever it stands. Nothing happens if there is no such live task. -/
def dropTask (scheduler : Scheduler σ α) (id : TaskId) : Scheduler σ α × List (Event α) :=
  match scheduler.live? id with
  | none => (scheduler, [])
  | some task =>
    let scheduler := (scheduler.unready id).setTask id { task with phase := .over }
    match task.phase with
    | .parked index suspended =>
      let turn := scheduler.onBus index (·.cancel suspended)
      (turn.scheduler, turn.events)
    | .fresh | .yielded | .over => (scheduler, [])

end Scheduler

end ChannelBus
