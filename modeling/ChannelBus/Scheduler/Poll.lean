import ChannelBus.Scheduler.Basic

/-!
# Polling

To poll a task is to resume it and let it run until it suspends or ends. Polling a task that is
parked and has not been woken is allowed and leaves it parked. Running a scheduler polls the task at
the front of the ready queue again and again.
-/

namespace ChannelBus

variable {σ α : Type}

namespace Scheduler

/-- Where a step leaves a task. -/
inductive Footing (α : Type) where
  /-- The step got its answer. -/
  | answered (answer : Answer α)
  /-- The task waits. -/
  | suspended (phase : Phase α)
  /-- The task is gone. -/
  | faulted (fault : Fault)

/-- Where the progress of a call on a bus leaves the task that made it. -/
def Footing.ofProgress (bus : Nat) : Except Fault (Progress α) → Footing α
  | .error fault => .faulted fault
  | .ok (.parked call) => .suspended (.parked bus call)
  | .ok (.finished reply) => .answered (.reply reply)

/-- Takes one step of a task. -/
def takeStep [Stored α] (scheduler : Scheduler σ α) (id : TaskId) :
    Step α → Turn σ α (Footing α)
  | .yield =>
    { result := .suspended .yielded
      scheduler := scheduler.ring id
      events := [.nudged id] }
  | .act action =>
    let turn := scheduler.act action
    { turn with
      result := match turn.result with
        | .error fault => .faulted fault
        | .ok answer => .answered answer }
  | .call index call =>
    let turn := scheduler.onBus index (·.start call id)
    { turn with result := .ofProgress index turn.result }

/-- Draws the consequences of a step: an answered task goes on at once. -/
def Turn.follow (turn : Turn σ α (Footing α)) (id : TaskId) (state : σ)
    (goOn : Answer α → Scheduler σ α → Scheduler σ α × List (Event α)) :
    Scheduler σ α × List (Event α) :=
  match turn.result with
  | .answered answer =>
    let (scheduler, events) := goOn answer turn.scheduler
    (scheduler, turn.events ++ .answered id answer :: events)
  | .suspended phase => (turn.scheduler.setTask id { state, phase }, turn.events)
  | .faulted fault =>
    (turn.scheduler.setTask id { state, phase := .over }, turn.events ++ [.faulted id fault])

/-- Lets a task go on from a state until it suspends or ends. -/
def advance [Stored α] (program : Program σ α) (scheduler : Scheduler σ α) (id : TaskId)
    (state : σ) : Scheduler σ α × List (Event α) :=
  match _ : program.next state with
  | none => (scheduler.setTask id { state, phase := .over }, [.ended id])
  | some step =>
    (scheduler.takeStep id step).follow id state fun answer scheduler =>
      advance program scheduler id (program.after state answer)
termination_by program.rank state
decreasing_by exact program.rank_after _ _ _ (by assumption)

/-- Resumes a task where it stands. -/
def resume [Stored α] (program : Program σ α) (scheduler : Scheduler σ α) (id : TaskId)
    (task : Task σ α) : Scheduler σ α × List (Event α) :=
  let goOn := fun answer scheduler =>
    advance program scheduler id (program.after task.state answer)
  match task.phase with
  | .over => (scheduler, [])
  | .fresh => scheduler.advance program id task.state
  | .yielded =>
    let turn : Turn σ α (Footing α) := { result := .answered .done, scheduler, events := [] }
    turn.follow id task.state goOn
  | .parked index suspended =>
    let turn := scheduler.onBus index (·.resume suspended id)
    { turn with result := .ofProgress index turn.result : Turn σ α (Footing α) }.follow
      id task.state goOn

/-- Takes a task out of the ready queue and polls it once. Nothing happens if there is no such live
task. -/
def poll [Stored α] (program : Program σ α) (scheduler : Scheduler σ α) (id : TaskId) :
    Scheduler σ α × List (Event α) :=
  match scheduler.live? id with
  | none => (scheduler, [])
  | some task =>
    let rest := (scheduler.unready id).resume program id task
    (rest.1, .polled id :: rest.2)

/-- Removes the tasks at the front of the ready queue that can no longer be polled. -/
def skipDead (scheduler : Scheduler σ α) : Scheduler σ α :=
  { scheduler with ready := scheduler.ready.dropWhile fun id => (scheduler.live? id).isNone }

/-- What a run leaves. -/
structure Run (σ α : Type) where
  /-- The number of polls. -/
  polls : Nat
  /-- The scheduler afterwards. -/
  scheduler : Scheduler σ α
  /-- What happened, in order. -/
  events : List (Event α)

/-- Polls the front of the ready queue until the queue is empty or `limit` polls were made. -/
def run [Stored α] (program : Program σ α) : Nat → Scheduler σ α → Run σ α
  | 0, scheduler => { polls := 0, scheduler, events := [] }
  | limit + 1, scheduler =>
    let scheduler := scheduler.skipDead
    match scheduler.ready with
    | [] => { polls := 0, scheduler, events := [] }
    | id :: _ =>
      let (scheduler, events) := scheduler.poll program id
      let rest := run program limit scheduler
      { rest with polls := rest.polls + 1, events := events ++ rest.events }

end Scheduler

end ChannelBus
