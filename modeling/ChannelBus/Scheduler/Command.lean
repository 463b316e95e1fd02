import ChannelBus.Scheduler.Script

/-!
# Driving a scheduler of scripts

Whoever drives a scheduler acts on the buses directly, spawns scripts, and decides when tasks are
polled or dropped.
-/

namespace ChannelBus

variable {α : Type}

/-- One command to a scheduler. -/
inductive Command (α : Type) where
  /-- Act on the buses or on the error slot. -/
  | act (action : Action α)
  /-- Make a task of a script. -/
  | spawn (script : Script α)
  /-- Poll ready tasks, at most `limit` times. -/
  | run (limit : Nat)
  /-- Poll one task, ready or not. -/
  | poll (task : TaskId)
  /-- Drop one task. -/
  | dropTask (task : TaskId)
deriving DecidableEq

/-- The response to a command. -/
inductive Response (α : Type) where
  /-- The answer to an act. -/
  | answered (answer : Answer α)
  /-- An act met a fault. -/
  | faulted (fault : Fault)
  /-- The number of a new task. -/
  | spawned (task : TaskId)
  /-- The number of polls made. -/
  | polls (count : Nat)
  /-- Whether there was such a live task. -/
  | found (existed : Bool)

/-- How many polls a run makes at most, if nothing else is asked for. -/
def defaultRunLimit : Nat := 5000

/-- A scheduler whose tasks follow scripts. -/
abbrev ScriptScheduler (α : Type) := Scheduler (Script α) α

/-- Obeys a command. -/
def Scheduler.obey [Stored α] (scheduler : ScriptScheduler α) :
    Command α → Response α × ScriptScheduler α × List (Event α)
  | .act action =>
    let turn := scheduler.act action
    let response := match turn.result with
      | .ok answer => .answered answer
      | .error fault => .faulted fault
    (response, turn.scheduler, turn.events)
  | .spawn script => (.spawned scheduler.tasks.length, scheduler.spawn script, [])
  | .run limit =>
    let run := Scheduler.run Script.program limit scheduler
    (.polls run.polls, run.scheduler, run.events)
  | .poll task => (.found (scheduler.live? task).isSome, scheduler.poll Script.program task)
  | .dropTask task => (.found (scheduler.live? task).isSome, scheduler.dropTask task)

end ChannelBus
