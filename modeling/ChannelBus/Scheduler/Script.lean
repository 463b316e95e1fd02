import ChannelBus.Scheduler.Poll

/-!
# Scripts

The simplest tasks go through a list of steps a number of times. A script may be told to stop at the
first transfer that fails.
-/

namespace ChannelBus

variable {α : Type}

/-- A list of steps to go through. -/
structure Script (α : Type) where
  /-- What is left of the current round. -/
  pending : List (Step α)
  /-- The steps of one round. -/
  body : List (Step α)
  /-- How many rounds follow the current one. -/
  rounds : Nat
  /-- Whether the first failed transfer ends the script. -/
  stopOnError : Bool
deriving DecidableEq

namespace Script

/-- A script that goes through its steps a number of times. -/
def ofSteps (body : List (Step α)) (rounds : Nat) (stopOnError : Bool) : Script α :=
  { pending := [], body, rounds, stopOnError }

/-- The next step. -/
def next (script : Script α) : Option (Step α) :=
  match script.pending with
  | step :: _ => some step
  | [] => if script.rounds = 0 then none else script.body.head?

/-- The script after the next step was taken. -/
def rest (script : Script α) : Script α :=
  match script.pending with
  | _ :: pending => { script with pending }
  | [] => { script with pending := script.body.tail, rounds := script.rounds - 1 }

/-- The script after the answer to the next step. -/
def after (script : Script α) (answer : Answer α) : Script α :=
  if script.stopOnError && answer.failed then { script with pending := [], rounds := 0 }
  else script.rest

/-- The number of steps left. -/
def rank (script : Script α) : Nat :=
  script.pending.length + script.rounds * script.body.length

/-- Taking the next step lowers the number of steps left. -/
theorem rank_rest (script : Script α) (step : Step α) (follows : script.next = some step) :
    script.rest.rank < script.rank := by
  obtain ⟨pending, body, rounds, stopOnError⟩ := script
  cases pending with
  | cons first pending => simp [rest, rank]
  | nil =>
    cases rounds with
    | zero => simp [next] at follows
    | succ rounds =>
      cases body with
      | nil => simp [next] at follows
      | cons first body => simp [rest, rank, Nat.succ_mul]; omega

/-- A script that has a next step has a step left. -/
theorem rank_pos (script : Script α) (step : Step α) (follows : script.next = some step) :
    0 < script.rank :=
  Nat.zero_lt_of_lt (script.rank_rest step follows)

/-- Every answer lowers the number of steps left. -/
theorem rank_after (script : Script α) (step : Step α) (answer : Answer α)
    (follows : script.next = some step) : (script.after answer).rank < script.rank := by
  unfold after
  split
  · simpa [rank] using script.rank_pos step follows
  · exact script.rank_rest step follows

/-- Scripts as the program of a scheduler. -/
def program : Program (Script α) α :=
  { next, after, rank, rank_after }

end Script

end ChannelBus
