import ChannelBus.Bus.Basic

/-!
# Moving values without waiting

Each operation finishes at once: it moves what it can and wakes those for whom the move made room or
brought a value, or it fails and leaves every channel alone. The same moves serve the waiting calls,
which name the generation of the channel they started on.
-/

namespace ChannelBus

variable {α : Type}

namespace Bus

/-- Goes on only if an extension of the bus is enabled. -/
def ensure {β : Type} (bus : Bus α) (enabled : Bool) (proceed : Outcome α (Result β)) :
    Outcome α (Result β) :=
  if enabled then proceed else bus.fail .notImplemented

/-- Appends a value to a channel and wakes its first waiting receiver. -/
def push (bus : Bus α) (handle : Handle) (generation : Option Nat) (value : α) :
    Outcome α (Result Unit) :=
  match bus.lookup handle generation with
  | none => bus.fail .noChannel
  | some channel =>
    match channel.accept value with
    | none => bus.fail .wouldBlock
    | some (woken, channel) =>
      { result := .ok ()
        bus := (bus.setChannel handle channel).note (·.countSent 1 woken.length)
        notices := woken.map (·.wokenNotice) }

/-- Takes the oldest value of a channel and wakes its first waiting sender. -/
def pop (bus : Bus α) (handle : Handle) (generation : Option Nat) : Outcome α (Result α) :=
  match bus.lookup handle generation with
  | none => bus.fail .noChannel
  | some channel =>
    match channel.release with
    | none => bus.fail .wouldBlock
    | some (value, woken, channel) =>
      { result := .ok value
        bus := (bus.setChannel handle channel).note (·.countReceived 1 woken.length)
        notices := woken.map (·.wokenNotice) }

/-- Appends the values that fit, at least one, and wakes a receiver for each. Of no values it sends
none. -/
def pushMany (bus : Bus α) (handle : Handle) (generation : Option Nat) (values : List α) :
    Outcome α (Result Nat) :=
  match bus.lookup handle generation with
  | none => bus.fail .noChannel
  | some channel =>
    if values.isEmpty then bus.unchanged (.ok 0)
    else
      let count := (channel.fitting values).length
      if count = 0 then bus.fail .wouldBlock
      else
        let (woken, channel) := channel.acceptMany values
        { result := .ok count
          bus := (bus.setChannel handle channel).note (·.countSent count woken.length)
          notices := woken.map (·.wokenNotice) }

/-- Takes up to `max` values, at least one, and wakes a sender for each. If none are wanted it takes
none. -/
def popMany (bus : Bus α) (handle : Handle) (generation : Option Nat) (max : Nat) :
    Outcome α (Result (List α)) :=
  match bus.lookup handle generation with
  | none => bus.fail .noChannel
  | some channel =>
    if max = 0 then bus.unchanged (.ok [])
    else
      let values := channel.oldest max
      if values.isEmpty then bus.fail .wouldBlock
      else
        let (woken, channel) := channel.releaseMany max
        { result := .ok values
          bus := (bus.setChannel handle channel).note
            (·.countReceived values.length woken.length)
          notices := woken.map (·.wokenNotice) }

/-- Sends a value without waiting. -/
def trySend (bus : Bus α) (handle : Handle) (value : α) : Outcome α (Result Unit) :=
  bus.push handle none value

/-- Receives a value without waiting. -/
def tryReceive (bus : Bus α) (handle : Handle) : Outcome α (Result α) :=
  bus.pop handle none

/-- Sends the values that fit without waiting, and answers with their number. -/
def trySendMany (bus : Bus α) (handle : Handle) (values : List α) : Outcome α (Result Nat) :=
  bus.ensure bus.config.batch (bus.pushMany handle none values)

/-- Receives up to `max` values without waiting. -/
def tryReceiveMany (bus : Bus α) (handle : Handle) (max : Nat) : Outcome α (Result (List α)) :=
  bus.ensure bus.config.batch (bus.popMany handle none max)

end Bus

end ChannelBus
