import ChannelBus.Bus.Transfer

/-!
# One value for every channel

A broadcast gives a copy of its value to every open channel, or to none. Every channel is asked
before any of them is touched, so nobody can see a broadcast that is only half done.
-/

namespace ChannelBus

variable {α : Type}

/-- Why a broadcast could not go ahead. -/
inductive Stall where
  /-- No channel is open. -/
  | noChannel
  /-- This channel, the lowest of those that cannot take the value, is not ready. -/
  | refused (handle : Handle) (generation : Nat)
deriving DecidableEq

namespace Bus

/-- The lowest open channel that is not ready. -/
def firstRefusal (bus : Bus α) (ready : Channel α → Bool) : Option (Handle × Channel α) :=
  bus.openChannels.find? fun (_, channel) => !ready channel

/-- Why a broadcast that needs `ready` of every channel cannot go ahead, if it cannot. -/
def stall? (bus : Bus α) (ready : Channel α → Bool) : Option Stall :=
  match bus.firstRefusal ready with
  | some (handle, channel) => some (.refused handle channel.generation)
  | none => if bus.openChannels.isEmpty then some .noChannel else none

/-- Gives a copy to every open channel, in ascending order of handles. -/
def giveAll (bus : Bus α) (value : α) : Outcome α Unit :=
  let woken := bus.openChannels.flatMap fun (_, channel) => (channel.give value).1
  let given := bus.slots.map (Option.map fun channel => (channel.give value).2)
  let count := bus.openChannels.length
  { result := ()
    bus := { bus with slots := given }.note (·.countSent count woken.length)
    notices := woken.map (·.wokenNotice) ++ [.broadcastSent count] }

/-- Gives a copy to every open channel if all of them are ready, else does nothing. -/
def broadcastOnce (bus : Bus α) (ready : Channel α → Bool) (value : α) :
    Outcome α (Option Stall) :=
  match bus.stall? ready with
  | some stall => bus.unchanged (some stall)
  | none => (bus.giveAll value).map fun _ => none

/-- Broadcasts without waiting: every open channel must have room in its buffer. -/
def tryBroadcast (bus : Bus α) (value : α) : Outcome α (Result Unit) :=
  bus.ensure bus.config.broadcast <|
    (bus.broadcastOnce (fun channel => !channel.isFull) value).andThen fun stall bus =>
      match stall with
      | none => bus.unchanged (.ok ())
      | some .noChannel => bus.fail .noChannel
      | some (.refused _ _) => bus.fail .wouldBlock

/-- Wakes the first waiting sender of a channel that can still take a value. -/
def passWakeupOn (bus : Bus α) (handle : Handle) (generation : Nat) : Outcome α Unit :=
  match bus.pinned? handle generation with
  | none => bus.unchanged ()
  | some channel =>
    let woken := if channel.canAccept then channel.front .senders 1 else []
    if woken.isEmpty then bus.unchanged ()
    else
      { result := ()
        bus := (bus.setChannel handle (channel.wake .senders 1)).note (·.countWoken woken.length)
        notices := woken.map (·.wokenNotice) ++ [.wakeupPassedOn handle] }

end Bus

end ChannelBus
