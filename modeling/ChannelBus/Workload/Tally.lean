/-!
# The tally of a workload

The consumers of a workload keep one tally of what they receive: how many messages there were, and
whether they came in order. Whoever records the last message gives a signal, and the supervisor
waits for it before it closes the channel.
-/

namespace ChannelBus

/-- A signal that one task gives and another waits for. It is kept until somebody waits for it; a
signal that is given again meanwhile adds nothing. -/
structure Signal where
  /-- Whether a signal is kept. -/
  kept : Bool
  /-- How often the signal was given. -/
  given : Nat
deriving DecidableEq

namespace Signal

/-- A signal that was never given. -/
def new : Signal :=
  { kept := false, given := 0 }

/-- Gives the signal. -/
def give (signal : Signal) : Signal :=
  { kept := true, given := signal.given + 1 }

/-- Takes the signal that is kept; nothing if there is none. -/
def take? (signal : Signal) : Option Signal :=
  if signal.kept then some { signal with kept := false } else none

end Signal

/-- What the consumers of a workload share. -/
structure Tally where
  /-- How many messages are to be delivered. -/
  expected : Nat
  /-- How many messages were delivered. -/
  delivered : Nat
  /-- Whether each of them came after those that its consumer had from the same producer. -/
  inOrder : Bool
  /-- The signal that the last message was delivered. -/
  drained : Signal
deriving DecidableEq

namespace Tally

/-- The tally before anything was delivered. -/
def new (expected : Nat) : Tally :=
  { expected, delivered := 0, inOrder := true, drained := .new }

/-- Records that a message was delivered, and gives the signal if it was the last one. -/
def record (tally : Tally) : Tally :=
  let delivered := tally.delivered + 1
  { tally with
    delivered
    drained := if delivered = tally.expected then tally.drained.give else tally.drained }

/-- Records that a message came out of order. -/
def disorder (tally : Tally) : Tally :=
  { tally with inOrder := false }

/-- Waits for the signal unless nothing is to be delivered; no answer while it must wait. -/
def awaitDrained (tally : Tally) : Option Tally :=
  if 0 < tally.expected then tally.drained.take?.map fun drained => { tally with drained }
  else some tally

end Tally

end ChannelBus
