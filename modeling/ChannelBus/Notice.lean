import ChannelBus.Error
import ChannelBus.Handle
import ChannelBus.WaitQueue

/-!
# Notices

Every operation of a bus tells what it did in a list of notices, in the order in which it happened.
The scheduler reads the wakeups and the raised errors off that list, and a log prints the rest.
-/

namespace ChannelBus

variable {α : Type}

/-- One thing that happened during an operation. -/
inductive Notice where
  /-- A channel was opened. -/
  | opened (handle : Handle) (capacity generation : Nat)
  /-- A channel was closed, waking waits and discarding buffered values. -/
  | closed (handle : Handle) (woken discarded : Nat)
  /-- The registry was released. -/
  | released (slots : Nat)
  /-- A wait was queued. -/
  | queued (key : Nat)
  /-- A wait was dequeued; its task, if it has named itself, becomes ready. -/
  | woke (key : Nat) (waker : Option TaskId)
  /-- A value went straight to a waiting receiver. -/
  | handedOff (handle : Handle)
  /-- A sender parked. -/
  | senderParked (handle : Handle)
  /-- A resumed sender tries again. -/
  | senderRetrying (handle : Handle)
  /-- A value came straight from a waiting sender. -/
  | tookOffer (handle : Handle)
  /-- A receiver parked. -/
  | receiverParked (handle : Handle)
  /-- A resumed receiver tries again. -/
  | receiverRetrying (handle : Handle)
  /-- A broadcaster parked. -/
  | broadcasterParked (handle : Handle)
  /-- A broadcaster passed the wakeup that it did not need to the next sender. -/
  | wakeupPassedOn (handle : Handle)
  /-- A value was broadcast to this many channels. -/
  | broadcastSent (channels : Nat)
  /-- A task was dropped after a value had been delivered to its wait. -/
  | deliveryLost (key : Nat)
  /-- An operation failed. -/
  | raised (error : BusError)
deriving DecidableEq

/-- How much a log line matters. -/
inductive Level where
  /-- A loss worth a warning. -/
  | warn
  /-- A change of the registry. -/
  | debug
  /-- A single step of a transfer. -/
  | trace
deriving DecidableEq

/-- The word for a level. -/
def Level.name : Level → String
  | .warn => "warn"
  | .debug => "debug"
  | .trace => "trace"

/-- The notice that a wait was dequeued. -/
def Wait.wokenNotice (wait : Wait α) : Notice :=
  .woke wait.key wait.waker

namespace Notice

/-- The task that a notice makes ready. -/
def wakes? : Notice → Option TaskId
  | .woke _ waker => waker
  | _ => none

/-- The error that a notice reports. -/
def raises? : Notice → Option BusError
  | .raised error => some error
  | _ => none

/-- The log line of a notice; a raised error is not logged. -/
def logLine? : Notice → Option (Level × String)
  | .opened handle capacity generation =>
    some (.debug, s!"open: channel {handle.display} capacity={capacity} generation={generation}")
  | .closed handle woken discarded =>
    some (.debug,
      s!"close: channel {handle.display} woke {woken} waiters, discarded {discarded} values")
  | .released slots => some (.debug, s!"delete: released {slots} slots")
  | .queued key => some (.trace, s!"park: entry {key} queued")
  | .woke key _ => some (.trace, s!"wake: entry {key}")
  | .handedOff handle => some (.trace, s!"send: handed off on channel {handle.display}")
  | .senderParked handle => some (.trace, s!"send: parked on channel {handle.display}")
  | .senderRetrying handle => some (.trace, s!"send: retrying on channel {handle.display}")
  | .tookOffer handle => some (.trace, s!"recv: took offer on channel {handle.display}")
  | .receiverParked handle => some (.trace, s!"recv: parked on channel {handle.display}")
  | .receiverRetrying handle => some (.trace, s!"recv: retrying on channel {handle.display}")
  | .broadcasterParked handle => some (.trace, s!"broadcast: parked on channel {handle.display}")
  | .wakeupPassedOn handle =>
    some (.trace, s!"broadcast: passed wakeup on channel {handle.display}")
  | .broadcastSent channels => some (.trace, s!"broadcast: sent to {channels} channels")
  | .deliveryLost key =>
    some (.warn,
      s!"parked entry {key} dropped after a value was delivered to it, value discarded")
  | .raised _ => none

end Notice

end ChannelBus
