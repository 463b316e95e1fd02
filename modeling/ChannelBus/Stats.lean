import ChannelBus.Error

/-!
# Running counters of a bus

The counters only grow. They are natural numbers: no run is long enough to exhaust a machine word.
-/

namespace ChannelBus

/-- What has happened on one bus so far. -/
structure Stats where
  /-- Channels opened. -/
  channelsOpened : Nat := 0
  /-- Channels closed. -/
  channelsClosed : Nat := 0
  /-- Values accepted from arriving senders. -/
  valuesSent : Nat := 0
  /-- Values given to arriving receivers. -/
  valuesReceived : Nat := 0
  /-- Calls parked on a wait queue. -/
  suspensions : Nat := 0
  /-- Waits dequeued by an operation of the bus. -/
  wakeups : Nat := 0
  /-- Attempts that would have blocked. -/
  wouldBlock : Nat := 0
  /-- Attempts on a channel that is not open. -/
  noChannel : Nat := 0
  /-- Attempts on a disabled operation. -/
  notImplemented : Nat := 0
deriving DecidableEq

namespace Stats

/-- Counts one failure by its kind. -/
def countError (stats : Stats) : BusError → Stats
  | .noChannel => { stats with noChannel := stats.noChannel + 1 }
  | .wouldBlock => { stats with wouldBlock := stats.wouldBlock + 1 }
  | .notImplemented => { stats with notImplemented := stats.notImplemented + 1 }

/-- Counts an opened channel. -/
def countOpened (stats : Stats) : Stats :=
  { stats with channelsOpened := stats.channelsOpened + 1 }

/-- Counts a closed channel and the waits that closing it woke. -/
def countClosed (stats : Stats) (woken : Nat) : Stats :=
  { stats with
    channelsClosed := stats.channelsClosed + 1
    wakeups := stats.wakeups + woken }

/-- Counts sent values and the waits woken by sending them. -/
def countSent (stats : Stats) (values woken : Nat) : Stats :=
  { stats with
    valuesSent := stats.valuesSent + values
    wakeups := stats.wakeups + woken }

/-- Counts received values and the waits woken by receiving them. -/
def countReceived (stats : Stats) (values woken : Nat) : Stats :=
  { stats with
    valuesReceived := stats.valuesReceived + values
    wakeups := stats.wakeups + woken }

/-- Counts a parked call and the waits woken while it parked. -/
def countSuspended (stats : Stats) (woken : Nat) : Stats :=
  { stats with
    suspensions := stats.suspensions + 1
    wakeups := stats.wakeups + woken }

/-- Counts wakeups alone. -/
def countWoken (stats : Stats) (woken : Nat) : Stats :=
  { stats with wakeups := stats.wakeups + woken }

/-- Every counter with the name that documents give it, in their order. -/
def entries (stats : Stats) : List (String × Nat) :=
  [("channels_opened", stats.channelsOpened),
   ("channels_closed", stats.channelsClosed),
   ("values_sent", stats.valuesSent),
   ("values_received", stats.valuesReceived),
   ("suspensions", stats.suspensions),
   ("wakeups", stats.wakeups),
   ("would_block", stats.wouldBlock),
   ("no_channel", stats.noChannel),
   ("not_implemented", stats.notImplemented)]

end Stats

end ChannelBus
