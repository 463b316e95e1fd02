import ChannelBus.Bus.Call

/-!
# Requests that never wait

Everything that a bus can be asked for at once, as data: a step of a scheduler names a request and
gets an answer.
-/

namespace ChannelBus

variable {α : Type}

/-- A request that a bus answers at once. -/
inductive Request (α : Type) where
  /-- Open a channel. -/
  | openChannel (capacity : Nat)
  /-- Close a channel. -/
  | close (handle : Handle)
  /-- Close every channel and release the registry. -/
  | delete
  /-- Is a channel open? -/
  | isOpen (handle : Handle)
  /-- The capacity of a channel. -/
  | capacity (handle : Handle)
  /-- The number of buffered values. -/
  | length (handle : Handle)
  /-- The number of tasks queued on one side. -/
  | waiting (handle : Handle) (side : Side)
  /-- The number of open channels. -/
  | channelCount
  /-- The open channels. -/
  | handles
  /-- The counters. -/
  | stats
  /-- Send a value without waiting. -/
  | trySend (handle : Handle) (value : α)
  /-- Receive a value without waiting. -/
  | tryReceive (handle : Handle)
  /-- Send values without waiting. -/
  | trySendMany (handle : Handle) (values : List α)
  /-- Receive values without waiting. -/
  | tryReceiveMany (handle : Handle) (max : Nat)
  /-- Broadcast without waiting. -/
  | tryBroadcast (value : α)
deriving DecidableEq

/-- The answer to a request, to a call, or to a question about the error slot. -/
inductive Answer (α : Type) where
  /-- Nothing to tell. -/
  | done
  /-- The handle of a channel that was opened. -/
  | opened (handle : Handle)
  /-- Yes or no. -/
  | flag (value : Bool)
  /-- A number; absent for a handle without a channel. -/
  | number (value : Option Nat)
  /-- The open channels, ascending. -/
  | handles (handles : List Handle)
  /-- The counters. -/
  | stats (stats : Stats)
  /-- The error slot. -/
  | code (code : ErrorCode)
  /-- An error that was raised by hand. -/
  | raised (error : BusError)
  /-- The end of a transfer. -/
  | reply (reply : Reply α)

/-- Whether an answer reports the failure of a transfer. -/
def Answer.failed : Answer α → Bool
  | .reply transfer => transfer.error?.isSome
  | _ => false

/-- The outcome of a request: an answer, or the fault that ended it. -/
abbrev Answered (α : Type) := Except Fault (Answer α)

/-- Answers a request. -/
def Bus.perform [Stored α] (bus : Bus α) : Request α → Outcome α (Answered α)
  | .openChannel capacity => (bus.openChannel capacity).map (·.map .opened)
  | .close handle => (bus.close handle).map fun _ => .ok .done
  | .delete => bus.delete.map fun _ => .ok .done
  | .isOpen handle => bus.unchanged (.ok (.flag (bus.isOpen handle)))
  | .capacity handle => bus.unchanged (.ok (.number (bus.capacity handle)))
  | .length handle => bus.unchanged (.ok (.number (bus.length handle)))
  | .waiting handle side => bus.unchanged (.ok (.number (bus.waiting handle side)))
  | .channelCount => bus.unchanged (.ok (.number (some bus.channelCount)))
  | .handles => bus.unchanged (.ok (.handles bus.handles))
  | .stats => bus.unchanged (.ok (.stats bus.stats))
  | .trySend handle value => (bus.trySend handle value).map (.ok <| .reply <| .sent ·)
  | .tryReceive handle => (bus.tryReceive handle).map (.ok <| .reply <| .received ·)
  | .trySendMany handle values =>
    (bus.trySendMany handle values).map (.ok <| .reply <| .sentMany ·)
  | .tryReceiveMany handle max =>
    (bus.tryReceiveMany handle max).map (.ok <| .reply <| .receivedMany ·)
  | .tryBroadcast value => (bus.tryBroadcast value).map (.ok <| .reply <| .sent ·)

end ChannelBus
