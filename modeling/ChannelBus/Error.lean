/-!
# Failures of bus operations

An operation fails for one of three reasons. The scheduler keeps the code of the most recent
failure in one slot shared by all of its tasks; a success leaves that slot untouched. A fault is
not a failure of the protocol between tasks: it ends the task that met it.
-/

namespace ChannelBus

/-- Why a bus operation failed. -/
inductive BusError where
  /-- The handle names no open channel, or its channel was closed while the caller was parked. -/
  | noChannel
  /-- A non-blocking operation cannot complete right now. -/
  | wouldBlock
  /-- The bus configuration disables the operation. -/
  | notImplemented
deriving DecidableEq

/-- What the scheduler-wide error slot holds. -/
inductive ErrorCode where
  /-- No operation has failed yet, or the slot was cleared. -/
  | clear
  /-- The last failure was a missing channel. -/
  | noChannel
  /-- The last failure was an operation that would have blocked. -/
  | wouldBlock
  /-- The last failure was a disabled operation. -/
  | notImplemented
deriving DecidableEq

/-- The code that an error leaves in the error slot. -/
def BusError.code : BusError → ErrorCode
  | .noChannel => .noChannel
  | .wouldBlock => .wouldBlock
  | .notImplemented => .notImplemented

/-- The sentence shown to a user for an error. -/
def BusError.message : BusError → String
  | .noChannel => "No such channel"
  | .wouldBlock => "Operation would block"
  | .notImplemented => "Not implemented"

/-- The short words shown for a code. -/
def ErrorCode.description : ErrorCode → String
  | .clear => "none"
  | .noChannel => "no channel"
  | .wouldBlock => "would block"
  | .notImplemented => "not implemented"

/-- All codes, in the order in which documents list them. -/
def ErrorCode.all : List ErrorCode :=
  [.clear, .noChannel, .wouldBlock, .notImplemented]

/-- The name that stands for a code in a document. -/
def ErrorCode.name : ErrorCode → String
  | .clear => "None"
  | .noChannel => "NoChannel"
  | .wouldBlock => "WouldBlock"
  | .notImplemented => "NotImplemented"

/-- The code with the given name. -/
def ErrorCode.ofName? (name : String) : Option ErrorCode :=
  ErrorCode.all.find? (·.name == name)

/-- What ends a task, or an attempt to build a bus, without an answer. -/
inductive Fault where
  /-- The memory asked for exceeds what one allocation may hold. -/
  | capacityOverflow
  /-- The request names a bus that does not exist. -/
  | unknownBus
deriving DecidableEq

/-- The text reported for a fault. -/
def Fault.message : Fault → String
  | .capacityOverflow => "capacity overflow"
  | .unknownBus => "unknown bus"

end ChannelBus
