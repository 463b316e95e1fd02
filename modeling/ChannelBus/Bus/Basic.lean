import ChannelBus.Channel
import ChannelBus.Config
import ChannelBus.Notice
import ChannelBus.Stats

/-!
# The registry of channels

A bus is a list of slots, each free or holding an open channel. Opening a channel takes the lowest
free slot and a generation number that no channel of the bus had before; closing it frees the slot.
Generations are natural numbers: they count the channels opened, and no run is long enough to
exhaust a machine word.

A task may still owe a poll to a channel that was closed under it: the waits woken by the closing
keep their parcels until their tasks resume or are dropped. Such channels are kept, empty and out of
reach of every handle, in `retired`.

An operation takes a bus and answers with an `Outcome`: its result, the bus that it leaves, and the
notices of what it did.
-/

namespace ChannelBus

variable {α β γ : Type}

/-- How many bytes of a buffer one value takes. -/
class Stored (α : Type) where
  /-- Bytes for one value. -/
  bytes : Nat

/-- A number of 32 bits takes four bytes. -/
instance : Stored UInt32 := ⟨4⟩

/-- The descriptor of a text takes twenty-four bytes, whatever the text. -/
instance : Stored String := ⟨24⟩

/-- The most bytes that one allocation may hold, `2 ^ 63 - 1`. -/
def allocationLimit : Nat := 0x7FFFFFFFFFFFFFFF

/-- Bytes of one registry slot, reserved when a bus is created. -/
def slotBytes : Nat := 64

/-- Whether a buffer for `capacity` values can be allocated. -/
def bufferFits (α : Type) [Stored α] (capacity : Nat) : Bool :=
  capacity * Stored.bytes α ≤ allocationLimit

/-- A registry of channels. -/
structure Bus (α : Type) where
  /-- The settings, fixed at creation. -/
  config : Config
  /-- The registry: a free slot, or an open channel whose handle is the slot's position. -/
  slots : List (Option (Channel α))
  /-- Closed channels, the latest last. -/
  retired : List (Channel α)
  /-- The generation of the next channel, which is the number of channels opened so far. -/
  nextGeneration : Nat
  /-- Counters, which stay zero when telemetry is off. -/
  stats : Stats
deriving DecidableEq

/-- What one operation leaves. -/
structure Outcome (α β : Type) where
  /-- The answer to the caller. -/
  result : β
  /-- The bus afterwards. -/
  bus : Bus α
  /-- What happened, in order. -/
  notices : List Notice

/-- The answer of an operation that may fail. -/
abbrev Result (β : Type) := Except BusError β

namespace Outcome

/-- Changes the answer. -/
def map (change : β → γ) (outcome : Outcome α β) : Outcome α γ :=
  { outcome with result := change outcome.result }

/-- Goes on with another operation; its notices follow. -/
def andThen (outcome : Outcome α β) (next : β → Bus α → Outcome α γ) : Outcome α γ :=
  let following := next outcome.result outcome.bus
  { following with notices := outcome.notices ++ following.notices }

/-- Puts notices before those of the operation. -/
def after (notices : List Notice) (outcome : Outcome α β) : Outcome α β :=
  { outcome with notices := notices ++ outcome.notices }

end Outcome

namespace Bus

/-- A bus without channels. -/
def new (config : Config) : Bus α :=
  { config, slots := [], retired := [], nextGeneration := 0, stats := {} }

/-- A bus without channels, unless its registry cannot be reserved. -/
def create (config : Config) : Except Fault (Bus α) :=
  if config.initialSlots * slotBytes ≤ allocationLimit then .ok (.new config)
  else .error .capacityOverflow

/-- Updates the counters if telemetry is on. -/
def note (bus : Bus α) (update : Stats → Stats) : Bus α :=
  if bus.config.telemetry then { bus with stats := update bus.stats } else bus

/-- Counting keeps the settings. -/
@[simp] theorem config_note (bus : Bus α) (update : Stats → Stats) :
    (bus.note update).config = bus.config := by
  unfold note; split <;> rfl

/-- Counting keeps the registry. -/
@[simp] theorem slots_note (bus : Bus α) (update : Stats → Stats) :
    (bus.note update).slots = bus.slots := by
  unfold note; split <;> rfl

/-- Counting keeps the closed channels. -/
@[simp] theorem retired_note (bus : Bus α) (update : Stats → Stats) :
    (bus.note update).retired = bus.retired := by
  unfold note; split <;> rfl

/-- Counting uses up no generation. -/
@[simp] theorem nextGeneration_note (bus : Bus α) (update : Stats → Stats) :
    (bus.note update).nextGeneration = bus.nextGeneration := by
  unfold note; split <;> rfl

/-- Answers with a failure, counting and raising it. -/
def fail (bus : Bus α) (error : BusError) : Outcome α (Result β) :=
  { result := .error error, bus := bus.note (·.countError error), notices := [.raised error] }

/-- Answers without having done anything. -/
def unchanged (bus : Bus α) (result : β) : Outcome α β :=
  { result, bus, notices := [] }

/-! ## Looking up channels -/

/-- The channel open under a handle. -/
def channel? (bus : Bus α) (handle : Handle) : Option (Channel α) :=
  (bus.slots[handle.id]?).join

/-- Counting keeps every open channel. -/
@[simp] theorem channel?_note (bus : Bus α) (update : Stats → Stats) (handle : Handle) :
    (bus.note update).channel? handle = bus.channel? handle := by
  simp [channel?]

/-- The channel open under a handle, if it is of this generation. -/
def pinned? (bus : Bus α) (handle : Handle) (generation : Nat) : Option (Channel α) :=
  (bus.channel? handle).filter (·.generation == generation)

/-- The channel open under a handle, of the wanted generation if one is given. -/
def lookup (bus : Bus α) (handle : Handle) : Option Nat → Option (Channel α)
  | none => bus.channel? handle
  | some generation => bus.pinned? handle generation

/-- Replaces the channel in a slot. -/
def setChannel (bus : Bus α) (handle : Handle) (channel : Channel α) : Bus α :=
  { bus with slots := bus.slots.set handle.id (some channel) }

/-- Every open channel with its handle, in ascending order. -/
def openChannels (bus : Bus α) : List (Handle × Channel α) :=
  bus.slots.zipIdx.filterMap fun (slot, id) => slot.map fun channel => (⟨id⟩, channel)

/-- The handles of the open channels, in ascending order. -/
def handles (bus : Bus α) : List Handle :=
  bus.openChannels.map (·.1)

/-! ## Opening and closing -/

/-- Puts a channel into the lowest free slot, or into a new one at the end. Answers with the
position of the slot. -/
def occupy (channel : Channel α) : List (Option (Channel α)) → Nat × List (Option (Channel α))
  | [] => (0, [some channel])
  | none :: rest => (0, some channel :: rest)
  | some other :: rest =>
    let (id, slots) := occupy channel rest
    (id + 1, some other :: slots)

/-- Opens an empty channel. The generation number is used up even if the buffer cannot be
allocated. -/
def openChannel [Stored α] (bus : Bus α) (capacity : Nat) : Outcome α (Except Fault Handle) :=
  let generation := bus.nextGeneration
  let bus := { bus with nextGeneration := generation + 1 }
  if bufferFits α capacity then
    let (id, slots) := occupy (.new capacity generation) bus.slots
    { result := .ok ⟨id⟩
      bus := { bus with slots }.note (·.countOpened)
      notices := [.opened ⟨id⟩ capacity generation] }
  else bus.unchanged (.error .capacityOverflow)

/-- Closes the channel of a handle: its slot becomes free, everyone parked on it is woken and the
buffered values are lost. A handle without a channel is ignored. -/
def close (bus : Bus α) (handle : Handle) : Outcome α Unit :=
  match bus.channel? handle with
  | none => bus.unchanged ()
  | some channel =>
    let woken := channel.everyone
    let closed := { channel.wakeAll with buffer := [] }
    let bus := { bus with
      slots := bus.slots.set handle.id none
      retired := bus.retired ++ [closed] }
    { result := ()
      bus := bus.note (·.countClosed woken.length)
      notices := woken.map (·.wokenNotice) ++ [.closed handle woken.length channel.length] }

/-- Closes the channels of several handles, one after the other. -/
def closeAll (bus : Bus α) : List Handle → Outcome α Unit
  | [] => bus.unchanged ()
  | handle :: rest => (bus.close handle).andThen fun _ bus => bus.closeAll rest

/-- Closes every channel and releases the registry. -/
def delete (bus : Bus α) : Outcome α Unit :=
  let slots := bus.slots.length
  (bus.closeAll ((List.range slots).map Handle.mk)).andThen fun _ bus =>
    { result := ()
      bus := { bus with slots := [] }
      notices := if slots = 0 then [] else [.released slots] }

/-! ## Inspection -/

/-- Whether a channel is open under the handle. -/
def isOpen (bus : Bus α) (handle : Handle) : Bool :=
  (bus.channel? handle).isSome

/-- The capacity of an open channel. -/
def capacity (bus : Bus α) (handle : Handle) : Option Nat :=
  (bus.channel? handle).map (·.capacity)

/-- How many values an open channel has buffered. -/
def length (bus : Bus α) (handle : Handle) : Option Nat :=
  (bus.channel? handle).map (·.length)

/-- How many tasks are queued on one side of an open channel. -/
def waiting (bus : Bus α) (handle : Handle) (side : Side) : Option Nat :=
  (bus.channel? handle).map fun channel => (channel.queue side).length

/-- How many channels are open. -/
def channelCount (bus : Bus α) : Nat :=
  bus.openChannels.length

end Bus

end ChannelBus
