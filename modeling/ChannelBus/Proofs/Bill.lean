import ChannelBus.Proofs.Registry
import Mathlib.Algebra.Order.Ring.Nat

/-!
# The bill of an operation

Every operation counts what it does on its own, after the fact, and some of what happens is counted
nowhere: a wait that leaves its queue because its task was dropped, a buffered value that is lost
when its channel is closed. The bill of an operation lists all of it, counted or not. `Bus.Pays`
says that the counters moved by the bill, and that the bill accounts for every wait, every buffered
value and every channel that the bus has more or less than before.
-/

namespace ChannelBus

variable {α : Type}

/-- What an operation did, in numbers. -/
structure Bill where
  /-- Channels opened. -/
  opened : Nat := 0
  /-- Channels closed. -/
  closed : Nat := 0
  /-- Values put into a buffer. -/
  accepted : Nat := 0
  /-- Values handed to a waiting receiver. -/
  given : Nat := 0
  /-- Values taken out of a buffer. -/
  released : Nat := 0
  /-- Values taken from a waiting sender. -/
  taken : Nat := 0
  /-- Buffered values lost; no counter tells. -/
  discarded : Nat := 0
  /-- Calls parked. -/
  parked : Nat := 0
  /-- Waits dequeued by the bus. -/
  woken : Nat := 0
  /-- Waits that left their queue because a task was dropped; no counter tells. -/
  left : Nat := 0
  /-- Attempts that would have blocked. -/
  blocked : Nat := 0
  /-- Attempts on a channel that is not open. -/
  missing : Nat := 0
  /-- Attempts on a disabled operation. -/
  disabled : Nat := 0

namespace Bill

/-- The counters after a bill. -/
def charge (bill : Bill) (stats : Stats) : Stats where
  channelsOpened := stats.channelsOpened + bill.opened
  channelsClosed := stats.channelsClosed + bill.closed
  valuesSent := stats.valuesSent + (bill.accepted + bill.given)
  valuesReceived := stats.valuesReceived + (bill.released + bill.taken)
  suspensions := stats.suspensions + bill.parked
  wakeups := stats.wakeups + bill.woken
  wouldBlock := stats.wouldBlock + bill.blocked
  noChannel := stats.noChannel + bill.missing
  notImplemented := stats.notImplemented + bill.disabled

/-- Two bills in one. -/
def plus (first second : Bill) : Bill where
  opened := first.opened + second.opened
  closed := first.closed + second.closed
  accepted := first.accepted + second.accepted
  given := first.given + second.given
  released := first.released + second.released
  taken := first.taken + second.taken
  discarded := first.discarded + second.discarded
  parked := first.parked + second.parked
  woken := first.woken + second.woken
  left := first.left + second.left
  blocked := first.blocked + second.blocked
  missing := first.missing + second.missing
  disabled := first.disabled + second.disabled

/-- The bill of a failure. -/
def ofError : BusError → Bill
  | .noChannel => { missing := 1 }
  | .wouldBlock => { blocked := 1 }
  | .notImplemented => { disabled := 1 }

/-- A failure counts itself and nothing else. -/
theorem charge_ofError (error : BusError) : (ofError error).charge = (·.countError error) := by
  cases error <;> rfl

/-- Two bills are charged one after the other. -/
theorem charge_plus (first second : Bill) (stats : Stats) :
    (first.plus second).charge stats = second.charge (first.charge stats) := by
  simp [charge, plus, Nat.add_assoc, Nat.add_left_comm]

/-- A bill that lists nothing but what a try of a call can do. -/
structure OfTry (bill : Bill) : Prop where
  /-- No channel was opened or closed. -/
  still : bill.opened = 0 ∧ bill.closed = 0
  /-- No value was lost. -/
  kept : bill.discarded = 0
  /-- No task was dropped. -/
  stays : bill.left = 0

/-- Two tries. -/
theorem OfTry.plus {first second : Bill} (left : first.OfTry) (right : second.OfTry) :
    (first.plus second).OfTry := by
  obtain ⟨⟨opened, closed⟩, kept, stays⟩ := left
  obtain ⟨⟨openedToo, closedToo⟩, keptToo, staysToo⟩ := right
  refine ⟨⟨?_, ?_⟩, ?_, ?_⟩ <;> simp [Bill.plus, *]

/-- A bill that a try of a call can run up on a channel of this capacity. A rendezvous channel
buffers nothing, any other lets no value past its buffer, and an attempt that would have blocked is
followed by one transfer or one park. -/
structure Fits (bill : Bill) (capacity : Nat) : Prop extends bill.OfTry where
  /-- The call was enabled. -/
  enabled : bill.disabled = 0
  /-- Whoever would have blocked met somebody or parked. -/
  blocked : bill.blocked = bill.parked + bill.given + bill.taken
  /-- A rendezvous channel buffers nothing. -/
  met : capacity = 0 → bill.accepted = 0 ∧ bill.released = 0
  /-- Nobody meets on a channel with a buffer. -/
  stored : capacity ≠ 0 → bill.given = 0 ∧ bill.taken = 0

/-- A bill that lists nothing. -/
theorem Fits.nothing {capacity : Nat} : ({} : Bill).Fits capacity :=
  ⟨⟨⟨rfl, rfl⟩, rfl, rfl⟩, rfl, rfl, fun _ => ⟨rfl, rfl⟩, fun _ => ⟨rfl, rfl⟩⟩

/-- How many values have come out of channels. -/
def delivered (bill : Bill) : Nat :=
  bill.released + bill.given + bill.taken

end Bill

/-- How many waits are queued on a channel. -/
def Channel.queued (channel : Channel α) : Nat :=
  (channel.queue .senders).length + (channel.queue .receivers).length

/-- A bill that accounts for what became of a channel. -/
structure Channel.Settles (channel after : Channel α) (bill : Bill) : Prop where
  /-- Every wait that came or went is on the bill. -/
  queued : after.queued + bill.woken + bill.left = channel.queued + bill.parked
  /-- Every value that came or went is on the bill. -/
  buffered : after.length + bill.released + bill.discarded = channel.length + bill.accepted
  /-- No channel was opened or closed. -/
  still : bill.opened = 0 ∧ bill.closed = 0

namespace Bus

/-! ## Totals over the open channels -/

/-- A total over all open channels. -/
def total (bus : Bus α) (measure : Channel α → Nat) : Nat :=
  (bus.openChannels.map fun (_, channel) => measure channel).sum

/-- How many waits are queued on open channels. -/
def queued (bus : Bus α) : Nat :=
  bus.total Channel.queued

/-- How many values are buffered in open channels. -/
def buffered (bus : Bus α) : Nat :=
  bus.total Channel.length

section Totals

variable {bus after : Bus α} (measure : Channel α → Nat)

/-- A total is taken over the slots. -/
theorem total_eq (bus : Bus α) :
    bus.total measure = ((bus.slots.filterMap id).map measure).sum := by
  rw [total, ← map_openChannels, List.map_map]
  rfl

/-- The open channels are a total themselves. -/
theorem channelCount_eq (bus : Bus α) : bus.channelCount = bus.total fun _ => 1 := by
  simp [channelCount, total, List.map_const']

/-- Totals depend on the slots alone. -/
theorem total_of_slots (same : after.slots = bus.slots) :
    after.total measure = bus.total measure := by
  rw [total_eq, total_eq, same]

/-- Counting keeps all totals. -/
@[simp] theorem total_note (bus : Bus α) (update : Stats → Stats) :
    (bus.note update).total measure = bus.total measure :=
  total_of_slots measure (bus.slots_note update)

/-- Freeing a slot takes the share of its channel. -/
theorem total_free {handle : Handle} {channel : Channel α}
    (here : bus.channel? handle = some channel)
    (freed : after.slots = bus.slots.set handle.id none) :
    after.total measure + measure channel = bus.total measure := by
  have split := ((slots_split (channel?_eq_some_iff.mp here)).map measure).sum_nat
  rw [List.map_cons, List.sum_cons] at split
  rw [total_eq, total_eq, freed, split, Nat.add_comm]

/-- Replacing a channel replaces its share. -/
theorem total_setChannel {handle : Handle} {channel : Channel α}
    (here : bus.channel? handle = some channel) (new : Channel α) :
    (bus.setChannel handle new).total measure + measure channel =
      bus.total measure + measure new := by
  have replaced : (bus.setChannel handle new).channel? handle = some new := by
    simp [channel?_setChannel here]
  let freed : Bus α := { bus with slots := bus.slots.set handle.id none }
  have before : freed.total measure + measure channel = bus.total measure :=
    total_free measure here rfl
  have since : freed.total measure + measure new = (bus.setChannel handle new).total measure :=
    total_free measure replaced (by simp [freed, setChannel])
  omega

end Totals

/-! ## Paying a bill -/

/-- A bill that accounts for everything that became of a bus. -/
structure Pays (bus after : Bus α) (bill : Bill) : Prop where
  /-- The settings are the same. -/
  config : after.config = bus.config
  /-- The counters moved by the bill, if they are kept. -/
  stats : after.stats = (bus.note bill.charge).stats
  /-- Every queued wait that came or went is on the bill. -/
  queued : after.queued + bill.woken + bill.left = bus.queued + bill.parked
  /-- Every buffered value that came or went is on the bill. -/
  buffered : after.buffered + bill.released + bill.discarded = bus.buffered + bill.accepted
  /-- Every open channel that came or went is on the bill. -/
  channels : after.channelCount + bill.closed = bus.channelCount + bill.opened

section Paying

variable {bus middle after : Bus α} {first second bill : Bill}

/-- The counters after a bill was paid. -/
theorem Pays.counted (pays : bus.Pays after bill) (telemetry : bus.config.telemetry = true) :
    after.stats = bill.charge bus.stats := by
  rw [pays.stats, note, if_pos telemetry]

/-- One bill after another. -/
theorem Pays.trans (left : bus.Pays middle first) (right : middle.Pays after second) :
    bus.Pays after (first.plus second) := by
  refine ⟨right.config.trans left.config, ?_, ?_, ?_, ?_⟩
  · have sameStats := left.stats
    have sameConfig := left.config
    rw [right.stats]
    unfold note at *
    rw [sameConfig]
    split
    case isTrue telemetry =>
      rw [if_pos telemetry] at sameStats
      simp only [sameStats, Bill.charge_plus]
    case isFalse telemetry =>
      rw [if_neg telemetry] at sameStats
      exact sameStats
  · have earlier := left.queued
    have later := right.queued
    simp only [Bill.plus]
    omega
  · have earlier := left.buffered
    have later := right.buffered
    simp only [Bill.plus]
    omega
  · have earlier := left.channels
    have later := right.channels
    simp only [Bill.plus]
    omega

/-- Counting depends on the settings and the counters alone. -/
theorem stats_note_congr (config : after.config = bus.config) (stats : after.stats = bus.stats)
    (update : Stats → Stats) : (after.note update).stats = (bus.note update).stats := by
  unfold note
  rw [config, stats]
  split
  · rfl
  · exact stats

/-- A bus whose open channels and counters stay as they are owes nothing. -/
theorem pays_nothing (config : after.config = bus.config) (stats : after.stats = bus.stats)
    (slots : after.slots = bus.slots) : bus.Pays after {} := by
  refine ⟨config, ?_, total_of_slots _ slots, total_of_slots _ slots, ?_⟩
  · rw [stats, note]
    split <;> rfl
  · rw [channelCount_eq, channelCount_eq, total_of_slots _ slots]

/-- A failure pays for itself. -/
theorem pays_countError (bus : Bus α) (error : BusError) :
    bus.Pays (bus.note (·.countError error)) (.ofError error) := by
  refine ⟨by simp, by rw [Bill.charge_ofError], ?_, ?_, ?_⟩
  · cases error <;> simp [queued, Bill.ofError]
  · cases error <;> simp [buffered, Bill.ofError]
  · cases error <;> simp [channelCount_eq, Bill.ofError]

/-- Between two buses one channel was replaced and a bill was charged. -/
def Billed (bus after : Bus α) (handle : Handle) (channel : Channel α) (bill : Bill) : Prop :=
  after = (bus.setChannel handle channel).note bill.charge

/-- A bill that accounts for what became of the one channel that was replaced is paid. -/
theorem Billed.pays {handle : Handle} {channel new : Channel α}
    (billed : bus.Billed after handle new bill) (here : bus.channel? handle = some channel)
    (settles : channel.Settles new bill) : bus.Pays after bill := by
  obtain ⟨queues, buffers, opened, closed⟩ := settles
  subst billed
  refine ⟨by simp [setChannel], ?_, ?_, ?_, ?_⟩
  · exact stats_note_congr (by rfl) (by rfl) _
  · have replaced := total_setChannel Channel.queued here new
    simp only [queued, total_note]
    omega
  · have replaced := total_setChannel Channel.length here new
    simp only [buffered, total_note]
    omega
  · have replaced := total_setChannel (fun _ => 1) here new
    simp only [channelCount_eq, total_note, opened, closed]
    omega

end Paying

end Bus

end ChannelBus
