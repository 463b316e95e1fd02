import ChannelBus.Proofs.Payments
import ChannelBus.Workload.Run

/-!
# The tally of a workload

The counters of the bus of a workload are compared with what its workers have got done. What a call
can run up on its bill is limited by the capacity of the channel: with a buffer, every message is
counted when it enters the buffer and when it leaves it; without one, it is counted once, by
whichever of the two workers comes second. Every attempt that would have blocked ends in one such
meeting or in one park, and every park in one wakeup unless the call is still queued.
-/

namespace ChannelBus

variable {α : Type}

namespace Bus

/-- A bill was paid that a call can run up on a channel of this capacity. -/
structure Charges (bus after : Bus α) (capacity : Nat) (bill : Bill) : Prop where
  /-- It was paid. -/
  pays : bus.Pays after bill
  /-- It fits the capacity. -/
  fits : bill.Fits capacity

/-- A bus on which one channel was opened, with what its counters say about the calls that found no
channel. -/
structure Attended (bus : Bus α) (opened : Bool) (refused : Nat) : Prop where
  /-- One channel was opened. -/
  one : bus.stats.channelsOpened = 1
  /-- It may have been closed. -/
  closed : bus.stats.channelsClosed = if opened then 0 else 1
  /-- No other channel is open. -/
  channels : bus.channelCount = if opened then 1 else 0
  /-- Every call was enabled. -/
  enabled : bus.stats.notImplemented = 0
  /-- So many calls found no channel. -/
  missed : bus.stats.noChannel = refused

/-- What the counters of a bus say once so many values have come out of a channel of this
capacity. -/
structure Tallied (bus : Bus α) (capacity delivered : Nat) : Prop where
  /-- Every call that parked was woken or is queued. -/
  waits : bus.stats.suspensions = bus.stats.wakeups + bus.queued
  /-- With a buffer, values are counted at both its ends, and whoever would have blocked parked. -/
  stored : capacity ≠ 0 → bus.stats.valuesSent = delivered + bus.buffered ∧
    bus.stats.valuesReceived = delivered ∧ bus.stats.wouldBlock = bus.stats.suspensions
  /-- Without one, values are counted once, and whoever would have blocked met another or parked. -/
  met : capacity = 0 → bus.stats.valuesSent + bus.stats.valuesReceived = delivered ∧
    bus.stats.wouldBlock = bus.stats.suspensions + delivered

section Paying

variable {bus after : Bus α} {bill : Bill} {opened : Bool} {capacity delivered refused : Nat}

/-- Nothing was done. -/
theorem charges_self (bus : Bus α) (capacity : Nat) : bus.Charges bus capacity {} :=
  ⟨pays_nothing rfl rfl rfl, .nothing⟩

/-- A woken wait was forgotten. -/
theorem Sound.charges_forget (sound : bus.Sound) (ticket : Ticket) (key capacity : Nat) :
    bus.Charges (bus.setTicketQueue ticket ((bus.ticketQueue ticket).forget key)) capacity {} :=
  ⟨sound.pays_forget ticket key, .nothing⟩

/-- A call found no channel. -/
theorem charges_noChannel (bus : Bus α) (capacity : Nat) :
    bus.Charges (bus.note (·.countError .noChannel)) capacity { missing := 1 } :=
  ⟨bus.pays_countError .noChannel, ⟨⟨rfl, rfl⟩, rfl, rfl⟩, rfl, rfl, fun _ => ⟨rfl, rfl⟩,
    fun _ => ⟨rfl, rfl⟩⟩

/-- A call was tried on an open channel. -/
theorem Attempted.charges {handle : Handle} {channel : Channel α} {waker : TaskId}
    {call : Call α} {outcome : Outcome α (Progress α)}
    (attempted : bus.Attempted handle channel waker call outcome)
    (here : bus.channel? handle = some channel) (sound : bus.Sound) :
    bus.Charges outcome.bus channel.capacity (channel.bill call) :=
  ⟨attempted.pays here, (sound.of_channel? here).fits_bill call⟩

/-- A new bus on which a channel was opened. -/
theorem tallied_of_open {config : Config} (telemetry : config.telemetry = true)
    (pays : (Bus.new config : Bus α).Pays after { opened := 1 }) (capacity : Nat) :
    after.Attended true 0 ∧ after.Tallied capacity 0 := by
  have stats := pays.counted telemetry
  have queued : after.queued = 0 := pays.queued
  have buffered : after.buffered = 0 := pays.buffered
  have channels : after.channelCount = 1 := pays.channels
  constructor
  · refine ⟨?_, ?_, channels, ?_, ?_⟩ <;> rw [stats] <;> rfl
  · constructor <;> rw [stats]
    · rw [queued]
      rfl
    · rw [buffered]
      exact fun _ => ⟨rfl, rfl, rfl⟩
    · exact fun _ => ⟨rfl, rfl⟩

/-- A call neither opens nor closes a channel, and is counted if it finds none. -/
theorem Charges.attended (charges : bus.Charges after capacity bill)
    (attended : bus.config.telemetry = true → bus.Attended opened refused)
    (telemetry : after.config.telemetry = true) :
    after.Attended opened (refused + bill.missing) := by
  obtain ⟨pays, fits⟩ := charges
  rw [pays.config] at telemetry
  have attended := attended telemetry
  have stats := pays.counted telemetry
  obtain ⟨openedNone, closedNone⟩ := fits.still
  have channels := pays.channels
  rw [openedNone, closedNone] at channels
  constructor
  · rw [stats, ← attended.one, Bill.charge, openedNone]
    rfl
  · rw [stats, ← attended.closed, Bill.charge, closedNone]
    rfl
  · rw [← attended.channels]
    exact channels
  · rw [stats, ← attended.enabled, Bill.charge, fits.enabled]
    rfl
  · rw [stats, ← attended.missed]
    rfl

/-- The channel is closed. -/
theorem Attended.close {woken : Nat} (attended : bus.Attended true refused)
    (pays : bus.Pays after { closed := 1, woken }) (telemetry : bus.config.telemetry = true) :
    after.Attended false refused := by
  obtain ⟨opened, closed, channels, enabled, found⟩ := attended
  have stats := pays.counted telemetry
  have fewer : after.channelCount + 1 = bus.channelCount := pays.channels
  rw [channels] at fewer
  refine ⟨?_, ?_, Nat.succ.inj fewer, ?_, ?_⟩
  · rw [stats]
    exact opened
  · rw [stats, Bill.charge, closed]
    rfl
  · rw [stats]
    exact enabled
  · rw [stats]
    exact found

/-- A call that fits the capacity is tallied. -/
theorem Charges.tallied (charges : bus.Charges after capacity bill)
    (tallied : bus.config.telemetry = true → bus.Tallied capacity delivered)
    (telemetry : after.config.telemetry = true) :
    after.Tallied capacity (delivered + bill.delivered) := by
  obtain ⟨pays, fits⟩ := charges
  rw [pays.config] at telemetry
  have tallied := tallied telemetry
  have stats := pays.counted telemetry
  have queued := pays.queued
  have buffered := pays.buffered
  have waits := tallied.waits
  have blocked := fits.blocked
  rw [fits.stays] at queued
  rw [fits.kept] at buffered
  constructor
  · rw [stats]
    simp only [Bill.charge]
    omega
  · intro some
    obtain ⟨sent, received, parked⟩ := tallied.stored some
    obtain ⟨given, taken⟩ := fits.stored some
    rw [stats]
    simp only [Bill.charge, Bill.delivered]
    omega
  · intro none
    obtain ⟨counted, met⟩ := tallied.met none
    obtain ⟨accepted, released⟩ := fits.met none
    rw [stats]
    simp only [Bill.charge, Bill.delivered]
    omega

/-- Closing wakes whoever is queued, and loses nothing if nothing is buffered. -/
theorem Tallied.close {closed woken : Nat} (tallied : bus.Tallied capacity delivered)
    (pays : bus.Pays after { closed, woken }) (telemetry : bus.config.telemetry = true) :
    after.Tallied capacity delivered := by
  have stats := pays.counted telemetry
  have queued : after.queued + woken = bus.queued := pays.queued
  have buffered : after.buffered = bus.buffered := pays.buffered
  have waits := tallied.waits
  constructor
  · rw [stats]
    simp only [Bill.charge]
    omega
  · rw [stats, buffered]
    exact tallied.stored
  · rw [stats]
    exact tallied.met

end Paying

end Bus

/-- What the counters say about a workload that has done what it was for. -/
structure Workload.Balanced (workload : Workload) (stats : Stats) : Prop where
  /-- One channel was opened. -/
  opened : stats.channelsOpened = 1
  /-- It was closed. -/
  closed : stats.channelsClosed = 1
  /-- No operation was disabled. -/
  enabled : stats.notImplemented = 0
  /-- Each consumer found the channel closed once. -/
  refused : stats.noChannel = workload.consumers
  /-- Every call that parked was woken. -/
  waits : stats.suspensions = stats.wakeups
  /-- With a buffer, every message was counted at both its ends, and whoever would have blocked
  parked. -/
  stored : 0 < workload.capacity → stats.valuesSent = workload.expected ∧
    stats.valuesReceived = workload.expected ∧ stats.wouldBlock = stats.suspensions
  /-- Without one, every message was counted once, by the worker that met another one that had
  parked. -/
  met : workload.capacity = 0 → stats.valuesSent + stats.valuesReceived = workload.expected ∧
    stats.wouldBlock = stats.suspensions + workload.expected

/-- Once the channel is closed, everything was delivered and each consumer has been refused, the
counters are those of a workload that has done what it was for. -/
theorem Workload.balanced_of_tallied {workload : Workload} {bus : Bus α}
    (attended : bus.Attended false workload.consumers)
    (tallied : bus.Tallied workload.capacity workload.expected) : workload.Balanced bus.stats := by
  have none : bus.openChannels = [] := List.eq_nil_of_length_eq_zero attended.channels
  have queued : bus.queued = 0 := by rw [Bus.queued, Bus.total, none]; rfl
  have buffered : bus.buffered = 0 := by rw [Bus.buffered, Bus.total, none]; rfl
  have waits := tallied.waits
  rw [queued] at waits
  refine ⟨attended.one, attended.closed, attended.enabled, attended.missed, waits, ?_, ?_⟩
  · intro some
    have stored := tallied.stored (Nat.ne_of_gt some)
    rwa [buffered] at stored
  · exact tallied.met

end ChannelBus
