import ChannelBus.Proofs.Seating
import ChannelBus.Proofs.Effects

/-!
# Where broadcasters gather

A broadcaster parks on the channel that stalls it, the lowest open one that cannot take its value.
Which one that is has nothing to do with the tasks that wait to send: a call that parks again as a
sender changes nothing but senders' queues, so the other broadcasters are stalled where they were.
-/

namespace ChannelBus

variable {α : Type}

/-- A channel with nobody waiting to send. -/
def Channel.sansSenders (channel : Channel α) : Channel α :=
  channel.setQueue .senders .new

namespace Bus

/-- Between two buses nothing changed on the open channels but who waits to send. -/
def SameButSenders (bus after : Bus α) : Prop :=
  (after.overOpen Channel.sansSenders).slots = (bus.overOpen Channel.sansSenders).slots

/-- A bus that did not change. -/
theorem SameButSenders.refl (bus : Bus α) : bus.SameButSenders bus := rfl

/-- One change after another. -/
theorem SameButSenders.trans {bus middle after : Bus α} (first : bus.SameButSenders middle)
    (second : middle.SameButSenders after) : bus.SameButSenders after :=
  Eq.trans second first

/-- The senders' queue of one channel was replaced, and perhaps something was counted. -/
theorem Becomes.sameButSenders {bus after : Bus α} {handle : Handle} {channel : Channel α}
    {queue : WaitQueue α} (here : bus.channel? handle = some channel)
    (becomes : bus.Becomes after handle (channel.setQueue .senders queue)) :
    bus.SameButSenders after := by
  obtain ⟨update, rfl⟩ := becomes
  have there : (bus.overOpen Channel.sansSenders).channel? handle = some channel.sansSenders := by
    rw [channel?_overOpen, here]
    rfl
  have still := congrArg Bus.slots (setChannel_self there)
  rw [SameButSenders, overOpen, slots_note, ← still]
  exact List.map_set

/-- The listed channels after each was changed in its place. -/
theorem openChannels_overOpen (bus : Bus α) (change : Channel α → Channel α) :
    (bus.overOpen change).openChannels =
      bus.openChannels.map fun (handle, channel) => (handle, change channel) := by
  simp only [openChannels, overOpen, List.zipIdx_map, List.filterMap_map, List.map_filterMap]
  congr 1
  funext entry
  obtain ⟨slot, id⟩ := entry
  cases slot <;> rfl

/-- What stalls a broadcast does not depend on who waits to send. -/
theorem SameButSenders.stall?_eq {bus after : Bus α} (same : bus.SameButSenders after) :
    after.stall? Channel.canAccept = bus.stall? Channel.canAccept := by
  have cleared : ∀ bus : Bus α,
      (bus.overOpen Channel.sansSenders).stall? Channel.canAccept =
        bus.stall? Channel.canAccept := by
    intro bus
    unfold stall? firstRefusal
    rw [openChannels_overOpen, List.find?_map, List.isEmpty_map]
    have ready : ((fun (entry : Handle × Channel α) => !entry.2.canAccept) ∘
        fun (entry : Handle × Channel α) => (entry.1, entry.2.sansSenders)) =
          fun (entry : Handle × Channel α) => !entry.2.canAccept := rfl
    rw [ready]
    cases bus.openChannels.find? fun entry => !entry.2.canAccept <;> rfl
  have bySlots : ∀ bus other : Bus α, bus.slots = other.slots →
      bus.stall? Channel.canAccept = other.stall? Channel.canAccept := by
    intro bus other equal
    unfold stall? firstRefusal openChannels
    rw [equal]
  rw [← cleared after, ← cleared bus]
  exact bySlots _ _ same

/-- A broadcaster parks on the channel that stalls it. -/
theorem stall?_of_parked {bus : Bus α} {value : α} {previous : Option (Handle × Nat)}
    {waker : TaskId} {suspended : Suspended α}
    (parks : (bus.broadcastTry value previous waker).result = .parked suspended) :
    bus.stall? Channel.canAccept =
      some (.refused suspended.ticket.handle suspended.ticket.generation) := by
  cases stalls : bus.stall? Channel.canAccept with
  | none =>
    simp [broadcastTry, broadcastOnce, stalls, Outcome.andThen, Outcome.map, unchanged] at parks
  | some stall =>
    simp only [broadcastTry, broadcastOnce, stalls, unchanged_andThen] at parks
    cases stall with
    | noChannel => contradiction
    | refused handle generation =>
      obtain ⟨rfl, rfl⟩ := (rings_standBy _ handle generation value waker).2 suspended parks
      rfl

/-- Settling a wakeup changes at most who waits to send. -/
theorem sameButSenders_settleWakeup (bus : Bus α) (previous : Option (Handle × Nat))
    (stall : Option Stall) : bus.SameButSenders (bus.settleWakeup previous stall).bus := by
  rcases bus.settleWakeup_cases previous stall with
    ⟨same, _⟩ | ⟨handle, generation, channel, _, _, pinned, billed⟩
  · rw [same]
    exact .refl bus
  · exact billed.becomes.sameButSenders (pinned?_eq_some_iff.mp pinned).1

/-- A sender or a broadcaster that parks changes at most who waits to send. -/
theorem Acts.sameButSenders {bus after : Bus α} {waker : TaskId} {call : Call α}
    {pin : Option Nat} {previous : Option (Handle × Nat)} {suspended : Suspended α}
    (acts : bus.Acts waker call pin previous (.parked suspended) after)
    (sender : call.side = .senders) : bus.SameButSenders after := by
  generalize parks : Progress.parked suspended = progress at acts
  cases acts with
  | failed error gone => contradiction
  | broadcast everywhere tried =>
    cases tried with
    | sent | noChannel => contradiction
    | stalled here unready settled still billed =>
      subst settled
      exact (bus.sameButSenders_settleWakeup previous _).trans (billed.becomes.sameButSenders still)
  | attempted named here pinned attempted =>
    obtain ⟨reply?, new, tried, billed, result⟩ := attempted
    have becomes := billed.becomes
    rw [result] at parks
    cases tried with
    | moved | handedOff | tookOffer => contradiction
    | offering => exact becomes.sameButSenders here
    | awaiting stuck wanted nothing =>
      cases call with
      | send | sendMany | broadcast => exact absurd rfl wanted
      | receive | receiveMany => contradiction

/-- Forgetting the wait of a sender changes at most who waits to send. -/
theorem sameButSenders_setTicketQueue (bus : Bus α) {ticket : Ticket}
    (sender : ticket.side = .senders) (queue : WaitQueue α) :
    bus.SameButSenders (bus.setTicketQueue ticket queue) := by
  unfold setTicketQueue
  cases pinned : bus.pinned? ticket.handle ticket.generation with
  | none => exact .refl bus
  | some channel =>
    have here := (pinned?_eq_some_iff.mp pinned).1
    rw [sender]
    have becomes : bus.Becomes (bus.setChannel ticket.handle (channel.setQueue .senders queue))
        ticket.handle (channel.setQueue .senders queue) := ⟨id, (note_id _).symm⟩
    exact becomes.sameButSenders here

/-- What a woken call that parks again as a sender leaves: it changed at most who waits to send, and
a broadcaster parks on the channel that stalls it. -/
theorem Houses.repark {bus : Bus α} {suspended again : Suspended α}
    (houses : bus.Houses suspended) (sound : bus.Sound)
    (dequeued : (bus.ticketQueue suspended.ticket).holds suspended.ticket.key = false)
    {waker : TaskId} (parks : (bus.resume suspended waker).result = .parked again)
    (sender : suspended.call.side = .senders) :
    bus.SameButSenders (bus.resume suspended waker).bus ∧
      (suspended.call.handle? = none → bus.stall? Channel.canAccept =
        some (.refused again.ticket.handle again.ticket.generation)) := by
  obtain ⟨parcel, held, finds⟩ := houses.parcel
  rw [resume_of_dequeued dequeued ((houses.parcel?_ticketQueue sound).trans held)] at parks ⊢
  have forgets : bus.SameButSenders (bus.setTicketQueue suspended.ticket
      ((bus.ticketQueue suspended.ticket).forget suspended.ticket.key)) :=
    bus.sameButSenders_setTicketQueue (houses.side.trans sender) _
  have unsettled : parcel.isSettled = false := by
    cases settled : suspended.call.settledReply parcel with
    | some reply =>
      rw [wakeUp_of_settled finds settled] at parks
      contradiction
    | none => exact Call.unsettled_of_settledReply settled
  have acts := acts_wakeUp (bus.setTicketQueue suspended.ticket
    ((bus.ticketQueue suspended.ticket).forget suspended.ticket.key)) finds unsettled
    houses.handle waker
  rw [parks] at acts
  refine ⟨forgets.trans (acts.sameButSenders sender), fun everywhere => ?_⟩
  obtain ⟨call, ticket⟩ := suspended
  obtain ⟨value, rfl⟩ := Call.eq_broadcast everywhere
  rw [wakeUp_broadcast] at parks
  rw [← forgets.stall?_eq]
  exact stall?_of_parked parks

end Bus

end ChannelBus
