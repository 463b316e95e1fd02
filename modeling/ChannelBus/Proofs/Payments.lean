import ChannelBus.Proofs.Effects
import ChannelBus.Proofs.Seating

/-!
# Every operation pays its bill

Each operation of a bus is shown to move the counters by exactly what it did. A wait that leaves its
queue is counted once: as a wakeup, or not at all if its task was dropped. A value is counted where
it enters a buffer and where it comes out of one; on a rendezvous channel it is counted once, on the
side of the call that arrives.
-/

namespace ChannelBus

variable {α : Type}

namespace Channel

/-- Every queued wait has its seat. -/
theorem length_roster (channel : Channel α) : channel.roster.length = channel.queued := by
  simp [roster, seats, queued, WaitQueue.length]

/-- Handing a value over does not touch the buffer. -/
theorem buffer_handOff {channel after : Channel α} {value : α} {served : Wait α}
    (handed : channel.handOff value = some (served, after)) : after.buffer = channel.buffer := by
  unfold handOff at handed
  split at handed
  case isFalse => contradiction
  case isTrue =>
    simp only [Option.map_eq_some_iff, Prod.mk.injEq] at handed
    obtain ⟨_, _, _, rfl⟩ := handed
    exact channel.buffer_setQueue _ _

/-- Taking an offer does not touch the buffer. -/
theorem buffer_takeOffer {channel after : Channel α} {value : α} {settled : Wait α}
    (taken : channel.takeOffer = some (value, settled, after)) : after.buffer = channel.buffer := by
  obtain ⟨_, _, _, _, _, _, _, _, rfl⟩ := Sound.takeOffer_eq_some taken
  exact channel.buffer_setQueue _ _

/-- Accepting values wakes receivers. -/
theorem queued_acceptMany (channel : Channel α) (values : List α) :
    (channel.acceptMany values).2.queued + (channel.acceptMany values).1.length =
      channel.queued := by
  have moved := (channel.roster_acceptMany values).length_eq
  simp only [List.length_append, List.length_map, length_roster] at moved
  omega

/-- Releasing values wakes senders. -/
theorem queued_releaseMany (channel : Channel α) (max : Nat) :
    (channel.releaseMany max).2.queued + (channel.releaseMany max).1.length = channel.queued := by
  have moved := (channel.roster_releaseMany max).length_eq
  simp only [List.length_append, List.length_map, length_roster] at moved
  omega

/-- Handing a value over wakes one receiver. -/
theorem queued_handOff {channel after : Channel α} {value : α} {served : Wait α}
    (handed : channel.handOff value = some (served, after)) :
    after.queued + 1 = channel.queued := by
  have moved := (roster_handOff handed).length_eq
  simpa [length_roster] using moved.symm

/-- Taking an offer wakes one sender. -/
theorem queued_takeOffer {channel after : Channel α} {value : α} {settled : Wait α}
    (taken : channel.takeOffer = some (value, settled, after)) :
    after.queued + 1 = channel.queued := by
  have moved := (roster_takeOffer taken).length_eq
  simpa [length_roster] using moved.symm

/-- Giving a value wakes those who get it. -/
theorem queued_give (channel : Channel α) (value : α) :
    (channel.give value).2.queued + (channel.give value).1.length = channel.queued := by
  have moved := (channel.roster_give value).length_eq
  simp only [List.length_append, List.length_map, length_roster] at moved
  omega

/-- A given value goes into the buffer exactly if there is room. -/
theorem length_give (channel : Channel α) (value : α) :
    (channel.give value).2.length = channel.length + if channel.isFull then 0 else 1 := by
  unfold give
  rw [accept_eq]
  cases full : channel.isFull with
  | false => simp [length, fitting_singleton full]
  | true =>
    cases handed : channel.handOff value with
    | none => rfl
    | some outcome => exact congrArg List.length (buffer_handOff handed)

/-- Parking adds one wait. -/
theorem queued_park (channel : Channel α) (side : Side) (parcel : Parcel α)
    (waker : Option TaskId) : (channel.park side parcel waker).queued = channel.queued + 1 := by
  have moved := (channel.roster_park side parcel waker).length_eq
  simpa [length_roster] using moved.symm

/-- Waking removes the waits at the front. -/
theorem queued_wake (channel : Channel α) (side : Side) (count : Nat) :
    (channel.wake side count).queued + (channel.front side count).length = channel.queued := by
  have moved := (channel.roster_wake side count).length_eq
  simp only [List.length_append, List.length_map, length_roster] at moved
  omega

/-- A rendezvous channel is full, and nothing comes out of its buffer. -/
theorem Sound.buffer_of_capacity {channel : Channel α} (sound : channel.Sound)
    (rendezvous : channel.capacity = 0) :
    channel.isFull = true ∧ ∀ max, channel.oldest max = [] := by
  refine ⟨by simp [isFull, rendezvous], fun max => ?_⟩
  simp [oldest, sound.buffer_eq_nil (by simp [isRendezvous, rendezvous])]

/-- The bill of a call fits the capacity of the channel. -/
theorem Sound.fits_bill {channel : Channel α} (sound : channel.Sound) (call : Call α) :
    (channel.bill call).Fits channel.capacity := by
  unfold bill
  split
  case h_1 => exact ⟨⟨⟨rfl, rfl⟩, rfl, rfl⟩, rfl, rfl, fun _ => ⟨rfl, rfl⟩, fun _ => ⟨rfl, rfl⟩⟩
  case h_2 =>
    split
    case isTrue =>
      split
      case h_1 handed =>
        have zero : channel.capacity = 0 := by
          simpa [isRendezvous] using (sound.handOff_eq_some handed).1
        exact ⟨⟨⟨rfl, rfl⟩, rfl, rfl⟩, rfl, rfl, fun _ => ⟨rfl, rfl⟩, fun some => absurd zero some⟩
      case h_2 =>
        exact ⟨⟨⟨rfl, rfl⟩, rfl, rfl⟩, rfl, rfl, fun _ => ⟨rfl, rfl⟩, fun _ => ⟨rfl, rfl⟩⟩
    case isFalse spare =>
      exact ⟨⟨⟨rfl, rfl⟩, rfl, rfl⟩, rfl, rfl,
        fun zero => absurd (sound.buffer_of_capacity zero).1 spare, fun _ => ⟨rfl, rfl⟩⟩
  case h_3 =>
    split
    case h_1 taken =>
      have zero : channel.capacity = 0 := by
        simpa [isRendezvous] using (takeOffer_eq_some taken).1
      exact ⟨⟨⟨rfl, rfl⟩, rfl, rfl⟩, rfl, rfl, fun _ => ⟨rfl, rfl⟩, fun some => absurd zero some⟩
    case h_2 =>
      exact ⟨⟨⟨rfl, rfl⟩, rfl, rfl⟩, rfl, rfl, fun _ => ⟨rfl, rfl⟩, fun _ => ⟨rfl, rfl⟩⟩
    case h_3 held =>
      refine ⟨⟨⟨rfl, rfl⟩, rfl, rfl⟩, rfl, rfl, fun zero => ?_, fun _ => ⟨rfl, rfl⟩⟩
      rw [(sound.buffer_of_capacity zero).2] at held
      contradiction

/-- A call on an open channel finds it. -/
theorem missing_bill (channel : Channel α) (call : Call α) : (channel.bill call).missing = 0 := by
  unfold bill
  split
  · rfl
  · split
    · split <;> rfl
    · rfl
  · split <;> rfl

/-- A call with nothing to send and nothing wanted runs up no bill. -/
theorem settles_self (channel : Channel α) : channel.Settles channel {} :=
  ⟨rfl, rfl, rfl, rfl⟩

/-- The bill of a call that moved values accounts for what it did. -/
theorem Moves.settles {channel after : Channel α} {call : Call α} {reply : Reply α}
    (moves : channel.Moves call reply after) : channel.Settles after (channel.bill call) := by
  cases moves with
  | sentNothing sender nothing =>
    have noWants : call.wants = 0 := by cases call <;> first | rfl | contradiction
    rw [bill_of_idle nothing noWants]
    exact channel.settles_self
  | tookNothing receiver nothing =>
    have noOffers : call.offers = [] := by cases call <;> first | rfl | contradiction
    rw [bill_of_idle noOffers nothing]
    exact channel.settles_self
  | accepted given spare =>
    rw [bill_of_accepted given spare]
    refine ⟨channel.queued_acceptMany call.offers, ?_, rfl, rfl⟩
    simp [length]
  | released first rest held =>
    rw [bill_of_released held]
    refine ⟨channel.queued_releaseMany call.wants, ?_, rfl, rfl⟩
    have split := congrArg List.length (channel.oldest_append_popMany call.wants)
    rw [held, List.length_append] at split
    simp only [length, buffer_releaseMany]
    simp only [popMany] at split
    omega

/-- The bill of a call accounts for what one try of it did. -/
theorem Tried.settles {channel after : Channel α} {waker : TaskId} {call : Call α}
    {reply? : Option (Reply α)} (tried : channel.Tried waker call reply? after) :
    channel.Settles after (channel.bill call) := by
  cases tried with
  | moved moves => exact moves.settles
  | handedOff stuck offered handed =>
    rw [bill_of_handedOff stuck offered handed]
    exact ⟨queued_handOff handed, congrArg List.length (buffer_handOff handed), rfl, rfl⟩
  | tookOffer stuck wanted taken =>
    rw [bill_of_tookOffer stuck wanted taken]
    exact ⟨queued_takeOffer taken, congrArg List.length (buffer_takeOffer taken), rfl, rfl⟩
  | @offering value _ stuck offered nobody =>
    rw [bill_of_offering stuck offered nobody]
    refine ⟨channel.queued_park .senders (.offered value) (some waker), ?_, rfl, rfl⟩
    simp [length]
  | awaiting stuck wanted nothing =>
    rw [bill_of_awaiting stuck wanted nothing]
    refine ⟨?_, by simp [length], rfl, rfl⟩
    rw [queued_park]
    have hinted := channel.queued_wake .senders (if channel.isRendezvous then 1 else 0)
    simp only
    omega

end Channel

namespace Bus

variable {bus after : Bus α}

/-! ## Closing and opening -/

/-- Opening a channel pays for it, unless its buffer cannot be allocated. -/
theorem pays_openChannel [Stored α] (bus : Bus α) (capacity : Nat) :
    bus.Pays (bus.openChannel capacity).bus
      { opened := if bufferFits α capacity then 1 else 0 } := by
  unfold openChannel
  simp only
  split
  case isFalse => exact pays_nothing rfl rfl rfl
  case isTrue =>
    obtain ⟨_, _, listed⟩ := occupy_spec (.new capacity bus.nextGeneration) bus.slots
    have shares (measure : Channel α → Nat) {slots : List (Option (Channel α))}
        (same : slots = (occupy (.new capacity bus.nextGeneration) bus.slots).2)
        (after : Bus α) (here : after.slots = slots) :
        after.total measure =
          measure (.new capacity bus.nextGeneration) + bus.total measure := by
      rw [total_eq, total_eq, here, same, (listed.map measure).sum_nat, List.map_cons,
        List.sum_cons]
    refine ⟨by simp, stats_note_congr (by rfl) (by rfl) _, ?_, ?_, ?_⟩
    · simp only [queued, total_note]
      rw [shares Channel.queued rfl _ rfl]
      exact Nat.zero_add _
    · simp only [buffered, total_note]
      rw [shares Channel.length rfl _ rfl]
      exact Nat.zero_add _
    · simp only [channelCount_eq, total_note]
      rw [shares (fun _ => 1) rfl _ rfl]
      exact Nat.add_comm 1 _

/-- Closing a channel pays for everybody who is woken and for every value that is lost. -/
theorem pays_close (bus : Bus α) (handle : Handle) : ∃ woken,
    bus.Pays (bus.close handle).bus
      { closed := if bus.isOpen handle then 1 else 0
        woken
        discarded := (bus.length handle).getD 0 } := by
  unfold close isOpen
  split
  case h_1 closed =>
    refine ⟨0, ?_⟩
    rw [length, closed]
    exact pays_nothing rfl rfl rfl
  case h_2 channel here =>
    rw [here]
    have lost : (bus.length handle).getD 0 = channel.length := by simp [length, here]
    have everyone : channel.everyone.length = channel.queued := by
      simp [Channel.everyone, Channel.queued, Channel.queue, WaitQueue.length]
    have shares (measure : Channel α → Nat) {after : Bus α}
        (freed : after.slots = bus.slots.set handle.id none) :=
      total_free measure here freed
    refine ⟨channel.everyone.length, by simp, stats_note_congr (by rfl) (by rfl) _, ?_, ?_, ?_⟩
    · simp only [queued, total_note, everyone]
      exact shares Channel.queued rfl
    · simp only [buffered, total_note, lost]
      exact shares Channel.length rfl
    · simp only [channelCount_eq, total_note]
      exact shares (fun _ => 1) rfl

/-- Closing several channels pays for all of them. -/
theorem pays_closeAll (bus : Bus α) (handles : List Handle) : ∃ closed woken discarded,
    bus.Pays (bus.closeAll handles).bus { closed, woken, discarded } := by
  induction handles generalizing bus with
  | nil => exact ⟨0, 0, 0, pays_nothing rfl rfl rfl⟩
  | cons handle rest ih =>
    obtain ⟨woken, first⟩ := bus.pays_close handle
    obtain ⟨closed, wokenToo, lost, others⟩ := ih (bus.close handle).bus
    exact ⟨_ + closed, woken + wokenToo, _ + lost, first.trans others⟩

/-- Deleting pays for all channels, and every buffered value is lost. -/
theorem pays_delete (bus : Bus α) : ∃ closed woken,
    bus.Pays bus.delete.bus { closed, woken, discarded := bus.buffered } := by
  obtain ⟨closed, woken, lost, pays⟩ :=
    bus.pays_closeAll ((List.range bus.slots.length).map Handle.mk)
  have empty (measure : Channel α → Nat) :
      (bus.closeAll ((List.range bus.slots.length).map Handle.mk)).bus.total measure = 0 := by
    rw [total, openChannels_eq_nil_iff.mpr bus.channel?_closeAll_slots]
    rfl
  obtain ⟨config, stats, queued, buffered, channels⟩ := pays
  have all : lost = bus.buffered := by
    rw [Bus.buffered, empty] at buffered
    simpa using buffered
  subst all
  rw [Bus.queued, empty] at queued
  rw [Bus.buffered, empty] at buffered
  rw [channelCount_eq, empty] at channels
  exact ⟨closed, woken, config, stats, queued, buffered, channels⟩

/-! ## Broadcasting -/

/-- A total over channels that were all changed. -/
theorem total_overOpen (bus : Bus α) (change : Channel α → Channel α)
    (measure : Channel α → Nat) :
    (bus.overOpen change).total measure = bus.total fun channel => measure (change channel) := by
  have slots : (bus.overOpen change).slots.filterMap id =
      (bus.slots.filterMap id).map change := by
    rw [overOpen, List.filterMap_map, List.map_filterMap]
    rfl
  rw [total_eq, total_eq, slots, List.map_map]
  rfl

/-- Two totals in one. -/
theorem total_add (bus : Bus α) (first second : Channel α → Nat) :
    (bus.total fun channel => first channel + second channel) =
      bus.total first + bus.total second := by
  simp only [total]
  induction bus.openChannels with
  | nil => rfl
  | cons entry rest ih =>
    simp only [List.map_cons, List.sum_cons, ih]
    omega

/-- How many open channels are full. -/
def fullChannels (bus : Bus α) : Nat :=
  bus.total fun channel => if channel.isFull then 1 else 0

/-- Giving every open channel its copy pays for all copies. -/
theorem pays_giveAll (bus : Bus α) (value : α) : ∃ accepted woken,
    bus.Pays (bus.giveAll value).bus { accepted, given := bus.fullChannels, woken } := by
  let spare := bus.total fun channel => if channel.isFull then 0 else 1
  let woken := bus.total fun channel => (channel.give value).1.length
  have copies : spare + bus.fullChannels = bus.openChannels.length := by
    have all : bus.openChannels.length = bus.total fun channel =>
        (if channel.isFull then 0 else 1) + if channel.isFull then 1 else 0 := by
      rw [← channelCount, channelCount_eq]
      congr 1
      funext channel
      split <;> rfl
    rw [all, total_add]
    rfl
  have rung : woken =
      (bus.openChannels.flatMap fun entry => (entry.2.give value).1).length := by
    rw [List.length_flatMap]
    rfl
  have given (measure : Channel α → Nat) : (bus.giveAll value).bus.total measure =
      bus.total fun channel => measure (channel.give value).2 := by
    rw [giveAll, total_note]
    exact bus.total_overOpen (fun channel => (channel.give value).2) measure
  refine ⟨spare, woken, by simp [giveAll], ?_, ?_, ?_, ?_⟩
  · have charge : Bill.charge { accepted := spare, given := bus.fullChannels, woken } =
        (·.countSent bus.openChannels.length
          (bus.openChannels.flatMap fun entry => (entry.2.give value).1).length) := by
      funext stats
      simp only [Bill.charge, copies, rung]
      rfl
    rw [charge]
    exact stats_note_congr (by rfl) (by rfl) _
  · rw [queued, given]
    have moved := bus.total_add (fun channel => (channel.give value).2.queued)
      fun channel => (channel.give value).1.length
    simp only [Channel.queued_give] at moved
    exact moved.symm
  · rw [buffered, given]
    simp only [Channel.length_give]
    exact bus.total_add Channel.length fun channel => if channel.isFull then 0 else 1
  · rw [channelCount_eq, given, channelCount_eq]

/-- Settling the wakeup of a broadcaster pays for the sender that it wakes. -/
theorem pays_settleWakeup (bus : Bus α) (previous : Option (Handle × Nat))
    (stall : Option Stall) : ∃ woken,
    bus.Pays (bus.settleWakeup previous stall).bus { woken } := by
  rcases bus.settleWakeup_cases previous stall with
    ⟨same, _⟩ | ⟨handle, generation, channel, _, _, pinned, billed⟩
  · rw [same]
    exact ⟨0, pays_nothing rfl rfl rfl⟩
  · refine ⟨_, billed.pays (pinned?_eq_some_iff.mp pinned).1 ⟨channel.queued_wake .senders 1, ?_,
      rfl, rfl⟩⟩
    simp [Channel.length]

/-! ## Tries and tickets -/

/-- A try of a call on a channel pays the bill of the call. -/
theorem Attempted.pays {handle : Handle} {channel : Channel α} {waker : TaskId} {call : Call α}
    {outcome : Outcome α (Progress α)}
    (attempted : bus.Attempted handle channel waker call outcome)
    (here : bus.channel? handle = some channel) : bus.Pays outcome.bus (channel.bill call) := by
  obtain ⟨reply?, new, tried, billed, _⟩ := attempted
  exact billed.pays here tried.settles

/-- Replacing the queue of a ticket pays for the waits that are no longer there. -/
theorem Sound.pays_setTicketQueue (sound : bus.Sound) {ticket : Ticket} {queue : WaitQueue α}
    {left : Nat} (shorter : queue.length + left = (bus.ticketQueue ticket).length) :
    bus.Pays (bus.setTicketQueue ticket queue) { left } := by
  unfold setTicketQueue
  cases pinned : bus.pinned? ticket.handle ticket.generation with
  | none =>
    rw [WaitQueue.length, WaitQueue.length, sound.ticketQueue_of_closed pinned] at shorter
    obtain rfl : left = 0 := (Nat.add_eq_zero_iff.mp shorter).2
    exact pays_nothing rfl rfl rfl
  | some channel =>
    rw [ticketQueue_of_pinned pinned] at shorter
    have here := (pinned?_eq_some_iff.mp pinned).1
    have billed : bus.Billed (bus.setChannel ticket.handle (channel.setQueue ticket.side queue))
        ticket.handle (channel.setQueue ticket.side queue) { left } := (note_id _).symm
    refine billed.pays here ⟨?_, by simp [Channel.length], rfl, rfl⟩
    cases side : ticket.side with
    | senders =>
      rw [side] at shorter
      simp only [Channel.queued, Channel.setQueue, Channel.queue] at shorter ⊢
      omega
    | receivers =>
      rw [side] at shorter
      simp only [Channel.queued, Channel.setQueue, Channel.queue] at shorter ⊢
      omega

/-- Forgetting a woken wait costs nothing. -/
theorem Sound.pays_forget (sound : bus.Sound) (ticket : Ticket) (key : Nat) :
    bus.Pays (bus.setTicketQueue ticket ((bus.ticketQueue ticket).forget key)) {} :=
  sound.pays_setTicketQueue rfl

end Bus

end ChannelBus
