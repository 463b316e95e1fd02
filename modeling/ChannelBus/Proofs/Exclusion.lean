import ChannelBus.Proofs.Effects

/-!
# Offers and waiting receivers exclude each other

On a rendezvous channel a sender only parks when nobody waits for its value, and a receiver only
parks when nothing is on offer. `Channel.Exclusive` says that the two never meet in the queues
afterwards. Whatever else happens to a queue takes waits away or leaves their parcels as they are,
which is all that `WaitQueue.Thins` asks for; so only the places where a call parks need a closer
look.
-/

namespace ChannelBus

variable {α : Type}

namespace WaitQueue

/-- No parcel is queued that was not queued before. -/
def Thins (queue after : WaitQueue α) : Prop :=
  ∀ wait ∈ after.waiting, ∃ former ∈ queue.waiting, former.parcel = wait.parcel

/-- Taking waits out of a queue thins it. -/
theorem thins_of_subset {queue after : WaitQueue α} (fewer : after.waiting ⊆ queue.waiting) :
    queue.Thins after :=
  fun wait queued => ⟨wait, fewer queued, rfl⟩

/-- A thinned queue is empty if the queue was. -/
theorem Thins.waiting_eq_nil {queue after : WaitQueue α} (thins : queue.Thins after)
    (nobody : queue.waiting = []) : after.waiting = [] := by
  refine List.eq_nil_iff_forall_not_mem.mpr fun wait queued => ?_
  obtain ⟨former, inside, _⟩ := thins wait queued
  rw [nobody] at inside
  contradiction

/-- Waking thins a queue. -/
theorem thins_wake (queue : WaitQueue α) (count : Nat) : queue.Thins (queue.wake count) :=
  thins_of_subset (List.drop_subset _ _)

/-- A transfer thins a queue. -/
theorem thins_settle {queue : WaitQueue α} {wait : Wait α} {before later : List (Wait α)}
    (split : queue.waiting = before ++ wait :: later) (parcel : Parcel α) :
    queue.Thins (queue.settle wait parcel (before ++ later)) := by
  refine thins_of_subset fun other member => ?_
  rw [split]
  rcases List.mem_append.mp member with earlier | after
  · exact List.mem_append_left _ earlier
  · exact List.mem_append_right _ (List.mem_cons_of_mem _ after)

/-- A new waker leaves the queued parcels as they are. -/
theorem thins_refresh (queue : WaitQueue α) (key : Nat) (waker : TaskId) :
    queue.Thins (queue.refresh key waker) := by
  intro wait queued
  obtain ⟨former, inside, rfl⟩ := List.mem_map.mp queued
  refine ⟨former, inside, ?_⟩
  split <;> rfl

/-- Resuming a woken wait leaves the queued ones as they are. -/
theorem thins_forget (queue : WaitQueue α) (key : Nat) : queue.Thins (queue.forget key) :=
  thins_of_subset (List.Subset.refl _)

/-- Dropping a wait thins a queue. -/
theorem thins_leave (queue : WaitQueue α) (key : Nat) : queue.Thins (queue.leave key) := by
  rcases queue.leave_cases key with ⟨_, left⟩ | ⟨_, left, _⟩ | ⟨_, left, _⟩
  · rw [left]
    exact thins_of_subset List.filter_sublist.subset
  · rw [left]
    exact queue.thins_forget key
  · rw [left]
    exact (queue.forget key).thins_wake 1

end WaitQueue

namespace Channel

/-- On a rendezvous channel nothing is on offer while a receiver waits. -/
def Exclusive (channel : Channel α) : Prop :=
  channel.isRendezvous = true → channel.receivers.waiting ≠ [] →
    ∀ wait ∈ channel.senders.waiting, wait.parcel.offer? = none

/-- On a new channel nobody waits. -/
theorem exclusive_new (capacity generation : Nat) :
    (new capacity generation : Channel α).Exclusive :=
  fun _ waiting => absurd rfl waiting

/-- Thinning a queue keeps a channel exclusive. -/
theorem Exclusive.setQueue {channel : Channel α} (exclusive : channel.Exclusive) {side : Side}
    {queue : WaitQueue α} (thins : (channel.queue side).Thins queue) :
    (channel.setQueue side queue).Exclusive := by
  intro rendezvous waiting wait queued
  rw [isRendezvous_setQueue] at rendezvous
  cases side with
  | senders =>
    obtain ⟨former, inside, same⟩ := thins wait queued
    rw [← same]
    exact exclusive rendezvous waiting former inside
  | receivers =>
    refine exclusive rendezvous (fun nobody => ?_) wait queued
    exact waiting (thins.waiting_eq_nil nobody)

/-- Waking keeps a channel exclusive. -/
theorem Exclusive.wake {channel : Channel α} (exclusive : channel.Exclusive) (side : Side)
    (count : Nat) : (channel.wake side count).Exclusive :=
  exclusive.setQueue (WaitQueue.thins_wake _ count)

/-- Accepting values keeps a channel exclusive. -/
theorem Exclusive.acceptMany {channel : Channel α} (exclusive : channel.Exclusive)
    (values : List α) : (channel.acceptMany values).2.Exclusive := by
  have filled : (channel.pushMany values).Exclusive := exclusive
  exact filled.wake .receivers _

/-- Releasing values keeps a channel exclusive. -/
theorem Exclusive.releaseMany {channel : Channel α} (exclusive : channel.Exclusive) (max : Nat) :
    (channel.releaseMany max).2.Exclusive := by
  have drained : (channel.popMany max).Exclusive := exclusive
  exact drained.wake .senders _

/-- A hand-off keeps a channel exclusive. -/
theorem Exclusive.handOff {channel after : Channel α} (exclusive : channel.Exclusive)
    (sound : channel.Sound) {value : α} {served : Wait α}
    (handed : channel.handOff value = some (served, after)) : after.Exclusive := by
  obtain ⟨_, wait, later, split, _, _, rfl⟩ := sound.handOff_eq_some handed
  have first : (channel.queue .receivers).waiting = [] ++ wait :: later := split
  exact exclusive.setQueue (WaitQueue.thins_settle first _)

/-- Taking an offer keeps a channel exclusive. -/
theorem Exclusive.takeOffer {channel after : Channel α} (exclusive : channel.Exclusive)
    {value : α} {settled : Wait α} (taken : channel.takeOffer = some (value, settled, after)) :
    after.Exclusive := by
  obtain ⟨_, wait, before, later, split, _, _, _, rfl⟩ := Sound.takeOffer_eq_some taken
  have here : (channel.queue .senders).waiting = before ++ wait :: later := split
  exact exclusive.setQueue (WaitQueue.thins_settle here _)

/-- A copy that a channel is given keeps it exclusive. -/
theorem Exclusive.give {channel : Channel α} (exclusive : channel.Exclusive)
    (sound : channel.Sound) (ready : channel.canAccept = true) (value : α) :
    (channel.give value).2.Exclusive := by
  rcases sound.give_cases ready value with ⟨_, given⟩ | ⟨_, served, after, handed, given⟩
  · rw [given]
    exact exclusive.acceptMany [value]
  · rw [given]
    exact exclusive.handOff sound handed

/-- A sender parks with an offer only if no receiver waits. -/
theorem Sound.exclusive_park_offer {channel : Channel α} (sound : channel.Sound) {value : α}
    (nobody : channel.handOff value = none) (waker : Option TaskId) :
    (channel.park .senders (.offered value) waker).Exclusive := by
  intro rendezvous waiting
  exact absurd (sound.handOff_eq_none_iff.mp nobody rendezvous) waiting

/-- No queued sender has a value on offer if no offer can be taken. -/
theorem offer?_of_takeOffer {channel : Channel α} (nothing : channel.takeOffer = none)
    (rendezvous : channel.isRendezvous = true) :
    ∀ wait ∈ channel.senders.waiting, wait.parcel.offer? = none := by
  rw [Channel.takeOffer, if_pos rendezvous, Option.map_eq_none_iff] at nothing
  simpa [WaitQueue.takeFirstOffer, WaitQueue.extractFirst_eq_none_iff] using nothing

/-- A receiver parks only if nothing is on offer. -/
theorem exclusive_park_receiver {channel : Channel α} (nothing : channel.takeOffer = none)
    (hints : Nat) (waker : Option TaskId) :
    ((channel.wake .senders hints).park .receivers .empty waker).Exclusive := by
  intro rendezvous _ wait queued
  exact offer?_of_takeOffer nothing rendezvous wait (List.mem_of_mem_drop queued)

/-- A broadcaster parks with nothing on offer. -/
theorem Exclusive.park_broadcaster {channel : Channel α} (exclusive : channel.Exclusive)
    (waker : Option TaskId) : (channel.park .senders .empty waker).Exclusive := by
  intro rendezvous waiting wait queued
  rcases List.mem_append.mp queued with earlier | parked
  · exact exclusive rendezvous waiting wait earlier
  · obtain rfl := List.mem_singleton.mp parked
    rfl

/-- Moving values keeps a channel exclusive. -/
theorem Moves.exclusive {channel after : Channel α} {call : Call α} {reply : Reply α}
    (moves : channel.Moves call reply after) (exclusive : channel.Exclusive) :
    after.Exclusive := by
  cases moves with
  | sentNothing | tookNothing => exact exclusive
  | accepted => exact exclusive.acceptMany _
  | released => exact exclusive.releaseMany _

/-- A try of a call keeps a channel exclusive. -/
theorem Tried.exclusive {channel after : Channel α} {waker : TaskId} {call : Call α}
    {reply? : Option (Reply α)} (tried : channel.Tried waker call reply? after)
    (sound : channel.Sound) (exclusive : channel.Exclusive) : after.Exclusive := by
  cases tried with
  | moved moves => exact moves.exclusive exclusive
  | handedOff _ _ handed => exact exclusive.handOff sound handed
  | tookOffer _ _ taken => exact exclusive.takeOffer taken
  | offering _ _ nobody => exact sound.exclusive_park_offer nobody _
  | awaiting _ _ nothing => exact exclusive_park_receiver nothing _ _

end Channel

namespace Bus

/-- Every open channel is exclusive. -/
def Exclusive (bus : Bus α) : Prop :=
  ∀ handle channel, bus.channel? handle = some channel → channel.Exclusive

/-- Counting keeps every channel exclusive. -/
theorem Exclusive.note {bus : Bus α} (exclusive : bus.Exclusive) (update : Stats → Stats) :
    (bus.note update).Exclusive := by
  intro handle channel here
  rw [channel?_note] at here
  exact exclusive handle channel here

/-- Replacing a channel by an exclusive one. -/
theorem Becomes.exclusive {bus after : Bus α} {handle : Handle} {channel new : Channel α}
    (becomes : bus.Becomes after handle new) (exclusive : bus.Exclusive)
    (here : bus.channel? handle = some channel) (newExclusive : new.Exclusive) :
    after.Exclusive := by
  intro other another there
  rw [becomes.channel? here] at there
  split at there
  case isTrue =>
    obtain rfl := Option.some.inj there
    exact newExclusive
  case isFalse => exact exclusive other another there

/-- Giving every ready channel its copy keeps all of them exclusive. -/
theorem Exclusive.giveAll {bus : Bus α} (exclusive : bus.Exclusive) (sound : bus.Sound)
    (ready : ∀ handle channel, bus.channel? handle = some channel → channel.canAccept = true)
    (value : α) : (bus.giveAll value).bus.Exclusive := by
  obtain ⟨update, given⟩ := bus.bus_giveAll value
  rw [given]
  intro handle channel here
  rw [channel?_note, channel?_overOpen, Option.map_eq_some_iff] at here
  obtain ⟨former, there, rfl⟩ := here
  exact (exclusive handle former there).give (sound.of_channel? there)
    (ready handle former there) value

/-- Passing a wakeup on keeps every channel exclusive. -/
theorem Exclusive.settleWakeup {bus : Bus α} (exclusive : bus.Exclusive)
    (previous : Option (Handle × Nat)) (stall : Option Stall) :
    (bus.settleWakeup previous stall).bus.Exclusive := by
  rcases bus.settleWakeup_cases previous stall with
    ⟨same, _⟩ | ⟨handle, generation, channel, _, _, pinned, billed⟩
  · rwa [same]
  · have becomes := billed.becomes
    have here := (pinned?_eq_some_iff.mp pinned).1
    exact becomes.exclusive exclusive here ((exclusive handle channel here).wake .senders 1)

/-- Thinning the queue of a ticket keeps every channel exclusive. -/
theorem Exclusive.setTicketQueue {bus : Bus α} (exclusive : bus.Exclusive) {ticket : Ticket}
    (homed : bus.Homes ticket) {queue : WaitQueue α}
    (thins : (bus.ticketQueue ticket).Thins queue) :
    (bus.setTicketQueue ticket queue).Exclusive := by
  intro handle channel here
  rw [channel?_setTicketQueue homed, Option.map_eq_some_iff] at here
  obtain ⟨former, there, rfl⟩ := here
  split
  case isTrue same =>
    obtain rfl := homed handle former there same
    have queueHere : bus.ticketQueue ticket = former.queue ticket.side := by
      simp [ticketQueue, ticketed?, pinned?_eq_some_iff.mpr ⟨there, same⟩]
    rw [queueHere] at thins
    exact (exclusive _ former there).setQueue thins
  case isFalse => exact exclusive handle former there

/-- A try of a broadcast keeps every channel exclusive. -/
theorem BroadcastTried.exclusive {bus after : Bus α} {value : α}
    {previous : Option (Handle × Nat)} {waker : TaskId} {progress : Progress α}
    (tried : bus.BroadcastTried value previous waker progress after) (sound : bus.Sound)
    (exclusive : bus.Exclusive) : after.Exclusive := by
  cases tried with
  | noChannel nothing => exact exclusive.note _
  | sent ready something => exact (exclusive.giveAll sound ready value).settleWakeup previous none
  | @stalled handle channel middle _ here unready settled still billed =>
    have becomes := billed.becomes
    subst settled
    have passed := exclusive.settleWakeup previous (some (.refused handle channel.generation))
    exact becomes.exclusive passed still ((exclusive handle channel here).park_broadcaster _)

/-- A try of a call keeps every channel exclusive. -/
theorem Acts.exclusive {bus after : Bus α} {waker : TaskId} {call : Call α} {pin : Option Nat}
    {previous : Option (Handle × Nat)} {progress : Progress α}
    (acts : bus.Acts waker call pin previous progress after) (sound : bus.Sound)
    (exclusive : bus.Exclusive) : after.Exclusive := by
  cases acts with
  | failed error gone => exact exclusive.note _
  | attempted named here pinned attempted =>
    obtain ⟨reply?, new, tried, billed, _⟩ := attempted
    have becomes := billed.becomes
    exact becomes.exclusive exclusive here
      (tried.exclusive (sound.of_channel? here) (exclusive _ _ here))
  | broadcast everywhere tried => exact tried.exclusive sound exclusive

end Bus

namespace Session

variable {session : Session α}

/-- Every effect of a move keeps all channels exclusive. -/
theorem Effect.exclusive {move : Move α} {result : Option (Status α)} {after : Bus α}
    (effect : session.Effect move result after) (lawful : session.Lawful)
    (exclusive : session.bus.Exclusive) : after.Exclusive := by
  have sound := lawful.housed.sound
  cases effect with
  | idle => exact exclusive
  | skipped => exact exclusive
  | opened opens =>
    intro handle channel here
    rw [opens.channel?] at here
    split at here
    case isTrue =>
      obtain rfl := Option.some.inj here
      exact Channel.exclusive_new _ _
    case isFalse => exact exclusive handle channel here
  | shut shuts =>
    intro handle channel here
    rw [shuts.channel?] at here
    split at here
    case isTrue => contradiction
    case isFalse => exact exclusive handle channel here
  | refused asked error => exact exclusive.note _
  | moved asked named here moves becomes =>
    exact becomes.exclusive exclusive here (moves.exclusive (exclusive _ _ here))
  | spread spare =>
    refine exclusive.giveAll sound (fun handle channel here => ?_) _
    simp [Channel.canAccept, spare handle channel here]
  | started acts => exact acts.exclusive sound exclusive
  | @refreshed id waker suspended waits queued =>
    have houses := lawful.housed.houses id suspended waits
    exact exclusive.setTicketQueue houses.homes (WaitQueue.thins_refresh _ _ _)
  | @settled id waker suspended parcel reply waits dequeued held happened =>
    have houses := lawful.housed.houses id suspended waits
    exact exclusive.setTicketQueue houses.homes (WaitQueue.thins_forget _ _)
  | @retried id waker suspended parcel progress _ waits dequeued held unsettled acts =>
    have houses := lawful.housed.houses id suspended waits
    have clears := houses.clears_forget sound dequeued
    exact acts.exclusive clears.sound
      (exclusive.setTicketQueue houses.homes (WaitQueue.thins_forget _ _))
  | @dropped id suspended waits =>
    have houses := lawful.housed.houses id suspended waits
    exact exclusive.setTicketQueue houses.homes (WaitQueue.thins_leave _ _)

/-- Every run keeps all channels exclusive. -/
theorem Lawful.exclusive_run [Stored α] (lawful : session.Lawful)
    (exclusive : session.bus.Exclusive) (moves : List (Move α)) :
    (session.run moves).bus.Exclusive := by
  induction moves generalizing session with
  | nil => exact exclusive
  | cons move rest ih =>
    exact ih (lawful.step move) ((effect lawful move).exclusive lawful exclusive)

end Session

end ChannelBus
