import ChannelBus.Proofs.Effects

/-!
# No wakeup is lost

A wakeup is a hint: the woken call may find that another one was faster. Still, as long as somebody
is queued on one side of a channel, whatever that side could be given at once is covered by wakeups
that are on their way. `Channel.Served` is that inequality. While a woken call is being tried it is
off the board although its hint is not used up yet; the `credit` of the inequality stands for it.
-/

namespace ChannelBus

variable {α : Type}

namespace Channel

/-- Whoever is queued is covered by pending wakeups and by the credit of the call being tried. -/
structure Served (channel : Channel α) (credit : Side → Nat) : Prop where
  /-- While senders are queued, the room is covered. -/
  senders : channel.senders.waiting ≠ [] →
    channel.room ≤ channel.senders.pending + credit .senders
  /-- While receivers are queued, the buffered values are covered. -/
  receivers : channel.receivers.waiting ≠ [] →
    channel.length ≤ channel.receivers.pending + credit .receivers

/-- No call is being tried. -/
def noCredit : Side → Nat := fun _ => 0

/-- More credit covers more. -/
theorem Served.mono {channel : Channel α} {credit more : Side → Nat}
    (served : channel.Served credit) (larger : ∀ side, credit side ≤ more side) :
    channel.Served more := by
  constructor
  · intro waiting
    have covered := served.senders waiting
    have larger := larger .senders
    omega
  · intro waiting
    have covered := served.receivers waiting
    have larger := larger .receivers
    omega

/-- On a new channel nobody is queued. -/
theorem served_new (capacity generation : Nat) (credit : Side → Nat) :
    (new capacity generation : Channel α).Served credit :=
  ⟨fun waiting => absurd rfl waiting, fun waiting => absurd rfl waiting⟩

/-- A channel that is not full buffers values. -/
theorem isRendezvous_of_spare {channel : Channel α} (spare : channel.isFull = false) :
    channel.isRendezvous = false := by
  cases rendezvous : channel.isRendezvous with
  | false => rfl
  | true =>
    have zero : channel.capacity = 0 := by simpa [isRendezvous] using rendezvous
    simp [isFull, zero] at spare

/-- A sound channel that buffers a value is no rendezvous. -/
theorem Sound.isRendezvous_of_buffer {channel : Channel α} (sound : channel.Sound)
    (held : channel.buffer ≠ []) : channel.isRendezvous = false := by
  cases rendezvous : channel.isRendezvous with
  | false => rfl
  | true => exact absurd (sound.buffer_eq_nil rendezvous) held

/-- Accepting values uses up as much room as the credit of one woken sender, and wakes a receiver
for each value. -/
theorem Sound.served_acceptMany {channel : Channel α} (sound : channel.Sound)
    {credit : Side → Nat} (served : channel.Served credit) {values : List α}
    (given : values ≠ []) (spare : channel.isFull = false) (one : credit .senders ≤ 1)
    (none : credit .receivers = 0) : (channel.acceptMany values).2.Served noCredit := by
  have plain := isRendezvous_of_spare spare
  have some : 0 < (channel.fitting values).length :=
    List.length_pos_iff.mpr (fitting_ne_nil given spare)
  constructor
  · intro waiting
    have covered := served.senders waiting
    have before : channel.room = channel.capacity - channel.length := by
      simp [room, plain, freeSpace]
    have after : (channel.acceptMany values).2.room =
        channel.capacity - (channel.length + (channel.fitting values).length) := by
      have kept : (channel.acceptMany values).2.isRendezvous = false := plain
      simp [room, kept, freeSpace, length]
    have pending : (channel.acceptMany values).2.senders.pending = channel.senders.pending := rfl
    rw [after, pending]
    simp only [noCredit]
    omega
  · intro waiting
    obtain ⟨before, pending⟩ := (sound.orderly .receivers).pending_wake_of_waiting waiting
    have covered := served.receivers before
    have after : (channel.acceptMany values).2.length =
        channel.length + (channel.fitting values).length := by
      simp [length]
    have woken : (channel.acceptMany values).2.receivers.pending =
        channel.receivers.pending + (channel.fitting values).length := pending
    rw [after, woken]
    simp only [noCredit]
    omega

/-- Releasing values uses up as many values as the credit of one woken receiver, and wakes a sender
for each value. -/
theorem Sound.served_releaseMany {channel : Channel α} (sound : channel.Sound)
    {credit : Side → Nat} (served : channel.Served credit) {max : Nat}
    (held : channel.oldest max ≠ []) (one : credit .receivers ≤ 1)
    (none : credit .senders = 0) : (channel.releaseMany max).2.Served noCredit := by
  have some : 0 < (channel.oldest max).length := List.length_pos_iff.mpr held
  have count : (channel.oldest max).length = min max channel.length := by simp [oldest, length]
  have plain := sound.isRendezvous_of_buffer fun empty => held (by simp [oldest, empty])
  have bounded := sound.bounded
  have after : (channel.releaseMany max).2.length = channel.length - max := by simp [length]
  constructor
  · intro waiting
    obtain ⟨others, pending⟩ := (sound.orderly .senders).pending_wake_of_waiting waiting
    have covered := served.senders others
    have before : channel.room = channel.capacity - channel.length := by
      simp [room, plain, freeSpace]
    have room : (channel.releaseMany max).2.room = channel.capacity - (channel.length - max) := by
      have kept : (channel.releaseMany max).2.isRendezvous = false := plain
      simp [room, kept, freeSpace, after]
    have woken : (channel.releaseMany max).2.senders.pending =
        channel.senders.pending + (channel.oldest max).length := pending
    rw [room, woken]
    simp only [noCredit]
    omega
  · intro waiting
    have covered := served.receivers waiting
    have pending : (channel.releaseMany max).2.receivers.pending = channel.receivers.pending := rfl
    rw [after, pending]
    simp only [noCredit]
    omega

/-- A hand-off uses up one waiting receiver, which is the credit of one woken sender. -/
theorem Sound.served_handOff {channel after : Channel α} (sound : channel.Sound)
    {credit : Side → Nat} (served : channel.Served credit) {value : α} {given : Wait α}
    (handed : channel.handOff value = some (given, after)) (one : credit .senders ≤ 1) :
    after.Served noCredit := by
  obtain ⟨rendezvous, wait, later, split, _, _, rfl⟩ := sound.handOff_eq_some handed
  constructor
  · intro waiting
    have covered := served.senders waiting
    have before : channel.room = later.length + 1 := by
      simp [room, rendezvous, WaitQueue.length, split]
    have after : (channel.setQueue .receivers
        (channel.receivers.settle wait (.delivered value) later)).room = later.length := by
      have kept : (channel.setQueue .receivers
          (channel.receivers.settle wait (.delivered value) later)).isRendezvous = true :=
        rendezvous
      rw [room, if_pos kept]
      rfl
    have pending : (channel.setQueue .receivers
        (channel.receivers.settle wait (.delivered value) later)).senders.pending =
          channel.senders.pending := rfl
    rw [after, pending]
    simp only [noCredit]
    omega
  · intro _
    have empty : (channel.setQueue .receivers
        (channel.receivers.settle wait (.delivered value) later)).length = 0 := by
      simp [length, sound.buffer_eq_nil rendezvous]
    rw [empty]
    exact Nat.zero_le _

/-- Taking an offer changes neither the room nor the pending wakeups of those who stay queued. -/
theorem Sound.served_takeOffer {channel after : Channel α} (sound : channel.Sound)
    {credit : Side → Nat} (served : channel.Served credit) {value : α} {settled : Wait α}
    (taken : channel.takeOffer = some (value, settled, after)) (none : credit .senders = 0) :
    after.Served noCredit := by
  obtain ⟨rendezvous, wait, before, later, split, _, _, _, rfl⟩ := Sound.takeOffer_eq_some taken
  constructor
  · intro _
    have covered := served.senders (by simp [split])
    have pending : (channel.setQueue .senders
        (channel.senders.settle wait .taken (before ++ later))).senders.pending =
          channel.senders.pending := WaitQueue.pending_settle rfl
    have same : (channel.setQueue .senders
        (channel.senders.settle wait .taken (before ++ later))).room = channel.room := rfl
    rw [same, pending]
    simp only [noCredit]
    omega
  · intro _
    have empty : (channel.setQueue .senders
        (channel.senders.settle wait .taken (before ++ later))).length = 0 := by
      simp [length, sound.buffer_eq_nil rendezvous]
    rw [empty]
    exact Nat.zero_le _

/-- A channel without room parks a sender. -/
theorem Served.park_sender {channel : Channel α} {credit : Side → Nat}
    (served : channel.Served credit) (full : channel.room = 0) (none : credit .receivers = 0)
    (parcel : Parcel α) (waker : Option TaskId) :
    (channel.park .senders parcel waker).Served noCredit := by
  constructor
  · intro _
    have same : (channel.park .senders parcel waker).room = channel.room := rfl
    rw [same, full]
    exact Nat.zero_le _
  · intro waiting
    have covered := served.receivers waiting
    have same : (channel.park .senders parcel waker).length = channel.length := rfl
    have pending : (channel.park .senders parcel waker).receivers.pending =
        channel.receivers.pending := rfl
    rw [same, pending]
    simp only [noCredit]
    omega

/-- An empty channel parks a receiver; on a rendezvous channel that makes room, for which one sender
is woken. -/
theorem Sound.served_park_receiver {channel : Channel α} (sound : channel.Sound)
    {credit : Side → Nat} (served : channel.Served credit) (empty : channel.buffer = [])
    (none : credit .senders = 0) (parcel : Parcel α) (waker : Option TaskId) :
    ((channel.wake .senders (if channel.isRendezvous then 1 else 0)).park .receivers parcel
      waker).Served noCredit := by
  generalize hinted : (if channel.isRendezvous then 1 else 0) = hints
  constructor
  · intro waiting
    obtain ⟨others, pending⟩ := (sound.orderly .senders).pending_wake_of_waiting waiting
    have covered := served.senders others
    have woken : ((channel.wake .senders hints).park .receivers parcel waker).senders.pending =
        channel.senders.pending + hints := pending
    have room : ((channel.wake .senders hints).park .receivers parcel waker).room =
        channel.room + hints := by
      have kept : ((channel.wake .senders hints).park .receivers parcel waker).isRendezvous =
          channel.isRendezvous := rfl
      have queued : ((channel.wake .senders hints).park .receivers parcel waker).receivers.length =
          channel.receivers.length + 1 := WaitQueue.length_park _ _ _
      have free : ((channel.wake .senders hints).park .receivers parcel waker).freeSpace =
          channel.freeSpace := rfl
      rw [Channel.room, Channel.room, kept, queued, free, ← hinted]
      split <;> rfl
    rw [woken, room]
    simp only [noCredit]
    omega
  · intro _
    have nothing : ((channel.wake .senders hints).park .receivers parcel waker).length = 0 := by
      simp [Channel.length, empty]
    rw [nothing]
    exact Nat.zero_le _

/-- Waking the first sender covers one more place. -/
theorem Sound.served_wake_sender {channel : Channel α} (sound : channel.Sound)
    {credit : Side → Nat} (served : channel.Served credit) (one : credit .senders ≤ 1)
    (none : credit .receivers = 0) : (channel.wake .senders 1).Served noCredit := by
  constructor
  · intro waiting
    obtain ⟨others, pending⟩ := (sound.orderly .senders).pending_wake_of_waiting waiting
    have covered := served.senders others
    have same : (channel.wake .senders 1).room = channel.room := rfl
    have woken : (channel.wake .senders 1).senders.pending = channel.senders.pending + 1 := pending
    rw [same, woken]
    simp only [noCredit]
    omega
  · intro waiting
    have covered := served.receivers waiting
    have same : (channel.wake .senders 1).length = channel.length := rfl
    have pending : (channel.wake .senders 1).receivers.pending = channel.receivers.pending := rfl
    rw [same, pending]
    simp only [noCredit]
    omega

/-- A channel on which nothing can be sent needs no credit for its senders. -/
theorem Sound.served_of_unready {channel : Channel α} (sound : channel.Sound)
    {credit : Side → Nat} (served : channel.Served credit)
    (unready : channel.canAccept = true → channel.senders.waiting = [])
    (none : credit .receivers = 0) : channel.Served noCredit := by
  constructor
  · intro waiting
    cases ready : channel.canAccept with
    | true => exact absurd (unready ready) waiting
    | false =>
      have full : ¬ 0 < channel.room := fun room => by
        rw [sound.canAccept_iff.mpr room] at ready
        contradiction
      simp only [noCredit]
      omega
  · intro waiting
    have covered := served.receivers waiting
    simp only [noCredit]
    omega

/-- A copy given to a ready channel uses up the credit of one woken sender. -/
theorem Sound.served_give {channel : Channel α} (sound : channel.Sound) {credit : Side → Nat}
    (served : channel.Served credit) (ready : channel.canAccept = true) (value : α)
    (one : credit .senders ≤ 1) (none : credit .receivers = 0) :
    (channel.give value).2.Served noCredit := by
  rcases sound.give_cases ready value with ⟨spare, given⟩ | ⟨_, receiver, after, handed, given⟩
  · rw [given]
    exact sound.served_acceptMany served (List.cons_ne_nil _ _) spare one none
  · rw [given]
    exact sound.served_handOff served handed one

/-- The credit of a call that was woken: one, on the side on which it waited. -/
def creditOf (side : Side) (credit : Nat) : Side → Nat :=
  fun other => if other = side then credit else 0

/-- Moving values uses up the credit of the call that moves them. -/
theorem Moves.served {channel after : Channel α} {call : Call α} {reply : Reply α}
    (moves : channel.Moves call reply after) (sound : channel.Sound) {credit : Nat}
    (served : channel.Served (creditOf call.side credit)) (one : credit ≤ 1)
    (idle : call.offers = [] → call.wants = 0 → credit = 0) : after.Served noCredit := by
  have spent : credit = 0 → channel.Served noCredit := fun zero =>
    served.mono fun side => by simp [creditOf, noCredit, zero]
  cases moves with
  | sentNothing sender nothing =>
    refine spent (idle nothing (Classical.byContradiction fun wanted => ?_))
    have receiver := (Call.side_of_wants wanted).1
    rw [sender] at receiver
    contradiction
  | tookNothing receiver nothing =>
    refine spent (idle (Classical.byContradiction fun given => ?_) nothing)
    have sender := (Call.side_of_offers given).1
    rw [receiver] at sender
    contradiction
  | accepted given spare =>
    have sender := (Call.side_of_offers given).1
    exact sound.served_acceptMany served given spare (by simpa [creditOf, sender] using one)
      (by simp [creditOf, sender])
  | released first rest held =>
    have wanted : call.wants ≠ 0 := by
      intro none
      rw [none, oldest, List.take_zero] at held
      contradiction
    have receiver := (Call.side_of_wants wanted).1
    refine sound.served_releaseMany served (by simp [held]) ?_ ?_
    · simpa [creditOf, receiver] using one
    · simp [creditOf, receiver]

/-- A try uses up the credit of the call that is tried. -/
theorem Tried.served {channel after : Channel α} {waker : TaskId} {call : Call α}
    {reply? : Option (Reply α)} (tried : channel.Tried waker call reply? after)
    (sound : channel.Sound) {credit : Nat}
    (served : channel.Served (creditOf call.side credit)) (one : credit ≤ 1)
    (idle : call.offers = [] → call.wants = 0 → credit = 0) : after.Served noCredit := by
  cases tried with
  | moved moves => exact moves.served sound served one idle
  | @handedOff value rest _ _ stuck offered handed =>
    have sender := (Call.side_of_offers (offered ▸ List.cons_ne_nil value rest)).1
    exact sound.served_handOff served handed (by simpa [creditOf, sender] using one)
  | tookOffer stuck wanted taken =>
    have receiver := (Call.side_of_wants wanted).1
    exact sound.served_takeOffer served taken (by simp [creditOf, receiver])
  | @offering value rest stuck offered nobody =>
    have sender := (Call.side_of_offers (offered ▸ List.cons_ne_nil value rest)).1
    refine served.park_sender ?_ (by simp [creditOf, sender]) _ _
    have full := isFull_iff.mp (stuck.full (by simp [offered]))
    have alone := sound.handOff_eq_none_iff.mp nobody
    unfold room
    split
    case isTrue rendezvous => simp [WaitQueue.length, alone rendezvous]
    case isFalse => exact full
  | awaiting stuck wanted nothing =>
    have receiver := (Call.side_of_wants wanted).1
    exact sound.served_park_receiver served (stuck.empty wanted) (by simp [creditOf, receiver]) _ _

/-- Without credit on one side there is none. -/
@[simp] theorem creditOf_zero (side : Side) : creditOf side 0 = noCredit := by
  funext other
  simp [creditOf, noCredit]

/-- Taking waits out of a queue keeps a channel served, with credit for the wakeups that went with
them. -/
theorem Served.setQueue {channel : Channel α} (served : channel.Served noCredit) {side : Side}
    {queue : WaitQueue α} {credit : Nat} (shorter : queue.length ≤ (channel.queue side).length)
    (covered : queue.waiting ≠ [] → (channel.queue side).pending ≤ queue.pending + credit) :
    (channel.setQueue side queue).Served (creditOf side credit) := by
  have somebody : queue.waiting ≠ [] → (channel.queue side).waiting ≠ [] := by
    intro waiting nobody
    have positive := List.length_pos_iff.mpr waiting
    have none : (channel.queue side).length = 0 := by simp [WaitQueue.length, nobody]
    rw [none] at shorter
    exact Nat.not_lt.mpr shorter positive
  cases side with
  | senders =>
    constructor
    · intro waiting
      have before := served.senders (somebody waiting)
      have after := covered waiting
      have same : (channel.setQueue .senders queue).room = channel.room := rfl
      rw [same]
      simp only [Channel.queue, noCredit, creditOf, if_true] at *
      exact Nat.le_trans before after
    · intro waiting
      exact served.receivers waiting
  | receivers =>
    constructor
    · intro waiting
      have before := served.senders waiting
      have less : (channel.setQueue .receivers queue).room ≤ channel.room := by
        have kept : (channel.setQueue .receivers queue).isRendezvous = channel.isRendezvous := rfl
        rw [room, room, kept]
        split
        · exact shorter
        · exact Nat.le_refl _
      exact Nat.le_trans less before
    · intro waiting
      have before := served.receivers (somebody waiting)
      have after := covered waiting
      have same : (channel.setQueue .receivers queue).length = channel.length := rfl
      rw [same]
      simp only [Channel.queue, noCredit, creditOf, if_true] at *
      exact Nat.le_trans before after

end Channel

namespace Bus

/-- Every open channel is served, with credit for the call being tried. -/
def Served (bus : Bus α) (credit : Nat → Side → Nat) : Prop :=
  ∀ handle channel, bus.channel? handle = some channel →
    channel.Served (credit channel.generation)

/-- No call is being tried. -/
def noCredit : Nat → Side → Nat := fun _ => Channel.noCredit

/-- The credit of a call that was woken on a channel. -/
def creditOf (generation : Nat) (side : Side) (credit : Nat) : Nat → Side → Nat :=
  fun other => if other = generation then Channel.creditOf side credit else Channel.noCredit

/-- The credit of a call that was woken, if it was. -/
def creditAfter (previous : Option (Handle × Nat)) (side : Side) : Nat → Side → Nat :=
  match previous with
  | none => noCredit
  | some (_, generation) => creditOf generation side 1

/-- Without credit on one channel there is none. -/
@[simp] theorem creditOf_zero (generation : Nat) (side : Side) :
    creditOf generation side 0 = noCredit := by
  funext other
  unfold creditOf noCredit
  split
  · exact Channel.creditOf_zero side
  · rfl

/-- Taking waits out of the queue of a ticket keeps a bus served, with credit for the wakeups that
went with them. -/
theorem Served.setTicketQueue {bus : Bus α} (served : bus.Served noCredit)
    {suspended : Suspended α} (sound : bus.Sound) (houses : bus.Houses suspended)
    (queue : WaitQueue α) (credit : Nat)
    (shorter : queue.length ≤ (bus.ticketQueue suspended.ticket).length)
    (covered : queue.waiting ≠ [] →
      (bus.ticketQueue suspended.ticket).pending ≤ queue.pending + credit) :
    (bus.setTicketQueue suspended.ticket queue).Served
      (creditOf suspended.ticket.generation suspended.ticket.side credit) := by
  obtain ⟨known, _, named, _, queueHere⟩ := houses.ticketed sound
  intro handle channel here
  rw [channel?_setTicketQueue houses.homes, Option.map_eq_some_iff] at here
  obtain ⟨former, there, rfl⟩ := here
  have before := served handle former there
  unfold creditOf
  split
  case isTrue same =>
    have equal : known = former := by
      have found := sound.identity?_of_channel? there
      rw [same, named] at found
      exact Option.some.inj found
    subst equal
    rw [Channel.generation_setQueue, if_pos same]
    rw [queueHere] at shorter covered
    exact before.setQueue shorter covered
  case isFalse => exact before

/-- Resuming a woken call uses up its wakeup, unless a transfer has settled it. -/
theorem Houses.pending_forget {bus : Bus α} {suspended : Suspended α}
    (houses : bus.Houses suspended) (sound : bus.Sound) {parcel : Parcel α}
    (dequeued : (bus.ticketQueue suspended.ticket).holds suspended.ticket.key = false)
    (held : bus.parcel? suspended.ticket.address = some parcel) :
    (bus.ticketQueue suspended.ticket).pending =
      ((bus.ticketQueue suspended.ticket).forget suspended.ticket.key).pending +
        if parcel.isSettled then 0 else 1 := by
  have lies := (houses.parcel?_ticketQueue sound).trans held
  obtain ⟨_, wait, found, rfl⟩ := WaitQueue.found?_of_parcel? lies dequeued
  obtain ⟨channel, _, _, channelSound, queueHere⟩ := houses.ticketed sound
  rw [queueHere] at found ⊢
  exact (channelSound.orderly suspended.ticket.side).keyed.pending_forget found

/-- Resuming a woken call leaves a bus served, with credit for its wakeup if it has not been
settled. -/
theorem Served.forget {bus : Bus α} (served : bus.Served noCredit) {suspended : Suspended α}
    (sound : bus.Sound) (houses : bus.Houses suspended) {parcel : Parcel α}
    (dequeued : (bus.ticketQueue suspended.ticket).holds suspended.ticket.key = false)
    (held : bus.parcel? suspended.ticket.address = some parcel) :
    (bus.setTicketQueue suspended.ticket
      ((bus.ticketQueue suspended.ticket).forget suspended.ticket.key)).Served
        (creditOf suspended.ticket.generation suspended.ticket.side
          (if parcel.isSettled then 0 else 1)) := by
  have resumed := houses.pending_forget sound dequeued held
  exact served.setTicketQueue sound houses _ _ (Nat.le_refl _) fun _ => Nat.le_of_eq resumed

/-- A new waker leaves a bus served. -/
theorem Served.refresh {bus : Bus α} (served : bus.Served noCredit) {suspended : Suspended α}
    (sound : bus.Sound) (houses : bus.Houses suspended) (waker : TaskId) :
    (bus.setTicketQueue suspended.ticket
      ((bus.ticketQueue suspended.ticket).refresh suspended.ticket.key waker)).Served
        noCredit := by
  have length : ((bus.ticketQueue suspended.ticket).refresh suspended.ticket.key waker).length =
      (bus.ticketQueue suspended.ticket).length := by
    simp [WaitQueue.length, WaitQueue.refresh]
  have kept := served.setTicketQueue sound houses _ 0 (Nat.le_of_eq length) fun _ => Nat.le_refl _
  rwa [creditOf_zero] at kept

/-- Dropping a waiting call leaves a bus served: a wakeup that it does not need goes to the next. -/
theorem Served.leave {bus : Bus α} (served : bus.Served noCredit) {suspended : Suspended α}
    (sound : bus.Sound) (houses : bus.Houses suspended) :
    (bus.setTicketQueue suspended.ticket
      ((bus.ticketQueue suspended.ticket).leave suspended.ticket.key)).Served noCredit := by
  obtain ⟨channel, _, _, channelSound, queueHere⟩ := houses.ticketed sound
  have passed : ((bus.ticketQueue suspended.ticket).leave suspended.ticket.key).waiting ≠ [] →
      (bus.ticketQueue suspended.ticket).pending ≤
        ((bus.ticketQueue suspended.ticket).leave suspended.ticket.key).pending := by
    rw [queueHere]
    exact (channelSound.orderly suspended.ticket.side).pending_le_leave
  have kept := served.setTicketQueue sound houses _ 0 (WaitQueue.length_leave_le _ _) passed
  rwa [creditOf_zero] at kept

/-- Counting keeps a bus served. -/
theorem Served.note {bus : Bus α} {credit : Nat → Side → Nat} (served : bus.Served credit)
    (update : Stats → Stats) : (bus.note update).Served credit := by
  intro handle channel here
  rw [channel?_note] at here
  exact served handle channel here

/-- A bus is served after the channel that has the credit was changed and has used it up. -/
theorem Becomes.served {bus after : Bus α} {handle : Handle} {channel new : Channel α}
    {credit : Nat → Side → Nat} (becomes : bus.Becomes after handle new)
    (served : bus.Served credit) (here : bus.channel? handle = some channel)
    (newServed : new.Served Channel.noCredit)
    (others : ∀ other another, bus.channel? other = some another → other ≠ handle →
      credit another.generation = Channel.noCredit) : after.Served noCredit := by
  intro other another there
  rw [becomes.channel? here] at there
  split at there
  case isTrue =>
    obtain rfl := Option.some.inj there
    exact newServed
  case isFalse apart =>
    have before := served other another there
    rw [others other another there apart] at before
    exact before

/-- Where a call waited that was woken: on the channel to which it is pinned, with values to move,
or anywhere if it is a broadcast. -/
structure Woken (bus : Bus α) (call : Call α) (pin : Option Nat) (handle : Handle)
    (generation : Nat) : Prop where
  /-- The handle is the one under which the channel is open, if it is. -/
  home : ∀ other channel, bus.channel? other = some channel → channel.generation = generation →
    other = handle
  /-- A call on a handle waited on the channel to which it is pinned. -/
  pinned : call.handle?.isSome = true → pin = some generation
  /-- A call on a handle has something to wait for. -/
  busy : call.handle?.isSome = true → call.offers ≠ [] ∨ call.wants ≠ 0

/-- A try of a call on a handle uses up the credit of the call. -/
theorem Attempted.served {bus : Bus α} {handle : Handle} {channel : Channel α} {waker : TaskId}
    {call : Call α} {outcome : Outcome α (Progress α)} {previous : Option (Handle × Nat)}
    (attempted : bus.Attempted handle channel waker call outcome) (sound : bus.Sound)
    (served : bus.Served (creditAfter previous call.side))
    (here : bus.channel? handle = some channel) (named : call.handle? = some handle)
    (woken : ∀ target generation, previous = some (target, generation) →
      bus.Woken call (some channel.generation) target generation) :
    outcome.bus.Served noCredit := by
  obtain ⟨reply?, new, tried, billed, _⟩ := attempted
  have becomes := billed.becomes
  have channelSound := sound.of_channel? here
  have before := served handle channel here
  cases previous with
  | none =>
    have start : channel.Served (Channel.creditOf call.side 0) := by
      rw [Channel.creditOf_zero]
      exact before
    exact becomes.served served here
      (tried.served channelSound start (Nat.zero_le _) fun _ _ => rfl)
      fun _ _ _ _ => rfl
  | some previous =>
    obtain ⟨target, generation⟩ := previous
    have known := woken target generation rfl
    have isNamed : call.handle?.isSome = true := by simp [named]
    have same : channel.generation = generation := Option.some.inj (known.pinned isNamed)
    have credited : channel.Served (Channel.creditOf call.side 1) := by
      simpa [creditAfter, creditOf, same] using before
    refine becomes.served served here (tried.served channelSound credited (Nat.le_refl _) ?_) ?_
    · intro nothing none
      rcases known.busy isNamed with given | wanted
      · exact absurd nothing given
      · exact absurd none wanted
    · intro other another there apart
      have different : another.generation ≠ generation := fun equal =>
        apart (sound.handle_unique there here (equal.trans same.symm))
      exact if_neg different

/-- Passing a wakeup on leaves every channel served that is ready. -/
theorem Served.settleWakeup {bus : Bus α} (served : bus.Served noCredit) (sound : bus.Sound)
    (previous : Option (Handle × Nat)) (stall : Option Stall) :
    (bus.settleWakeup previous stall).bus.Served noCredit := by
  rcases bus.settleWakeup_cases previous stall with
    ⟨same, _⟩ | ⟨handle, generation, channel, _, _, pinned, billed⟩
  · rwa [same]
  · have becomes := billed.becomes
    have here := (Bus.pinned?_eq_some_iff.mp pinned).1
    have before := served handle channel here
    have woken := (sound.of_channel? here).served_wake_sender before (Nat.zero_le _) rfl
    exact becomes.served served here woken fun _ _ _ _ => rfl

/-- The credit that a woken broadcaster has on a channel is at most one, for the senders. -/
theorem creditAfter_le (previous : Option (Handle × Nat)) (generation : Nat) :
    creditAfter previous .senders generation .senders ≤ 1 ∧
      creditAfter previous .senders generation .receivers = 0 := by
  cases previous with
  | none => exact ⟨Nat.zero_le _, rfl⟩
  | some previous =>
    unfold creditAfter creditOf
    simp only
    split
    · exact ⟨Nat.le_refl _, rfl⟩
    · exact ⟨Nat.zero_le _, rfl⟩

/-- A copy given to every open channel uses up the credit of a woken broadcaster. -/
theorem Served.giveAll {bus : Bus α} {previous : Option (Handle × Nat)}
    (served : bus.Served (creditAfter previous .senders)) (sound : bus.Sound)
    (ready : ∀ handle channel, bus.channel? handle = some channel → channel.canAccept = true)
    (value : α) : (bus.giveAll value).bus.Served noCredit := by
  obtain ⟨update, given⟩ := bus.bus_giveAll value
  rw [given]
  intro handle channel here
  rw [channel?_note, channel?_overOpen, Option.map_eq_some_iff] at here
  obtain ⟨former, there, rfl⟩ := here
  obtain ⟨one, none⟩ := creditAfter_le previous former.generation
  exact (sound.of_channel? there).served_give (served handle former there)
    (ready handle former there) value one none

/-- A broadcaster that stalls passes its wakeup on, unless it goes back to where it was woken; so
every channel but the one that refused the value needs no credit. -/
theorem Served.settleWakeup_of_refused {bus : Bus α} {previous : Option (Handle × Nat)}
    (served : bus.Served (creditAfter previous .senders)) (sound : bus.Sound)
    (home : ∀ target generation, previous = some (target, generation) → ∀ other channel,
      bus.channel? other = some channel → channel.generation = generation → other = target)
    {handle : Handle} {channel : Channel α} (here : bus.channel? handle = some channel)
    (unready : channel.canAccept = false) :
    (bus.settleWakeup previous (some (.refused handle channel.generation))).bus.Served
      noCredit := by
  have relax : ∀ other another, bus.channel? other = some another →
      (another.canAccept = true → another.senders.waiting = []) →
      another.Served Channel.noCredit := by
    intro other another there idle
    have none := (creditAfter_le previous another.generation).2
    exact (sound.of_channel? there).served_of_unready (served other another there) idle none
  rcases bus.settleWakeup_cases previous (some (.refused handle channel.generation)) with
    ⟨same, idle⟩ | ⟨target, generation, woken, was, apart, pinned, billed⟩
  · rw [same]
    intro other another there
    by_cases waitedHere : ∃ target, previous = some (target, another.generation)
    · obtain ⟨target, was⟩ := waitedHere
      obtain rfl := home target another.generation was other another there rfl
      refine relax other another there fun ready => ?_
      refine idle other another.generation another was ?_
        (Bus.pinned?_eq_some_iff.mpr ⟨there, rfl⟩) ready
      intro refusedHere
      simp only [Option.some.injEq, Stall.refused.injEq] at refusedHere
      obtain rfl := refusedHere.1
      obtain rfl : channel = another := Option.some.inj (here.symm.trans there)
      rw [unready] at ready
      contradiction
    · have before := served other another there
      have none : creditAfter previous .senders another.generation = Channel.noCredit := by
        cases previous with
        | none => rfl
        | some previous =>
          exact if_neg fun equal => waitedHere ⟨previous.1, by rw [equal]⟩
      rwa [none] at before
  · obtain ⟨there, same⟩ := Bus.pinned?_eq_some_iff.mp pinned
    obtain ⟨one, none⟩ := creditAfter_le previous woken.generation
    have passed := (sound.of_channel? there).served_wake_sender (served target woken there) one none
    refine billed.becomes.served served there passed fun other another elsewhere different => ?_
    rw [was]
    exact if_neg fun equal =>
      different (sound.handle_unique elsewhere there (equal.trans same.symm))

/-- A try of a broadcast uses up the credit of the broadcaster, or passes it on. -/
theorem BroadcastTried.served {bus after : Bus α} {value : α} {previous : Option (Handle × Nat)}
    {waker : TaskId} {progress : Progress α}
    (tried : bus.BroadcastTried value previous waker progress after) (sound : bus.Sound)
    (served : bus.Served (creditAfter previous .senders))
    (home : ∀ target generation, previous = some (target, generation) → ∀ other channel,
      bus.channel? other = some channel → channel.generation = generation → other = target) :
    after.Served noCredit := by
  cases tried with
  | noChannel nothing =>
    intro handle channel here
    rw [channel?_note, nothing] at here
    contradiction
  | sent ready something =>
    have given := served.giveAll sound ready value
    have givenSound := (sound.tries_giveAll ready value (.broadcast value)).sound
    exact given.settleWakeup givenSound previous none
  | @stalled handle channel middle _ here unready settled still billed =>
    have becomes := billed.becomes
    subst settled
    have passed := served.settleWakeup_of_refused sound home here unready
    have full : channel.room = 0 := by
      have none : ¬ 0 < channel.room := fun room => by
        rw [(sound.of_channel? here).canAccept_iff.mpr room] at unready
        contradiction
      omega
    have parked := (passed handle channel still).park_sender full rfl .empty (some waker)
    exact becomes.served passed still parked fun _ _ _ _ => rfl

/-- A try of a call uses up the credit of the call. -/
theorem Acts.served {bus after : Bus α} {waker : TaskId} {call : Call α} {pin : Option Nat}
    {previous : Option (Handle × Nat)} {progress : Progress α}
    (acts : bus.Acts waker call pin previous progress after) (sound : bus.Sound)
    (served : bus.Served (creditAfter previous call.side))
    (woken : ∀ target generation, previous = some (target, generation) →
      bus.Woken call pin target generation) : after.Served noCredit := by
  cases acts with
  | failed error gone =>
    refine Served.note ?_ _
    intro handle channel here
    have before := served handle channel here
    cases previous with
    | none => exact before
    | some previous =>
      have closed := gone previous.1 previous.2 rfl
      have apart : channel.generation ≠ previous.2 := by
        intro same
        obtain rfl := (woken previous.1 previous.2 rfl).home handle channel here same
        rw [Bus.pinned?_eq_some_iff.mpr ⟨here, same⟩] at closed
        contradiction
      have none : creditAfter (some previous) call.side channel.generation = Channel.noCredit :=
        if_neg apart
      rwa [none] at before
  | attempted named here pinned attempted =>
    refine attempted.served sound served here named fun target generation was => ?_
    rw [← pinned]
    exact woken target generation was
  | broadcast everywhere tried =>
    subst everywhere
    exact tried.served sound served fun target generation was =>
      (woken target generation was).home

end Bus

namespace Session

variable {session : Session α}

/-- A woken call waited where its ticket says. -/
theorem Lawful.woken (lawful : session.Lawful) {id : Nat} {suspended : Suspended α}
    (waits : session.waiting? id = some suspended) {bus : Bus α}
    (generations : ∀ handle, (bus.channel? handle).map (·.generation) =
      (session.bus.channel? handle).map (·.generation)) :
    bus.Woken suspended.call (some suspended.ticket.generation) suspended.ticket.handle
      suspended.ticket.generation := by
  have houses := lawful.housed.houses id suspended waits
  refine ⟨houses.homes.of_generations generations, fun _ => rfl, fun named => ?_⟩
  obtain ⟨parcel, _, finds⟩ := houses.parcel
  cases finds with
  | offered offers | taken offers => exact .inl (by simp [offers])
  | empty wants | delivered _ wants => exact .inr wants
  | unpinned everywhere => simp [everywhere] at named

/-- Every effect of a move keeps the bus served. -/
theorem Effect.served {move : Move α} {result : Option (Status α)} {after : Bus α}
    (effect : session.Effect move result after) (lawful : session.Lawful)
    (served : session.bus.Served Bus.noCredit) : after.Served Bus.noCredit := by
  have sound := lawful.housed.sound
  cases effect with
  | idle => exact served
  | skipped => exact served
  | opened opens =>
    intro handle channel here
    rw [opens.channel?] at here
    split at here
    case isTrue =>
      obtain rfl := Option.some.inj here
      exact Channel.served_new _ _ _
    case isFalse => exact served handle channel here
  | shut shuts =>
    intro handle channel here
    rw [shuts.channel?] at here
    split at here
    case isTrue => contradiction
    case isFalse => exact served handle channel here
  | refused asked error => exact served.note _
  | @moved _ call handle channel new _ _ asked named here moves becomes =>
    have before : channel.Served (Channel.creditOf call.side 0) := by
      rw [Channel.creditOf_zero]
      exact served handle channel here
    have moved := moves.served (sound.of_channel? here) before (Nat.zero_le _) fun _ _ => rfl
    exact becomes.served served here moved fun _ _ _ _ => rfl
  | spread spare =>
    have start : session.bus.Served (Bus.creditAfter none .senders) := served
    refine start.giveAll sound (fun handle channel here => ?_) _
    simp [Channel.canAccept, spare handle channel here]
  | started acts => exact acts.served sound served (by simp)
  | @refreshed id waker suspended waits queued =>
    exact served.refresh sound (lawful.housed.houses id suspended waits) waker
  | @settled id waker suspended parcel reply waits dequeued held happened =>
    have resumed := served.forget sound (lawful.housed.houses id suspended waits) dequeued held
    rw [Call.isSettled_of_settledReply happened, if_pos rfl, Bus.creditOf_zero] at resumed
    exact resumed
  | @retried id waker suspended parcel progress _ waits dequeued held unsettled acts =>
    have houses := lawful.housed.houses id suspended waits
    have clears := houses.clears_forget sound dequeued
    have resumed := served.forget sound houses dequeued held
    rw [unsettled, houses.side] at resumed
    refine acts.served clears.sound resumed fun target generation was => ?_
    simp only [Option.some.injEq, Prod.mk.injEq] at was
    obtain ⟨rfl, rfl⟩ := was
    exact lawful.woken waits clears.generations
  | @dropped id suspended waits =>
    exact served.leave sound (lawful.housed.houses id suspended waits)

/-- A lawful session whose open channels are all served. -/
structure Attended (session : Session α) : Prop where
  /-- The session is lawful. -/
  lawful : session.Lawful
  /-- Every open channel is served. -/
  served : session.bus.Served Bus.noCredit

/-- A new session is attended. -/
theorem attended_new (config : Config) : (new config : Session α).Attended := by
  refine ⟨lawful_new config, fun handle channel here => ?_⟩
  simp [new, Bus.new, Bus.channel?] at here

/-- Every move keeps a session attended. -/
theorem Attended.step [Stored α] (attended : session.Attended) (move : Move α) :
    (session.step move).Attended :=
  ⟨attended.lawful.step move,
    (effect attended.lawful move).served attended.lawful attended.served⟩

/-- Every run is attended throughout. -/
theorem Attended.run [Stored α] (attended : session.Attended) (moves : List (Move α)) :
    (session.run moves).Attended :=
  run_induction attended (fun _ move kept => kept.step move) moves

/-! ## Wakeups on their way -/

/-- Whether a call waited on one side of a channel, was dequeued without a transfer, and has been
neither resumed nor dropped since. -/
def isOutstanding (session : Session α) (generation : Nat) (side : Side) (id : Nat) : Bool :=
  match session.waiting? id with
  | none => false
  | some suspended =>
    suspended.ticket.generation = generation && suspended.ticket.side = side &&
      match (session.bus.ticketQueue suspended.ticket).found? suspended.ticket.key with
      | none => false
      | some parcel => !parcel.isSettled

/-- How many such calls there are. -/
def outstanding (session : Session α) (generation : Nat) (side : Side) : Nat :=
  (List.range session.calls.length).countP (session.isOutstanding generation side)

/-- A woken wait whose parcel is not settled belongs to an outstanding call. -/
theorem Lawful.outstanding_of_woken (lawful : session.Lawful) {handle : Handle}
    {channel : Channel α} (here : session.bus.channel? handle = some channel) {side : Side}
    {wait : Wait α} (woken : wait ∈ (channel.queue side).woken)
    (unsettled : wait.parcel.isSettled = false) :
    ∃ id suspended, session.waiting? id = some suspended ∧ suspended.ticket.key = wait.key ∧
      session.isOutstanding channel.generation side id = true := by
  have sound := lawful.housed.sound
  have keyed := ((sound.of_channel? here).orderly side).keyed
  have member : wait ∈ (channel.queue side).waits := List.mem_append_right _ woken
  have held : session.bus.parcel? ⟨channel.generation, side, wait.key⟩ = some wait.parcel := by
    rw [sound.parcel?_of_channel? here]
    exact keyed.parcel?_of_mem member
  obtain ⟨id, suspended, waits, same⟩ := lawful.housed.owned _ _ held
  have generation : suspended.ticket.generation = channel.generation :=
    congrArg Address.generation same
  have sideSame : suspended.ticket.side = side := congrArg Address.side same
  have key : suspended.ticket.key = wait.key := congrArg Address.key same
  obtain ⟨known, _, named, _, queueHere⟩ := (lawful.housed.houses id suspended waits).ticketed sound
  rw [generation, sound.identity?_of_channel? here] at named
  obtain rfl : channel = known := Option.some.inj named
  rw [sideSame] at queueHere
  have dequeued : (channel.queue side).holds wait.key = false := by
    cases queued : (channel.queue side).holds wait.key with
    | false => rfl
    | true => exact absurd rfl (keyed.woken_ne queued wait woken)
  have found := (WaitQueue.found?_of_parcel? (keyed.parcel?_of_mem member) dequeued).1
  refine ⟨id, suspended, waits, key, ?_⟩
  simp [isOutstanding, waits, generation, sideSame, queueHere, key, found, unsettled]

/-- Every pending wakeup of an open channel belongs to an outstanding call of its own. -/
theorem Lawful.pending_le_outstanding (lawful : session.Lawful) {handle : Handle}
    {channel : Channel α} (here : session.bus.channel? handle = some channel) (side : Side) :
    (channel.queue side).pending ≤ session.outstanding channel.generation side := by
  have keyed := ((lawful.housed.sound.of_channel? here).orderly side).keyed
  let woken := (channel.queue side).woken.filter fun wait => !wait.parcel.isSettled
  let ids := (List.range session.calls.length).filter
    (session.isOutstanding channel.generation side)
  let keyOf := fun id => (session.waiting? id).elim 0 (·.ticket.key)
  have distinct : (woken.map (·.key)).Nodup :=
    keyed.distinct.sublist ((List.filter_sublist.trans (List.sublist_append_right _ _)).map _)
  have covered : woken.map (·.key) ⊆ ids.map keyOf := by
    intro key member
    obtain ⟨wait, wakes, rfl⟩ := List.mem_map.mp member
    obtain ⟨inside, unsettled⟩ := List.mem_filter.mp wakes
    obtain ⟨id, suspended, waits, same, outstanding⟩ :=
      lawful.outstanding_of_woken here inside (by simpa using unsettled)
    refine List.mem_map.mpr ⟨id, List.mem_filter.mpr ⟨?_, outstanding⟩, ?_⟩
    · exact List.mem_range.mpr (lt_of_waiting? waits)
    · simp [keyOf, waits, same]
  have fewer := distinct.length_le_of_subset covered
  rw [List.length_map, List.length_map] at fewer
  rw [WaitQueue.pending, List.countP_eq_length_filter, outstanding, List.countP_eq_length_filter]
  exact fewer

/-- No wakeup is lost. While senders are queued on an open channel, its room is covered by sending
calls that were woken and have not been polled since; while receivers are queued, its buffered
values are covered by such receiving calls. So if no woken call is outstanding, nobody is queued in
vain. -/
theorem no_wakeup_lost [Stored α] (config : Config) (moves : List (Move α)) (handle : Handle)
    (channel : Channel α) (here : ((new config).run moves).bus.channel? handle = some channel) :
    let outstanding := ((new config).run moves).outstanding channel.generation
    (channel.senders.waiting ≠ [] → channel.room ≤ outstanding .senders) ∧
    (channel.receivers.waiting ≠ [] → channel.length ≤ outstanding .receivers) ∧
    (outstanding .senders = 0 → channel.canAccept = true → channel.senders.waiting = []) ∧
    (outstanding .receivers = 0 → channel.buffer ≠ [] → channel.receivers.waiting = []) ∧
    (outstanding .senders = 0 → channel.capacity = 0 →
      channel.senders.waiting = [] ∨ channel.receivers.waiting = []) := by
  intro outstanding
  obtain ⟨lawful, served⟩ := (attended_new config).run moves
  have sound := lawful.housed.sound.of_channel? here
  have covered := served handle channel here
  have senders : channel.senders.waiting ≠ [] → channel.room ≤ outstanding .senders :=
    fun waiting =>
      Nat.le_trans (covered.senders waiting) (lawful.pending_le_outstanding here .senders)
  have receivers : channel.receivers.waiting ≠ [] → channel.length ≤ outstanding .receivers :=
    fun waiting =>
      Nat.le_trans (covered.receivers waiting) (lawful.pending_le_outstanding here .receivers)
  have room : outstanding .senders = 0 → channel.canAccept = true →
      channel.senders.waiting = [] := by
    intro none ready
    cases queued : channel.senders.waiting with
    | nil => rfl
    | cons first rest =>
      have covers := senders (by simp [queued])
      have some := sound.canAccept_iff.mp ready
      omega
  refine ⟨senders, receivers, room, fun none held => ?_, fun none zero => ?_⟩
  · cases queued : channel.receivers.waiting with
    | nil => rfl
    | cons first rest =>
      have covers := receivers (by simp [queued])
      have some : 0 < channel.length := List.length_pos_iff.mpr held
      omega
  · cases queued : channel.receivers.waiting with
    | nil => exact .inr rfl
    | cons first rest =>
      refine .inl (room none (sound.canAccept_iff.mpr ?_))
      simp [Channel.room, Channel.isRendezvous, zero, WaitQueue.length, queued]

/-- Two senders wait on a full channel of capacity one. A value is taken out, so one place is free
while the second sender is still queued, and the wakeup of the first sender covers it. -/
theorem no_wakeup_lost_after_release :
    let session := (new {} : Session UInt32).run
      [.request (.openChannel 1), .request (.trySend ⟨0⟩ 5), .start (.send ⟨0⟩ 6) 1,
        .start (.send ⟨0⟩ 7) 2, .request (.tryReceive ⟨0⟩)]
    let channel : Channel UInt32 :=
      { capacity := 1, generation := 0, buffer := []
        senders := ⟨[⟨1, some 2, .offered 7⟩], [⟨0, some 1, .offered 6⟩], 2⟩, receivers := .new }
    session.bus.channel? ⟨0⟩ = some channel ∧ channel.senders.waiting ≠ [] ∧ channel.room = 1 ∧
      channel.room ≤ session.outstanding 0 .senders := by
  refine ⟨rfl, List.cons_ne_nil _ _, rfl, ?_⟩
  exact (no_wakeup_lost {} _ ⟨0⟩ _ rfl).1 (List.cons_ne_nil _ _)

end Session

end ChannelBus
