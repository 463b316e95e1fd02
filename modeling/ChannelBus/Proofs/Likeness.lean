import ChannelBus.Bus.Request
import ChannelBus.Proofs.Broadcasts

/-!
# Buses that are alike

What an operation does depends on a bus only by its settings and its open channels, and it changes a
bus in few ways: it counts, it replaces open channels, and it closes some. `Bus.Likeness` asks of a
relation between buses that the first is equal on both sides and that the second keeps it. Then all
operations respect the relation: they have the same answer and the same notices on both sides, and
the buses that they leave are related again.

Some operations see more than that. Resuming or dropping a call reaches its wait even on a closed
channel, opening a channel looks for a free slot, and deleting tells how many slots there were. They
are left to the relation.
-/

namespace ChannelBus

variable {α β γ : Type}

/-- Two outcomes have the same answer and the same notices, and their buses are alike. -/
structure Outcome.Like (like : Bus α → Bus α → Prop) (outcome other : Outcome α β) : Prop where
  /-- The same answer. -/
  result : other.result = outcome.result
  /-- The same notices. -/
  notices : other.notices = outcome.notices
  /-- Buses that are alike. -/
  bus : like outcome.bus other.bus

namespace Bus

/-- An operation does the same to buses that are alike. -/
def Respects (like : Bus α → Bus α → Prop) (operation : Bus α → Outcome α β) : Prop :=
  ∀ ⦃bus other⦄, like bus other → (operation bus).Like like (operation other)

/-- The registry after a slot was freed whose channel was closed. -/
def freed (bus : Bus α) (handle : Handle) (closed : Channel α) : Bus α :=
  { bus with slots := bus.slots.set handle.id none, retired := bus.retired ++ [closed] }

/-- What makes a relation one that the operations of a bus respect. -/
structure Likeness (like : Bus α → Bus α → Prop) : Prop where
  /-- Batches are enabled on both sides or on none. -/
  batch : ∀ ⦃bus other⦄, like bus other → other.config.batch = bus.config.batch
  /-- Broadcasts are enabled on both sides or on none. -/
  broadcast : ∀ ⦃bus other⦄, like bus other → other.config.broadcast = bus.config.broadcast
  /-- The same channels are open under the same handles. -/
  channel? : ∀ ⦃bus other⦄, like bus other →
    ∀ handle, other.channel? handle = bus.channel? handle
  /-- Counting on both sides. -/
  note : ∀ ⦃bus other⦄, like bus other → ∀ update, like (bus.note update) (other.note update)
  /-- Replacing an open channel on both sides. -/
  setChannel : ∀ ⦃bus other⦄, like bus other → ∀ {handle old}, bus.channel? handle = some old →
    ∀ channel, like (bus.setChannel handle channel) (other.setChannel handle channel)
  /-- Changing all open channels on both sides. -/
  overOpen : ∀ ⦃bus other⦄, like bus other → ∀ change, like (bus.overOpen change)
    (other.overOpen change)
  /-- Closing an open channel on both sides. -/
  freed : ∀ ⦃bus other⦄, like bus other → ∀ {handle old}, bus.channel? handle = some old →
    ∀ closed, like (bus.freed handle closed) (other.freed handle closed)

end Bus

/-! ## Putting operations together -/

namespace Outcome

variable {like : Bus α → Bus α → Prop} {outcome other : Outcome α β}

/-- Changing the answer on both sides. -/
theorem Like.map (alike : outcome.Like like other) (change : β → γ) :
    (outcome.map change).Like like (other.map change) :=
  ⟨congrArg change alike.result, alike.notices, alike.bus⟩

/-- Putting notices first on both sides. -/
theorem Like.after (alike : outcome.Like like other) (notices : List Notice) :
    (outcome.after notices).Like like (other.after notices) :=
  ⟨alike.result, congrArg (notices ++ ·) alike.notices, alike.bus⟩

/-- Going on with the same operation on both sides. -/
theorem Like.andThen (alike : outcome.Like like other) {next : β → Bus α → Outcome α γ}
    (respects : ∀ result, Bus.Respects like (next result)) :
    (outcome.andThen next).Like like (other.andThen next) := by
  obtain ⟨result, notices, bus⟩ := respects outcome.result alike.bus
  simp only [Outcome.andThen, alike.result, alike.notices]
  exact ⟨result, congrArg (outcome.notices ++ ·) notices, bus⟩

end Outcome

/-- Two ascending lists with the same members are the same. -/
theorem eq_of_ascending (key : β → Nat) {first second : List β}
    (ascending : first.Pairwise fun lower higher => key lower < key higher)
    (ascendingToo : second.Pairwise fun lower higher => key lower < key higher)
    (same : ∀ item, item ∈ first ↔ item ∈ second) : first = second := by
  have distinct {items : List β}
      (ordered : items.Pairwise fun lower higher => key lower < key higher) : items.Nodup := by
    refine ordered.imp fun lower equal => ?_
    rw [equal] at lower
    exact Nat.lt_irrefl _ lower
  have perm := (List.perm_ext_iff_of_nodup (distinct ascending) (distinct ascendingToo)).mpr same
  exact perm.eq_of_pairwise (fun _ _ _ _ lower higher => absurd lower (Nat.lt_asymm higher))
    ascending ascendingToo

namespace Bus

/-- The list of open channels is told by looking up their handles. -/
theorem openChannels_congr {bus other : Bus α}
    (same : ∀ handle, other.channel? handle = bus.channel? handle) :
    other.openChannels = bus.openChannels := by
  have ascending (bus : Bus α) :
      bus.openChannels.Pairwise fun first second => first.1.id < second.1.id := by
    have listed := bus.handles_ascending
    rwa [handles, List.pairwise_map] at listed
  refine eq_of_ascending (fun entry => entry.1.id) (ascending other) (ascending bus) fun entry => ?_
  rw [mem_openChannels, mem_openChannels, same]

/-- Doing nothing respects everything. -/
theorem respects_unchanged (like : Bus α → Bus α → Prop) (result : β) :
    Respects like fun bus => bus.unchanged result :=
  fun _ _ alike => ⟨rfl, rfl, alike⟩

section Joining

variable {like : Bus α → Bus α → Prop} {operation : Bus α → Outcome α β}

/-- Changing the answer of an operation. -/
theorem Respects.map (respects : Respects like operation) (change : β → γ) :
    Respects like fun bus => (operation bus).map change :=
  fun _ _ alike => (respects alike).map change

/-- Putting notices before those of an operation. -/
theorem Respects.after (respects : Respects like operation) (notices : List Notice) :
    Respects like fun bus => (operation bus).after notices :=
  fun _ _ alike => (respects alike).after notices

/-- Two operations, one after the other. -/
theorem Respects.andThen (respects : Respects like operation) {next : β → Bus α → Outcome α γ}
    (respectsNext : ∀ result, Respects like (next result)) :
    Respects like fun bus => (operation bus).andThen next :=
  fun _ _ alike => (respects alike).andThen respectsNext

end Joining

namespace Likeness

variable {like : Bus α → Bus α → Prop} (likeness : Likeness like)

include likeness

/-- Failing respects a likeness. -/
theorem fail (error : BusError) :
    Respects like fun bus => (bus.fail error : Outcome α (Result β)) :=
  fun _ _ alike => ⟨rfl, rfl, likeness.note alike (·.countError error)⟩

section Lookups

variable {bus other : Bus α} (alike : like bus other)

include alike

/-- The same channels are open, in the same order. -/
theorem openChannels : other.openChannels = bus.openChannels :=
  openChannels_congr (likeness.channel? alike)

/-- The same channels are pinned. -/
theorem pinned? (handle : Handle) (generation : Nat) :
    other.pinned? handle generation = bus.pinned? handle generation := by
  rw [Bus.pinned?, likeness.channel? alike, Bus.pinned?]

/-- The same channels are looked up. -/
theorem lookup (handle : Handle) (generation : Option Nat) :
    other.lookup handle generation = bus.lookup handle generation := by
  cases generation with
  | none => exact likeness.channel? alike handle
  | some generation => exact likeness.pinned? alike handle generation

/-- An open channel that was looked up is replaced, and that is counted and told. -/
theorem replace {handle : Handle} {old : Channel α} (here : bus.channel? handle = some old)
    (result : β) (channel : Channel α) (update : Stats → Stats) (notices : List Notice) :
    Outcome.Like like
      { result, bus := (bus.setChannel handle channel).note update, notices }
      { result, bus := (other.setChannel handle channel).note update, notices } :=
  ⟨rfl, rfl, likeness.note (likeness.setChannel alike here channel) update⟩

end Lookups

/-! ## Moving values without waiting -/

section Moving

variable (handle : Handle) (generation : Option Nat)

/-- Pushing respects a likeness. -/
theorem push (value : α) : Respects like (·.push handle generation value) := by
  intro bus other alike
  simp only [Bus.push, likeness.lookup alike]
  cases found : bus.lookup handle generation with
  | none => exact likeness.fail .noChannel alike
  | some channel =>
    cases accepted : channel.accept value with
    | none =>
      simp only [accepted]
      exact likeness.fail .wouldBlock alike
    | some outcome =>
      simp only [accepted]
      exact likeness.replace alike (channel?_of_lookup found) _ _ _ _

/-- Popping respects a likeness. -/
theorem pop : Respects like (·.pop handle generation) := by
  intro bus other alike
  simp only [Bus.pop, likeness.lookup alike]
  cases found : bus.lookup handle generation with
  | none => exact likeness.fail .noChannel alike
  | some channel =>
    cases released : channel.release with
    | none =>
      simp only [released]
      exact likeness.fail .wouldBlock alike
    | some outcome =>
      simp only [released]
      exact likeness.replace alike (channel?_of_lookup found) _ _ _ _

/-- Pushing a batch respects a likeness. -/
theorem pushMany (values : List α) : Respects like (·.pushMany handle generation values) := by
  intro bus other alike
  simp only [Bus.pushMany, likeness.lookup alike]
  cases found : bus.lookup handle generation with
  | none => exact likeness.fail .noChannel alike
  | some channel =>
    by_cases nothing : values.isEmpty = true
    · simp only [nothing, if_true]
      exact respects_unchanged like _ alike
    · by_cases full : (channel.fitting values).length = 0
      · simp only [nothing, full, if_true]
        exact likeness.fail .wouldBlock alike
      · simp only [nothing, full, if_false]
        exact likeness.replace alike (channel?_of_lookup found) _ _ _ _

/-- Popping a batch respects a likeness. -/
theorem popMany (max : Nat) : Respects like (·.popMany handle generation max) := by
  intro bus other alike
  simp only [Bus.popMany, likeness.lookup alike]
  cases found : bus.lookup handle generation with
  | none => exact likeness.fail .noChannel alike
  | some channel =>
    by_cases nothing : max = 0
    · simp only [nothing, if_true]
      exact respects_unchanged like _ alike
    · by_cases empty : (channel.oldest max).isEmpty = true
      · simp only [nothing, empty, if_true, if_false]
        exact likeness.fail .wouldBlock alike
      · simp only [nothing, empty, if_false]
        exact likeness.replace alike (channel?_of_lookup found) _ _ _ _

/-- A request that needs an extension of the bus respects a likeness if what it asks for does. -/
theorem ensure (enabled : Config → Bool)
    (same : ∀ ⦃bus other⦄, like bus other → enabled other.config = enabled bus.config)
    {operation : Bus α → Outcome α (Result β)} (respects : Respects like operation) :
    Respects like fun bus => bus.ensure (enabled bus.config) (operation bus) := by
  intro bus other alike
  simp only [Bus.ensure, same alike]
  cases enabled bus.config with
  | true => exact respects alike
  | false => exact likeness.fail .notImplemented alike

end Moving

/-! ## Broadcasting -/

section Broadcasting

/-- Giving a copy to every channel respects a likeness. -/
theorem giveAll (value : α) : Respects like (·.giveAll value) := by
  intro bus other alike
  have openChannels := likeness.openChannels alike
  refine ⟨rfl, ?_, ?_⟩
  · simp only [Bus.giveAll, openChannels]
  · simp only [Bus.giveAll, openChannels]
    exact likeness.note (likeness.overOpen alike fun channel => (channel.give value).2) _

/-- Broadcasting once respects a likeness. -/
theorem broadcastOnce (ready : Channel α → Bool) (value : α) :
    Respects like (·.broadcastOnce ready value) := by
  intro bus other alike
  have same : other.stall? ready = bus.stall? ready := by
    simp only [stall?, firstRefusal, likeness.openChannels alike]
  simp only [Bus.broadcastOnce, same]
  cases bus.stall? ready with
  | none => exact (likeness.giveAll value alike).map _
  | some stall => exact respects_unchanged like _ alike

/-- Broadcasting without waiting respects a likeness. -/
theorem tryBroadcast (value : α) : Respects like (·.tryBroadcast value) := by
  refine likeness.ensure (·.broadcast) likeness.broadcast ?_
  refine (likeness.broadcastOnce _ value).andThen fun stall => ?_
  cases stall with
  | none => exact respects_unchanged like _
  | some stall =>
    cases stall with
    | noChannel => exact likeness.fail .noChannel
    | refused => exact likeness.fail .wouldBlock

/-- Passing a wakeup on respects a likeness. -/
theorem passWakeupOn (handle : Handle) (generation : Nat) :
    Respects like (·.passWakeupOn handle generation) := by
  intro bus other alike
  simp only [Bus.passWakeupOn, likeness.pinned? alike]
  cases pinned : bus.pinned? handle generation with
  | none => exact respects_unchanged like () alike
  | some channel =>
    cases nobody : (if channel.canAccept then channel.front .senders 1 else []).isEmpty with
    | true =>
      simp only [nobody, if_true]
      exact respects_unchanged like () alike
    | false =>
      simp only [nobody, Bool.false_eq_true, if_false]
      exact likeness.replace alike (pinned?_eq_some_iff.mp pinned).1 _ _ _ _

end Broadcasting

/-! ## Closing -/

section Closing

/-- Closing a channel respects a likeness. -/
theorem close (handle : Handle) : Respects like (·.close handle) := by
  intro bus other alike
  simp only [Bus.close, likeness.channel? alike]
  cases here : bus.channel? handle with
  | none => exact respects_unchanged like () alike
  | some channel =>
    exact ⟨rfl, rfl, likeness.note (likeness.freed alike here channel.closed)
      (·.countClosed channel.everyone.length)⟩

/-- Closing several channels respects a likeness. -/
theorem closeAll (handles : List Handle) : Respects like (·.closeAll handles) := by
  induction handles with
  | nil => exact respects_unchanged like ()
  | cons handle rest ih => exact (likeness.close handle).andThen fun _ => ih

end Closing

/-! ## Calls that wait -/

section Calling

variable (handle : Handle) (generation : Nat) (waker : TaskId)

/-- Parking on an open channel respects a likeness. -/
theorem park {bus other : Bus α} (alike : like bus other) {old : Channel α}
    (here : bus.channel? handle = some old) (channel : Channel α) (side : Side)
    (parcel : Parcel α) (call : Call α) :
    (bus.park handle channel side parcel waker call).Like like
      (other.park handle channel side parcel waker call) :=
  ⟨rfl, rfl, likeness.setChannel alike here _⟩

/-- Counting a parked call and reporting it respects a likeness. -/
theorem suspended (progress : Progress α) (woken : Nat) (notices : List Notice) :
    Respects like fun bus =>
      { result := progress, bus := bus.note (·.countSuspended woken), notices } :=
  fun _ _ alike => ⟨rfl, rfl, likeness.note alike (·.countSuspended woken)⟩

/-- Offering a value respects a likeness. -/
theorem offer (value : α) (call : Call α) (reply : Result Unit → Reply α) :
    Respects like (·.offer handle generation value waker call reply) := by
  intro bus other alike
  simp only [Bus.offer, likeness.pinned? alike]
  cases pinned : bus.pinned? handle generation with
  | none => exact (likeness.fail .noChannel alike).map _
  | some channel =>
    have here := (pinned?_eq_some_iff.mp pinned).1
    cases handed : channel.handOff value with
    | some outcome =>
      simp only [handed]
      exact likeness.replace alike here _ _ _ _
    | none =>
      simp only [handed]
      exact (likeness.park handle waker alike here channel .senders _ call).andThen
        fun parked => likeness.suspended parked 0 _

/-- Waiting for a value respects a likeness. -/
theorem await (call : Call α) (reply : Result α → Reply α) :
    Respects like (·.await handle generation waker call reply) := by
  intro bus other alike
  simp only [Bus.await, likeness.pinned? alike]
  cases pinned : bus.pinned? handle generation with
  | none => exact (likeness.fail .noChannel alike).map _
  | some channel =>
    have here := (pinned?_eq_some_iff.mp pinned).1
    cases taken : channel.takeOffer with
    | some outcome =>
      simp only [taken]
      exact likeness.replace alike here _ _ _ _
    | none =>
      simp only [taken]
      exact ((likeness.park handle waker alike here _ .receivers _ call).after _).andThen
        fun parked => likeness.suspended parked _ _

/-- One try of a send respects a likeness. -/
theorem sendOnce (value : α) : Respects like (·.sendOnce handle generation value waker) := by
  refine (likeness.push handle (some generation) value).andThen fun result => ?_
  split
  · exact likeness.offer handle generation waker value _ _
  · exact respects_unchanged like _

/-- One try of a batch send respects a likeness. -/
theorem sendManyOnce (values : List α) :
    Respects like (·.sendManyOnce handle generation values waker) := by
  refine (likeness.pushMany handle (some generation) values).andThen fun result => ?_
  split
  · exact likeness.offer handle generation waker _ _ _
  · exact respects_unchanged like _

/-- One try of a receive respects a likeness. -/
theorem receiveOnce : Respects like (·.receiveOnce handle generation waker) := by
  refine (likeness.pop handle (some generation)).andThen fun result => ?_
  split
  · exact likeness.await handle generation waker _ _
  · exact respects_unchanged like _

/-- One try of a batch receive respects a likeness. -/
theorem receiveManyOnce (max : Nat) :
    Respects like (·.receiveManyOnce handle generation max waker) := by
  refine (likeness.popMany handle (some generation) max).andThen fun result => ?_
  split
  · exact likeness.await handle generation waker _ _
  · exact respects_unchanged like _

/-- Letting a broadcaster wait respects a likeness. -/
theorem standBy (value : α) : Respects like (·.standBy handle generation value waker) := by
  intro bus other alike
  simp only [Bus.standBy, likeness.pinned? alike]
  cases pinned : bus.pinned? handle generation with
  | none => exact (likeness.fail .noChannel alike).map _
  | some channel =>
    have here := (pinned?_eq_some_iff.mp pinned).1
    exact (likeness.park handle waker alike here channel .senders _ _).andThen
      fun parked => likeness.suspended parked 0 _

/-- Settling the wakeup of a broadcaster respects a likeness. -/
theorem settleWakeup (previous : Option (Handle × Nat)) (stall : Option Stall) :
    Respects like (·.settleWakeup previous stall) := by
  intro bus other alike
  cases previous with
  | none => exact respects_unchanged like () alike
  | some target =>
    simp only [Bus.settleWakeup]
    split
    · exact respects_unchanged like () alike
    · exact likeness.passWakeupOn target.1 target.2 alike

/-- One try of a broadcast respects a likeness. -/
theorem broadcastTry (value : α) (previous : Option (Handle × Nat)) :
    Respects like (·.broadcastTry value previous waker) := by
  refine (likeness.broadcastOnce _ value).andThen fun stall => ?_
  refine (likeness.settleWakeup previous stall).andThen fun _ => ?_
  cases stall with
  | none => exact respects_unchanged like _
  | some stall =>
    cases stall with
    | noChannel => exact fun _ _ alike => (likeness.fail .noChannel alike).map _
    | refused handle generation => exact likeness.standBy handle generation waker value

/-- Going on with the channel that a call is pinned to respects a likeness if the call does. -/
theorem pinning (reply : Result β → Reply α) {proceed : Nat → Bus α → Outcome α (Progress α)}
    (respects : ∀ generation, Respects like (proceed generation)) :
    Respects like fun bus => bus.pinning handle reply (proceed · bus) := by
  intro bus other alike
  simp only [Bus.pinning, likeness.channel? alike]
  cases bus.channel? handle with
  | none => exact (likeness.fail .noChannel alike).map _
  | some channel => exact respects channel.generation alike

/-- Going on if an extension is enabled respects a likeness if the call does. -/
theorem ensuring (enabled : Config → Bool)
    (same : ∀ ⦃bus other⦄, like bus other → enabled other.config = enabled bus.config)
    (reply : Result β → Reply α) {proceed : Bus α → Outcome α (Progress α)}
    (respects : Respects like proceed) :
    Respects like fun bus => bus.ensuring (enabled bus.config) reply (proceed bus) := by
  intro bus other alike
  simp only [Bus.ensuring, same alike]
  cases enabled bus.config with
  | true => exact respects alike
  | false =>
    simp only [Bool.false_eq_true, if_false]
    exact (likeness.fail .notImplemented alike).map _

/-- Starting a call respects a likeness. -/
theorem start (call : Call α) : Respects like (·.start call waker) := by
  cases call with
  | send handle value =>
    exact likeness.pinning handle .sent
      fun generation => likeness.sendOnce handle generation waker value
  | receive handle =>
    exact likeness.pinning handle .received
      fun generation => likeness.receiveOnce handle generation waker
  | sendMany handle values =>
    exact likeness.ensuring (·.batch) likeness.batch .sentMany <|
      likeness.pinning handle .sentMany
        fun generation => likeness.sendManyOnce handle generation waker values
  | receiveMany handle max =>
    exact likeness.ensuring (·.batch) likeness.batch .receivedMany <|
      likeness.pinning handle .receivedMany
        fun generation => likeness.receiveManyOnce handle generation waker max
  | broadcast value =>
    exact likeness.ensuring (·.broadcast) likeness.broadcast .sent
      (likeness.broadcastTry waker value none)

/-- Going on with a woken call respects a likeness. -/
theorem wakeUp (suspended : Suspended α) (parcel : Parcel α) :
    Respects like (·.wakeUp suspended parcel waker) := by
  obtain ⟨call, ticket⟩ := suspended
  cases call with
  | send handle value =>
    cases parcel with
    | taken => exact respects_unchanged like _
    | empty | offered | delivered =>
      exact (likeness.sendOnce handle ticket.generation waker _).after _
  | receive handle =>
    cases parcel with
    | delivered => exact respects_unchanged like _
    | empty | offered | taken =>
      exact (likeness.receiveOnce handle ticket.generation waker).after _
  | sendMany handle values =>
    cases parcel with
    | taken => exact respects_unchanged like _
    | empty | offered | delivered =>
      exact likeness.sendManyOnce handle ticket.generation waker values
  | receiveMany handle max =>
    cases parcel with
    | delivered => exact respects_unchanged like _
    | empty | offered | taken => exact likeness.receiveManyOnce handle ticket.generation waker max
  | broadcast value => exact likeness.broadcastTry waker value _

end Calling

end Likeness

/-- Buses that are alike show the same wait under a ticket, and it can be changed on both sides. -/
structure Shows (like : Bus α → Bus α → Prop) (ticket : Ticket) : Prop where
  /-- The queue of the ticket is the same. -/
  ticketQueue : ∀ ⦃bus other⦄, like bus other → other.ticketQueue ticket = bus.ticketQueue ticket
  /-- Replacing the queue on both sides. -/
  setTicketQueue : ∀ ⦃bus other⦄, like bus other → ∀ queue,
    like (bus.setTicketQueue ticket queue) (other.setTicketQueue ticket queue)

section Waiting

variable {like : Bus α → Bus α → Prop} {suspended : Suspended α}

/-- Resuming a call whose wait is shown respects a likeness. -/
theorem Likeness.resume (likeness : Likeness like) (shows : Shows like suspended.ticket)
    (waker : TaskId) : Respects like (·.resume suspended waker) := by
  intro bus other alike
  simp only [Bus.resume, shows.ticketQueue alike]
  have polled := shows.setTicketQueue alike
    ((bus.ticketQueue suspended.ticket).poll suspended.ticket.key waker)
  cases (bus.ticketQueue suspended.ticket).found? suspended.ticket.key with
  | none => exact respects_unchanged like _ polled
  | some parcel => exact likeness.wakeUp waker suspended parcel polled

/-- Dropping a call whose wait is shown respects the relation. -/
theorem Shows.cancel (shows : Shows like suspended.ticket) :
    Respects like (·.cancel suspended) := by
  intro bus other alike
  simp only [Bus.cancel, shows.ticketQueue alike]
  exact ⟨rfl, rfl, shows.setTicketQueue alike _⟩

/-- A request that opens nothing, deletes nothing and does not ask for the counters respects a
likeness. -/
theorem Likeness.perform [Stored α] (likeness : Likeness like) {request : Request α}
    (opens : ∀ capacity, request ≠ .openChannel capacity) (deletes : request ≠ .delete)
    (counts : request ≠ .stats) : Respects like (·.perform request) := by
  have asks {answer : Bus α → Answered α}
      (same : ∀ ⦃bus other⦄, like bus other → answer other = answer bus) :
      Respects like fun bus => bus.unchanged (answer bus) :=
    fun _ _ alike => ⟨same alike, rfl, alike⟩
  cases request with
  | openChannel capacity => exact absurd rfl (opens capacity)
  | delete => exact absurd rfl deletes
  | stats => exact absurd rfl counts
  | close handle =>
    simp only [Bus.perform]
    exact (likeness.close handle).map _
  | isOpen handle =>
    exact asks fun bus other alike => by rw [isOpen, likeness.channel? alike, isOpen]
  | capacity handle =>
    exact asks fun bus other alike => by rw [capacity, likeness.channel? alike, capacity]
  | length handle =>
    exact asks fun bus other alike => by rw [length, likeness.channel? alike, length]
  | waiting handle side =>
    exact asks fun bus other alike => by rw [waiting, likeness.channel? alike, waiting]
  | channelCount =>
    exact asks fun bus other alike => by
      rw [channelCount, likeness.openChannels alike, channelCount]
  | handles =>
    exact asks fun bus other alike => by rw [handles, likeness.openChannels alike, handles]
  | trySend handle value =>
    simp only [Bus.perform, trySend]
    exact (likeness.push handle none value).map _
  | tryReceive handle =>
    simp only [Bus.perform, tryReceive]
    exact (likeness.pop handle none).map _
  | trySendMany handle values =>
    simp only [Bus.perform, trySendMany]
    exact (likeness.ensure (·.batch) likeness.batch (likeness.pushMany handle none values)).map _
  | tryReceiveMany handle max =>
    simp only [Bus.perform, tryReceiveMany]
    exact (likeness.ensure (·.batch) likeness.batch (likeness.popMany handle none max)).map _
  | tryBroadcast value =>
    simp only [Bus.perform]
    exact (likeness.tryBroadcast value).map _

end Waiting

end Bus

end ChannelBus
