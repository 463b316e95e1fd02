import ChannelBus.Proofs.Attempts
import ChannelBus.Proofs.Tickets
import Mathlib.Data.List.Perm.Basic

/-!
# The roster of queued waits

Every queued wait of an open channel has a seat on the roster of its bus: its address, and the task
that is to be made ready when it is dequeued. An operation may add the seat of a call that parks,
and takes seats away. `Bus.Rings` says that nobody loses a seat silently: the tasks that the notices
of the operation make ready are those whose seats went, each once and in order.

Nothing here depends on a bus being in good order.
-/

open scoped List

namespace ChannelBus

variable {α β γ : Type}

/-- A queued wait of an open channel. -/
structure Seat where
  /-- Where the wait is queued. -/
  address : Address
  /-- The task to make ready. -/
  waker : Option TaskId
deriving DecidableEq

namespace Channel

/-- The seat of a wait. -/
def seat (channel : Channel α) (side : Side) (wait : Wait α) : Seat :=
  ⟨⟨channel.generation, side, wait.key⟩, wait.waker⟩

/-- The seats on one side. -/
def seats (channel : Channel α) (side : Side) : List Seat :=
  (channel.queue side).waiting.map (channel.seat side)

/-- The seats of a channel, senders before receivers. -/
def roster (channel : Channel α) : List Seat :=
  channel.seats .senders ++ channel.seats .receivers

/-- A seat belongs to a queued wait. -/
theorem mem_roster {channel : Channel α} {seat : Seat} : seat ∈ channel.roster ↔
    ∃ side, ∃ wait ∈ (channel.queue side).waiting, channel.seat side wait = seat := by
  simp only [roster, seats, List.mem_append, List.mem_map]
  constructor
  · rintro (⟨wait, queued, same⟩ | ⟨wait, queued, same⟩)
    · exact ⟨.senders, wait, queued, same⟩
    · exact ⟨.receivers, wait, queued, same⟩
  · rintro ⟨side, wait, queued, same⟩
    cases side with
    | senders => exact .inl ⟨wait, queued, same⟩
    | receivers => exact .inr ⟨wait, queued, same⟩

/-- The notices that waits were dequeued make the tasks of their seats ready. -/
theorem wakes?_wokenNotice (channel : Channel α) (side : Side) (waits : List (Wait α)) :
    (waits.map (·.wokenNotice)).filterMap Notice.wakes? =
      (waits.map (channel.seat side)).filterMap (·.waker) := by
  rw [List.filterMap_map, List.filterMap_map]
  rfl

/-- The seats on a side whose queue was replaced. -/
theorem seats_setQueue (channel : Channel α) (side : Side) (queue : WaitQueue α) :
    (channel.setQueue side queue).seats side = queue.waiting.map (channel.seat side) := by
  cases side <;> rfl

/-- A change of one queue moves no seats but those of its side. -/
theorem roster_setQueue {channel : Channel α} {side : Side} {queue : WaitQueue α}
    (seated woken : List Seat)
    (moved : seated ++ channel.seats side ~ woken ++ queue.waiting.map (channel.seat side)) :
    seated ++ channel.roster ~ woken ++ (channel.setQueue side queue).roster := by
  rw [← seats_setQueue] at moved
  cases side with
  | senders =>
    have others : (channel.setQueue .senders queue).seats .receivers = channel.seats .receivers :=
      rfl
    rw [roster, roster, others, ← List.append_assoc, ← List.append_assoc]
    exact moved.append_right _
  | receivers =>
    have others : (channel.setQueue .receivers queue).seats .senders = channel.seats .senders := rfl
    rw [roster, roster, others]
    calc
      seated ++ (channel.seats .senders ++ channel.seats .receivers)
        ~ channel.seats .senders ++ (seated ++ channel.seats .receivers) :=
          List.perm_append_comm_assoc _ _ _
      _ ~ channel.seats .senders ++
            (woken ++ (channel.setQueue .receivers queue).seats .receivers) :=
          moved.append_left _
      _ ~ woken ++ (channel.seats .senders ++
            (channel.setQueue .receivers queue).seats .receivers) :=
          List.perm_append_comm_assoc _ _ _

/-- Waking takes the seats at the front. -/
theorem roster_wake (channel : Channel α) (side : Side) (count : Nat) :
    channel.roster ~
      (channel.front side count).map (channel.seat side) ++ (channel.wake side count).roster := by
  refine roster_setQueue [] _ ?_
  rw [List.nil_append, ← List.map_append, front, WaitQueue.front_append_waiting_wake]
  exact .refl _

/-- Parking adds a seat. -/
theorem roster_park (channel : Channel α) (side : Side) (parcel : Parcel α)
    (waker : Option TaskId) :
    ⟨⟨channel.generation, side, (channel.queue side).nextKey⟩, waker⟩ :: channel.roster ~
      (channel.park side parcel waker).roster := by
  refine roster_setQueue [_] [] ?_
  rw [WaitQueue.park, List.map_append]
  exact List.perm_append_comm

/-- Handing a value over takes the seat of the receiver. -/
theorem roster_handOff {channel after : Channel α} {value : α} {served : Wait α}
    (handed : channel.handOff value = some (served, after)) :
    channel.roster ~ channel.seat .receivers served :: after.roster := by
  unfold handOff at handed
  split at handed
  case isFalse => contradiction
  case isTrue =>
    simp only [Option.map_eq_some_iff, Prod.mk.injEq] at handed
    obtain ⟨⟨served', queue⟩, delivered, rfl, rfl⟩ := handed
    obtain ⟨wait, before, later, split, _, _, rfl, rfl⟩ := WaitQueue.deliverFirst_eq_some delivered
    refine roster_setQueue [] [_] ?_
    rw [seats, queue, split, List.map_append]
    exact List.perm_middle.trans (by rw [WaitQueue.settle, List.map_append]; exact .refl _)

/-- Taking an offer takes the seat of the sender. -/
theorem roster_takeOffer {channel after : Channel α} {value : α} {settled : Wait α}
    (taken : channel.takeOffer = some (value, settled, after)) :
    channel.roster ~ channel.seat .senders settled :: after.roster := by
  obtain ⟨_, wait, before, later, split, _, _, rfl, rfl⟩ := Sound.takeOffer_eq_some taken
  refine roster_setQueue [] [_] ?_
  rw [seats, queue, split, List.map_append]
  exact List.perm_middle.trans (by rw [WaitQueue.settle, List.map_append]; exact .refl _)

/-- Accepting values takes the seats of the receivers that it wakes. -/
theorem roster_acceptMany (channel : Channel α) (values : List α) :
    channel.roster ~ (channel.acceptMany values).1.map (channel.seat .receivers) ++
      (channel.acceptMany values).2.roster :=
  (channel.pushMany values).roster_wake .receivers (channel.fitting values).length

/-- Releasing values takes the seats of the senders that it wakes. -/
theorem roster_releaseMany (channel : Channel α) (max : Nat) :
    channel.roster ~ (channel.releaseMany max).1.map (channel.seat .senders) ++
      (channel.releaseMany max).2.roster :=
  (channel.popMany max).roster_wake .senders (channel.oldest max).length

/-- Giving a value takes the seat of the receiver that it wakes. -/
theorem roster_give (channel : Channel α) (value : α) :
    channel.roster ~
      (channel.give value).1.map (channel.seat .receivers) ++ (channel.give value).2.roster := by
  unfold give
  rw [accept_eq]
  cases channel.isFull with
  | false => exact channel.roster_acceptMany [value]
  | true =>
    cases handed : channel.handOff value with
    | none => exact .refl _
    | some outcome => exact roster_handOff handed

end Channel

namespace Bus

/-- The seats of all open channels. -/
def roster (bus : Bus α) : List Seat :=
  (bus.slots.filterMap id).flatMap Channel.roster

/-- Counting keeps the roster. -/
@[simp] theorem roster_note (bus : Bus α) (update : Stats → Stats) :
    (bus.note update).roster = bus.roster := by
  simp [roster]

/-- A seat belongs to a queued wait of an open channel. -/
theorem mem_roster {bus : Bus α} {seat : Seat} : seat ∈ bus.roster ↔
    ∃ handle channel, bus.channel? handle = some channel ∧ seat ∈ channel.roster := by
  rw [roster, List.mem_flatMap]
  constructor
  · rintro ⟨channel, inside, seated⟩
    obtain ⟨handle, here⟩ := mem_slots.mp inside
    exact ⟨handle, channel, here, seated⟩
  · rintro ⟨handle, channel, here, seated⟩
    exact ⟨channel, mem_slots.mpr ⟨handle, here⟩, seated⟩

/-- What replacing a channel does to its roster it does to that of the bus. -/
theorem roster_setChannel {bus : Bus α} {handle : Handle} {channel new : Channel α}
    (here : bus.channel? handle = some channel) {seated woken : List Seat}
    (moved : seated ++ channel.roster ~ woken ++ new.roster) :
    seated ++ bus.roster ~ woken ++ (bus.setChannel handle new).roster := by
  have inside := channel?_eq_some_iff.mp here
  have replaced : (bus.slots.set handle.id (some new))[handle.id]? = some (some new) := by
    simp [(List.getElem?_eq_some_iff.mp inside).1]
  let others := ((bus.slots.set handle.id none).filterMap id).flatMap Channel.roster
  have before : bus.roster ~ channel.roster ++ others :=
    (slots_split inside).flatMap_right Channel.roster
  have after : (bus.setChannel handle new).roster ~ new.roster ++ others := by
    have split := (slots_split replaced).flatMap_right Channel.roster
    rwa [List.set_set] at split
  calc
    seated ++ bus.roster
      ~ seated ++ (channel.roster ++ others) := before.append_left _
    _ ~ woken ++ (new.roster ++ others) := by
        rw [← List.append_assoc, ← List.append_assoc]
        exact moved.append_right _
    _ ~ woken ++ (bus.setChannel handle new).roster := after.symm.append_left _

/-- Freeing a slot takes the seats of its channel. -/
theorem roster_free {bus : Bus α} {handle : Handle} {channel : Channel α}
    (here : bus.channel? handle = some channel) : bus.roster ~
      channel.roster ++ { bus with slots := bus.slots.set handle.id none }.roster :=
  (slots_split (channel?_eq_some_iff.mp here)).flatMap_right Channel.roster

/-! ## Operations on the roster -/

/-- What an operation does to the roster: these seats come, those go, and the tasks of those that go
are made ready. -/
structure Rings (bus : Bus α) (outcome : Outcome α β) (seated woken : List Seat) : Prop where
  /-- The notices make the tasks ready, in the order of their seats. -/
  rung : outcome.notices.filterMap Notice.wakes? = woken.filterMap (·.waker)
  /-- No other seat comes or goes. -/
  roster : seated ++ bus.roster ~ woken ++ outcome.bus.roster

/-- Doing nothing keeps the roster. -/
theorem rings_unchanged (bus : Bus α) (result : β) : bus.Rings (bus.unchanged result) [] [] :=
  ⟨rfl, .refl _⟩

/-- Failing keeps the roster. -/
theorem rings_failing (bus : Bus α) (error : BusError) (result : β) :
    bus.Rings (bus.failing error result) [] [] := by
  refine ⟨rfl, ?_⟩
  show bus.roster ~ (bus.note _).roster
  rw [roster_note]

/-- Failing keeps the roster. -/
theorem rings_fail (bus : Bus α) (error : BusError) :
    bus.Rings (bus.fail error : Outcome α (Result β)) [] [] :=
  bus.rings_failing error (Except.error error : Result β)

/-- The answer does not matter for the roster. -/
theorem Rings.map {bus : Bus α} {outcome : Outcome α β} {seated woken : List Seat}
    (rings : bus.Rings outcome seated woken) (change : β → γ) :
    bus.Rings (outcome.map change) seated woken :=
  ⟨rings.rung, rings.roster⟩

/-- Notices that make nobody ready do not matter for the roster. -/
theorem Rings.after {bus : Bus α} {outcome : Outcome α β} {seated woken : List Seat}
    (rings : bus.Rings outcome seated woken) {notices : List Notice}
    (silent : notices.filterMap Notice.wakes? = []) :
    bus.Rings (outcome.after notices) seated woken := by
  refine ⟨?_, rings.roster⟩
  rw [Outcome.after, List.filterMap_append, silent, List.nil_append, rings.rung]

/-- One operation after another. -/
theorem Rings.andThen {bus : Bus α} {outcome : Outcome α β} {seated woken : List Seat}
    (first : bus.Rings outcome seated woken) (next : β → Bus α → Outcome α γ)
    (seatedNext wokenNext : List Seat)
    (second : outcome.bus.Rings (next outcome.result outcome.bus) seatedNext wokenNext) :
    bus.Rings (outcome.andThen next) (seatedNext ++ seated) (woken ++ wokenNext) := by
  constructor
  · rw [Outcome.andThen, List.filterMap_append, List.filterMap_append, first.rung, second.rung]
  · calc
      seatedNext ++ seated ++ bus.roster
        ~ seatedNext ++ (woken ++ outcome.bus.roster) := by
          rw [List.append_assoc]
          exact first.roster.append_left _
      _ ~ woken ++ (seatedNext ++ outcome.bus.roster) := List.perm_append_comm_assoc _ _ _
      _ ~ woken ++ (wokenNext ++ (outcome.andThen next).bus.roster) := second.roster.append_left _
      _ ~ woken ++ wokenNext ++ (outcome.andThen next).bus.roster := by rw [List.append_assoc]

/-- Replacing one channel, counting, and telling whom that wakes. -/
theorem rings_setChannel {bus : Bus α} {handle : Handle} {channel new : Channel α}
    (here : bus.channel? handle = some channel) (seated woken : List Seat)
    (moved : seated ++ channel.roster ~ woken ++ new.roster) (update : Stats → Stats)
    (notices : List Notice)
    (rung : notices.filterMap Notice.wakes? = woken.filterMap (·.waker)) (result : β) :
    bus.Rings { result, bus := (bus.setChannel handle new).note update, notices } seated woken := by
  refine ⟨rung, ?_⟩
  show seated ++ bus.roster ~ woken ++ ((bus.setChannel handle new).note update).roster
  rw [roster_note]
  exact roster_setChannel here moved

/-- Values that move at once ring those whom they wake. -/
theorem MovesAtOnce.rings {bus : Bus α} {outcome : Outcome α β} (moves : bus.MovesAtOnce outcome) :
    ∃ woken, bus.Rings outcome [] woken := by
  cases moves with
  | failed error result => exact ⟨[], bus.rings_failing error result⟩
  | idle result => exact ⟨[], bus.rings_unchanged result⟩
  | @moved handle channel filled here same queues side count update result =>
    have seat : filled.seat = channel.seat := by
      funext side wait
      rw [Channel.seat, Channel.seat, same]
    have kept : filled.roster = channel.roster := by
      simp only [Channel.roster, Channel.seats, queues, seat]
    have woken := filled.roster_wake side count
    rw [kept] at woken
    exact ⟨_, rings_setChannel here [] _ woken update _ (filled.wakes?_wokenNotice side _) result⟩

/-! ## Closing -/

/-- Closing a channel rings everyone who is queued there. -/
theorem rings_close (bus : Bus α) (handle : Handle) : ∃ woken,
    bus.Rings (bus.close handle) [] woken := by
  unfold close
  split
  case h_1 => exact ⟨[], bus.rings_unchanged ()⟩
  case h_2 channel here =>
    refine ⟨channel.roster, ?_, ?_⟩
    · have rung : (channel.everyone.map (·.wokenNotice)).filterMap Notice.wakes? =
          channel.roster.filterMap (·.waker) := by
        rw [Channel.everyone, List.map_append, List.filterMap_append,
          channel.wakes?_wokenNotice .senders, channel.wakes?_wokenNotice .receivers,
          ← List.filterMap_append]
        rfl
      rw [List.filterMap_append, rung]
      exact List.append_nil _
    · rw [roster_note]
      exact roster_free here

/-- Closing several channels rings everyone who is queued there. -/
theorem rings_closeAll (bus : Bus α) (handles : List Handle) : ∃ woken,
    bus.Rings (bus.closeAll handles) [] woken := by
  induction handles generalizing bus with
  | nil => exact ⟨[], bus.rings_unchanged ()⟩
  | cons handle rest ih =>
    obtain ⟨first, closed⟩ := bus.rings_close handle
    obtain ⟨others, closedToo⟩ := ih (bus.close handle).bus
    exact ⟨first ++ others, closed.andThen (fun _ bus => bus.closeAll rest) [] others closedToo⟩

/-- Deleting rings everyone. -/
theorem rings_delete (bus : Bus α) : ∃ woken,
    bus.Rings bus.delete [] woken := by
  obtain ⟨woken, closed⟩ := bus.rings_closeAll ((List.range bus.slots.length).map Handle.mk)
  have nobody : (bus.closeAll ((List.range bus.slots.length).map Handle.mk)).bus.roster = [] := by
    refine List.eq_nil_iff_forall_not_mem.mpr fun seat seated => ?_
    obtain ⟨handle, channel, here, _⟩ := mem_roster.mp seated
    rw [channel?_closeAll_slots] at here
    contradiction
  refine ⟨woken, ?_, ?_⟩
  · rw [delete, Outcome.andThen, List.filterMap_append, closed.rung]
    simp only
    split
    · exact List.append_nil _
    · exact List.append_nil _
  · have released : bus.delete.bus.roster = [] := rfl
    have left := closed.roster
    rwa [nobody, ← released] at left

/-! ## Broadcasting -/

/-- Giving every open channel its copy rings the receivers that get it. -/
theorem rings_giveAll (bus : Bus α) (value : α) : ∃ woken,
    bus.Rings (bus.giveAll value) [] woken := by
  let gone := fun channel : Channel α => (channel.give value).1.map (channel.seat .receivers)
  refine ⟨(bus.slots.filterMap id).flatMap gone, ?_, ?_⟩
  · have rung : ∀ channels : List (Channel α),
        ((channels.flatMap fun channel => (channel.give value).1).map
          (·.wokenNotice)).filterMap Notice.wakes? =
            (channels.flatMap gone).filterMap (·.waker) := by
      intro channels
      induction channels with
      | nil => rfl
      | cons channel rest ih =>
        rw [List.flatMap_cons, List.map_append, List.filterMap_append, ih,
          channel.wakes?_wokenNotice .receivers, List.flatMap_cons, List.filterMap_append]
    have listed := bus.flatMap_openChannels fun channel => (channel.give value).1
    rw [giveAll, List.filterMap_append, listed, rung]
    exact List.append_nil _
  · have given : (bus.giveAll value).bus.roster = (bus.slots.filterMap id).flatMap fun channel =>
        (channel.give value).2.roster := by
      have slots : (bus.slots.map (Option.map fun channel => (channel.give value).2)).filterMap id =
          (bus.slots.filterMap id).map fun channel => (channel.give value).2 := by
        rw [List.filterMap_map, List.map_filterMap]
        rfl
      rw [giveAll, roster_note, roster, slots, List.flatMap_map]
    rw [given, List.nil_append]
    calc
      bus.roster
        ~ (bus.slots.filterMap id).flatMap fun channel =>
            gone channel ++ (channel.give value).2.roster :=
          List.Perm.flatMap_left _ fun channel _ => channel.roster_give value
      _ ~ _ := (List.flatMap_append_perm _ _ _).symm

/-- A broadcast that goes ahead rings the receivers of its copies. -/
theorem rings_broadcastOnce (bus : Bus α) (ready : Channel α → Bool) (value : α) : ∃ woken,
    bus.Rings (bus.broadcastOnce ready value) [] woken := by
  unfold broadcastOnce
  split
  case h_1 => exact ⟨[], bus.rings_unchanged _⟩
  case h_2 =>
    obtain ⟨woken, rings⟩ := bus.rings_giveAll value
    exact ⟨woken, rings.map _⟩

/-- Settling the wakeup of a broadcaster rings at most the next sender of the channel on which it
was woken, and nobody if the broadcaster goes back there. -/
theorem rings_settleWakeup (bus : Bus α) (previous : Option (Handle × Nat))
    (stall : Option Stall) : ∃ woken, bus.Rings (bus.settleWakeup previous stall) [] woken ∧
      (∀ seat ∈ woken, seat.address.side = .senders) ∧
      ∀ handle generation, stall = some (.refused handle generation) →
        previous = some (handle, generation) → woken = [] := by
  cases previous with
  | none => exact ⟨[], bus.rings_unchanged (), nofun, fun _ _ _ _ => rfl⟩
  | some previous =>
    obtain ⟨handle, generation⟩ := previous
    by_cases same : stall = some (.refused handle generation)
    · rw [settleWakeup, if_pos same]
      exact ⟨[], bus.rings_unchanged (), nofun, fun _ _ _ _ => rfl⟩
    · have elsewhere : ∀ other number, stall = some (.refused other number) →
          some (handle, generation) = some (other, number) → False := by
        intro other number refused here
        obtain ⟨rfl, rfl⟩ := Prod.mk.inj (Option.some.inj here)
        exact same refused
      rw [settleWakeup, if_neg same, passWakeupOn]
      cases pinned : bus.pinned? handle generation with
      | none =>
        exact ⟨[], bus.rings_unchanged (), nofun, fun other number refused here =>
          (elsewhere other number refused here).elim⟩
      | some channel =>
        by_cases passes : (if channel.canAccept then channel.front .senders 1 else []).isEmpty
        · simp only [passes, if_true]
          exact ⟨[], bus.rings_unchanged (), nofun, fun other number refused here =>
            (elsewhere other number refused here).elim⟩
        · have ready : channel.canAccept = true := by
            by_contra unready
            simp [unready] at passes
          simp only [ready, if_true] at passes ⊢
          rw [if_neg passes]
          have here := (pinned?_eq_some_iff.mp pinned).1
          refine ⟨(channel.front .senders 1).map (channel.seat .senders),
            rings_setChannel here [] _ (channel.roster_wake .senders 1) _ _ ?_ (),
            fun seat seated => ?_, fun other number refused here =>
              (elsewhere other number refused here).elim⟩
          · rw [List.filterMap_append, channel.wakes?_wokenNotice .senders]
            exact List.append_nil _
          · obtain ⟨wait, _, rfl⟩ := List.mem_map.mp seated
            rfl

/-! ## Requests -/

/-- Opening a channel adds no seat. -/
theorem rings_openChannel [Stored α] (bus : Bus α) (capacity : Nat) :
    bus.Rings (bus.openChannel capacity) [] [] := by
  unfold openChannel
  simp only
  split
  case isTrue =>
    obtain ⟨_, _, listed⟩ := occupy_spec (.new capacity bus.nextGeneration) bus.slots
    refine ⟨rfl, ?_⟩
    show bus.roster ~ (Bus.note _ _).roster
    rw [roster_note]
    have empty : (Channel.new capacity bus.nextGeneration : Channel α).roster = [] := rfl
    have moved := listed.flatMap_right Channel.roster
    rw [List.flatMap_cons, empty] at moved
    exact moved.symm
  case isFalse => exact ⟨rfl, .refl _⟩

/-- A broadcast that never waits rings the receivers of its copies. -/
theorem rings_tryBroadcast (bus : Bus α) (value : α) : ∃ woken,
    bus.Rings (bus.tryBroadcast value) [] woken := by
  unfold tryBroadcast ensure
  split
  case isFalse => exact ⟨[], bus.rings_fail _⟩
  case isTrue =>
    obtain ⟨woken, rings⟩ := bus.rings_broadcastOnce (fun channel => !channel.isFull) value
    refine ⟨woken ++ [], rings.andThen _ [] [] ?_⟩
    split
    case h_1 => exact rings_unchanged _ _
    case h_2 => exact rings_fail _ _
    case h_3 => exact rings_fail _ _

/-- A request adds no seat. -/
theorem rings_perform [Stored α] (bus : Bus α) (request : Request α) : ∃ woken,
    bus.Rings (bus.perform request) [] woken := by
  cases request with
  | isOpen | capacity | length | waiting | channelCount | handles | stats =>
    exact ⟨[], bus.rings_unchanged _⟩
  | openChannel capacity => exact ⟨[], (bus.rings_openChannel capacity).map _⟩
  | close handle =>
    obtain ⟨woken, rings⟩ := bus.rings_close handle
    exact ⟨woken, rings.rung, rings.roster⟩
  | delete =>
    obtain ⟨woken, rings⟩ := bus.rings_delete
    exact ⟨woken, rings.rung, rings.roster⟩
  | trySend | tryReceive | trySendMany | tryReceiveMany =>
    exact MovesAtOnce.rings (bus.movesAtOnce_perform rfl rfl)
  | tryBroadcast value =>
    obtain ⟨woken, rings⟩ := bus.rings_tryBroadcast value
    exact ⟨woken, rings.rung, rings.roster⟩

end Bus

end ChannelBus
