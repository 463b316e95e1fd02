import ChannelBus.Proofs.Roster

/-!
# Taking and leaving a seat

A call that parks takes the seat that its ticket names, and keeps it until it is rung or withdrawn.
`Bus.RingsTrying` says what one try of a call does to the roster. A parked call has its seat exactly
as long as its wait is queued, so a poll of a call that was not rung is no more than a look.
-/

open scoped List

namespace ChannelBus

variable {α β γ : Type}

/-- The seat on which a call of this task parks. -/
def Suspended.seat (suspended : Suspended α) (waker : TaskId) : Seat :=
  ⟨suspended.ticket.address, some waker⟩

/-- The seat that a call of this task takes, if it parks. -/
def Progress.seats (progress : Progress α) (waker : TaskId) : List Seat :=
  progress.suspended?.toList.map (·.seat waker)

namespace Bus

/-- What one try of a call does to the roster; `previous` is the channel on which a broadcaster was
woken. A call that parks rings nobody but senders; if it is a sender itself, then only when it is a
broadcaster that parks on another channel than before. -/
def RingsTrying (bus : Bus α) (waker : TaskId) (call : Call α) (previous : Option (Handle × Nat))
    (outcome : Outcome α (Progress α)) : Prop :=
  ∃ woken, bus.Rings outcome (outcome.result.seats waker) woken ∧
    ∀ suspended, outcome.result = .parked suspended →
      (∀ seat ∈ woken, seat.address.side = .senders) ∧
      (call.side = .senders → (call.handle? = none →
        previous = some (suspended.ticket.handle, suspended.ticket.generation)) → woken = [])

/-- A call that is over has taken no seat. -/
theorem Rings.finished {bus : Bus α} {outcome : Outcome α (Progress α)} {woken : List Seat}
    (rings : bus.Rings outcome [] woken) {reply : Reply α} (ends : outcome.result = .finished reply)
    (waker : TaskId) (call : Call α) (previous : Option (Handle × Nat)) :
    bus.RingsTrying waker call previous outcome := by
  refine ⟨woken, ?_, fun suspended parks => ?_⟩
  · rw [ends]
    exact rings
  · rw [ends] at parks
    contradiction

/-- Notices that make nobody ready do not matter for a try. -/
theorem RingsTrying.after {bus : Bus α} {waker : TaskId} {call : Call α}
    {previous : Option (Handle × Nat)} {outcome : Outcome α (Progress α)}
    (trying : bus.RingsTrying waker call previous outcome) {notices : List Notice}
    (silent : notices.filterMap Notice.wakes? = []) :
    bus.RingsTrying waker call previous (outcome.after notices) := by
  obtain ⟨woken, rings, parks⟩ := trying
  exact ⟨woken, rings.after silent, parks⟩

/-- Counting before a try makes no difference. -/
theorem RingsTrying.of_note {bus : Bus α} {update : Stats → Stats} {waker : TaskId} {call : Call α}
    {previous : Option (Handle × Nat)} {outcome : Outcome α (Progress α)}
    (trying : (bus.note update).RingsTrying waker call previous outcome) :
    bus.RingsTrying waker call previous outcome := by
  obtain ⟨woken, rings, parks⟩ := trying
  have seats := rings.roster
  rw [roster_note] at seats
  exact ⟨woken, ⟨rings.rung, seats⟩, parks⟩

/-- A stuck sender rings the receiver to whom it hands its value, or it parks. -/
theorem ringsTrying_offer (bus : Bus α) (handle : Handle) (generation : Nat) (value : α)
    (waker : TaskId) (call : Call α) (reply : Result Unit → Reply α) :
    bus.RingsTrying waker call none (bus.offer handle generation value waker call reply) := by
  cases pinned : bus.pinned? handle generation with
  | none =>
    simp only [offer, pinned]
    exact ((bus.rings_fail _).map _).finished rfl waker call none
  | some channel =>
    have here := (pinned?_eq_some_iff.mp pinned).1
    cases handed : channel.handOff value with
    | some outcome =>
      obtain ⟨served, after⟩ := outcome
      simp only [offer, pinned, handed]
      have rings := rings_setChannel here [] [channel.seat .receivers served]
        (Channel.roster_handOff handed) (·.countSent 1 1)
        [served.wokenNotice, .handedOff handle] rfl (Progress.finished (reply (.ok ())))
      exact rings.finished rfl waker call none
    | none =>
      simp only [offer, pinned, handed]
      have rings := rings_setChannel here [_] []
        (channel.roster_park .senders (.offered value) (some waker)) (·.countSuspended 0)
        [.queued channel.senders.nextKey, .senderParked handle] rfl (Progress.parked
          ⟨call, ⟨handle, channel.generation, .senders, channel.senders.nextKey⟩⟩)
      exact ⟨[], rings, fun _ _ => ⟨fun _ listed => absurd listed List.not_mem_nil, fun _ _ => rfl⟩⟩

/-- A stuck receiver rings the sender whose value it takes, or it parks and rings at most one sender
with a hint. -/
theorem ringsTrying_await (bus : Bus α) (handle : Handle) (generation : Nat) (waker : TaskId)
    {call : Call α} (receiver : call.side = .receivers) (reply : Result α → Reply α) :
    bus.RingsTrying waker call none (bus.await handle generation waker call reply) := by
  cases pinned : bus.pinned? handle generation with
  | none =>
    simp only [await, pinned]
    exact ((bus.rings_fail _).map _).finished rfl waker call none
  | some channel =>
    have here := (pinned?_eq_some_iff.mp pinned).1
    cases taken : channel.takeOffer with
    | some outcome =>
      obtain ⟨value, settled, after⟩ := outcome
      simp only [await, pinned, taken]
      have rings := rings_setChannel here [] [channel.seat .senders settled]
        (Channel.roster_takeOffer taken) (·.countReceived 1 1)
        [settled.wokenNotice, .tookOffer handle] rfl (Progress.finished (reply (.ok value)))
      exact rings.finished rfl waker call none
    | none =>
      simp only [await, pinned, taken]
      generalize (if channel.isRendezvous then 1 else 0) = hints
      let hinted : List (Wait α) := channel.front .senders hints
      let woken := hinted.map (channel.seat .senders)
      let seat : Seat := ⟨⟨channel.generation, .receivers, channel.receivers.nextKey⟩, some waker⟩
      have moved : [seat] ++ channel.roster ~
          woken ++ ((channel.wake .senders hints).park .receivers .empty (some waker)).roster := by
        calc
          [seat] ++ channel.roster
            ~ [seat] ++ (woken ++ (channel.wake .senders hints).roster) :=
              (channel.roster_wake .senders hints).append_left _
          _ ~ woken ++ ([seat] ++ (channel.wake .senders hints).roster) :=
              List.perm_append_comm_assoc _ _ _
          _ ~ woken ++
                ((channel.wake .senders hints).park .receivers .empty (some waker)).roster :=
              ((channel.wake .senders hints).roster_park .receivers .empty
                (some waker)).append_left _
      have rung : (hinted.map (·.wokenNotice) ++
          [Notice.queued channel.receivers.nextKey] ++ [Notice.receiverParked handle]).filterMap
            Notice.wakes? = woken.filterMap (·.waker) := by
        rw [List.append_assoc, List.filterMap_append, channel.wakes?_wokenNotice .senders]
        exact List.append_nil _
      have rings := rings_setChannel here [seat] woken moved (·.countSuspended hinted.length)
        _ rung (Progress.parked
          ⟨call, ⟨handle, channel.generation, .receivers, channel.receivers.nextKey⟩⟩)
      refine ⟨woken, rings, fun _ _ => ⟨fun seat seated => ?_, fun sender => ?_⟩⟩
      · obtain ⟨wait, _, rfl⟩ := List.mem_map.mp seated
        rfl
      · rw [receiver] at sender
        contradiction

/-- A try of a call on a handle. -/
theorem ringsTrying_attempt (bus : Bus α) (generation : Nat) (waker : TaskId) {call : Call α}
    (named : call.handle?.isSome = true) :
    bus.RingsTrying waker call none (bus.attempt generation waker call) := by
  obtain ⟨handle, target⟩ := Option.isSome_iff_exists.mp named
  have attempted := bus.attemptedOnce_attempt generation waker target
  generalize bus.attempt generation waker call = outcome at attempted
  cases attempted with
  | ended moves ends =>
    obtain ⟨woken, rings⟩ := moves.rings
    exact rings.finished ends waker call none
  | offers _ value reply =>
    exact (ringsTrying_offer _ handle generation value waker call reply).of_note.after rfl
  | awaits receives reply =>
    exact (ringsTrying_await _ handle generation waker receives reply).of_note.after rfl

/-- A broadcaster that stands by parks on the channel that refused its value, and rings nobody. -/
theorem rings_standBy (bus : Bus α) (handle : Handle) (generation : Nat) (value : α)
    (waker : TaskId) :
    bus.Rings (bus.standBy handle generation value waker)
      ((bus.standBy handle generation value waker).result.seats waker) [] ∧
    ∀ suspended, (bus.standBy handle generation value waker).result = .parked suspended →
      suspended.ticket.handle = handle ∧ suspended.ticket.generation = generation := by
  cases pinned : bus.pinned? handle generation with
  | none =>
    simp only [standBy, pinned]
    refine ⟨(bus.rings_fail _).map _, fun suspended parks => ?_⟩
    cases parks
  | some channel =>
    obtain ⟨here, same⟩ := pinned?_eq_some_iff.mp pinned
    simp only [standBy, pinned]
    refine ⟨?_, fun suspended parks => ?_⟩
    · exact rings_setChannel here [_] []
        (channel.roster_park .senders .empty (some waker)) (·.countSuspended 0)
        [.queued channel.senders.nextKey, .broadcasterParked handle] rfl (Progress.parked
          ⟨.broadcast value, ⟨handle, channel.generation, .senders, channel.senders.nextKey⟩⟩)
    · obtain rfl := Progress.parked.inj parks
      exact ⟨rfl, same⟩

/-- Doing nothing before an operation makes no difference. -/
theorem unchanged_andThen (bus : Bus α) (result : β) (next : β → Bus α → Outcome α γ) :
    (bus.unchanged result).andThen next = next result bus := rfl

/-- A try of a broadcast rings the receivers of its copies, or the next sender of the channel on
which it was woken. -/
theorem ringsTrying_broadcastTry (bus : Bus α) (value : α) (previous : Option (Handle × Nat))
    (waker : TaskId) : bus.RingsTrying waker (.broadcast value) previous
      (bus.broadcastTry value previous waker) := by
  cases stalls : bus.stall? Channel.canAccept with
  | none =>
    obtain ⟨given, gives⟩ := bus.rings_giveAll value
    obtain ⟨passed, passes, _⟩ := (bus.giveAll value).bus.rings_settleWakeup previous none
    simp only [broadcastTry, broadcastOnce, stalls]
    let done : Progress α := .finished (.sent (.ok ()))
    have ends := passes.andThen (fun _ bus => bus.unchanged done) [] [] (rings_unchanged _ done)
    have both := (gives.map fun _ => (none : Option Stall)).andThen (fun _ bus =>
      (bus.settleWakeup previous none).andThen fun _ bus => bus.unchanged done) [] _ ends
    exact both.finished rfl waker _ previous
  | some stall =>
    obtain ⟨passed, passes, senders, still⟩ := bus.rings_settleWakeup previous (some stall)
    simp only [broadcastTry, broadcastOnce, stalls, unchanged_andThen]
    cases stall with
    | noChannel =>
      have both := passes.andThen (fun _ bus => (bus.fail .noChannel).map fun result =>
        (Progress.finished (.sent result) : Progress α)) [] [] ((rings_fail _ _).map _)
      exact both.finished rfl waker _ previous
    | refused handle generation =>
      have standing := rings_standBy
        (bus.settleWakeup previous (some (.refused handle generation))).bus handle generation
        value waker
      have both := passes.andThen (fun _ bus => bus.standBy handle generation value waker)
        _ [] standing.1
      rw [List.append_nil, List.append_nil] at both
      refine ⟨passed, both, fun suspended parked => ⟨senders, fun _ home => ?_⟩⟩
      obtain ⟨rfl, rfl⟩ := standing.2 suspended parked
      exact still _ _ rfl (home rfl)

/-- A call on a handle that was woken nowhere may have been woken anywhere. -/
theorem RingsTrying.of_named {bus : Bus α} {waker : TaskId} {call : Call α}
    {outcome : Outcome α (Progress α)} (trying : bus.RingsTrying waker call none outcome)
    (named : call.handle?.isSome = true) (previous : Option (Handle × Nat)) :
    bus.RingsTrying waker call previous outcome := by
  obtain ⟨woken, rings, parks⟩ := trying
  refine ⟨woken, rings, fun suspended parked => ⟨(parks suspended parked).1, fun sender _ => ?_⟩⟩
  exact (parks suspended parked).2 sender fun none => by simp [none] at named

/-- The first poll of a call. -/
theorem ringsTrying_start (bus : Bus α) (call : Call α) (waker : TaskId) :
    bus.RingsTrying waker call none (bus.start call waker) := by
  cases enabled : bus.config.enables call with
  | false =>
    rw [start_of_disabled enabled]
    exact (bus.rings_failing _ _).finished rfl waker call none
  | true =>
    cases named : call.handle? with
    | none =>
      obtain ⟨value, rfl⟩ := Call.eq_broadcast named
      rw [start_broadcast enabled]
      exact bus.ringsTrying_broadcastTry value none waker
    | some handle =>
      cases here : bus.channel? handle with
      | none =>
        rw [start_of_closed enabled named here]
        exact (bus.rings_failing _ _).finished rfl waker call none
      | some channel =>
        rw [start_of_open enabled named here]
        exact bus.ringsTrying_attempt _ waker (by simp [named])

/-- A later try of a call that was woken. -/
theorem ringsTrying_wakeUp (bus : Bus α) {suspended : Suspended α} {parcel : Parcel α}
    (finds : suspended.call.Finds parcel) (waker : TaskId) :
    bus.RingsTrying waker suspended.call
      (some (suspended.ticket.handle, suspended.ticket.generation))
      (bus.wakeUp suspended parcel waker) := by
  cases settled : suspended.call.settledReply parcel with
  | some reply =>
    rw [wakeUp_of_settled finds settled]
    exact (bus.rings_unchanged _).finished rfl waker _ _
  | none =>
    have unsettled := Call.unsettled_of_settledReply settled
    cases named : suspended.call.handle? with
    | none =>
      obtain ⟨call, ticket⟩ := suspended
      obtain ⟨value, rfl⟩ := Call.eq_broadcast named
      rw [wakeUp_broadcast]
      exact bus.ringsTrying_broadcastTry value _ waker
    | some handle =>
      obtain ⟨notices, woken, silent, _⟩ := wakeUp_of_unsettled finds unsettled named waker
      have isNamed : suspended.call.handle?.isSome = true := by simp [named]
      rw [woken]
      exact ((bus.ringsTrying_attempt _ waker isNamed).of_named isNamed _).after silent

/-! ## Polling and dropping a parked call -/

/-- The queue of a ticket for an open channel. -/
theorem ticketQueue_of_pinned {bus : Bus α} {ticket : Ticket} {channel : Channel α}
    (pinned : bus.pinned? ticket.handle ticket.generation = some channel) :
    bus.ticketQueue ticket = channel.queue ticket.side := by
  simp [ticketQueue, ticketed?, pinned]

/-- Nobody is queued under a ticket for a closed channel. -/
theorem Sound.ticketQueue_of_closed {bus : Bus α} (sound : bus.Sound) {ticket : Ticket}
    (closed : bus.pinned? ticket.handle ticket.generation = none) :
    (bus.ticketQueue ticket).waiting = [] := by
  simp only [ticketQueue, ticketed?, closed]
  cases found : bus.retired.find? (·.generation == ticket.generation) with
  | none => rfl
  | some channel =>
    exact (sound.drained channel (List.mem_of_find?_eq_some found)).waiting ticket.side

/-- What a change of the queue of a ticket does to the roster. -/
theorem roster_setTicketQueue {bus : Bus α} {ticket : Ticket} {queue : WaitQueue α}
    (woken : List Seat)
    (moved : ∀ channel, bus.pinned? ticket.handle ticket.generation = some channel →
      channel.seats ticket.side ~ woken ++ queue.waiting.map (channel.seat ticket.side))
    (closed : bus.pinned? ticket.handle ticket.generation = none → woken = []) :
    bus.roster ~ woken ++ (bus.setTicketQueue ticket queue).roster := by
  unfold setTicketQueue
  cases pinned : bus.pinned? ticket.handle ticket.generation with
  | none =>
    rw [closed pinned]
    exact .refl _
  | some channel =>
    have here := (pinned?_eq_some_iff.mp pinned).1
    exact roster_setChannel here (Channel.roster_setQueue [] woken (moved channel pinned))

/-- Resuming a woken call keeps the roster. -/
theorem roster_forget (bus : Bus α) (ticket : Ticket) (key : Nat) :
    bus.roster ~ (bus.setTicketQueue ticket ((bus.ticketQueue ticket).forget key)).roster := by
  refine roster_setTicketQueue [] (fun channel pinned => ?_) fun _ => rfl
  rw [ticketQueue_of_pinned pinned]
  exact .refl _

/-- The roster before an operation matters up to the order of its seats. -/
theorem Rings.of_roster {bus other : Bus α} {outcome : Outcome α β} {seated woken : List Seat}
    (rings : other.Rings outcome seated woken) (same : bus.roster ~ other.roster) :
    bus.Rings outcome seated woken :=
  ⟨rings.rung, (same.append_left seated).trans rings.roster⟩

section Parked

variable {bus : Bus α} {suspended : Suspended α}

/-- A parked call has its seat exactly as long as its wait is queued. -/
theorem Houses.holds_iff (houses : bus.Houses suspended) (sound : bus.Sound) :
    (bus.ticketQueue suspended.ticket).holds suspended.ticket.key = true ↔
      ∃ seat ∈ bus.roster, seat.address = suspended.ticket.address := by
  rw [WaitQueue.holds_iff]
  constructor
  · rintro ⟨wait, queued, key⟩
    cases pinned : bus.pinned? suspended.ticket.handle suspended.ticket.generation with
    | none =>
      rw [sound.ticketQueue_of_closed pinned] at queued
      contradiction
    | some channel =>
      obtain ⟨here, generation⟩ := pinned?_eq_some_iff.mp pinned
      rw [ticketQueue_of_pinned pinned] at queued
      refine ⟨channel.seat suspended.ticket.side wait, mem_roster.mpr ⟨_, channel, here,
        Channel.mem_roster.mpr ⟨_, wait, queued, rfl⟩⟩, ?_⟩
      rw [Channel.seat, generation, key]
      rfl
  · rintro ⟨seat, seated, same⟩
    obtain ⟨handle, channel, here, inChannel⟩ := mem_roster.mp seated
    obtain ⟨side, wait, queued, rfl⟩ := Channel.mem_roster.mp inChannel
    have generation : channel.generation = suspended.ticket.generation :=
      congrArg Address.generation same
    have sideSame : side = suspended.ticket.side := congrArg Address.side same
    have key : wait.key = suspended.ticket.key := congrArg Address.key same
    have home := houses.homes handle channel here generation
    subst home
    rw [ticketQueue_of_pinned (pinned?_eq_some_iff.mpr ⟨here, generation⟩), ← sideSame]
    exact ⟨wait, queued, key⟩

/-- What resuming a woken call does to the roster. -/
theorem Houses.ringsTrying_resume (houses : bus.Houses suspended) (sound : bus.Sound)
    (dequeued : (bus.ticketQueue suspended.ticket).holds suspended.ticket.key = false)
    (waker : TaskId) : bus.RingsTrying waker suspended.call
      (some (suspended.ticket.handle, suspended.ticket.generation))
      (bus.resume suspended waker) := by
  obtain ⟨parcel, held, finds⟩ := houses.parcel
  rw [resume_of_dequeued dequeued ((houses.parcel?_ticketQueue sound).trans held)]
  obtain ⟨woken, rings, parks⟩ := ringsTrying_wakeUp (bus.setTicketQueue suspended.ticket
    ((bus.ticketQueue suspended.ticket).forget suspended.ticket.key)) finds waker
  exact ⟨woken, rings.of_roster (bus.roster_forget _ _), parks⟩

/-- A poll of a queued call by the task that its seat names changes nothing. -/
theorem Sound.resume_of_seated (sound : bus.Sound) {waker : TaskId}
    (queued : (bus.ticketQueue suspended.ticket).holds suspended.ticket.key = true)
    (own : ∀ seat ∈ bus.roster, seat.address = suspended.ticket.address →
      seat.waker = some waker) :
    bus.resume suspended waker = bus.unchanged (.parked suspended) := by
  rw [resume_of_queued queued]
  obtain ⟨wait, member, _⟩ := WaitQueue.holds_iff.mp queued
  cases pinned : bus.pinned? suspended.ticket.handle suspended.ticket.generation with
  | none =>
    rw [sound.ticketQueue_of_closed pinned] at member
    contradiction
  | some channel =>
    obtain ⟨here, generation⟩ := pinned?_eq_some_iff.mp pinned
    have same : (channel.queue suspended.ticket.side).refresh suspended.ticket.key waker =
        channel.queue suspended.ticket.side := by
      refine WaitQueue.refresh_eq_self fun other inside key => ?_
      refine own (channel.seat suspended.ticket.side other) (mem_roster.mpr ⟨_, channel, here,
        Channel.mem_roster.mpr ⟨_, other, inside, rfl⟩⟩) ?_
      rw [Channel.seat, generation, key]
      rfl
    rw [setTicketQueue, pinned, ticketQueue_of_pinned pinned, same]
    simp only
    rw [Channel.setQueue_self, setChannel_self here]

/-- Dropping a queued call takes its own seat and rings nobody. -/
theorem Sound.cancel_queued (sound : bus.Sound)
    (queued : (bus.ticketQueue suspended.ticket).holds suspended.ticket.key = true) :
    (bus.cancel suspended).notices = [] ∧ ∃ waker,
      bus.roster ~ ⟨suspended.ticket.address, waker⟩ :: (bus.cancel suspended).bus.roster := by
  have withdrawn : (bus.ticketQueue suspended.ticket).departure suspended.ticket.key =
      .withdrawn := by simp [WaitQueue.departure, queued]
  refine ⟨by simp [cancel, withdrawn, departureNotices], ?_⟩
  obtain ⟨wait, member, key⟩ := WaitQueue.holds_iff.mp queued
  refine ⟨wait.waker, roster_setTicketQueue [_] (fun channel pinned => ?_) fun closed => ?_⟩
  · rw [ticketQueue_of_pinned pinned] at member withdrawn ⊢
    obtain ⟨here, generation⟩ := pinned?_eq_some_iff.mp pinned
    have keyed := ((sound.of_channel? here).orderly suspended.ticket.side).keyed
    have distinct : ((channel.queue suspended.ticket.side).waiting.map (·.key)).Nodup :=
      keyed.distinct.sublist ((List.sublist_append_left _ _).map _)
    have split := perm_cons_filter_number distinct member
    rw [key] at split
    have seat :
        channel.seat suspended.ticket.side wait = ⟨suspended.ticket.address, wait.waker⟩ := by
      rw [Channel.seat, generation, key]
      rfl
    have moved := split.map (channel.seat suspended.ticket.side)
    rw [List.map_cons, seat] at moved
    rw [WaitQueue.leave, withdrawn]
    exact moved
  · rw [sound.ticketQueue_of_closed closed] at member
    contradiction

/-- Dropping a woken call rings the next in line, if the call leaves a wakeup behind. -/
theorem Sound.rings_cancel (sound : bus.Sound)
    (dequeued : (bus.ticketQueue suspended.ticket).holds suspended.ticket.key = false) :
    ∃ woken, bus.Rings (bus.cancel suspended) [] woken := by
  rcases WaitQueue.departure_of_dequeued dequeued with departs | ⟨value, departs⟩ | departs
  · rw [cancel, departs, WaitQueue.leave, departs]
    exact ⟨[], rfl, bus.roster_forget _ _⟩
  · rw [cancel, departs, WaitQueue.leave, departs]
    exact ⟨[], rfl, bus.roster_forget _ _⟩
  · rw [cancel, departs, WaitQueue.leave, departs]
    cases pinned : bus.pinned? suspended.ticket.handle suspended.ticket.generation with
    | none =>
      have nobody := sound.ticketQueue_of_closed pinned
      refine ⟨[], by simp [departureNotices, nobody], roster_setTicketQueue [] ?_ fun _ => rfl⟩
      simp [pinned]
    | some channel =>
      refine ⟨(channel.front suspended.ticket.side 1).map (channel.seat suspended.ticket.side),
        ?_, roster_setTicketQueue _ (fun other found => ?_) fun closed => ?_⟩
      · rw [ticketQueue_of_pinned pinned, ← channel.wakes?_wokenNotice, departureNotices]
        cases queued : (channel.queue suspended.ticket.side).waiting with
        | nil => simp [Channel.front, WaitQueue.front, queued]
        | cons first rest => simp [Channel.front, WaitQueue.front, queued]
      · obtain rfl : channel = other := Option.some.inj (pinned.symm.trans found)
        rw [ticketQueue_of_pinned pinned, ← List.map_append]
        exact .of_eq (congrArg _ (WaitQueue.front_append_waiting_wake _ 1).symm)
      · rw [pinned] at closed
        contradiction

end Parked

end Bus

end ChannelBus
