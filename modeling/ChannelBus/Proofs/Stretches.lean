import ChannelBus.Proofs.Refusals
import ChannelBus.Proofs.Rendezvous

/-!
# A call moves one stretch of values, once

A call that waits may be tried many times before it ends. `Session.Traced` tells where its turns
have left it: every turn but the latest left it waiting. `Bus.Moved` tells what the turn does at
which a call succeeds: it moves one stretch of values through the buffer of its channel, as long as
it can be, or its channel is a rendezvous and the buffers stay as they are. At all other turns they
stay as they are. So a batch that waits moves its values at one moment (`Session.SentOnce`,
`Session.ReceivedOnce`).
-/

namespace ChannelBus

variable {α : Type}

namespace Call

/-- A call on a handle that sends has a value to send, unless it is idle. -/
theorem offers_of_busy {call : Call α} (named : call.handle?.isSome = true)
    (busy : call.isIdle = false) (sender : call.side = .senders) : call.offers ≠ [] := by
  cases call with
  | send target value => exact List.cons_ne_nil _ _
  | sendMany target values => exact List.isEmpty_eq_false_iff.mp busy
  | broadcast value => contradiction
  | receive | receiveMany => contradiction

/-- A call that receives wants a value, unless it is idle. -/
theorem wants_of_busy {call : Call α} (busy : call.isIdle = false)
    (receiver : call.side = .receivers) : call.wants ≠ 0 := by
  cases call with
  | receive target => exact Nat.one_ne_zero
  | receiveMany target max => exact ne_of_beq_false busy
  | send | sendMany | broadcast => contradiction

/-- A call that finds something on its wait is not idle. -/
theorem Finds.busy {call : Call α} {parcel : Parcel α} (finds : call.Finds parcel) :
    call.isIdle = false := by
  cases finds with
  | offered offers | taken offers => exact isIdle_of_offers (offers ▸ List.cons_ne_nil _ _)
  | empty wants => exact isIdle_of_wants wants
  | delivered value wants => exact isIdle_of_wants wants
  | unpinned everywhere =>
    obtain ⟨value, rfl⟩ := eq_broadcast everywhere
    rfl

end Call

namespace Channel

/-- The stretch of values that a call moves through a buffer, by its reply and what is buffered
afterwards: it is as long as it can be. -/
inductive Shifts (channel : Channel α) (call : Call α) : Reply α → List α → Prop where
  /-- Values go into the buffer. -/
  | accepted (given : call.offers ≠ []) (spare : channel.isFull = false) :
    Shifts channel call (call.sent (channel.fitting call.offers).length)
      (channel.buffer ++ channel.fitting call.offers)
  /-- Values come out of the buffer. -/
  | released (first : α) (rest : List α) (held : channel.oldest call.wants = first :: rest) :
    Shifts channel call (call.received first rest) (channel.buffer.drop call.wants)

/-- The queues of a channel have no part in what a call moves through its buffer. -/
theorem Shifts.of_setQueue {channel : Channel α} {side : Side} {queue : WaitQueue α}
    {call : Call α} {reply : Reply α} {buffer : List α}
    (shifts : (channel.setQueue side queue).Shifts call reply buffer) :
    channel.Shifts call reply buffer := by
  cases side with
  | senders | receivers =>
    cases shifts with
    | accepted given spare => exact .accepted given spare
    | released first rest held => exact .released first rest held

/-- Values move through a buffer only if the channel has a capacity. -/
theorem Shifts.positive {channel : Channel α} {call : Call α} {reply : Reply α} {buffer : List α}
    (shifts : channel.Shifts call reply buffer) (sound : channel.Sound) :
    0 < channel.capacity := by
  cases shifts with
  | accepted given spare =>
    have room : ¬ channel.capacity ≤ channel.length := of_decide_eq_false spare
    omega
  | released first rest held =>
    have bounded := sound.bounded
    have some : 0 < channel.length := by
      have taken := congrArg List.length held
      rw [oldest, List.length_take, List.length_cons] at taken
      change 0 < channel.buffer.length
      omega
    omega

/-- A batch that goes into a buffer is as much of its values as there is room for. -/
theorem Shifts.of_sendMany {channel : Channel α} {handle : Handle} {values buffer : List α}
    {reply : Reply α} {count : Nat} (shifts : channel.Shifts (.sendMany handle values) reply buffer)
    (ends : reply = .sentMany (.ok count)) :
    1 ≤ count ∧ count = min values.length channel.freeSpace ∧
      buffer = channel.buffer ++ values.take count := by
  cases shifts with
  | released first rest held => contradiction
  | accepted given spare =>
    have counted : (channel.fitting values).length = count :=
      Except.ok.inj (Reply.sentMany.inj ends)
    have some : values.length ≠ 0 := fun none => given (List.eq_nil_of_length_eq_zero none)
    have room : ¬ channel.capacity ≤ channel.length := of_decide_eq_false spare
    rw [length_fitting] at counted
    have free : channel.freeSpace = channel.capacity - channel.length := rfl
    refine ⟨by omega, by omega, ?_⟩
    change channel.buffer ++ values.take channel.freeSpace = _
    rw [List.take_eq_take_iff.mpr (by omega : min channel.freeSpace values.length =
      min count values.length)]

/-- A batch that comes out of a buffer is as much of it as is wanted. -/
theorem Shifts.of_receiveMany {channel : Channel α} {handle : Handle} {max : Nat}
    {values buffer : List α} {reply : Reply α}
    (shifts : channel.Shifts (.receiveMany handle max) reply buffer)
    (ends : reply = .receivedMany (.ok values)) :
    1 ≤ values.length ∧ values = channel.buffer.take (min max channel.length) ∧
      buffer = channel.buffer.drop values.length := by
  cases shifts with
  | accepted given spare => exact absurd rfl given
  | released first rest held =>
    obtain rfl : first :: rest = values := Except.ok.inj (Reply.receivedMany.inj ends)
    have taken : first :: rest = channel.buffer.take (min max channel.length) := by
      rw [← held]
      exact List.take_eq_take_min
    have length := congrArg List.length taken
    rw [List.length_take] at length
    change _ = min (min max channel.length) channel.length at length
    refine ⟨by simp, taken, ?_⟩
    change channel.buffer.drop max = _
    by_cases short : max ≤ channel.length
    · rw [length, Nat.min_eq_left short, Nat.min_eq_left short]
    · have all : (first :: rest).length = channel.buffer.length := by
        change _ = channel.length
        omega
      rw [all, List.drop_length, List.drop_of_length_le]
      exact Nat.le_of_not_le short

end Channel

namespace Bus

/-- What the turn at which a call succeeds does to the buffers. -/
inductive Moved (bus after : Bus α) (call : Call α) (pin : Option Nat) (reply : Reply α) :
    Prop where
  /-- The call moves values through the buffer of its channel. -/
  | shifted {handle : Handle} {channel : Channel α} {buffer : List α}
    (named : call.handle? = some handle) (here : bus.channel? handle = some channel)
    (pinned : pin = some channel.generation) (shifts : channel.Shifts call reply buffer)
    (content : ∀ generation, after.content generation =
      if generation = channel.generation then buffer else bus.content generation) :
    Moved bus after call pin reply
  /-- The call meets a partner on a rendezvous channel, or has met one before. -/
  | met {generation : Nat} (pinned : pin = some generation) (meets : after.Meets generation)
    (content : ∀ generation, after.content generation = bus.content generation) :
    Moved bus after call pin reply

/-- Replacing a channel by one with the same buffer leaves all buffers as they are. -/
theorem Becomes.content_of_kept {bus after : Bus α} {handle : Handle} {channel new : Channel α}
    (becomes : bus.Becomes after handle new) (sound : bus.Sound)
    (here : bus.channel? handle = some channel) (same : new.generation = channel.generation)
    (kept : new.buffer = channel.buffer) (generation : Nat) :
    after.content generation = bus.content generation := by
  rw [becomes.content sound here same]
  split
  case isTrue equal => rw [equal, sound.content_of_channel? here, kept]
  case isFalse => rfl

/-- A try with which a call on a handle succeeds. -/
theorem Acts.moved {bus after : Bus α} {waker : TaskId} {call : Call α} {pin : Option Nat}
    {previous : Option (Handle × Nat)} {progress : Progress α} {reply : Reply α}
    (acts : bus.Acts waker call pin previous progress after) (sound : bus.Sound)
    (named : call.handle?.isSome = true) (busy : call.isIdle = false)
    (ends : progress = .finished reply) (succeeds : reply.error? = none) :
    bus.Moved after call pin reply := by
  have stays := (acts.tries sound).stays
  cases acts with
  | failed error gone =>
    obtain rfl := Progress.finished.inj ends
    rw [Call.error?_failed] at succeeds
    contradiction
  | broadcast everywhere tried =>
    rw [everywhere] at named
    contradiction
  | @attempted handle channel outcome target here pinned attempted =>
    obtain ⟨reply?, new, tried, billed, result⟩ := attempted
    have becomes := billed.becomes
    have channelSound := sound.of_channel? here
    obtain ⟨_, same, _⟩ := tried.keeps channelSound
    have meets : channel.isRendezvous = true → outcome.bus.Meets channel.generation := fun empty =>
      (stays.meets_iff _).mpr ((sound.meets_iff here).mpr empty)
    have finished : reply? = some reply := by
      rw [result] at ends
      cases reply? with
      | none => contradiction
      | some other => exact congrArg some (Progress.finished.inj ends)
    subst finished
    cases tried with
    | moved moves =>
      cases moves with
      | sentNothing sender nothing => exact absurd nothing (Call.offers_of_busy named busy sender)
      | tookNothing receiver nothing => exact absurd nothing (Call.wants_of_busy busy receiver)
      | accepted given spare =>
        exact .shifted target here pinned (.accepted given spare) (becomes.content sound here same)
      | released first rest held =>
        exact .shifted target here pinned (.released first rest held)
          (becomes.content sound here same)
    | handedOff stuck offered handed =>
      obtain ⟨empty, _, _, _, _, _, rfl⟩ := channelSound.handOff_eq_some handed
      exact .met pinned (meets empty)
        (becomes.content_of_kept sound here same (Channel.buffer_setQueue _ _ _))
    | tookOffer stuck wanted taken =>
      obtain ⟨empty, _, _, _, _, _, _, _, rfl⟩ := Channel.Sound.takeOffer_eq_some taken
      exact .met pinned (meets empty)
        (becomes.content_of_kept sound here same (Channel.buffer_setQueue _ _ _))

/-- A call that was woken leaves its queue and is tried then; that moves the same values. -/
theorem Moved.of_setTicketQueue {bus after : Bus α} {suspended : Suspended α} {queue : WaitQueue α}
    {call : Call α} {pin : Option Nat} {reply : Reply α} (sound : bus.Sound)
    (houses : bus.Houses suspended)
    (moved : (bus.setTicketQueue suspended.ticket queue).Moved after call pin reply) :
    bus.Moved after call pin reply := by
  have kept := houses.content_setTicketQueue sound queue
  cases moved with
  | met pinned meets content =>
    exact .met pinned meets fun generation => (content generation).trans (kept generation)
  | @shifted handle channel buffer named here pinned shifts content =>
    rw [channel?_setTicketQueue houses.homes] at here
    obtain ⟨former, there, same⟩ := Option.map_eq_some_iff.mp here
    simp only [kept] at content
    split at same
    case isTrue =>
      subst same
      rw [Channel.generation_setQueue] at pinned
      simp only [Channel.generation_setQueue] at content
      exact .shifted named there pinned shifts.of_setQueue content
    case isFalse =>
      subst same
      exact .shifted named there pinned shifts content

end Bus

namespace Session

variable {session : Session α}

/-- The turn at which a call on a handle succeeds. -/
theorem Effect.stretch {move : Move α} {status : Status α} {after : Bus α}
    (effect : session.Effect move (some status) after) (lawful : session.Lawful) {id : Nat}
    (turn : session.caller? move = some id) {call : Call α} {pin : Option Nat}
    (called : session.called? move = some (call, pin)) (named : call.handle?.isSome = true)
    (busy : call.isIdle = false) {reply : Reply α} (ends : status = .ended reply)
    (succeeds : reply.error? = none) : session.bus.Moved after call pin reply := by
  have sound := lawful.housed.sound
  have finished : ∀ progress : Progress α, progress.status = .ended reply →
      progress = .finished reply := by
    intro progress same
    cases progress with
    | finished other => rw [Status.ended.inj same]
    | parked suspended => contradiction
  cases effect with
  | refused | moved | spread => contradiction
  | refreshed | dropped => contradiction
  | started acts =>
    obtain ⟨rfl, rfl⟩ := Prod.mk.inj (Option.some.inj called)
    exact acts.moved sound named busy (finished _ ends) succeeds
  | @settled polled waker suspended parcel other waits dequeued held happened =>
    have houses := lawful.housed.houses polled suspended waits
    have clears := houses.clears_forget sound dequeued
    obtain ⟨pinHere, calledHere, pinned⟩ := lawful.called?_poll waits waker
    obtain ⟨rfl, rfl⟩ := Prod.mk.inj (Option.some.inj (calledHere.symm.trans called))
    -- A value went through the parcel while the call waited; only a rendezvous does that.
    have meets := sound.meets_of_settled held (Call.isSettled_of_settledReply happened)
    exact .met (pinned named) ((clears.stays.meets_iff _).mpr meets)
      (houses.content_setTicketQueue sound _)
  | @retried polled waker suspended parcel progress _ waits dequeued held unsettled acts =>
    have houses := lawful.housed.houses polled suspended waits
    have clears := houses.clears_forget sound dequeued
    obtain ⟨pinHere, calledHere, pinned⟩ := lawful.called?_poll waits waker
    obtain ⟨rfl, rfl⟩ := Prod.mk.inj (Option.some.inj (calledHere.symm.trans called))
    rw [pinned named]
    exact (acts.moved clears.sound named busy (finished _ ends) succeeds).of_setTicketQueue sound
      houses

/-! ## The turns of a call -/

/-- A turn of a call that leaves it as recorded. -/
structure Takes [Stored α] (session : Session α) (move : Move α) (id : Nat) (record : Record α) :
    Prop where
  /-- The session is lawful. -/
  lawful : session.Lawful
  /-- It is the turn of the call. -/
  turn : session.caller? move = some id
  /-- The call stands as recorded afterwards. -/
  after : (session.step move).calls[id]? = some record

section Taking

variable [Stored α] {move : Move α} {id : Nat} {record : Record α}

/-- The result of a turn is where it leaves the call. -/
theorem Takes.result (takes : session.Takes move id record) :
    (session.act move).result = some record.status := by
  obtain ⟨same, here, result⟩ := record_of_caller takes.turn
  obtain rfl := Option.some.inj (takes.after.symm.trans here)
  exact result

/-- A turn at which a call gets its reply starts it or goes on with it. -/
theorem Takes.called (takes : session.Takes move id record) {reply : Reply α}
    (ends : record.status = .ended reply) :
    session.called? move = some (record.call, record.pinned) := by
  have after := takes.after
  have result := takes.result
  cases move with
  | request | overwrite => exact absurd takes.turn (Option.some_ne_none _).symm
  | start call waker =>
    obtain rfl := Option.some.inj takes.turn
    have last : (session.step (.start call waker)).calls[session.calls.length]? =
        some ⟨call, session.pin? call, (session.bus.start call waker).result.status⟩ :=
      List.getElem?_concat_length
    obtain rfl := Option.some.inj (last.symm.trans after)
    rfl
  | poll polled waker =>
    obtain ⟨suspended, waits, rfl⟩ := Option.map_eq_some_iff.mp takes.turn
    obtain ⟨prior, here, _⟩ := record_of_waiting? waits
    obtain ⟨_, _, _, now⟩ := waits_of_turn takes.turn here
    obtain rfl := Option.some.inj (now.symm.trans after)
    rw [called?, here]
    rfl
  | drop polled =>
    obtain ⟨suspended, waits, rfl⟩ := Option.map_eq_some_iff.mp takes.turn
    simp only [act, waits, Outcome.map, ends] at result
    exact absurd (Option.some.inj result) (by simp)

/-- A turn that does not end with success leaves the buffers as they are. -/
theorem Takes.content (takes : session.Takes move id record)
    (failed : ∀ reply, record.status.reply? = some reply → reply.error?.isSome = true)
    (generation : Nat) :
    (session.step move).bus.content generation = session.bus.content generation := by
  have effect := effect takes.lawful move
  rw [takes.result] at effect
  exact effect.content_of_failed takes.lawful failed generation

/-- The turn at which a call on a handle succeeds. -/
theorem Takes.moved (takes : session.Takes move id record)
    (named : record.call.handle?.isSome = true) (busy : record.call.isIdle = false)
    {reply : Reply α} (ends : record.status = .ended reply) (succeeds : reply.error? = none) :
    session.bus.Moved (session.step move).bus record.call record.pinned reply := by
  have effect := effect takes.lawful move
  rw [takes.result] at effect
  exact effect.stretch takes.lawful takes.turn (takes.called ends) named busy ends succeeds

end Taking

/-- How the calls of a session have come to stand where they stand. -/
structure Traced [Stored α] (session : Session α) (history : List (Session α × Move α)) :
    Prop where
  /-- The session is lawful. -/
  lawful : session.Lawful
  /-- Only calls that were started took turns. -/
  started : ∀ id, turnsOf id history ≠ [] → id < session.calls.length
  /-- Every call stands where its latest turn left it, and all turns before left it waiting. -/
  latest : ∀ (id : Nat) (record : Record α), session.calls[id]? = some record →
    ∃ earlier before move, turnsOf id history = earlier ++ [(before, move)] ∧
      before.Takes move id record ∧
      ∀ entry ∈ earlier, ∃ suspended,
        entry.1.Takes entry.2 id { record with status := .waiting suspended }

/-- No call has taken a turn in a new session. -/
theorem traced_new [Stored α] (config : Config) : (new config : Session α).Traced [] := by
  refine ⟨lawful_new config, fun _ turns => absurd rfl turns, fun id record here => ?_⟩
  cases here

section Tracing

variable [Stored α] {history : List (Session α × Move α)}

/-- Before a turn of a call all its turns left it waiting. -/
theorem Traced.waiting_before (traced : session.Traced history) {move : Move α} {id : Nat}
    {record : Record α} (takes : session.Takes move id record) :
    ∀ entry ∈ turnsOf id history, ∃ suspended,
      entry.1.Takes entry.2 id { record with status := .waiting suspended } := by
  cases before : session.calls[id]? with
  | none =>
    have none : turnsOf id history = [] := by
      by_contra taken
      have within := traced.started id taken
      rw [List.getElem?_eq_getElem within] at before
      contradiction
    rw [none]
    exact fun _ listed => absurd listed List.not_mem_nil
  | some prior =>
    obtain ⟨suspended, waits, status, now⟩ := waits_of_turn takes.turn before
    obtain rfl := Option.some.inj (now.symm.trans takes.after)
    obtain ⟨earlier, last, made, turns, latest, others⟩ := traced.latest id prior before
    have waiting := status_of_waiting? before waits
    rw [turns]
    intro entry listed
    rcases List.mem_append.mp listed with former | latter
    · exact others entry former
    · obtain rfl := List.mem_singleton.mp latter
      refine ⟨suspended, ?_⟩
      rw [← waiting]
      exact latest

/-- What each move adds to the trace. -/
theorem Traced.step (traced : session.Traced history) (move : Move α) :
    (session.step move).Traced (history ++ [(session, move)]) := by
  refine ⟨traced.lawful.step move, fun id taken => ?_, fun id record here => ?_⟩
  · by_cases turn : session.caller? move = some id
    · exact lt_of_turn turn
    · rw [turnsOf_concat, if_neg turn, List.append_nil] at taken
      have before := List.getElem?_eq_getElem (traced.started id taken)
      rw [← calls_of_other turn] at before
      exact (List.getElem?_eq_some_iff.mp before).1
  · rw [turnsOf_concat]
    by_cases turn : session.caller? move = some id
    · have takes : session.Takes move id record := ⟨traced.lawful, turn, here⟩
      rw [if_pos turn]
      exact ⟨turnsOf id history, session, move, rfl, takes, traced.waiting_before takes⟩
    · rw [if_neg turn, List.append_nil]
      rw [calls_of_other turn] at here
      exact traced.latest id record here

/-- What a run adds to the trace. -/
theorem Traced.run (traced : session.Traced history) (moves : List (Move α)) :
    (session.run moves).Traced (history ++ session.trail moves) := by
  induction moves generalizing session history with
  | nil =>
    rw [trail, List.append_nil]
    exact traced
  | cons move rest ih =>
    have following := ih (traced.step move)
    rw [List.append_assoc] at following
    exact following

end Tracing

/-! ## Calls that succeed -/

/-- Whether a move leaves all buffers as they are. -/
def Spares [Stored α] (session : Session α) (move : Move α) : Prop :=
  ∀ generation, (session.step move).bus.content generation = session.bus.content generation

/-- A call moves its values through the buffer of one channel at its last turn. It touches no buffer
before and no other one then, and it takes no part in a transfer between waiting calls. -/
inductive ThroughBuffer [Stored α] (first : Session α) (moves : List (Move α)) (id : Nat)
    (side : Side) (handle : Handle) (generation : Nat) (shift : Channel α → List α → Prop) :
    Prop where
  /-- What holds of the last turn, of those before, and of the transfers. -/
  | intro {earlier : List (Session α × Move α)} {before : Session α} {move : Move α}
    {channel : Channel α} (turns : turnsOf id (first.trail moves) = earlier ++ [(before, move)])
    (here : before.bus.channel? handle = some channel) (same : channel.generation = generation)
    (positive : 0 < channel.capacity)
    (shifts : shift channel ((before.step move).bus.content generation))
    (others : ∀ other, other ≠ generation →
      (before.step move).bus.content other = before.bus.content other)
    (spared : ∀ entry ∈ earlier, entry.1.Spares entry.2)
    (alone : (first.transfers moves).filter (·.party side = id) = [])

/-- A call moves one value in a single transfer between waiting calls, and it touches no buffer. -/
structure HandedOver [Stored α] (first : Session α) (moves : List (Move α)) (id : Nat)
    (side : Side) (generation : Nat) (value : α) : Prop where
  /-- There is one transfer that the call takes part in. -/
  once : ∃ transfer, (first.transfers moves).filter (·.party side = id) = [transfer] ∧
    transfer.generation = generation ∧ transfer.value = value
  /-- All its turns leave the buffers as they are. -/
  spared : ∀ entry ∈ turnsOf id (first.trail moves), entry.1.Spares entry.2

/-- What is shown of the change of a buffer may be weakened. -/
theorem ThroughBuffer.imp [Stored α] {first : Session α} {moves : List (Move α)} {id : Nat}
    {side : Side} {handle : Handle} {generation : Nat} {shift other : Channel α → List α → Prop}
    (through : first.ThroughBuffer moves id side handle generation shift)
    (weaker : ∀ channel after, shift channel after → other channel after) :
    first.ThroughBuffer moves id side handle generation other := by
  obtain ⟨turns, here, same, positive, shifts, others, spared, alone⟩ := through
  exact .intro turns here same positive (weaker _ _ shifts) others spared alone

section Succeeding

variable [Stored α] {config : Config} {moves : List (Move α)} {id : Nat} {record : Record α}
  {generation : Nat}

/-- A channel with a capacity never becomes a rendezvous. -/
theorem Lawful.not_meets_run (lawful : session.Lawful) {handle : Handle} {channel : Channel α}
    (here : session.bus.channel? handle = some channel) (positive : 0 < channel.capacity)
    (moves : List (Move α)) : ¬ (session.run moves).bus.Meets channel.generation := by
  have known : (session.bus.identity? channel.generation).map (·.capacity) =
      some channel.capacity := by
    rw [lawful.housed.sound.identity?_of_channel? here]
    rfl
  intro meets
  have zero := Option.some.inj ((lawful.capacity_run known moves).symm.trans meets)
  omega

omit [Stored α] in
/-- A call that is pinned to a channel with a capacity takes no part in a transfer between waiting
calls. -/
theorem Paired.alone_of_buffers {history : List (Transfer α)} (paired : session.Paired history)
    (here : session.calls[id]? = some record) (named : record.call.handle?.isSome = true)
    (pinned : record.pinned = some generation) (buffers : ¬ session.bus.Meets generation) :
    history.filter (·.party record.call.side = id) = [] := by
  refine List.filter_eq_nil_iff.mpr fun transfer member party => ?_
  have same := of_decide_eq_true party
  obtain ⟨meets, found, there, _, dealt⟩ := paired.dealt member record.call.side
  rw [same, here] at there
  obtain rfl := Option.some.inj there
  rcases dealt with ⟨everywhere, _⟩ | ⟨pinnedThere, _⟩
  · rw [everywhere] at named
    contradiction
  · obtain rfl := Option.some.inj (pinned.symm.trans pinnedThere)
    exact buffers meets

omit [Stored α] in
/-- A call that is pinned to a rendezvous channel and succeeds takes part in one transfer. -/
theorem Paired.once_of_meets {history : List (Transfer α)} (paired : session.Paired history)
    (here : session.calls[id]? = some record) (named : record.call.handle?.isSome = true)
    (busy : record.call.isIdle = false) (pinned : record.pinned = some generation)
    (meets : session.bus.Meets generation) {reply : Reply α} (ends : record.status = .ended reply)
    (succeeds : reply.error? = none) :
    ∃ transfer, history.filter (·.party record.call.side = id) = [transfer] ∧
      transfer.generation = generation ∧ record.call.Deals transfer.value ∧
      reply = record.call.dealReply transfer.value := by
  rcases paired.alone here pinned meets named busy with ⟨_, failed⟩ | ⟨transfer, share, replied⟩
  · have error := failed reply ends
    rw [succeeds] at error
    contradiction
  · have member : transfer ∈ history ∧ transfer.party record.call.side = id := by
      have listed : transfer ∈ history.filter (·.party record.call.side = id) := by
        rw [share]
        exact List.mem_singleton_self transfer
      exact ⟨(List.mem_filter.mp listed).1, of_decide_eq_true (List.mem_filter.mp listed).2⟩
    obtain ⟨_, found, there, _, dealt⟩ := paired.dealt member.1 record.call.side
    rw [member.2, here] at there
    obtain rfl := Option.some.inj there
    rcases dealt with ⟨everywhere, _⟩ | ⟨pinnedThere, deals, _⟩
    · rw [everywhere] at named
      contradiction
    · obtain rfl := Option.some.inj (pinned.symm.trans pinnedThere)
      exact ⟨transfer, share, rfl, deals, replied reply ends⟩

/-- A call on a handle that succeeds moves its values at one moment: through the buffer of its
channel at its last turn, or in a transfer if its channel is a rendezvous. -/
theorem succeeds_once {handle : Handle} {reply : Reply α}
    (here : ((new config : Session α).run moves).calls[id]? = some record)
    (named : record.call.handle? = some handle) (busy : record.call.isIdle = false)
    (ends : record.status = .ended reply) (succeeds : reply.error? = none) :
    ∃ generation, record.pinned = some generation ∧
      (¬ ((new config).run moves).bus.Meets generation →
        (new config).ThroughBuffer moves id record.call.side handle generation
          fun channel after => channel.Shifts record.call reply after) ∧
      (((new config).run moves).bus.Meets generation → ∃ value,
        record.call.Deals value ∧ reply = record.call.dealReply value ∧
          (new config).HandedOver moves id record.call.side generation value) := by
  have isNamed : record.call.handle?.isSome = true := by rw [named]; rfl
  have traced := (traced_new config : (new config : Session α).Traced []).run moves
  have paired := (paired_new config : (new config : Session α).Paired []).run moves
  rw [List.nil_append] at traced paired
  obtain ⟨earlier, before, move, turns, takes, others⟩ := traced.latest id record here
  have spared : ∀ entry ∈ earlier, entry.1.Spares entry.2 := by
    intro entry listed
    obtain ⟨suspended, waits⟩ := others entry listed
    exact waits.content fun _ none => absurd none.symm (Option.some_ne_none _)
  -- The rest of the run keeps the capacities, so the channel is what it was at the last turn.
  have made : (before, move) ∈ (new config : Session α).trail moves := by
    have listed : (before, move) ∈ turnsOf id ((new config : Session α).trail moves) := by
      rw [turns]
      exact List.mem_append_right _ (List.mem_singleton_self _)
    exact (List.mem_filter.mp listed).1
  obtain ⟨former, rest, rfl, rfl⟩ := mem_trail _ made
  have lawful := takes.lawful
  cases takes.moved isNamed busy ends succeeds with
  | @shifted target channel buffer target' there pinned shifts content =>
    obtain rfl := Option.some.inj (named.symm.trans target')
    have positive := shifts.positive (lawful.housed.sound.of_channel? there)
    have buffers := lawful.not_meets_run there positive (move :: rest)
    rw [← run_append] at buffers
    refine ⟨channel.generation, pinned, fun _ => ?_, fun meets => absurd meets buffers⟩
    refine .intro turns there rfl positive ?_ (fun other apart => ?_) spared
      (paired.alone_of_buffers here isNamed pinned buffers)
    · rw [content, if_pos rfl]
      exact shifts
    · rw [content, if_neg apart]
  | @met generation pinned meets content =>
    have meetsStill := (lawful.step move).capacity_run meets rest
    rw [← run_cons, ← run_append] at meetsStill
    refine ⟨generation, pinned, fun buffers => absurd meetsStill buffers, fun _ => ?_⟩
    obtain ⟨transfer, share, same, deals, replied⟩ :=
      paired.once_of_meets here isNamed busy pinned meetsStill ends succeeds
    refine ⟨transfer.value, deals, replied, ⟨transfer, share, same, rfl⟩, ?_⟩
    rw [turns]
    intro entry listed
    rcases List.mem_append.mp listed with earlierTurn | lastTurn
    · exact spared entry earlierTurn
    · obtain rfl := List.mem_singleton.mp lastTurn
      exact content

omit [Stored α] in
/-- A call that waits is not idle. -/
theorem Lawful.busy (lawful : session.Lawful) {suspended : Suspended α}
    (here : session.calls[id]? = some record) (waits : session.waiting? id = some suspended) :
    record.call.isIdle = false := by
  have status := status_of_waiting? here waits
  obtain ⟨parcel, _, finds⟩ := (lawful.housed.houses id suspended waits).parcel
  rw [← (lawful.recorded id record suspended here status).call]
  exact finds.busy

/-- A call stands where a poll leaves it that fails precisely, unless it is dropped; then it was not
idle, since it had to wait. -/
theorem Takes.polled_or_dropped {move : Move α} (takes : session.Takes move id record) :
    (∃ outcome : Outcome α (Progress α), outcome.RaisesLast ∧
      record.status = outcome.result.status) ∨
    (record.status = .dropped ∧ record.call.isIdle = false) := by
  have result := takes.result
  cases move with
  | request | overwrite => exact absurd takes.turn (Option.some_ne_none _).symm
  | start call waker =>
    exact .inl ⟨_, session.bus.raisesLast_start call waker, (Option.some.inj result).symm⟩
  | poll polled waker =>
    obtain ⟨suspended, waits, rfl⟩ := Option.map_eq_some_iff.mp takes.turn
    simp only [act, waits, Outcome.map] at result
    exact .inl ⟨_, session.bus.raisesLast_resume suspended waker, (Option.some.inj result).symm⟩
  | drop polled =>
    obtain ⟨suspended, waits, rfl⟩ := Option.map_eq_some_iff.mp takes.turn
    obtain ⟨prior, there, _⟩ := record_of_waiting? waits
    obtain ⟨_, _, _, now⟩ := waits_of_turn takes.turn there
    obtain rfl := Option.some.inj (now.symm.trans takes.after)
    simp only [act, waits, Outcome.map] at result
    have busy := takes.lawful.busy there waits
    exact .inr ⟨(Option.some.inj result).symm, busy⟩

/-- No call ends because it would block. -/
theorem Traced.unblocked {history : List (Session α × Move α)} (traced : session.Traced history)
    (here : session.calls[id]? = some record) {reply : Reply α}
    (ends : record.status = .ended reply) : reply.error? ≠ some .wouldBlock := by
  intro blocked
  obtain ⟨_, _, _, _, takes, _⟩ := traced.latest id record here
  rcases takes.polled_or_dropped with ⟨outcome, last, status⟩ | ⟨status, _⟩
  · rw [ends] at status
    cases progress : outcome.result with
    | parked suspended =>
      rw [progress] at status
      contradiction
    | finished other =>
      rw [progress] at status
      obtain rfl := Status.ended.inj status
      exact (last reply .wouldBlock progress blocked).1 rfl
  · rw [ends] at status
    contradiction

/-- An idle call ends at its first poll. -/
theorem Traced.prompt {history : List (Session α × Move α)} (traced : session.Traced history)
    (here : session.calls[id]? = some record) (idle : record.call.isIdle = true) :
    ∃ reply, record.status = .ended reply := by
  obtain ⟨_, _, _, _, takes, _⟩ := traced.latest id record here
  rcases takes.polled_or_dropped with ⟨outcome, _, status⟩ | ⟨_, busy⟩
  · cases progress : outcome.result with
    | finished reply =>
      rw [progress] at status
      exact ⟨reply, status⟩
    | parked suspended =>
      rw [progress] at status
      have waits : session.waiting? id = some suspended := by
        rw [waiting?, here, Option.bind_some, status]
        rfl
      have busy := traced.lawful.busy here waits
      rw [idle] at busy
      contradiction
  · rw [idle] at busy
    contradiction

end Succeeding

/-! ## Batches -/

section Batches

variable [Stored α]

/-- A batch that was sent moved its first values, as many as there was room for, at one moment. On a
rendezvous channel it moved the very first one. -/
structure SentOnce (first : Session α) (moves : List (Move α)) (id : Nat) (pin : Option Nat)
    (handle : Handle) (values : List α) (count : Nat) : Prop where
  /-- At least one value was sent. -/
  positive : 1 ≤ count
  /-- No more were sent than there are. -/
  bounded : count ≤ values.length
  /-- How they were moved. -/
  moved : ∃ generation, pin = some generation ∧
    (¬ (first.run moves).bus.Meets generation →
      first.ThroughBuffer moves id .senders handle generation fun channel after =>
        count = min values.length channel.freeSpace ∧
          after = channel.buffer ++ values.take count) ∧
    ((first.run moves).bus.Meets generation → count = 1 ∧ ∃ value rest,
      values = value :: rest ∧ first.HandedOver moves id .senders generation value)

/-- A batch that was received is the oldest values, as many as were wanted and buffered, taken at
one moment. From a rendezvous channel it is a single one. -/
structure ReceivedOnce (first : Session α) (moves : List (Move α)) (id : Nat) (pin : Option Nat)
    (handle : Handle) (max : Nat) (values : List α) : Prop where
  /-- At least one value was received. -/
  positive : 1 ≤ values.length
  /-- No more were received than wanted. -/
  bounded : values.length ≤ max
  /-- How they were moved. -/
  moved : ∃ generation, pin = some generation ∧
    (¬ (first.run moves).bus.Meets generation →
      first.ThroughBuffer moves id .receivers handle generation fun channel after =>
        values = channel.buffer.take (min max channel.length) ∧
          after = channel.buffer.drop values.length) ∧
    ((first.run moves).bus.Meets generation → ∃ value,
      values = [value] ∧ first.HandedOver moves id .receivers generation value)

section Single

variable {config : Config} {moves : List (Move α)} {id : Nat} {pin : Option Nat} {handle : Handle}

/-- A batch that ended with a number of values sent. -/
theorem sentOnce {values : List α} {count : Nat}
    (here : ((new config : Session α).run moves).calls[id]? = some
      ⟨.sendMany handle values, pin, .ended (.sentMany (.ok count))⟩) (given : values ≠ []) :
    (new config : Session α).SentOnce moves id pin handle values count := by
  have busy : (Call.sendMany handle values).isIdle = false := List.isEmpty_eq_false_iff.mpr given
  obtain ⟨generation, pinned, buffered, handed⟩ := succeeds_once here rfl busy rfl rfl
  by_cases meets : ((new config).run moves).bus.Meets generation
  case pos =>
    obtain ⟨value, deals, replied, once⟩ := handed meets
    obtain ⟨rest, rfl⟩ := List.head?_eq_some_iff.mp deals
    obtain rfl : count = 1 := Except.ok.inj (Reply.sentMany.inj replied)
    refine ⟨Nat.le_refl 1, by simp, generation, pinned, fun buffers => absurd meets buffers, ?_⟩
    exact fun _ => ⟨rfl, value, rest, rfl, once⟩
  case neg =>
    have through := (buffered meets).imp fun channel after shift => shift.of_sendMany rfl
    have bounds : 1 ≤ count ∧ count ≤ values.length := by
      obtain ⟨_, _, _, _, ⟨some, count, _⟩, _, _, _⟩ := through
      omega
    refine ⟨bounds.1, bounds.2, generation, pinned, fun _ => ?_, fun meet => absurd meet meets⟩
    exact through.imp fun channel after shift => shift.2

/-- A batch that ended with the values received. -/
theorem receivedOnce {max : Nat} {values : List α}
    (here : ((new config : Session α).run moves).calls[id]? = some
      ⟨.receiveMany handle max, pin, .ended (.receivedMany (.ok values))⟩) (wanted : max ≠ 0) :
    (new config : Session α).ReceivedOnce moves id pin handle max values := by
  have busy : (Call.receiveMany handle max : Call α).isIdle = false := beq_false_of_ne wanted
  obtain ⟨generation, pinned, buffered, handed⟩ := succeeds_once here rfl busy rfl rfl
  by_cases meets : ((new config).run moves).bus.Meets generation
  case pos =>
    obtain ⟨value, _, replied, once⟩ := handed meets
    obtain rfl : values = [value] := Except.ok.inj (Reply.receivedMany.inj replied)
    refine ⟨Nat.le_refl 1, Nat.one_le_iff_ne_zero.mpr wanted, generation, pinned,
      fun buffers => absurd meets buffers, ?_⟩
    exact fun _ => ⟨value, rfl, once⟩
  case neg =>
    have through := (buffered meets).imp fun channel after shift => shift.of_receiveMany rfl
    have bounds : 1 ≤ values.length ∧ values.length ≤ max := by
      obtain ⟨_, _, _, _, ⟨some, taken, _⟩, _, _, _⟩ := through
      have length := congrArg List.length taken
      rw [List.length_take] at length
      omega
    refine ⟨bounds.1, bounds.2, generation, pinned, fun _ => ?_, fun meet => absurd meet meets⟩
    exact through.imp fun channel after shift => shift.2

end Single

/-- How the batches of a run move their values. -/
structure Batched (first : Session α) (moves : List (Move α)) : Prop where
  /-- A batch with a value to send that succeeds moves its values once. -/
  sends : ∀ (id : Nat) (pin : Option Nat) (handle : Handle) (values : List α) (count : Nat),
    (first.run moves).calls[id]? = some
      ⟨.sendMany handle values, pin, .ended (.sentMany (.ok count))⟩ → values ≠ [] →
    first.SentOnce moves id pin handle values count
  /-- A batch that wants a value and succeeds moves its values once. -/
  receives : ∀ (id : Nat) (pin : Option Nat) (handle : Handle) (max : Nat) (values : List α),
    (first.run moves).calls[id]? = some
      ⟨.receiveMany handle max, pin, .ended (.receivedMany (.ok values))⟩ → max ≠ 0 →
    first.ReceivedOnce moves id pin handle max values
  /-- No call ends because it would block. -/
  unblocked : ∀ (id : Nat) (record : Record α) (reply : Reply α),
    (first.run moves).calls[id]? = some record → record.status = .ended reply →
    reply.error? ≠ some .wouldBlock
  /-- A batch with nothing to move never waits. -/
  prompt : ∀ (id : Nat) (record : Record α), (first.run moves).calls[id]? = some record →
    record.call.isIdle = true → ∃ reply, record.status = .ended reply

/-- Batches that may wait move one stretch of values at one moment, as long as it can be then,
however often they were tried before. They never fail because they would block, and with nothing to
move they never wait. -/
theorem batches_move_once (config : Config) (moves : List (Move α)) :
    (new config : Session α).Batched moves := by
  have traced := (traced_new config : (new config : Session α).Traced []).run moves
  constructor
  case sends => exact fun _ _ _ _ _ here given => sentOnce here given
  case receives => exact fun _ _ _ _ _ here wanted => receivedOnce here wanted
  case unblocked => exact fun _ _ _ here ends => traced.unblocked here ends
  case prompt => exact fun _ _ here idle => traced.prompt here idle

end Batches

/-- A batch waits on a full channel, is woken and beaten, and waits again until there is room for
two of its values. -/
def beatenMoves : List (Move UInt32) :=
  [.request (.openChannel 3), .request (.trySendMany ⟨0⟩ [1, 2, 3]),
    .start (.sendMany ⟨0⟩ [7, 8, 9]) 4, .request (.tryReceive ⟨0⟩), .request (.trySend ⟨0⟩ 5),
    .poll 0 4, .request (.tryReceiveMany ⟨0⟩ 2), .poll 0 4]

/-- At its last turn, and only then, two values of the batch go into the buffer. -/
theorem batches_move_once_of_beaten :
    let first : Session UInt32 := new {}
    let last := first.run beatenMoves
    (last.bus.channel? ⟨0⟩).map (·.buffer) = some [5, 7, 8] ∧
      (turnsOf 0 (first.trail beatenMoves)).length = 3 ∧
      (last.calls[0]?).map (·.status.reply?) = some (some (.sentMany (.ok 2))) ∧
      first.ThroughBuffer beatenMoves 0 .senders ⟨0⟩ 0 fun channel after =>
        channel.freeSpace = 2 ∧ after = channel.buffer ++ [7, 8] := by
  have batched := batches_move_once (α := UInt32) {} beatenMoves
  have buffers : ¬ ((new {} : Session UInt32).run beatenMoves).bus.Meets 0 := by
    intro meets
    have three : (((new {} : Session UInt32).run beatenMoves).bus.identity? 0).map
      (·.capacity) = some 3 := rfl
    exact absurd (three.symm.trans meets) (by decide)
  have sent := batched.sends 0 (some 0) ⟨0⟩ [7, 8, 9] 2 rfl (by decide)
  obtain ⟨generation, pinned, through, _⟩ := sent.moved
  obtain rfl := Option.some.inj pinned
  refine ⟨rfl, rfl, rfl, (through buffers).imp fun channel after shift => ?_⟩
  obtain ⟨count, appended⟩ := shift
  have three : [7, 8, (9 : UInt32)].length = 3 := rfl
  rw [three] at count
  exact ⟨by omega, appended⟩

end Session

end ChannelBus
