import ChannelBus.Proofs.Atomicity

/-!
# Ready channels are those that take a value

`Channel.canAccept` looks at nothing but lengths, and what a send does depends on the parcels of the
queued receivers. The two agree because every queued receiver of a reachable bus holds an empty
parcel. So a send completes at its first poll exactly if the channel is ready, and a sender or
broadcaster that parks does so on a channel that is not: a broadcaster on the lowest one.

A call that parks as a sender changes nothing but senders' queues, which readiness does not regard.
So what is shown of the bus before such a move holds at every moment of the move.
-/

namespace ChannelBus

variable {α : Type}

namespace Channel

variable {channel : Channel α}

/-- A value goes into the buffer unless the channel is full. -/
theorem isSome_tryPush (channel : Channel α) (value : α) :
    (channel.tryPush value).isSome = !channel.isFull := by
  cases full : channel.isFull <;> simp [tryPush, full]

/-- A channel is ready exactly if it takes a value, into its buffer or else by handing it over. -/
theorem Sound.canAccept_iff_takes (sound : channel.Sound) (value : α) :
    channel.canAccept = true ↔
      ((channel.tryPush value).isSome || (channel.handOff value).isSome) = true := by
  have handed : (channel.handOff value).isSome =
      (channel.isRendezvous && !channel.receivers.isEmpty) := by
    cases outcome : channel.handOff value with
    | some pair =>
      obtain ⟨rendezvous, wait, later, waiting, _⟩ := sound.handOff_eq_some outcome
      simp [rendezvous, WaitQueue.isEmpty, waiting]
    | none =>
      have nobody := sound.handOff_eq_none_iff.mp outcome
      cases rendezvous : channel.isRendezvous with
      | false => rfl
      | true => simp [WaitQueue.isEmpty, nobody rendezvous]
  rw [isSome_tryPush, handed, canAccept]

/-- A full channel that hands a value to nobody is not ready. -/
theorem Sound.unready (sound : channel.Sound) (full : channel.isFull = true) {value : α}
    (nobody : channel.handOff value = none) : channel.canAccept = false := by
  refine Bool.eq_false_iff.mpr fun ready => ?_
  have takes := (sound.canAccept_iff_takes value).mp ready
  simp [isSome_tryPush, full, nobody] at takes

end Channel

namespace Bus

variable {bus after : Bus α}

/-- The channel of a ticket is open and not ready. -/
def Unready (bus : Bus α) (ticket : Ticket) : Prop :=
  ∃ channel, bus.channel? ticket.handle = some channel ∧
    channel.generation = ticket.generation ∧ channel.canAccept = false

/-- Every channel that is open below a handle is ready. -/
def ReadyBelow (bus : Bus α) (handle : Handle) : Prop :=
  ∀ lower channel, lower.id < handle.id → bus.channel? lower = some channel →
    channel.canAccept = true

/-! ## Sending -/

/-- A request to send succeeds exactly if the channel is not full. -/
theorem trySend_ok_iff {handle : Handle} {channel : Channel α}
    (here : bus.channel? handle = some channel) (value : α) :
    (bus.trySend handle value).result = .ok () ↔ channel.isFull = false := by
  have found : bus.lookup handle none = some channel := here
  rcases push_cases found value with ⟨spare, sent, _⟩ | ⟨full, blocked⟩
  · simp [trySend, sent, spare]
  · simp [trySend, blocked, fail, full]

/-- A send completes at its first poll exactly if the channel is ready. -/
theorem Sound.start_send_iff (sound : bus.Sound) {handle : Handle} {channel : Channel α}
    (here : bus.channel? handle = some channel) (value : α) (waker : TaskId) :
    (bus.start (.send handle value) waker).result = .finished (.sent (.ok ())) ↔
      channel.canAccept = true := by
  have takes := (sound.of_channel? here).canAccept_iff_takes value
  have pinned := pinned?_eq_some_iff.mpr ⟨here, rfl⟩
  rw [start_of_open rfl rfl here, takes, Channel.isSome_tryPush]
  have named : (Call.send handle value).handle? = some handle := rfl
  obtain ⟨reply?, new, tried, _, result⟩ := attempted_attempt pinned named waker
  rw [result]
  cases tried with
  | moved moves =>
    cases moves with
    | accepted given spare => simp [spare, Call.progress, Call.sent]
    | sentNothing sender nothing => contradiction
    | tookNothing receiver nothing => contradiction
    | released first rest held => exact absurd rfl (Channel.wants_of_oldest held)
  | handedOff stuck offered handed =>
    obtain ⟨rfl, _⟩ := List.cons.inj offered
    simp [handed, Call.progress, Call.sent]
  | tookOffer stuck wanted taken => exact absurd rfl wanted
  | offering stuck offered nobody =>
    obtain ⟨rfl, _⟩ := List.cons.inj offered
    simp [stuck.full (List.cons_ne_nil _ _), nobody, Call.progress]
  | awaiting stuck wanted nothing => exact absurd rfl wanted

/-! ## Parking -/

/-- Readiness does not depend on who waits to send. -/
theorem SameButSenders.ready (same : bus.SameButSenders after) {handle : Handle}
    {channel : Channel α} (here : bus.channel? handle = some channel) :
    ∃ still, after.channel? handle = some still ∧ still.generation = channel.generation ∧
      still.canAccept = channel.canAccept := by
  have cleared := same.channel? handle
  rw [here, Option.map_some, Option.map_eq_some_iff] at cleared
  obtain ⟨still, there, equal⟩ := cleared
  exact ⟨still, there, congrArg (·.generation) equal, congrArg (·.canAccept) equal⟩

/-- A channel that is not ready stays so while only senders come and go. -/
theorem Unready.mono {ticket : Ticket} (unready : bus.Unready ticket)
    (same : bus.SameButSenders after) : after.Unready ticket := by
  obtain ⟨channel, here, generation, refuses⟩ := unready
  obtain ⟨still, there, number, ready⟩ := same.ready here
  exact ⟨still, there, number.trans generation, ready.trans refuses⟩

/-- Ready channels stay so while only senders come and go. -/
theorem ReadyBelow.mono {handle : Handle} (ready : bus.ReadyBelow handle)
    (same : bus.SameButSenders after) : after.ReadyBelow handle := by
  intro lower channel below here
  obtain ⟨former, there, _, equal⟩ := SameButSenders.ready (Eq.symm same) here
  exact equal ▸ ready lower former below there

/-- What stalls a broadcast is the lowest open channel that is not ready. -/
theorem stalls_at_lowest {handle : Handle} {generation : Nat}
    (stalls : bus.stall? Channel.canAccept = some (.refused handle generation)) :
    bus.ReadyBelow handle := by
  cases refused : bus.firstRefusal Channel.canAccept with
  | none =>
    simp only [stall?, refused] at stalls
    split at stalls <;> simp at stalls
  | some refusal =>
    obtain ⟨target, channel⟩ := refusal
    simp only [stall?, refused, Option.some.injEq, Stall.refused.injEq] at stalls
    obtain ⟨rfl, _⟩ := stalls
    obtain ⟨_, before, later, listed, ready⟩ := List.find?_eq_some_iff_append.mp refused
    intro lower other below here
    have ascending := bus.handles_ascending
    rw [handles, listed, List.map_append, List.map_cons, List.pairwise_append,
      List.pairwise_cons] at ascending
    have member : (lower, other) ∈ before ++ (target, channel) :: later :=
      listed ▸ mem_openChannels.mpr here
    rcases List.mem_append.mp member with early | late
    · simpa using ready _ early
    · rcases List.mem_cons.mp late with same | after
      · obtain rfl : lower = target := congrArg Prod.fst same
        exact absurd below (Nat.lt_irrefl _)
      · have above := ascending.2.1.1 lower (List.mem_map_of_mem (f := (·.1)) after)
        exact absurd below (Nat.lt_asymm above)

/-- A sender or a broadcaster parks on a channel that is not ready. -/
theorem Acts.unready {waker : TaskId} {call : Call α} {pin : Option Nat}
    {previous : Option (Handle × Nat)} {suspended : Suspended α}
    (acts : bus.Acts waker call pin previous (.parked suspended) after) (sound : bus.Sound)
    (sender : call.side = .senders) : bus.Unready suspended.ticket := by
  generalize parks : Progress.parked suspended = progress at acts
  cases acts with
  | failed error gone => contradiction
  | attempted named here pinned attempted =>
    obtain ⟨reply?, new, tried, _, result⟩ := attempted
    rw [result] at parks
    cases tried with
    | moved | handedOff | tookOffer => contradiction
    | awaiting stuck wanted nothing =>
      have receiver := (Call.side_of_wants wanted).1
      rw [sender] at receiver
      contradiction
    | offering stuck offered nobody =>
      obtain rfl := Progress.parked.inj parks
      have full := stuck.full (offered ▸ List.cons_ne_nil _ _)
      exact ⟨_, here, rfl, (sound.of_channel? here).unready full nobody⟩
  | broadcast everywhere tried =>
    cases tried with
    | sent | noChannel => contradiction
    | stalled here unready settled still billed =>
      obtain rfl := Progress.parked.inj parks
      exact ⟨_, here, rfl, unready⟩

end Bus

namespace Session

/-- A call parks at a move: at its first poll, or at a later one that finds its wait dequeued. -/
inductive Parks (session : Session α) : Move α → Suspended α → Prop where
  /-- The call is started. -/
  | started {call : Call α} {waker : TaskId} {suspended : Suspended α}
    (parks : (session.bus.start call waker).result = .parked suspended) :
    Parks session (.start call waker) suspended
  /-- The call was woken and is tried again. -/
  | retried {id : Nat} {waker : TaskId} {former suspended : Suspended α}
    (waits : session.waiting? id = some former)
    (dequeued : (session.bus.ticketQueue former.ticket).holds former.ticket.key = false)
    (parks : (session.bus.resume former waker).result = .parked suspended) :
    Parks session (.poll id waker) suspended

variable [Stored α] {session : Session α}

/-- A sender or a broadcaster that parks finds the channel not ready, a broadcaster finds all lower
ones ready, and the move changes nothing about that. -/
theorem Lawful.unready_of_parks (lawful : session.Lawful) {move : Move α}
    {suspended : Suspended α} (parks : session.Parks move suspended)
    (sender : suspended.call.side = .senders) :
    session.bus.SameButSenders (session.step move).bus ∧
      session.bus.Unready suspended.ticket ∧
      (suspended.call.handle? = none → session.bus.ReadyBelow suspended.ticket.handle) := by
  have sound := lawful.housed.sound
  cases parks with
  | @started call waker suspended parks =>
    have acts := session.bus.acts_start call waker
    rw [parks] at acts
    have same : suspended.call = call := ((acts.tries sound).parked suspended rfl).2.1
    rw [same] at sender ⊢
    refine ⟨acts.sameButSenders sender, acts.unready sound sender, fun everywhere => ?_⟩
    obtain ⟨value, rfl⟩ := Call.eq_broadcast everywhere
    cases enabled : session.bus.config.enables (.broadcast value) with
    | false =>
      rw [Bus.start_of_disabled enabled] at parks
      contradiction
    | true =>
      rw [Bus.start_broadcast enabled] at parks
      exact Bus.stalls_at_lowest (Bus.stall?_of_parked parks)
  | @retried id waker former suspended waits dequeued parks =>
    have houses := lawful.housed.houses id former waits
    have left : (session.step (.poll id waker)).bus = (session.bus.resume former waker).bus := by
      simp [bus_step, act, waits, Outcome.map]
    have effect := effect_poll lawful waits waker
    rw [parks] at effect
    generalize stands : some (Progress.parked suspended).status = result at effect
    generalize (session.bus.resume former waker).bus = after at effect
    cases effect with
    | idle => contradiction
    | refreshed waitsToo queued =>
      obtain rfl := Option.some.inj (waits.symm.trans waitsToo)
      rw [dequeued] at queued
      contradiction
    | settled => simp [Progress.status] at stands
    | @retried _ _ _ parcel progress _ waitsToo _ held unsettled acts =>
      obtain rfl := Option.some.inj (waits.symm.trans waitsToo)
      cases progress with
      | finished reply => simp [Progress.status] at stands
      | parked again =>
        obtain rfl := Status.waiting.inj (Option.some.inj stands)
        have clears := houses.clears_forget sound dequeued
        have same : suspended.call = former.call := ((acts.tries clears.sound).parked _ rfl).2.1
        rw [same] at sender ⊢
        obtain ⟨senders, lowest⟩ := houses.repark sound dequeued parks sender
        have forgets := session.bus.sameButSenders_setTicketQueue (houses.side.trans sender)
          ((session.bus.ticketQueue former.ticket).forget former.ticket.key)
        refine ⟨left ▸ senders, ?_, fun everywhere => Bus.stalls_at_lowest (lowest everywhere)⟩
        exact (acts.unready clears.sound sender).mono (Eq.symm forgets)

/-- What `Channel.canAccept` and `Channel.isFull` say of an open channel is what sends do: a send
that is started completes at once exactly if the channel is ready, which is if the channel takes the
value, and a request to send succeeds exactly if the channel is not full. Whenever a sender or a
broadcaster parks, its channel is not ready, before and after; for a broadcaster it is the lowest
such channel. -/
theorem readiness_agrees (config : Config) (moves : List (Move α)) :
    let session := (new config : Session α).run moves
    (∀ handle channel, session.bus.channel? handle = some channel → ∀ value,
      (∀ waker, channel.canAccept = true ↔
        session.reply? (.start (.send handle value) waker) = some (.sent (.ok ()))) ∧
      (channel.canAccept = true ↔
        ((channel.tryPush value).isSome || (channel.handOff value).isSome) = true) ∧
      (channel.isFull = false ↔
        session.reply? (.request (.trySend handle value)) = some (.sent (.ok ())))) ∧
    ∀ move suspended, session.Parks move suspended → suspended.call.side = .senders →
      (session.bus.Unready suspended.ticket ∧
        (session.step move).bus.Unready suspended.ticket) ∧
      ∀ value, suspended.call = .broadcast value →
        session.bus.ReadyBelow suspended.ticket.handle ∧
          (session.step move).bus.ReadyBelow suspended.ticket.handle := by
  intro session
  have lawful : session.Lawful := (lawful_new config).run moves
  have sound := lawful.housed.sound
  refine ⟨fun handle channel here value => ⟨fun waker => ?_, ?_, ?_⟩,
    fun move suspended parks sender => ?_⟩
  · rw [← sound.start_send_iff here value waker, reply?, act, Outcome.map, Option.bind_some]
    cases (session.bus.start (.send handle value) waker).result with
    | finished reply => simp [Progress.status, Status.reply?]
    | parked suspended => simp [Progress.status, Status.reply?]
  · exact (sound.of_channel? here).canAccept_iff_takes value
  · rw [← Bus.trySend_ok_iff here value, reply?, act, Bus.perform, Outcome.map, Outcome.map]
    simp [Except.toOption, Answer.status?, Status.reply?]
  · obtain ⟨same, unready, lowest⟩ := lawful.unready_of_parks parks sender
    refine ⟨⟨unready, unready.mono same⟩, fun value everywhere => ?_⟩
    have below := lowest (by rw [everywhere]; rfl)
    exact ⟨below, below.mono same⟩

/-- The first channel is a rendezvous with a waiting receiver, the second is full and the third is a
rendezvous with nobody waiting. A broadcaster waits on the second one; it was woken, but the room is
gone again. -/
def outrunMoves : List (Move UInt32) :=
  [.request (.openChannel 0), .start (.receive ⟨0⟩) 1, .request (.openChannel 1),
    .request (.trySend ⟨1⟩ 5), .request (.openChannel 0), .start (.broadcast 9) 2,
    .request (.tryReceive ⟨1⟩), .request (.trySend ⟨1⟩ 6)]

/-- The broadcaster parks again on the second channel, since the first one is ready: a send there
completes at once, although a request to send is refused. -/
theorem readiness_agrees_of_outrun :
    let session := (new {} : Session UInt32).run outrunMoves
    let again : Suspended UInt32 := ⟨.broadcast 9, ⟨⟨1⟩, 1, .senders, 1⟩⟩
    session.Parks (.poll 1 2) again ∧ session.bus.Unready again.ticket ∧
      session.bus.ReadyBelow again.ticket.handle ∧
      session.reply? (.start (.send ⟨0⟩ 7) 3) = some (.sent (.ok ())) ∧
      session.reply? (.request (.trySend ⟨0⟩ 7)) ≠ some (.sent (.ok ())) := by
  intro session again
  obtain ⟨sends, stalls⟩ := readiness_agrees (α := UInt32) {} outrunMoves
  have parks : session.Parks (.poll 1 2) again := .retried rfl rfl rfl
  obtain ⟨⟨unready, _⟩, lowest⟩ := stalls (.poll 1 2) again parks rfl
  obtain ⟨completes, _, room⟩ := sends ⟨0⟩ _ rfl 7
  refine ⟨parks, unready, (lowest 9 rfl).1, (completes 3).mp rfl, fun sent => ?_⟩
  exact absurd (room.mpr sent) (by decide)

end Session

end ChannelBus
