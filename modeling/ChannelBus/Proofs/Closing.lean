import ChannelBus.Proofs.Pairing

/-!
# A closed channel is never touched again

Handles are given out again, generations are not. A call that waits on a channel when it is closed
is dequeued, and from then on its parcel lies on a closed channel that no other call can reach,
whatever is opened under the handle. So the next poll ends the call, by what lies in the parcel, and
touches no open channel.
-/

namespace ChannelBus

variable {α : Type}

namespace Bus

/-- Between two states of a bus the parcel at one address was forgotten and the counters changed.
Closed channels hold nothing but parcels. -/
structure Forgets (bus after : Bus α) (address : Address) (stats : Stats) : Prop where
  /-- Everything but the closed channels and the counters is the same. -/
  same : after = { bus with retired := after.retired, stats }
  /-- The other parcels are the same. -/
  parcel? : ∀ other, other ≠ address → after.parcel? other = bus.parcel? other
  /-- No closed channel buffers a value or queues a wait, before or after. -/
  drained : ∀ channel, channel ∈ bus.retired ∨ channel ∈ after.retired → channel.Drained

/-- Counting while a parcel is forgotten. -/
theorem Forgets.note {bus after : Bus α} {address : Address}
    (forgets : bus.Forgets after address bus.stats) (update : Stats → Stats) :
    bus.Forgets (after.note update) address
      (if bus.config.telemetry then update bus.stats else bus.stats) := by
  refine ⟨?_, fun other apart => ?_, fun channel member => ?_⟩
  · rw [retired_note, forgets.same, Bus.note]
    split <;> rfl
  · rw [parcel?_note, forgets.parcel? other apart]
  · rw [retired_note] at member
    exact forgets.drained channel member

section Closed

variable {bus : Bus α} {suspended : Suspended α}

/-- No ticket is pinned to an open channel of a generation that is not open. -/
theorem pinned?_of_closed {handle : Handle} {generation : Nat}
    (closed : bus.isOpenAs generation = false) : bus.pinned? handle generation = none := by
  refine Option.eq_none_iff_forall_not_mem.mpr fun channel pinned => ?_
  obtain ⟨here, same⟩ := pinned?_eq_some_iff.mp pinned
  exact generation_ne_of_closed closed here same

/-- A call on a closed channel has left the queue. -/
theorem Houses.dequeued_of_closed (houses : bus.Houses suspended) (sound : bus.Sound)
    (closed : bus.isOpenAs suspended.ticket.generation = false) :
    (bus.ticketQueue suspended.ticket).holds suspended.ticket.key = false := by
  obtain ⟨channel, _, named, _, queueHere⟩ := houses.ticketed sound
  obtain ⟨member, same⟩ := sound.identity?_eq_some_iff.mp named
  rcases mem_known.mp member with ⟨handle, here⟩ | retired
  · exact absurd same (generation_ne_of_closed closed here)
  · have nobody := (sound.drained channel retired).waiting suspended.ticket.side
    rw [queueHere, WaitQueue.holds, nobody]
    rfl

/-- Resuming a call on a closed channel only forgets its parcel. -/
theorem Houses.forgets (houses : bus.Houses suspended) (sound : bus.Sound)
    (closed : bus.isOpenAs suspended.ticket.generation = false) :
    bus.Forgets (bus.setTicketQueue suspended.ticket
      ((bus.ticketQueue suspended.ticket).forget suspended.ticket.key))
        suspended.ticket.address bus.stats := by
  have clears := houses.clears_forget sound (houses.dequeued_of_closed sound closed)
  refine ⟨?_, fun other apart => ?_, fun channel member => ?_⟩
  · rw [Bus.setTicketQueue, pinned?_of_closed closed]
  · rw [clears.parcel?, if_neg apart]
  · rcases member with before | now
    · exact sound.drained channel before
    · exact clears.sound.drained channel now

end Closed

end Bus

namespace Session

variable {session : Session α}

/-- No effect of a move about another call touches the parcel of a call on a closed channel. -/
theorem Effect.parcel?_of_closed {move : Move α} {result : Option (Status α)} {after : Bus α}
    (effect : session.Effect move result after) (lawful : session.Lawful) {id : Nat}
    {suspended : Suspended α} (waits : session.waiting? id = some suspended)
    (apart : move.target? ≠ some id)
    (closed : session.bus.isOpenAs suspended.ticket.generation = false) :
    after.parcel? suspended.ticket.address = session.bus.parcel? suspended.ticket.address := by
  have sound := lawful.housed.sound
  have other : ∀ caller, move.target? = some caller → session.others caller id = some suspended :=
    fun caller targets => others_eq_some_iff.mpr ⟨fun same => apart (same ▸ targets), waits⟩
  cases effect with
  | idle | skipped => rfl
  | opened opens => exact opens.parcel? sound _
  | shut shuts => exact shuts.parcel? sound _
  | refused asked error => exact Bus.parcel?_note _ _ _
  | moved asked named here moves becomes => exact (becomes.tries_of_moves moves sound here).2 _
  | spread spare =>
    refine sound.quiet_giveAll (fun handle channel here => ?_) _ fun meeting =>
      absurd (meeting.1.symm.trans closed) (by decide)
    simp [Channel.canAccept, spare handle channel here]
  | started acts =>
    exact lawful.housed.kept (acts.tries sound) waits ((acts.passed sound).quiet_of_closed closed)
  | @refreshed caller waker another waitsToo queued =>
    exact ((lawful.housed.houses caller another waitsToo).refresh sound waker).2.2 _
  | @settled caller waker another parcel reply waitsToo dequeued held happened =>
    have clears := (lawful.housed.houses caller another waitsToo).clears_forget sound dequeued
    exact lawful.parcel?_of_clears waitsToo clears (other caller rfl)
  | @retried caller waker another parcel progress _ waitsToo dequeued held unsettled acts =>
    have clears := (lawful.housed.houses caller another waitsToo).clears_forget sound dequeued
    have resumed : Bus.Housed _ (session.others caller) := lawful.housed.clears waitsToo clears
    have still := (Bus.isOpenAs_of_generations clears.generations _).trans closed
    rw [resumed.kept (acts.tries clears.sound) (other caller rfl)
      ((acts.passed clears.sound).quiet_of_closed still)]
    exact lawful.parcel?_of_clears waitsToo clears (other caller rfl)
  | @dropped caller another waitsToo =>
    have clears := (lawful.housed.houses caller another waitsToo).clears_leave sound
    exact lawful.parcel?_of_clears waitsToo clears (other caller rfl)

/-- A call waits on a closed channel, with this in its parcel. -/
structure Stranded (session : Session α) (id : Nat) (suspended : Suspended α)
    (parcel : Parcel α) : Prop where
  /-- The session is lawful. -/
  lawful : session.Lawful
  /-- The call waits. -/
  waits : session.waiting? id = some suspended
  /-- Its channel is closed. -/
  spent : session.bus.Spent suspended.ticket.generation
  /-- Its parcel is still there. -/
  held : session.bus.parcel? suspended.ticket.address = some parcel

section Stranding

variable {id : Nat} {suspended : Suspended α} {parcel : Parcel α}

/-- The next poll of a call on a closed channel takes its parcel away, and goes on with that. -/
theorem Stranded.resumed (stranded : session.Stranded id suspended parcel) (waker : TaskId) :
    session.bus.Houses suspended ∧ suspended.call.Finds parcel ∧
      (session.bus.ticketQueue suspended.ticket).holds suspended.ticket.key = false ∧
      session.bus.resume suspended waker =
        (session.bus.setTicketQueue suspended.ticket ((session.bus.ticketQueue
          suspended.ticket).forget suspended.ticket.key)).wakeUp suspended parcel waker := by
  obtain ⟨lawful, waits, spent, held⟩ := stranded
  have sound := lawful.housed.sound
  have houses := lawful.housed.houses id suspended waits
  obtain ⟨found, heldToo, finds⟩ := houses.parcel
  obtain rfl : parcel = found := Option.some.inj (held.symm.trans heldToo)
  have lies := (houses.parcel?_ticketQueue sound).trans held
  have dequeued := houses.dequeued_of_closed sound spent.2
  exact ⟨houses, finds, dequeued, Bus.resume_of_dequeued dequeued lies waker⟩

variable [Stored α]

/-- Nothing happens to a call on a closed channel by a move that is not about it. -/
theorem Stranded.step (stranded : session.Stranded id suspended parcel) {move : Move α}
    (apart : move.target? ≠ some id) : (session.step move).Stranded id suspended parcel := by
  obtain ⟨lawful, waits, spent, held⟩ := stranded
  have kept := (effect lawful move).parcel?_of_closed lawful waits apart spent.2
  exact ⟨lawful.step move, waiting?_step waits apart, (lawful.evolves move).spent spent,
    kept.trans held⟩

/-- Nothing happens to a call on a closed channel by any number of such moves. -/
theorem Stranded.run (stranded : session.Stranded id suspended parcel) {moves : List (Move α)}
    (apart : ∀ move ∈ moves, move.target? ≠ some id) :
    (session.run moves).Stranded id suspended parcel := by
  induction moves generalizing session with
  | nil => exact stranded
  | cons move rest ih =>
    exact ih (stranded.step (apart move List.mem_cons_self)) fun later member =>
      apart later (List.mem_cons_of_mem _ member)

/-- A call that waits on a channel is stranded when the channel is closed or the bus is deleted. -/
theorem Lawful.strand (lawful : session.Lawful) (waits : session.waiting? id = some suspended)
    (held : session.bus.parcel? suspended.ticket.address = some parcel) {handle : Handle}
    {channel : Channel α} (here : session.bus.channel? handle = some channel)
    (same : channel.generation = suspended.ticket.generation) {request : Request α}
    (closing : request = .close handle ∨ request = .delete) :
    (session.step (.request request)).Stranded id suspended parcel := by
  have sound := lawful.housed.sound
  have shuts : ∃ handles, handle ∈ handles ∧
      session.bus.Shuts (session.step (.request request)).bus handles := by
    rcases closing with rfl | rfl
    · exact ⟨_, List.mem_singleton_self _, sound.shuts_close handle⟩
    · have within := (List.getElem?_eq_some_iff.mp (Bus.channel?_eq_some_iff.mp here)).1
      exact ⟨_, List.mem_map.mpr ⟨handle.id, List.mem_range.mpr within, rfl⟩, sound.shuts_delete⟩
  obtain ⟨handles, inside, shuts⟩ := shuts
  refine ⟨lawful.step _, waiting?_step waits nofun, ?_, ?_⟩
  · exact same ▸ shuts.spent sound inside here
  · exact (shuts.parcel? sound _).trans held

/-- The next poll of a call that was settled before its channel was closed only tells so. -/
theorem Stranded.poll_settled (stranded : session.Stranded id suspended parcel) {reply : Reply α}
    (happened : suspended.call.settledReply parcel = some reply) (waker : TaskId) :
    session.reply? (.poll id waker) = some reply ∧
      session.bus.Forgets (session.step (.poll id waker)).bus suspended.ticket.address
        session.bus.stats ∧
      (session.step (.poll id waker)).lastError = session.lastError ∧
      (session.act (.poll id waker)).notices = [] := by
  obtain ⟨houses, finds, _, resumed⟩ := stranded.resumed waker
  obtain ⟨lawful, waits, spent, _⟩ := stranded
  have sound := lawful.housed.sound
  rw [Bus.wakeUp_of_settled finds happened] at resumed
  have acted : session.act (.poll id waker) =
      (session.bus.setTicketQueue suspended.ticket ((session.bus.ticketQueue
        suspended.ticket).forget suspended.ticket.key)).unchanged (some (.ended reply)) := by
    simp only [act, waits, resumed]
    rfl
  refine ⟨?_, ?_, ?_, ?_⟩
  · rw [reply?, acted]
    rfl
  · rw [bus_step, acted]
    exact houses.forgets sound spent.2
  · rw [lastError_poll, acted]
    rfl
  · rw [acted]
    rfl

/-- The next poll of another call on a closed channel fails, and does nothing besides. -/
theorem Stranded.poll_unsettled (stranded : session.Stranded id suspended parcel)
    (unsettled : parcel.isSettled = false) {handle : Handle}
    (named : suspended.call.handle? = some handle) (waker : TaskId) :
    session.reply? (.poll id waker) = some (suspended.call.failed .noChannel) ∧
      session.bus.Forgets (session.step (.poll id waker)).bus suspended.ticket.address
        (if session.bus.config.telemetry then session.bus.stats.countError .noChannel
          else session.bus.stats) ∧
      (session.step (.poll id waker)).lastError = .noChannel ∧
      (session.act (.poll id waker)).notices.filterMap Notice.wakes? = [] := by
  obtain ⟨houses, finds, dequeued, resumed⟩ := stranded.resumed waker
  obtain ⟨lawful, waits, spent, _⟩ := stranded
  have sound := lawful.housed.sound
  have clears := houses.clears_forget sound dequeued
  have still := (Bus.isOpenAs_of_generations clears.generations _).trans spent.2
  obtain ⟨notices, woken, silent, _⟩ := Bus.wakeUp_of_unsettled finds unsettled named waker
  rw [woken, Bus.attempt_gone (Bus.pinned?_of_closed still) named] at resumed
  have acted : session.act (.poll id waker) =
      ((session.bus.setTicketQueue suspended.ticket ((session.bus.ticketQueue
        suspended.ticket).forget suspended.ticket.key)).failing .noChannel
          (some (.ended (suspended.call.failed .noChannel)))).after notices := by
    simp only [act, waits, resumed]
    rfl
  refine ⟨?_, ?_, ?_, ?_⟩
  · rw [reply?, acted]
    rfl
  · rw [bus_step, acted]
    exact (houses.forgets sound spent.2).note (·.countError .noChannel)
  · rw [lastError_poll, acted]
    simp [ErrorCode.afterHearing, Outcome.after, Bus.failing, Notice.raises?, BusError.code]
  · rw [acted]
    simp [Outcome.after, Bus.failing, silent, Notice.wakes?]

/-- A closed identity is never touched again. Open channels have generations of their own, and none
that is still to be given out. A call that waits on a channel when it is closed has left the queue
and stays as it is, whatever happens to other calls and under its handle, until its next poll ends
it: with what its parcel held when the channel was closed, or with an error, and without any other
effect than raising that error and counting it once among those of its kind. -/
theorem closed_for_good (config : Config) (moves : List (Move α)) :
    let session : Session α := (new config).run moves
    (∀ handle channel, session.bus.channel? handle = some channel →
      channel.generation < session.bus.nextGeneration ∧
      ∀ other another, session.bus.channel? other = some another →
        another.generation = channel.generation → other = handle) ∧
    (∀ id suspended handle channel request, session.waiting? id = some suspended →
      suspended.call.handle? = some handle → session.bus.channel? handle = some channel →
      channel.generation = suspended.ticket.generation →
      (request = .close handle ∨ request = .delete) → ∃ parcel,
        session.bus.parcel? suspended.ticket.address = some parcel ∧
        ∀ later, (∀ move ∈ later, move.target? ≠ some id) →
          let last := (session.step (.request request)).run later
          last.waiting? id = some suspended ∧
          (last.bus.ticketQueue suspended.ticket).holds suspended.ticket.key = false ∧
          ∀ waker,
            let polled := last.step (.poll id waker)
            let notices := (last.act (.poll id waker)).notices
            (∀ reply, suspended.call.settledReply parcel = some reply →
              reply.error? = none ∧ last.reply? (.poll id waker) = some reply ∧
              last.bus.Forgets polled.bus suspended.ticket.address last.bus.stats ∧
              polled.lastError = last.lastError ∧ notices = []) ∧
            (suspended.call.settledReply parcel = none →
              last.reply? (.poll id waker) = some (suspended.call.failed .noChannel) ∧
              last.bus.Forgets polled.bus suspended.ticket.address
                (if last.bus.config.telemetry then
                  { last.bus.stats with noChannel := last.bus.stats.noChannel + 1 }
                else last.bus.stats) ∧
              polled.lastError = .noChannel ∧ notices.filterMap Notice.wakes? = [])) := by
  intro session
  have lawful : session.Lawful := (lawful_new config).run moves
  have sound := lawful.housed.sound
  refine ⟨fun handle channel here => ⟨sound.generation_lt here, fun other another there same =>
    sound.handle_unique there here same⟩, ?_⟩
  intro id suspended handle channel request waits named here same closing
  obtain ⟨parcel, held, _⟩ := (lawful.housed.houses id suspended waits).parcel
  refine ⟨parcel, held, fun later apart => ?_⟩
  have stranded := (lawful.strand waits held here same closing).run apart
  have houses := stranded.lawful.housed.houses id suspended stranded.waits
  refine ⟨stranded.waits, houses.dequeued_of_closed stranded.lawful.housed.sound stranded.spent.2,
    fun waker => ⟨fun reply happened => ⟨?_, stranded.poll_settled happened waker⟩,
      fun undecided => stranded.poll_unsettled ?_ named waker⟩⟩
  · exact Call.error?_of_settledReply happened
  · cases parcel with
    | empty | offered => rfl
    | delivered | taken => contradiction

end Stranding

/-- A sender waits on a full channel. -/
def parkedMoves : List (Move UInt32) :=
  [.request (.openChannel 1), .request (.trySend ⟨0⟩ 5), .start (.send ⟨0⟩ 6) 1]

/-- Channels come and go under the handle. -/
def recycledMoves : List (Move UInt32) :=
  [.request (.openChannel 1), .request (.trySend ⟨0⟩ 9), .request (.close ⟨0⟩),
    .request (.openChannel 2), .request (.trySend ⟨0⟩ 8)]

/-- The sender finds its channel closed, and the one open under the handle by then keeps what
it holds. -/
theorem closed_for_good_of_recycled :
    let session : Session UInt32 := (new {}).run parkedMoves
    let last := (session.step (.request (.close ⟨0⟩))).run recycledMoves
    let polled := last.step (.poll 0 2)
    (session.waiting? 0).isSome = true ∧
      (last.bus.channel? ⟨0⟩).map (·.buffer) = some [8] ∧
      last.reply? (.poll 0 2) = some (.sent (.error .noChannel)) ∧
      polled.lastError = .noChannel ∧
      polled.bus.slots = last.bus.slots := by
  obtain ⟨parcel, held, stays⟩ := (closed_for_good (α := UInt32) {} parkedMoves).2 0
    ⟨.send ⟨0⟩ 6, ⟨⟨0⟩, 0, .senders, 0⟩⟩ ⟨0⟩
    ⟨1, 0, [5], ⟨[⟨0, some 1, .offered 6⟩], [], 1⟩, .new⟩ (.close ⟨0⟩) rfl rfl rfl rfl (.inl rfl)
  obtain rfl : Parcel.offered 6 = parcel := Option.some.inj held
  obtain ⟨_, _, ends⟩ := stays recycledMoves (by decide)
  obtain ⟨replied, forgets, raised, _⟩ := (ends 2).2 rfl
  refine ⟨rfl, rfl, replied, raised, ?_⟩
  rw [forgets.same]

end Session

end ChannelBus
