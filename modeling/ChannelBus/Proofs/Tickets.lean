import ChannelBus.Proofs.Board

/-!
# Polling and dropping a parked call

A poll or a drop of a parked call touches nothing but the queue that its ticket names. A poll of a
queued wait gives it a new waker; otherwise the wait and its parcel go away, and a drop may wake the
next in line. `Bus.Clears` is what the latter two do to a bus: one parcel goes off the board.
-/

namespace ChannelBus

variable {α : Type}

namespace Bus

/-- Between two states of a bus the parcel at one address went away. -/
structure Clears (bus after : Bus α) (address : Address) : Prop where
  /-- The registry is sound. -/
  sound : after.Sound
  /-- The same channels are open under the same handles. -/
  generations : ∀ handle, (after.channel? handle).map (·.generation) =
    (bus.channel? handle).map (·.generation)
  /-- Every generation has the capacity that it had. -/
  capacities : ∀ generation, (after.identity? generation).map (·.capacity) =
    (bus.identity? generation).map (·.capacity)
  /-- No generation was given out. -/
  nextGeneration : after.nextGeneration = bus.nextGeneration
  /-- The other parcels are the same. -/
  parcel? : ∀ other, after.parcel? other = if other = address then none else bus.parcel? other

section Ticketed

variable {bus : Bus α} {suspended : Suspended α}

/-- The ticket of a parked call leads to a channel. -/
theorem Houses.ticketed (houses : bus.Houses suspended) (sound : bus.Sound) :
    ∃ channel, bus.ticketed? suspended.ticket = some channel ∧
      bus.identity? suspended.ticket.generation = some channel ∧ channel.Sound ∧
      bus.ticketQueue suspended.ticket = channel.queue suspended.ticket.side := by
  obtain ⟨parcel, held, _⟩ := houses.parcel
  obtain ⟨channel, named, _⟩ := Option.bind_eq_some_iff.mp held
  have found : bus.ticketed? suspended.ticket = some channel :=
    (sound.ticketed?_eq houses.homes).trans named
  have member := (sound.identity?_eq_some_iff.mp named).1
  refine ⟨channel, found, named, sound.channels channel member, ?_⟩
  simp [ticketQueue, found]

/-- The parcel of a parked call lies in the queue that its ticket names. -/
theorem Houses.parcel?_ticketQueue (houses : bus.Houses suspended) (sound : bus.Sound) :
    (bus.ticketQueue suspended.ticket).parcel? suspended.ticket.key =
      bus.parcel? suspended.ticket.address := by
  obtain ⟨channel, _, named, _, queue⟩ := houses.ticketed sound
  rw [queue, Bus.parcel?]
  show _ = (bus.identity? suspended.ticket.generation).bind _
  rw [named]
  rfl

/-- No value has gone through the parcel of a wait that is still queued. -/
theorem Houses.unsettled_of_queued (houses : bus.Houses suspended) (sound : bus.Sound)
    (queued : (bus.ticketQueue suspended.ticket).holds suspended.ticket.key = true)
    {parcel : Parcel α} (held : bus.parcel? suspended.ticket.address = some parcel) :
    parcel.isSettled = false := by
  obtain ⟨channel, _, _, channelSound, queueHere⟩ := houses.ticketed sound
  rw [← houses.parcel?_ticketQueue sound, queueHere] at held
  rw [queueHere, WaitQueue.holds_iff] at queued
  obtain ⟨wait, member, key⟩ := queued
  have orderly := channelSound.orderly suspended.ticket.side
  rw [← key, orderly.keyed.parcel?_of_mem (List.mem_append_left _ member)] at held
  obtain rfl := Option.some.inj held
  exact Side.isSettled_of_mayQueue (orderly.queued wait member)

/-- Replacing the queue of a parked call keeps a registry sound. -/
theorem Houses.setTicketQueue (houses : bus.Houses suspended) (sound : bus.Sound)
    {queue : WaitQueue α}
    (orderly : ∀ side rendezvous, (bus.ticketQueue suspended.ticket).Orderly side rendezvous →
      queue.Orderly side rendezvous)
    (empty : (bus.ticketQueue suspended.ticket).waiting = [] → queue.waiting = []) :
    (bus.setTicketQueue suspended.ticket queue).Sound ∧
    (∀ handle, ((bus.setTicketQueue suspended.ticket queue).channel? handle).map (·.generation) =
      (bus.channel? handle).map (·.generation)) ∧
    (∀ address, (bus.setTicketQueue suspended.ticket queue).parcel? address =
      if address.generation = suspended.ticket.generation ∧ address.side = suspended.ticket.side
      then queue.parcel? address.key else bus.parcel? address) := by
  obtain ⟨channel, found, named, channelSound, queueHere⟩ := houses.ticketed sound
  have same := (sound.identity?_eq_some_iff.mp named).2
  have replaces := sound.replaces_setTicketQueue found queue
  have newSound : (channel.setQueue suspended.ticket.side queue).Sound := by
    refine channelSound.setQueue (orderly _ _ ?_)
    rw [queueHere]
    exact channelSound.orderly _
  refine ⟨replaces.sound sound newSound (sound.drained_setTicketQueue ?_), fun handle => ?_,
    fun address => ?_⟩
  · intro other found' nobody
    obtain rfl : channel = other := Option.some.inj (found.symm.trans found')
    exact empty (queueHere ▸ nobody)
  · rw [channel?_setTicketQueue houses.homes, Option.map_map]
    congr 1
    funext other
    simp only [Function.comp_apply]
    split
    · exact Channel.generation_setQueue _ _ _
    · rfl
  · rw [replaces.parcel? sound, same, Channel.parcel?_setQueue]
    by_cases generation : address.generation = suspended.ticket.generation
    · by_cases side : address.side = suspended.ticket.side
      · simp [generation, side]
      · simp [generation, side, Bus.parcel?, named]
    · simp [generation]

/-- Every generation keeps its capacity when the queue of a parked call is replaced. -/
theorem Houses.capacities (houses : bus.Houses suspended) (sound : bus.Sound)
    (queue : WaitQueue α) (generation : Nat) :
    ((bus.setTicketQueue suspended.ticket queue).identity? generation).map (·.capacity) =
      (bus.identity? generation).map (·.capacity) := by
  obtain ⟨channel, found, named, _, _⟩ := houses.ticketed sound
  have same := (sound.identity?_eq_some_iff.mp named).2
  rw [(sound.replaces_setTicketQueue found queue).identity? sound, same]
  split
  case isTrue equal =>
    rw [equal, named]
    exact congrArg some (Channel.capacity_setQueue _ _ _)
  case isFalse => rfl

/-- No generation is given out when the queue of a ticket is replaced. -/
@[simp] theorem nextGeneration_setTicketQueue (bus : Bus α) (ticket : Ticket)
    (queue : WaitQueue α) :
    (bus.setTicketQueue ticket queue).nextGeneration = bus.nextGeneration := by
  unfold setTicketQueue
  split <;> rfl

/-- Taking the wait of a parked call out of its queue clears its parcel. -/
theorem Houses.clears (houses : bus.Houses suspended) (sound : bus.Sound) {queue : WaitQueue α}
    (orderly : ∀ side rendezvous, (bus.ticketQueue suspended.ticket).Orderly side rendezvous →
      queue.Orderly side rendezvous)
    (empty : (bus.ticketQueue suspended.ticket).waiting = [] → queue.waiting = [])
    (board : ∀ key, queue.parcel? key = if key = suspended.ticket.key then none
      else (bus.ticketQueue suspended.ticket).parcel? key) :
    bus.Clears (bus.setTicketQueue suspended.ticket queue) suspended.ticket.address := by
  obtain ⟨channel, _, named, _, queueHere⟩ := houses.ticketed sound
  obtain ⟨afterSound, generations, parcels⟩ := houses.setTicketQueue sound orderly empty
  refine ⟨afterSound, generations, houses.capacities sound queue,
    nextGeneration_setTicketQueue _ _ _, fun address => ?_⟩
  obtain ⟨generation, side, key⟩ := address
  rw [parcels, board, queueHere]
  by_cases inQueue : generation = suspended.ticket.generation ∧ side = suspended.ticket.side
  · obtain ⟨rfl, rfl⟩ := inQueue
    by_cases same : key = suspended.ticket.key
    · simp [same, Ticket.address]
    · simp [same, Ticket.address, Bus.parcel?, named, Channel.parcel?]
  · rw [if_neg inQueue, if_neg]
    intro same
    exact inQueue (by simpa [Ticket.address] using
      (And.intro (congrArg Address.generation same) (congrArg Address.side same)))

/-- Resuming a parked call whose wait was dequeued clears its parcel. -/
theorem Houses.clears_forget (houses : bus.Houses suspended) (sound : bus.Sound)
    (dequeued : (bus.ticketQueue suspended.ticket).holds suspended.ticket.key = false) :
    bus.Clears (bus.setTicketQueue suspended.ticket
      ((bus.ticketQueue suspended.ticket).forget suspended.ticket.key))
        suspended.ticket.address :=
  houses.clears sound (fun _ _ orderly => orderly.forget _) id
    (WaitQueue.parcel?_forget dequeued)

/-- Dropping a parked call clears its parcel. -/
theorem Houses.clears_leave (houses : bus.Houses suspended) (sound : bus.Sound) :
    bus.Clears (bus.setTicketQueue suspended.ticket
      ((bus.ticketQueue suspended.ticket).leave suspended.ticket.key))
        suspended.ticket.address := by
  obtain ⟨channel, _, _, channelSound, queueHere⟩ := houses.ticketed sound
  refine houses.clears sound (fun _ _ orderly => orderly.leave _) (fun nobody => ?_) ?_
  · have fewer := (bus.ticketQueue suspended.ticket).length_leave_le suspended.ticket.key
    simpa [WaitQueue.length, nobody] using fewer
  · rw [queueHere]
    exact (channelSound.orderly suspended.ticket.side).keyed.parcel?_leave _

/-- A new waker for a queued wait changes neither the identities of the channels nor the board. -/
theorem Houses.refresh (houses : bus.Houses suspended) (sound : bus.Sound) (waker : TaskId) :
    let after := bus.setTicketQueue suspended.ticket
      ((bus.ticketQueue suspended.ticket).refresh suspended.ticket.key waker)
    after.Sound ∧ (∀ handle, (after.channel? handle).map (·.generation) =
        (bus.channel? handle).map (·.generation)) ∧
      ∀ address, after.parcel? address = bus.parcel? address := by
  obtain ⟨channel, _, named, _, queueHere⟩ := houses.ticketed sound
  obtain ⟨afterSound, generations, parcels⟩ := houses.setTicketQueue sound
    (fun _ _ orderly => orderly.refresh suspended.ticket.key waker)
    (fun nobody => by simp [WaitQueue.refresh, nobody])
  refine ⟨afterSound, generations, fun address => ?_⟩
  obtain ⟨generation, side, key⟩ := address
  rw [parcels, WaitQueue.parcel?_refresh, queueHere]
  split
  case isTrue inQueue =>
    obtain ⟨rfl, rfl⟩ := inQueue
    simp [Bus.parcel?, named, Channel.parcel?]
  case isFalse => rfl

end Ticketed

end Bus

end ChannelBus
