import ChannelBus.Proofs.Broadcasts

/-!
# The board of parcels under every try

A value goes from one task to another through the parcel of the one that waits: an empty parcel is
found delivered, or an offer is found taken. `Bus.passed?` reads that off two states of a bus. A try
of a call, whichever it is, lets values pass through some parcels, puts at most one new parcel on
the board, the one of the wait on which the call parks, and leaves all other parcels alone; that is
`Bus.Tries`.
-/

namespace ChannelBus

variable {α : Type}

/-- The value that went through a parcel, read off what lay there before and after. -/
def Parcel.passed? : Parcel α → Parcel α → Option α
  | .empty, .delivered value | .offered value, .taken => some value
  | _, _ => none

/-- Nothing went through a parcel that is as it was. -/
@[simp] theorem Parcel.passed?_self (parcel : Parcel α) : parcel.passed? parcel = none := by
  cases parcel <;> rfl

/-- A parcel through which a value went was not settled before and is now. -/
theorem Parcel.isSettled_of_passed? {before after : Parcel α} {value : α}
    (passed : before.passed? after = some value) :
    before.isSettled = false ∧ after.isSettled = true := by
  cases before <;> cases after <;> simp_all [Parcel.passed?, Parcel.isSettled]

/-- The parcels of an orderly queue are those that its side may hold. -/
theorem WaitQueue.Orderly.mayWake_of_parcel? {queue : WaitQueue α} {side : Side}
    {rendezvous : Bool} (orderly : queue.Orderly side rendezvous) {key : Nat} {parcel : Parcel α}
    (held : queue.parcel? key = some parcel) : side.mayWake parcel = true := by
  obtain ⟨wait, found, rfl⟩ := Option.map_eq_some_iff.mp held
  rcases List.mem_append.mp (List.mem_of_find?_eq_some found) with queued | woken
  · exact Side.mayWake_of_mayQueue (orderly.queued wait queued)
  · exact orderly.woken wait woken

/-- Only a rendezvous settles parcels. -/
theorem WaitQueue.Orderly.rendezvous_of_parcel? {queue : WaitQueue α} {side : Side}
    {rendezvous : Bool} (orderly : queue.Orderly side rendezvous) {key : Nat} {parcel : Parcel α}
    (held : queue.parcel? key = some parcel) (settled : parcel.isSettled = true) :
    rendezvous = true := by
  obtain ⟨wait, found, rfl⟩ := Option.map_eq_some_iff.mp held
  rcases List.mem_append.mp (List.mem_of_find?_eq_some found) with queued | woken
  · rw [Side.isSettled_of_mayQueue (orderly.queued wait queued)] at settled
    contradiction
  · exact orderly.settled wait woken settled

namespace Channel

/-! ## What a try does to the board of its channel -/

/-- What going through a parcel on one side of a channel does to its board. -/
structure Passes (channel after : Channel α) (side : Side) (key : Nat) (before now : Parcel α) :
    Prop where
  /-- What lay there. -/
  before : channel.parcel? side key = some before
  /-- What lies there now; the other parcels are the same. -/
  after : ∀ other number, after.parcel? other number =
    if other = side ∧ number = key then some now else channel.parcel? other number

/-- A hand-off delivers the value to one waiting receiver. -/
theorem Sound.passes_handOff {channel after : Channel α} (sound : channel.Sound) {value : α}
    {served : Wait α} (handed : channel.handOff value = some (served, after)) :
    ∃ key, channel.Passes after .receivers key .empty (.delivered value) := by
  obtain ⟨_, wait, later, split, empty, _, rfl⟩ := sound.handOff_eq_some handed
  have first : (channel.queue .receivers).waiting = [] ++ wait :: later := split
  have member := WaitQueue.mem_waits_of_split first
  refine ⟨wait.key, ?_, fun side key => sound.parcel?_settle first key⟩
  rw [parcel?, ← empty]
  exact (sound.orderly .receivers).keyed.parcel?_of_mem member

/-- Taking an offer marks the parcel of one waiting sender. -/
theorem Sound.passes_takeOffer {channel after : Channel α} (sound : channel.Sound) {value : α}
    {settled : Wait α} (taken : channel.takeOffer = some (value, settled, after)) :
    ∃ key, channel.Passes after .senders key (.offered value) .taken := by
  obtain ⟨_, wait, before, later, split, offered, _, _, rfl⟩ := Sound.takeOffer_eq_some taken
  have here : (channel.queue .senders).waiting = before ++ wait :: later := split
  have member := WaitQueue.mem_waits_of_split here
  refine ⟨wait.key, ?_, fun side key => sound.parcel?_settle here key⟩
  rw [parcel?, ← offered]
  exact (sound.orderly .senders).keyed.parcel?_of_mem member

/-- A hand-off keeps a channel sound, and its identity. -/
theorem Sound.handOff {channel after : Channel α} (sound : channel.Sound) {value : α}
    {served : Wait α} (handed : channel.handOff value = some (served, after)) :
    after.Sound ∧ after.generation = channel.generation ∧ after.capacity = channel.capacity := by
  obtain ⟨rendezvous, wait, later, split, _, _, rfl⟩ := sound.handOff_eq_some handed
  have first : (channel.queue .receivers).waiting = [] ++ wait :: later := split
  exact ⟨sound.settle rendezvous first rfl, generation_setQueue _ _ _, capacity_setQueue _ _ _⟩

/-- Taking an offer keeps a channel sound, and its identity. -/
theorem Sound.takeOffer {channel after : Channel α} (sound : channel.Sound) {value : α}
    {settled : Wait α} (taken : channel.takeOffer = some (value, settled, after)) :
    after.Sound ∧ after.generation = channel.generation ∧ after.capacity = channel.capacity := by
  obtain ⟨rendezvous, wait, before, later, split, _, _, _, rfl⟩ := Sound.takeOffer_eq_some taken
  have here : (channel.queue .senders).waiting = before ++ wait :: later := split
  exact ⟨sound.settle rendezvous here rfl, generation_setQueue _ _ _, capacity_setQueue _ _ _⟩

/-- Moving values keeps a channel sound, its identity, and its board. -/
theorem Moves.keeps {channel after : Channel α} {call : Call α} {reply : Reply α}
    (moves : channel.Moves call reply after) (sound : channel.Sound) :
    after.Sound ∧ after.generation = channel.generation ∧ after.capacity = channel.capacity ∧
      ∀ side key, after.parcel? side key = channel.parcel? side key := by
  cases moves with
  | sentNothing | tookNothing => exact ⟨sound, rfl, rfl, fun _ _ => rfl⟩
  | accepted => exact ⟨sound.acceptMany _, rfl, rfl, sound.parcel?_acceptMany _⟩
  | released => exact ⟨sound.releaseMany _, rfl, rfl, sound.parcel?_releaseMany _⟩

/-- A try keeps a channel sound, and its identity. -/
theorem Tried.keeps {channel after : Channel α} {waker : TaskId} {call : Call α}
    {reply? : Option (Reply α)} (tried : channel.Tried waker call reply? after)
    (sound : channel.Sound) :
    after.Sound ∧ after.generation = channel.generation ∧ after.capacity = channel.capacity := by
  cases tried with
  | moved moves =>
    obtain ⟨kept, generation, capacity, _⟩ := moves.keeps sound
    exact ⟨kept, generation, capacity⟩
  | handedOff _ _ handed => exact sound.handOff handed
  | tookOffer _ _ taken => exact sound.takeOffer taken
  | offering => exact ⟨sound.park rfl _, generation_park _ _ _ _, capacity_park _ _ _ _⟩
  | awaiting =>
    refine ⟨(sound.wake _ _).park rfl _, ?_, ?_⟩
    · rw [generation_park, generation_wake]
    · rw [capacity_park, capacity_wake]

/-- The parcel that a stuck call leaves when it parks: a sender its first value, a receiver
nothing. -/
theorem Tried.parks {channel after : Channel α} {waker : TaskId} {call : Call α}
    (tried : channel.Tried waker call none after) (sound : channel.Sound) :
    ∃ parcel, call.Finds parcel ∧ parcel.isSettled = false ∧ ∀ side key,
      after.parcel? side key = if side = call.side ∧ key = (channel.queue call.side).nextKey
        then some parcel else channel.parcel? side key := by
  cases tried with
  | @offering value rest stuck offered nobody =>
    have sender := (Call.side_of_offers (offered ▸ List.cons_ne_nil value rest)).1
    refine ⟨.offered value, .offered offered, rfl, fun side key => ?_⟩
    rw [sound.parcel?_park, sender]
  | awaiting stuck wanted nothing =>
    have receiver := (Call.side_of_wants wanted).1
    refine ⟨.empty, .empty wanted, rfl, fun side key => ?_⟩
    rw [(sound.wake _ _).parcel?_park, sound.parcel?_wake, receiver]
    rfl

end Channel

namespace Bus

/-- The value that went through the parcel at an address between two states of a bus. -/
def passed? (bus after : Bus α) (address : Address) : Option α :=
  (bus.parcel? address).bind fun before => (after.parcel? address).bind before.passed?

/-- Nothing went through a parcel that is as it was. -/
theorem passed?_of_same {bus after : Bus α} {address : Address}
    (same : after.parcel? address = bus.parcel? address) : bus.passed? after address = none := by
  rw [passed?, same]
  cases bus.parcel? address with
  | none => rfl
  | some parcel => exact parcel.passed?_self

/-- Nothing went through a parcel that was not there. -/
theorem passed?_of_absent {bus after : Bus α} {address : Address}
    (absent : bus.parcel? address = none) : bus.passed? after address = none := by
  rw [passed?, absent]
  rfl

/-- What lay at an address through which a value went, and what lies there now. -/
theorem passed?_eq_some_iff {bus after : Bus α} {address : Address} {value : α} :
    bus.passed? after address = some value ↔ ∃ before now, bus.parcel? address = some before ∧
      after.parcel? address = some now ∧ before.passed? now = some value := by
  simp [passed?, Option.bind_eq_some_iff]

/-- Every parcel is one that its side may hold. -/
theorem Sound.mayWake_of_parcel? {bus : Bus α} (sound : bus.Sound) {address : Address}
    {parcel : Parcel α} (held : bus.parcel? address = some parcel) :
    address.side.mayWake parcel = true := by
  obtain ⟨channel, named, here⟩ := Option.bind_eq_some_iff.mp held
  have member := (sound.identity?_eq_some_iff.mp named).1
  exact ((sound.channels channel member).orderly address.side).mayWake_of_parcel? here

/-- A settled parcel lies on a rendezvous channel. -/
theorem Sound.rendezvous_of_parcel? {bus : Bus α} (sound : bus.Sound) {address : Address}
    {parcel : Parcel α} (held : bus.parcel? address = some parcel)
    (settled : parcel.isSettled = true) : ∃ channel,
      bus.identity? address.generation = some channel ∧ channel.isRendezvous = true := by
  obtain ⟨channel, named, here⟩ := Option.bind_eq_some_iff.mp held
  have member := (sound.identity?_eq_some_iff.mp named).1
  have orderly := (sound.channels channel member).orderly address.side
  exact ⟨channel, named, orderly.rendezvous_of_parcel? here settled⟩

/-! ## Changing one channel -/

section Becoming

variable {bus after : Bus α} {handle : Handle} {channel new : Channel α}

/-- The open channels after one was replaced. -/
theorem Becomes.channel? (becomes : bus.Becomes after handle new)
    (here : bus.channel? handle = some channel) (other : Handle) :
    after.channel? other = if other = handle then some new else bus.channel? other := by
  obtain ⟨update, rfl⟩ := becomes
  rw [channel?_note, channel?_setChannel here]

/-- Replacing an open channel keeps the next generation. -/
theorem Becomes.nextGeneration (becomes : bus.Becomes after handle new) :
    after.nextGeneration = bus.nextGeneration := by
  obtain ⟨update, rfl⟩ := becomes
  rw [nextGeneration_note]
  rfl

/-- A registry stays sound when an open channel is replaced by a sound one. -/
theorem Becomes.sound (becomes : bus.Becomes after handle new) (sound : bus.Sound)
    (here : bus.channel? handle = some channel) (same : new.generation = channel.generation)
    (newSound : new.Sound) : after.Sound := by
  obtain ⟨update, rfl⟩ := becomes
  rw [sound_note]
  exact sound.setChannel here same newSound

/-- The channel of every generation after an open channel was replaced. -/
theorem Becomes.identity? (becomes : bus.Becomes after handle new) (sound : bus.Sound)
    (here : bus.channel? handle = some channel) (same : new.generation = channel.generation)
    (generation : Nat) : after.identity? generation =
      if generation = channel.generation then some new else bus.identity? generation := by
  obtain ⟨update, rfl⟩ := becomes
  rw [identity?_note, (replaces_setChannel here same).identity? sound]

/-- The capacity of every generation after an open channel was replaced by one of its capacity. -/
theorem Becomes.capacities (becomes : bus.Becomes after handle new) (sound : bus.Sound)
    (here : bus.channel? handle = some channel) (same : new.generation = channel.generation)
    (capacity : new.capacity = channel.capacity) (generation : Nat) :
    (after.identity? generation).map (·.capacity) =
      (bus.identity? generation).map (·.capacity) := by
  rw [becomes.identity? sound here same]
  split
  case isTrue equal =>
    rw [equal, sound.identity?_of_channel? here, Option.map_some, Option.map_some, capacity]
  case isFalse => rfl

/-- The board after an open channel was replaced. -/
theorem Becomes.parcel? (becomes : bus.Becomes after handle new) (sound : bus.Sound)
    (here : bus.channel? handle = some channel) (same : new.generation = channel.generation)
    (address : Address) : after.parcel? address =
      if address.generation = channel.generation then new.parcel? address.side address.key
      else bus.parcel? address := by
  obtain ⟨update, rfl⟩ := becomes
  rw [parcel?_note, sound.parcel?_setChannel here same]

/-- What going through one parcel does to the board of a bus. -/
structure Passes (bus after : Bus α) (address : Address) (before now : Parcel α) : Prop where
  /-- What lay there. -/
  before : bus.parcel? address = some before
  /-- What lies there now; the other parcels are the same. -/
  after : ∀ other, after.parcel? other = if other = address then some now else bus.parcel? other

/-- A value went through the one parcel and through no other. -/
theorem Passes.passed? {address : Address} {first now : Parcel α}
    (passes : bus.Passes after address first now) (other : Address) :
    bus.passed? after other = if other = address then first.passed? now else none := by
  by_cases same : other = address
  · subst same
    simp [Bus.passed?, passes.before, passes.after]
  · rw [if_neg same]
    refine passed?_of_same ?_
    rw [passes.after, if_neg same]

/-- The board after one parcel of an open channel was put down or changed. -/
theorem Becomes.parcel?_at (becomes : bus.Becomes after handle new) (sound : bus.Sound)
    (here : bus.channel? handle = some channel) (same : new.generation = channel.generation)
    {side : Side} {key : Nat} {now : Parcel α}
    (board : ∀ other number, new.parcel? other number =
      if other = side ∧ number = key then some now else channel.parcel? other number)
    (address : Address) : after.parcel? address =
      if address = ⟨channel.generation, side, key⟩ then some now else bus.parcel? address := by
  obtain ⟨generation, otherSide, otherKey⟩ := address
  rw [becomes.parcel? sound here same, board]
  by_cases equal : generation = channel.generation
  · subst equal
    simp [sound.parcel?_of_channel? here]
  · simp [equal]

/-- Going through a parcel of an open channel. -/
theorem Becomes.passes (becomes : bus.Becomes after handle new) (sound : bus.Sound)
    (here : bus.channel? handle = some channel) (same : new.generation = channel.generation)
    {side : Side} {key : Nat} {first now : Parcel α}
    (passes : channel.Passes new side key first now) :
    bus.Passes after ⟨channel.generation, side, key⟩ first now := by
  refine ⟨?_, becomes.parcel?_at sound here same passes.after⟩
  rw [sound.parcel?_of_channel? here, passes.before]

/-- Replacing an open channel by one with the same board keeps the board of the bus. -/
theorem Becomes.sameBoard (becomes : bus.Becomes after handle new) (sound : bus.Sound)
    (here : bus.channel? handle = some channel) (same : new.generation = channel.generation)
    (board : ∀ side key, new.parcel? side key = channel.parcel? side key) (address : Address) :
    after.parcel? address = bus.parcel? address := by
  rw [becomes.parcel? sound here same]
  split
  case isTrue equal =>
    obtain ⟨generation, side, key⟩ := address
    obtain rfl : generation = channel.generation := equal
    rw [board, sound.parcel?_of_channel? here]
  case isFalse => rfl

/-- The handles and generations of the open channels after one was replaced. -/
theorem Becomes.generations (becomes : bus.Becomes after handle new)
    (here : bus.channel? handle = some channel) (same : new.generation = channel.generation)
    (other : Handle) : (after.channel? other).map (·.generation) =
      (bus.channel? other).map (·.generation) := by
  rw [becomes.channel? here]
  split
  case isTrue equal => rw [equal, here, Option.map_some, Option.map_some, same]
  case isFalse => rfl

end Becoming

/-! ## Changing every open channel -/

section Everywhere

variable {bus : Bus α} {change : Channel α → Channel α}

/-- The generations stay in their order when every channel keeps its own. -/
theorem generations_overOpen (same : ∀ handle channel, bus.channel? handle = some channel →
      (change channel).generation = channel.generation) :
    (bus.overOpen change).known.map (·.generation) = bus.known.map (·.generation) := by
  have moved : (bus.overOpen change).known =
      (bus.slots.filterMap id).map change ++ bus.retired := by
    simp [known, overOpen, List.filterMap_map, List.map_filterMap]
  rw [moved, known, List.map_append, List.map_append, List.map_map]
  congr 1
  refine List.map_congr_left fun channel member => ?_
  obtain ⟨handle, here⟩ := mem_slots.mp member
  exact same handle channel here

/-- A registry stays sound when every open channel stays sound and keeps its generation. -/
theorem Sound.overOpen (sound : bus.Sound)
    (keeps : ∀ handle channel, bus.channel? handle = some channel →
      (change channel).Sound ∧ (change channel).generation = channel.generation) :
    (bus.overOpen change).Sound := by
  have generations := generations_overOpen fun handle channel here =>
    (keeps handle channel here).2
  refine ⟨fun channel member => ?_, generations ▸ sound.distinct, fun channel member => ?_,
    sound.drained⟩
  · rcases mem_known.mp member with ⟨handle, here⟩ | closed
    · rw [channel?_overOpen, Option.map_eq_some_iff] at here
      obtain ⟨former, there, rfl⟩ := here
      exact (keeps handle former there).1
    · exact sound.channels channel (mem_known.mpr (.inr closed))
  · have used : channel.generation ∈ bus.known.map (·.generation) :=
      generations ▸ List.mem_map_of_mem member
    obtain ⟨former, known, equal⟩ := List.mem_map.mp used
    exact equal ▸ sound.fresh former known

/-- An open channel is what it was changed into after every open channel was changed. -/
theorem Sound.identity?_overOpen (sound : bus.Sound)
    (keeps : ∀ handle channel, bus.channel? handle = some channel →
      (change channel).Sound ∧ (change channel).generation = channel.generation)
    {handle : Handle} {channel : Channel α} (here : bus.channel? handle = some channel) :
    (bus.overOpen change).identity? channel.generation = some (change channel) := by
  have there : (bus.overOpen change).channel? handle = some (change channel) := by
    rw [channel?_overOpen, here]
    rfl
  rw [← (keeps handle channel here).2]
  exact (sound.overOpen keeps).identity?_of_channel? there

/-- A closed channel is what it was after every open channel was changed. -/
theorem Sound.identity?_overOpen_of_closed (sound : bus.Sound)
    (keeps : ∀ handle channel, bus.channel? handle = some channel →
      (change channel).Sound ∧ (change channel).generation = channel.generation)
    {generation : Nat} (closed : ∀ handle channel, bus.channel? handle = some channel →
      channel.generation ≠ generation) :
    (bus.overOpen change).identity? generation = bus.identity? generation := by
  ext channel
  rw [(sound.overOpen keeps).identity?_eq_some_iff, sound.identity?_eq_some_iff]
  refine and_congr_left fun equal => ?_
  rw [mem_known, mem_known]
  constructor
  · rintro (⟨handle, here⟩ | retired)
    · rw [channel?_overOpen, Option.map_eq_some_iff] at here
      obtain ⟨former, there, rfl⟩ := here
      exact absurd ((keeps handle former there).2.symm.trans equal) (closed handle former there)
    · exact .inr retired
  · rintro (⟨handle, here⟩ | retired)
    · exact absurd equal (closed handle channel here)
    · exact .inr retired

end Everywhere

/-! ## Trying a call -/

/-- The wait of a parked call lies where its ticket says and holds what the call may find. -/
structure Houses (bus : Bus α) (suspended : Suspended α) : Prop where
  /-- The ticket leads to the channel of its generation. -/
  homes : bus.Homes suspended.ticket
  /-- The call waits in the queue on which such calls park. -/
  side : suspended.ticket.side = suspended.call.side
  /-- Its parcel is on the board. -/
  parcel : ∃ parcel, bus.parcel? suspended.ticket.address = some parcel ∧
    suspended.call.Finds parcel
  /-- A call on a handle waits under that handle. -/
  handle : ∀ handle, suspended.call.handle? = some handle → suspended.ticket.handle = handle

/-- What any try of a call keeps: the identities of all channels, and every parcel except those
through which a value went and the one that the call leaves if it parks. -/
structure Tries (bus after : Bus α) (call : Call α) (suspended? : Option (Suspended α)) :
    Prop where
  /-- The registry is sound. -/
  sound : after.Sound
  /-- The same channels are open under the same handles. -/
  generations : ∀ handle, (after.channel? handle).map (·.generation) =
    (bus.channel? handle).map (·.generation)
  /-- Every generation has the capacity that it had. -/
  capacities : ∀ generation, (after.identity? generation).map (·.capacity) =
    (bus.identity? generation).map (·.capacity)
  /-- No generation was given out. -/
  nextGeneration : after.nextGeneration = bus.nextGeneration
  /-- Parcels stay unless a value went through them. -/
  kept : ∀ address, bus.passed? after address = none →
    (∀ suspended, suspended? = some suspended → suspended.ticket.address ≠ address) →
    after.parcel? address = bus.parcel? address
  /-- If the call parks, its parcel is a new one. -/
  parked : ∀ suspended, suspended? = some suspended →
    after.Houses suspended ∧ suspended.call = call ∧
      bus.parcel? suspended.ticket.address = none

/-- A try that changes nothing but counters. -/
theorem Sound.tries_note {bus : Bus α} (sound : bus.Sound) (update : Stats → Stats)
    (call : Call α) : bus.Tries (bus.note update) call none :=
  ⟨by rwa [sound_note], fun handle => by rw [channel?_note], fun generation => by
    rw [identity?_note], nextGeneration_note _ _, fun address _ _ => parcel?_note _ _ _, by simp⟩

/-- A ticket stays at home while the same channels are open. -/
theorem Homes.of_generations {bus after : Bus α} {ticket : Ticket} (homed : bus.Homes ticket)
    (same : ∀ handle, (after.channel? handle).map (·.generation) =
      (bus.channel? handle).map (·.generation)) : after.Homes ticket := by
  intro handle channel here generation
  have before := same handle
  rw [here, Option.map_some, eq_comm, Option.map_eq_some_iff] at before
  obtain ⟨former, there, equal⟩ := before
  exact homed handle former there (equal.trans generation)

/-- The ticket for an open channel is at home. -/
theorem Sound.homes_of_channel? {bus : Bus α} (sound : bus.Sound) {ticket : Ticket}
    {channel : Channel α} (here : bus.channel? ticket.handle = some channel)
    (same : channel.generation = ticket.generation) : bus.Homes ticket :=
  fun _ _ there equal => sound.handle_unique there here (equal.trans same.symm)

/-- A try that lets a value pass through one parcel, if any, of an open channel. -/
theorem Becomes.tries {bus after : Bus α} {handle : Handle} {channel new : Channel α}
    (becomes : bus.Becomes after handle new) (sound : bus.Sound)
    (here : bus.channel? handle = some channel) (newSound : new.Sound)
    (same : new.generation = channel.generation) (capacity : new.capacity = channel.capacity)
    (call : Call α) (kept : ∀ address, bus.passed? after address = none →
      after.parcel? address = bus.parcel? address) : bus.Tries after call none :=
  ⟨becomes.sound sound here same newSound, becomes.generations here same,
    becomes.capacities sound here same capacity, becomes.nextGeneration,
    fun address quiet _ => kept address quiet, by simp⟩

/-- Parcels stay unless a value went through the one of a pass. -/
theorem Passes.kept {bus after : Bus α} {address : Address} {first now : Parcel α} {value : α}
    (passes : bus.Passes after address first now) (value? : first.passed? now = some value)
    (other : Address) (quiet : bus.passed? after other = none) :
    after.parcel? other = bus.parcel? other := by
  rw [passes.passed?] at quiet
  rw [passes.after]
  split
  case isTrue same => simp [same, value?] at quiet
  case isFalse => rfl

/-- A request or a call that moves values through the buffer. -/
theorem Becomes.tries_of_moves {bus after : Bus α} {handle : Handle} {channel new : Channel α}
    {call : Call α} {reply : Reply α} (becomes : bus.Becomes after handle new)
    (moves : channel.Moves call reply new) (sound : bus.Sound)
    (here : bus.channel? handle = some channel) :
    bus.Tries after call none ∧ ∀ address, after.parcel? address = bus.parcel? address := by
  obtain ⟨newSound, same, capacity, board⟩ := moves.keeps (sound.of_channel? here)
  have kept := becomes.sameBoard sound here same board
  exact ⟨becomes.tries sound here newSound same capacity call fun address _ => kept address, kept⟩

/-- Parking a call on an open channel. -/
theorem Becomes.tries_of_parks {bus after : Bus α} {handle : Handle} {channel new : Channel α}
    {call : Call α} {parcel : Parcel α} (becomes : bus.Becomes after handle new)
    (sound : bus.Sound) (here : bus.channel? handle = some channel) (newSound : new.Sound)
    (same : new.generation = channel.generation) (capacity : new.capacity = channel.capacity)
    (finds : call.Finds parcel) (named : ∀ target, call.handle? = some target → target = handle)
    (board : ∀ side key, new.parcel? side key =
      if side = call.side ∧ key = (channel.queue call.side).nextKey then some parcel
      else channel.parcel? side key) :
    bus.Tries after call (some
      ⟨call, ⟨handle, channel.generation, call.side, (channel.queue call.side).nextKey⟩⟩) := by
  have place := becomes.parcel?_at sound here same board
  have now : after.channel? handle = some new := by simp [becomes.channel? here]
  have afterSound := becomes.sound sound here same newSound
  refine ⟨afterSound, becomes.generations here same, becomes.capacities sound here same capacity,
    becomes.nextGeneration, fun address _ apart => ?_, fun suspended parks => ?_⟩
  · have other := apart _ rfl
    rw [place, if_neg fun equal => other equal.symm]
  · obtain rfl := Option.some.inj parks
    refine ⟨⟨afterSound.homes_of_channel? now same, rfl, ⟨parcel, ?_, finds⟩,
      fun target equal => (named target equal).symm⟩, rfl, ?_⟩
    · exact (place _).trans (if_pos rfl)
    · have unused := ((sound.of_channel? here).orderly call.side).keyed.parcel?_nextKey
      exact (sound.parcel?_of_channel? here _ _).trans unused

end Bus

/-- The wait on which a call parked, if it did. -/
def Progress.suspended? : Progress α → Option (Suspended α)
  | .finished _ => none
  | .parked suspended => some suspended

namespace Bus

/-- A try of a call on an open channel keeps what any try keeps. -/
theorem Attempted.tries {bus : Bus α} {handle : Handle} {channel : Channel α} {waker : TaskId}
    {call : Call α} {outcome : Outcome α (Progress α)}
    (attempted : bus.Attempted handle channel waker call outcome) (sound : bus.Sound)
    (here : bus.channel? handle = some channel) (named : call.handle? = some handle) :
    bus.Tries outcome.bus call outcome.result.suspended? := by
  obtain ⟨reply?, new, tried, billed, result⟩ := attempted
  have becomes := billed.becomes
  have channelSound := sound.of_channel? here
  obtain ⟨newSound, same, capacity⟩ := tried.keeps channelSound
  rw [result]
  cases reply? with
  | none =>
    obtain ⟨parcel, finds, _, board⟩ := tried.parks channelSound
    refine becomes.tries_of_parks sound here newSound same capacity finds
      (fun target equal => ?_) board
    rw [named] at equal
    exact (Option.some.inj equal).symm
  | some reply =>
    cases tried with
    | moved moves => exact (becomes.tries_of_moves moves sound here).1
    | handedOff stuck offered handed =>
      obtain ⟨key, passes⟩ := channelSound.passes_handOff handed
      have passed := becomes.passes sound here same passes
      exact becomes.tries sound here newSound same capacity call (passed.kept rfl)
    | tookOffer stuck wanted taken =>
      obtain ⟨key, passes⟩ := channelSound.passes_takeOffer taken
      have passed := becomes.passes sound here same passes
      exact becomes.tries sound here newSound same capacity call (passed.kept rfl)

/-- A try after one that left the board as it was. -/
theorem Tries.after_same {bus middle after : Bus α} {call : Call α}
    {suspended? : Option (Suspended α)} (first : bus.Tries middle call none)
    (board : ∀ address, middle.parcel? address = bus.parcel? address)
    (second : middle.Tries after call suspended?) : bus.Tries after call suspended? := by
  refine ⟨second.sound, fun handle => (second.generations handle).trans (first.generations handle),
    fun generation => (second.capacities generation).trans (first.capacities generation),
    second.nextGeneration.trans first.nextGeneration,
    fun address quiet apart => ?_, fun suspended parks => ?_⟩
  · have same : middle.passed? after address = none := by rwa [passed?, board]
    rw [second.kept address same apart, board]
  · obtain ⟨houses, same, absent⟩ := second.parked suspended parks
    exact ⟨houses, same, board _ ▸ absent⟩

/-- A try before one that leaves the board as it is. -/
theorem Tries.before_same {bus middle after : Bus α} {call : Call α}
    (first : bus.Tries middle call none) (second : middle.Tries after call none)
    (board : ∀ address, after.parcel? address = middle.parcel? address) :
    bus.Tries after call none := by
  refine ⟨second.sound, fun handle => (second.generations handle).trans (first.generations handle),
    fun generation => (second.capacities generation).trans (first.capacities generation),
    second.nextGeneration.trans first.nextGeneration,
    fun address quiet apart => ?_, by simp⟩
  have same : bus.passed? middle address = none := by rwa [passed?, ← board]
  rw [board, first.kept address same apart]

/-- Settling the wakeup of a broadcaster leaves the board as it is. -/
theorem Sound.tries_settleWakeup {bus : Bus α} (sound : bus.Sound)
    (previous : Option (Handle × Nat)) (stall : Option Stall) (call : Call α) :
    bus.Tries (bus.settleWakeup previous stall).bus call none ∧
      ∀ address, (bus.settleWakeup previous stall).bus.parcel? address = bus.parcel? address := by
  rcases bus.settleWakeup_cases previous stall with
    ⟨same, _⟩ | ⟨handle, generation, channel, _, _, pinned, billed⟩
  · rw [same]
    refine ⟨?_, fun _ => rfl⟩
    simpa [note_id] using sound.tries_note id call
  · have becomes := billed.becomes
    have here := (Bus.pinned?_eq_some_iff.mp pinned).1
    have channelSound := sound.of_channel? here
    have same := channel.generation_wake .senders 1
    have kept := becomes.sameBoard sound here same
      fun side key => channelSound.parcel?_wake .senders side 1 key
    have capacity := channel.capacity_wake .senders 1
    exact ⟨becomes.tries sound here (channelSound.wake _ _) same capacity call fun address _ =>
      kept address, kept⟩

end Bus

namespace Channel

/-- Giving keeps a ready channel sound, and its identity. -/
theorem Sound.give {channel : Channel α} (sound : channel.Sound)
    (ready : channel.canAccept = true) (value : α) :
    (channel.give value).2.Sound ∧ (channel.give value).2.generation = channel.generation ∧
      (channel.give value).2.capacity = channel.capacity := by
  rcases sound.give_cases ready value with ⟨_, given⟩ | ⟨_, served, after, handed, given⟩
  · rw [given]
    exact ⟨sound.acceptMany _, rfl, rfl⟩
  · rw [given]
    exact sound.handOff handed

/-- Giving to a channel with a buffer leaves its board as it is. -/
theorem Sound.parcel?_give {channel : Channel α} (sound : channel.Sound)
    (ready : channel.canAccept = true) (value : α) (plain : channel.isRendezvous = false)
    (side : Side) (key : Nat) :
    (channel.give value).2.parcel? side key = channel.parcel? side key := by
  rcases sound.give_cases ready value with ⟨_, given⟩ | ⟨_, served, after, handed, given⟩
  · rw [given]
    exact sound.parcel?_acceptMany _ side key
  · rw [(sound.handOff_eq_some handed).1] at plain
    contradiction

/-- Giving to a rendezvous channel delivers to one waiting receiver. -/
theorem Sound.passes_give {channel : Channel α} (sound : channel.Sound)
    (ready : channel.canAccept = true) (value : α) (rendezvous : channel.isRendezvous = true) :
    ∃ key, channel.Passes (channel.give value).2 .receivers key .empty (.delivered value) := by
  rcases sound.give_cases ready value with ⟨spare, given⟩ | ⟨_, served, after, handed, given⟩
  · have zero : channel.capacity = 0 := by simpa [isRendezvous] using rendezvous
    simp [isFull, zero] at spare
  · rw [given]
    exact sound.passes_handOff handed

end Channel

namespace Bus

/-- Giving keeps every ready channel sound, and its generation. -/
theorem Sound.keeps_give {bus : Bus α} (sound : bus.Sound)
    (ready : ∀ handle channel, bus.channel? handle = some channel → channel.canAccept = true)
    (value : α) : ∀ handle channel, bus.channel? handle = some channel →
      (channel.give value).2.Sound ∧ (channel.give value).2.generation = channel.generation := by
  intro handle channel here
  have kept := (sound.of_channel? here).give (ready handle channel here) value
  exact ⟨kept.1, kept.2.1⟩

/-- Giving a copy to a rendezvous channel delivers it to one waiting receiver. -/
theorem Sound.passes_giveAll {bus : Bus α} (sound : bus.Sound)
    (ready : ∀ handle channel, bus.channel? handle = some channel → channel.canAccept = true)
    (value : α) {handle : Handle} {channel : Channel α}
    (here : bus.channel? handle = some channel) :
    (channel.isRendezvous = false → ∀ side key,
      (bus.giveAll value).bus.parcel? ⟨channel.generation, side, key⟩ =
        bus.parcel? ⟨channel.generation, side, key⟩) ∧
    (channel.isRendezvous = true → ∃ key,
      bus.parcel? ⟨channel.generation, .receivers, key⟩ = some .empty ∧
      ∀ side number, (bus.giveAll value).bus.parcel? ⟨channel.generation, side, number⟩ =
        if side = .receivers ∧ number = key then some (.delivered value)
        else bus.parcel? ⟨channel.generation, side, number⟩) := by
  obtain ⟨update, given⟩ := bus.bus_giveAll value
  have keeps := sound.keeps_give ready value
  have board : ∀ side key, (bus.giveAll value).bus.parcel? ⟨channel.generation, side, key⟩ =
      (channel.give value).2.parcel? side key := by
    intro side key
    rw [given, parcel?_note, Bus.parcel?, sound.identity?_overOpen keeps here]
    rfl
  have channelSound := sound.of_channel? here
  have channelReady := ready handle channel here
  refine ⟨fun plain side key => ?_, fun rendezvous => ?_⟩
  · rw [board, channelSound.parcel?_give channelReady value plain, sound.parcel?_of_channel? here]
  · obtain ⟨key, passes⟩ := channelSound.passes_give channelReady value rendezvous
    refine ⟨key, (sound.parcel?_of_channel? here _ _).trans passes.before, fun side number => ?_⟩
    rw [board, passes.after, sound.parcel?_of_channel? here]

/-- Giving a copy to every open channel leaves the parcels on closed ones. -/
theorem Sound.parcel?_giveAll_of_closed {bus : Bus α} (sound : bus.Sound)
    (ready : ∀ handle channel, bus.channel? handle = some channel → channel.canAccept = true)
    (value : α) {address : Address} (closed : ∀ handle channel,
      bus.channel? handle = some channel → channel.generation ≠ address.generation) :
    (bus.giveAll value).bus.parcel? address = bus.parcel? address := by
  obtain ⟨update, given⟩ := bus.bus_giveAll value
  have same := sound.identity?_overOpen_of_closed (sound.keeps_give ready value) closed
  rw [given, parcel?_note, Bus.parcel?, same, Bus.parcel?]

/-- Giving a copy to every open channel keeps what any try keeps. -/
theorem Sound.tries_giveAll {bus : Bus α} (sound : bus.Sound)
    (ready : ∀ handle channel, bus.channel? handle = some channel → channel.canAccept = true)
    (value : α) (call : Call α) : bus.Tries (bus.giveAll value).bus call none := by
  obtain ⟨update, given⟩ := bus.bus_giveAll value
  have keeps := sound.keeps_give ready value
  refine ⟨?_, fun handle => ?_, fun generation => ?_, ?_, fun address quiet _ => ?_, by simp⟩
  · rw [given, sound_note]
    exact sound.overOpen keeps
  · rw [given, channel?_note, channel?_overOpen]
    cases here : bus.channel? handle with
    | none => rfl
    | some channel => exact congrArg some (keeps handle channel here).2
  · rw [given, identity?_note]
    by_cases closed : ∀ handle channel, bus.channel? handle = some channel →
        channel.generation ≠ generation
    · rw [sound.identity?_overOpen_of_closed keeps closed]
    · obtain ⟨handle, channel, here, rfl⟩ : ∃ handle channel,
          bus.channel? handle = some channel ∧ channel.generation = generation := by
        simpa using closed
      rw [sound.identity?_overOpen keeps here, sound.identity?_of_channel? here]
      have kept := (sound.of_channel? here).give (ready handle channel here) value
      exact congrArg some kept.2.2
  · rw [given, nextGeneration_note]
    rfl
  · by_cases closed : ∀ handle channel, bus.channel? handle = some channel →
        channel.generation ≠ address.generation
    · exact sound.parcel?_giveAll_of_closed ready value closed
    · obtain ⟨handle, channel, here, same⟩ : ∃ handle channel,
          bus.channel? handle = some channel ∧ channel.generation = address.generation := by
        simpa using closed
      obtain ⟨generation, side, key⟩ := address
      obtain rfl : channel.generation = generation := same
      obtain ⟨plain, meets⟩ := sound.passes_giveAll ready value here
      cases rendezvous : channel.isRendezvous with
      | false => exact plain rendezvous side key
      | true =>
        obtain ⟨target, empty, board⟩ := meets rendezvous
        rw [board]
        split
        case isFalse => rfl
        case isTrue equal =>
          obtain ⟨rfl, rfl⟩ := equal
          simp [passed?, empty, board, Parcel.passed?] at quiet

/-- A try of a broadcast keeps what any try keeps. -/
theorem BroadcastTried.tries {bus after : Bus α} {value : α} {previous : Option (Handle × Nat)}
    {waker : TaskId} {progress : Progress α}
    (tried : bus.BroadcastTried value previous waker progress after) (sound : bus.Sound) :
    bus.Tries after (.broadcast value) progress.suspended? := by
  cases tried with
  | noChannel nothing => exact sound.tries_note _ _
  | sent ready something =>
    have given := sound.tries_giveAll ready value (.broadcast value)
    obtain ⟨settled, board⟩ := given.sound.tries_settleWakeup previous none (.broadcast value)
    exact given.before_same settled board
  | @stalled handle channel middle _ here unready settled still billed =>
    have becomes := billed.becomes
    subst settled
    obtain ⟨first, board⟩ := sound.tries_settleWakeup previous
      (some (.refused handle channel.generation)) (.broadcast value)
    have channelSound := sound.of_channel? here
    have second := becomes.tries_of_parks first.sound still (channelSound.park rfl _)
      (channel.generation_park _ _ _) (channel.capacity_park _ _ _)
      (.unpinned rfl : (Call.broadcast value).Finds .empty)
      (fun _ named => by simp [Call.handle?] at named)
      (fun side key => channelSound.parcel?_park .senders side .empty (some waker) key)
    exact first.after_same board second

end Bus

end ChannelBus
