import ChannelBus.Proofs.Registry

/-!
# Opening, closing and reaching channels by ticket

Opening gives a new channel a generation that no channel had; closing moves a channel from its slot
to the closed ones and dequeues everybody, without touching a parcel. A ticket reaches its channel
before and after the closing, and never another channel, whatever was opened in the slot meanwhile.
-/

namespace ChannelBus

variable {α : Type}

namespace Bus

/-! ## One handle for a generation -/

/-- A generation is open under one handle only. -/
theorem Sound.handle_unique {bus : Bus α} (sound : bus.Sound) {left right : Handle}
    {leftChannel rightChannel : Channel α} (leftHere : bus.channel? left = some leftChannel)
    (rightHere : bus.channel? right = some rightChannel)
    (same : leftChannel.generation = rightChannel.generation) : left = right := by
  have distinct := ((known_split leftHere).map (·.generation)).nodup_iff.mp sound.distinct
  rw [List.map_cons, List.nodup_cons] at distinct
  have inside := channel?_eq_some_iff.mp rightHere
  by_cases equal : left = right
  · exact equal
  · have ids : left.id ≠ right.id := fun equalIds => equal (by cases left; cases right; simp_all)
    have kept : rightChannel ∈ bus.others left := by
      refine List.mem_append_left _ (List.mem_filterMap.mpr ⟨some rightChannel, ?_, rfl⟩)
      refine List.mem_of_getElem? (i := right.id) ?_
      rw [List.getElem?_set_ne ids]
      exact inside
    exact absurd (same ▸ List.mem_map_of_mem kept) distinct.1

/-- No two closed channels share a generation. -/
theorem Sound.distinct_retired {bus : Bus α} (sound : bus.Sound) :
    (bus.retired.map (·.generation)).Nodup :=
  sound.distinct.sublist ((List.sublist_append_right _ _).map _)

/-! ## Tickets -/

/-- A ticket names the handle under which its generation is open, as long as it is open. -/
def Homes (bus : Bus α) (ticket : Ticket) : Prop :=
  ∀ handle channel, bus.channel? handle = some channel →
    channel.generation = ticket.generation → handle = ticket.handle

/-- A ticket leads to the channel of its generation, open or closed. -/
theorem Sound.ticketed?_eq {bus : Bus α} (sound : bus.Sound) {ticket : Ticket}
    (homed : bus.Homes ticket) : bus.ticketed? ticket = bus.identity? ticket.generation := by
  unfold ticketed?
  cases pinned : bus.pinned? ticket.handle ticket.generation with
  | some channel =>
    obtain ⟨here, generation⟩ := pinned?_eq_some_iff.mp pinned
    exact generation ▸ (sound.identity?_of_channel? here).symm
  | none =>
    ext channel
    rw [find?_number_eq_some_iff sound.distinct_retired, sound.identity?_eq_some_iff]
    refine and_congr_left fun generation => ⟨fun closed => mem_known.mpr (.inr closed),
      fun member => ?_⟩
    rcases mem_known.mp member with ⟨handle, here⟩ | closed
    · obtain rfl := homed handle channel here generation
      rw [pinned?_eq_some_iff.mpr ⟨here, generation⟩] at pinned
      contradiction
    · exact closed

/-- Replacing the queue of a ticket replaces the channel that the ticket leads to. -/
theorem Sound.replaces_setTicketQueue {bus : Bus α} (sound : bus.Sound) {ticket : Ticket}
    {channel : Channel α} (found : bus.ticketed? ticket = some channel) (queue : WaitQueue α) :
    bus.Replaces (bus.setTicketQueue ticket queue) channel
      (channel.setQueue ticket.side queue) := by
  unfold ticketed? at found
  unfold setTicketQueue
  cases pinned : bus.pinned? ticket.handle ticket.generation with
  | some other =>
    rw [pinned] at found
    obtain rfl := Option.some.inj found
    exact replaces_setChannel (pinned?_eq_some_iff.mp pinned).1 (Channel.generation_setQueue _ _ _)
  | none =>
    rw [pinned] at found
    simp only at found
    have member := List.mem_of_find?_eq_some found
    have generation : channel.generation = ticket.generation := by
      simpa using List.find?_some found
    obtain ⟨before, after, split⟩ := List.append_of_mem member
    have apart : ∀ other ∈ before ++ after, other.generation ≠ ticket.generation := by
      have moved : bus.retired.Perm (channel :: (before ++ after)) := split ▸ List.perm_middle
      have distinct := (moved.map (·.generation)).nodup_iff.mp sound.distinct_retired
      rw [List.map_cons, List.nodup_cons] at distinct
      intro other kept same
      exact distinct.1 (generation.trans same.symm ▸ List.mem_map_of_mem kept)
    have unchanged : ∀ channels : List (Channel α), channels ⊆ before ++ after →
        channels.map (fun other => if other.generation == ticket.generation then
          other.setQueue ticket.side queue else other) = channels := by
      intro channels inside
      refine (List.map_congr_left fun other kept => ?_).trans (List.map_id _)
      simp [apart other (inside kept)]
    refine ⟨⟨bus.slots.filterMap id ++ (before ++ after), ?_, ?_⟩,
      Channel.generation_setQueue _ _ _, rfl⟩
    · rw [known, split]
      exact (List.perm_middle.append_left _).trans List.perm_middle
    · simp only [known, split, List.map_append, List.map_cons, generation, beq_self_eq_true,
        if_true, unchanged before (List.subset_append_left _ _),
        unchanged after (List.subset_append_right _ _)]
      exact (List.perm_middle.append_left _).trans List.perm_middle

/-- The open channels after the queue of a ticket was replaced. -/
theorem channel?_setTicketQueue {bus : Bus α} {ticket : Ticket} (homed : bus.Homes ticket)
    (queue : WaitQueue α) (handle : Handle) :
    (bus.setTicketQueue ticket queue).channel? handle = (bus.channel? handle).map fun channel =>
      if channel.generation = ticket.generation then channel.setQueue ticket.side queue
      else channel := by
  unfold setTicketQueue
  cases pinned : bus.pinned? ticket.handle ticket.generation with
  | some other =>
    obtain ⟨here, generation⟩ := pinned?_eq_some_iff.mp pinned
    simp only [channel?_setChannel here]
    by_cases same : handle = ticket.handle
    · simp [same, here, generation]
    · rw [if_neg same]
      cases there : bus.channel? handle with
      | none => rfl
      | some channel =>
        have apart : channel.generation ≠ ticket.generation := fun equal =>
          same (homed handle channel there equal)
        simp [apart]
  | none =>
    show bus.channel? handle = _
    cases there : bus.channel? handle with
    | none => rfl
    | some channel =>
      have apart : channel.generation ≠ ticket.generation := by
        intro equal
        obtain rfl := homed handle channel there equal
        rw [pinned?_eq_some_iff.mpr ⟨there, equal⟩] at pinned
        contradiction
      simp [apart]

/-- Closed channels stay empty when nobody is queued by replacing the queue of a ticket. -/
theorem Sound.drained_setTicketQueue {bus : Bus α} (sound : bus.Sound) {ticket : Ticket}
    {queue : WaitQueue α}
    (empty : ∀ channel, bus.ticketed? ticket = some channel →
      (channel.queue ticket.side).waiting = [] → queue.waiting = []) :
    ∀ channel ∈ (bus.setTicketQueue ticket queue).retired, channel.Drained := by
  intro channel member
  unfold setTicketQueue at member
  cases pinned : bus.pinned? ticket.handle ticket.generation with
  | some other =>
    rw [pinned] at member
    exact sound.drained channel member
  | none =>
    rw [pinned] at member
    obtain ⟨original, kept, rfl⟩ := List.mem_map.mp member
    have before := sound.drained original kept
    split
    case isFalse => exact before
    case isTrue same =>
      have found : bus.ticketed? ticket = some original := by
        simp only [ticketed?, pinned]
        exact (find?_number_eq_some_iff sound.distinct_retired).mpr ⟨kept, by simpa using same⟩
      refine ⟨by simpa using before.buffer, fun side => ?_⟩
      rw [Channel.queue_setQueue_eq]
      split
      · exact empty original found (before.waiting ticket.side)
      · exact before.waiting side

/-! ## Opening -/

/-- Where a channel goes: to a slot that was free, and nothing else moves. -/
theorem occupy_spec (channel : Channel α) (slots : List (Option (Channel α))) :
    (slots[(occupy channel slots).1]?).join = none ∧
      (∀ index, ((occupy channel slots).2[index]?).join =
        if index = (occupy channel slots).1 then some channel else (slots[index]?).join) ∧
      ((occupy channel slots).2.filterMap id).Perm (channel :: slots.filterMap id) := by
  induction slots with
  | nil =>
    refine ⟨rfl, fun index => ?_, List.Perm.refl _⟩
    cases index <;> simp [occupy]
  | cons first rest ih =>
    cases first with
    | none =>
      refine ⟨rfl, fun index => ?_, List.Perm.refl _⟩
      cases index <;> simp [occupy]
    | some other =>
      obtain ⟨free, placed, same⟩ := ih
      refine ⟨by simpa [occupy] using free, fun index => ?_, ?_⟩
      · cases index with
        | zero => simp [occupy]
        | succ index => simpa [occupy] using placed index
      · simpa [occupy] using (same.cons other).trans (List.Perm.swap _ _ _)

/-- Every slot below the one that a channel goes to is taken. -/
theorem isSome_of_lt_occupy (channel : Channel α) {slots : List (Option (Channel α))} {index : Nat}
    (lower : index < (occupy channel slots).1) : (slots[index]?).join.isSome = true := by
  induction slots generalizing index with
  | nil => exact absurd lower (Nat.not_lt_zero index)
  | cons first rest ih =>
    cases first with
    | none => exact absurd lower (Nat.not_lt_zero index)
    | some other =>
      cases index with
      | zero => rfl
      | succ index => simpa using ih (Nat.lt_of_succ_lt_succ lower)

/-- A bus on which a channel of this capacity was opened. -/
structure Opens (bus after : Bus α) (handle : Handle) (capacity : Nat) : Prop where
  /-- The slot was free. -/
  free : bus.channel? handle = none
  /-- The slot holds a new channel of the next generation, the others hold what they did. -/
  channel? : ∀ other, after.channel? other =
    if other = handle then some (.new capacity bus.nextGeneration) else bus.channel? other
  /-- One channel was added. -/
  known : after.known.Perm (.new capacity bus.nextGeneration :: bus.known)
  /-- One generation was given out. -/
  nextGeneration : after.nextGeneration = bus.nextGeneration + 1
  /-- No channel was closed. -/
  retired : after.retired = bus.retired

/-- Opening a channel takes a free slot and the next generation; if the buffer cannot be allocated
it only uses up the generation. -/
theorem openChannel_cases [Stored α] (bus : Bus α) (capacity : Nat) :
    (bufferFits α capacity = true ∧ ∃ handle, (bus.openChannel capacity).result = .ok handle ∧
      bus.Opens (bus.openChannel capacity).bus handle capacity) ∨
    (bufferFits α capacity = false ∧
      (bus.openChannel capacity).result = .error .capacityOverflow ∧
      (bus.openChannel capacity).bus = { bus with nextGeneration := bus.nextGeneration + 1 }) := by
  cases fits : bufferFits α capacity with
  | false => exact .inr ⟨rfl, by simp [openChannel, fits, unchanged], by
      simp [openChannel, fits, unchanged]⟩
  | true =>
    obtain ⟨free, placed, same⟩ := occupy_spec (.new capacity bus.nextGeneration) bus.slots
    refine .inl ⟨rfl, ⟨(occupy (.new capacity bus.nextGeneration) bus.slots).1⟩, ?_, ?_⟩
    · simp [openChannel, fits]
    · refine ⟨free, fun other => ?_, ?_, ?_, ?_⟩
      · have handles : ∀ id, (other = ⟨id⟩ ↔ other.id = id) := fun id => by cases other; simp
        simp only [openChannel, fits, if_true, channel?_note, handles]
        exact placed other.id
      · simp only [openChannel, fits, if_true, known_note]
        exact same.append_right _
      · simp [openChannel, fits]
      · simp [openChannel, fits]

/-- Opening keeps a registry sound. -/
theorem Opens.sound {bus after : Bus α} {handle : Handle} {capacity : Nat}
    (opens : bus.Opens after handle capacity) (sound : bus.Sound) : after.Sound := by
  refine ⟨fun channel member => ?_, ?_, fun channel member => ?_, opens.retired ▸ sound.drained⟩
  · rcases List.mem_cons.mp (opens.known.mem_iff.mp member) with rfl | kept
    · exact Channel.sound_new _ _
    · exact sound.channels channel kept
  · refine (opens.known.map (·.generation)).nodup_iff.mpr (List.nodup_cons.mpr ⟨?_, sound.distinct⟩)
    intro used
    obtain ⟨channel, kept, same⟩ := List.mem_map.mp used
    exact Nat.lt_irrefl _ (same ▸ sound.fresh channel kept)
  · rw [opens.nextGeneration]
    rcases List.mem_cons.mp (opens.known.mem_iff.mp member) with rfl | kept
    · exact Nat.lt_succ_self _
    · exact Nat.lt_succ_of_lt (sound.fresh channel kept)

/-- Opening gives the next generation to the new channel and takes none away. -/
theorem Opens.identity? {bus after : Bus α} {handle : Handle} {capacity : Nat}
    (opens : bus.Opens after handle capacity) (sound : bus.Sound) (generation : Nat) :
    after.identity? generation = if generation = bus.nextGeneration then
      some (.new capacity bus.nextGeneration) else bus.identity? generation := by
  rw [Bus.identity?, find?_number_perm opens.known (opens.sound sound).distinct]
  by_cases same : generation = bus.nextGeneration
  · simp [same, Channel.new]
  · simp [same, Ne.symm same, Channel.new, Bus.identity?]

/-- Opening puts no parcel on the board. -/
theorem Opens.parcel? {bus after : Bus α} {handle : Handle} {capacity : Nat}
    (opens : bus.Opens after handle capacity) (sound : bus.Sound) (address : Address) :
    after.parcel? address = bus.parcel? address := by
  rw [Bus.parcel?, opens.identity? sound, Bus.parcel?]
  split
  case isTrue same => simp [same, sound.identity?_next (Nat.le_refl _)]
  case isFalse => rfl

/-- Using up a generation keeps a registry sound. -/
theorem Sound.skip {bus : Bus α} (sound : bus.Sound) :
    ({ bus with nextGeneration := bus.nextGeneration + 1 } : Bus α).Sound :=
  ⟨sound.channels, sound.distinct, fun channel member =>
    Nat.lt_succ_of_lt (sound.fresh channel member), sound.drained⟩

/-! ## Closing -/

end Bus

/-- What closing makes of a channel: everybody is woken and the buffered values are gone. -/
def Channel.closed (channel : Channel α) : Channel α :=
  { channel.wakeAll with buffer := [] }

namespace Channel

/-- Each queue of a closed channel was woken as a whole. -/
theorem queue_closed (channel : Channel α) (side : Side) :
    channel.closed.queue side = (channel.queue side).wake (channel.queue side).length := by
  cases side <;> rfl

/-- A closed channel is drained. -/
theorem drained_closed (channel : Channel α) : channel.closed.Drained :=
  ⟨rfl, fun side => by simp [queue_closed, WaitQueue.wake, WaitQueue.length]⟩

/-- Closing keeps a channel sound. -/
theorem Sound.closed {channel : Channel α} (sound : channel.Sound) : channel.closed.Sound :=
  ⟨Nat.zero_le _, fun side => by
    rw [queue_closed]
    exact (sound.orderly side).wake _⟩

/-- Closing touches no parcel. -/
theorem Sound.parcel?_closed {channel : Channel α} (sound : channel.Sound) (side : Side)
    (key : Nat) : channel.closed.parcel? side key = channel.parcel? side key := by
  rw [parcel?, queue_closed, (sound.orderly side).keyed.parcel?_wake, parcel?]

end Channel

namespace Bus

/-- Between two buses the channels of some handles were closed. -/
structure Shuts (bus after : Bus α) (handles : List Handle) : Prop where
  /-- The registry is still sound. -/
  sound : after.Sound
  /-- The slots of these handles are free, the others hold what they did. -/
  channel? : ∀ handle, after.channel? handle =
    if handle ∈ handles then none else bus.channel? handle
  /-- Their channels are among the closed ones. -/
  closed : ∀ handle ∈ handles, ∀ channel, bus.channel? handle = some channel →
    channel.closed ∈ after.retired
  /-- Channels that were closed before stay as they were. -/
  kept : ∀ channel ∈ bus.retired, channel ∈ after.retired
  /-- The generations are the same. -/
  generations : (after.known.map (·.generation)).Perm (bus.known.map (·.generation))
  /-- No generation was given out. -/
  nextGeneration : after.nextGeneration = bus.nextGeneration

/-- Closing nothing leaves a sound registry as it is. -/
theorem Sound.shuts_nil {bus : Bus α} (sound : bus.Sound) : bus.Shuts bus [] :=
  ⟨sound, by simp, by simp, fun _ member => member, List.Perm.refl _, rfl⟩

/-- Closing one handle after others. -/
theorem Shuts.trans {bus middle after : Bus α} {first second : List Handle}
    (left : bus.Shuts middle first) (right : middle.Shuts after second) :
    bus.Shuts after (first ++ second) := by
  refine ⟨right.sound, fun handle => ?_, fun handle member channel here => ?_,
    fun channel member => right.kept channel (left.kept channel member),
    right.generations.trans left.generations, right.nextGeneration.trans left.nextGeneration⟩
  · rw [right.channel?, left.channel?]
    by_cases inFirst : handle ∈ first <;> by_cases inSecond : handle ∈ second <;>
      simp [inFirst, inSecond]
  · by_cases inFirst : handle ∈ first
    · exact right.kept _ (left.closed handle inFirst channel here)
    · have inSecond : handle ∈ second := by simpa [inFirst] using member
      exact right.closed handle inSecond channel (by simpa [left.channel?, inFirst] using here)

/-- Closing a handle closes its channel, and keeps it among those that are closed. -/
theorem replaces_close {bus : Bus α} {handle : Handle} {channel : Channel α}
    (here : bus.channel? handle = some channel) :
    bus.Replaces (bus.close handle).bus channel channel.closed := by
  have closedKnown : (bus.close handle).bus.known =
      (bus.slots.set handle.id none).filterMap id ++ (bus.retired ++ [channel.closed]) := by
    simp [close, here, known, Channel.closed]
  refine ⟨⟨bus.others handle, known_split here, ?_⟩, rfl, by simp [close, here]⟩
  rw [closedKnown, ← List.append_assoc]
  exact List.perm_append_singleton _ _

/-- The open channels after the slot of one handle was freed. -/
theorem channel?_of_freed {bus after : Bus α} {handle : Handle}
    (freed : after.slots = bus.slots.set handle.id none) (other : Handle) :
    after.channel? other = if other = handle then none else bus.channel? other := by
  simp only [Bus.channel?, freed]
  by_cases same : other = handle
  · subst same
    by_cases inside : other.id < bus.slots.length
    · simp [inside]
    · simp [Nat.le_of_not_lt inside]
  · have ids : handle.id ≠ other.id := fun equal => same (by
      cases handle; cases other; simp_all)
    simp [same, List.getElem?_set_ne ids]

/-- The open channels after a handle was closed, be it open or not. -/
theorem channel?_close (bus : Bus α) (handle other : Handle) :
    (bus.close handle).bus.channel? other =
      if other = handle then none else bus.channel? other := by
  cases here : bus.channel? handle with
  | none =>
    simp only [close, here, unchanged]
    split
    case isTrue same => rw [same, here]
    case isFalse => rfl
  | some channel =>
    exact channel?_of_freed (by simp [close, here]) other

/-- The open channels after several handles were closed. -/
theorem channel?_closeAll (bus : Bus α) (handles : List Handle) (other : Handle) :
    (bus.closeAll handles).bus.channel? other =
      if other ∈ handles then none else bus.channel? other := by
  induction handles generalizing bus with
  | nil => rfl
  | cons handle rest ih =>
    show (((bus.close handle).bus.closeAll rest).bus).channel? other = _
    rw [ih, channel?_close]
    by_cases first : other = handle <;> simp [first]

/-- Closing a handle. -/
theorem Sound.shuts_close {bus : Bus α} (sound : bus.Sound) (handle : Handle) :
    bus.Shuts (bus.close handle).bus [handle] := by
  have closing : ∀ other, (bus.close handle).bus.channel? other =
      if other ∈ [handle] then none else bus.channel? other := fun other => by
    simp only [channel?_close, List.mem_singleton]
  cases here : bus.channel? handle with
  | none =>
    refine ⟨by simpa [close, here, unchanged] using sound, closing, ?_, ?_, ?_, ?_⟩
    · intro other member channel there
      obtain rfl := List.mem_singleton.mp member
      rw [here] at there
      contradiction
    · simp [close, here, unchanged]
    · simp [close, here, unchanged]
    · simp [close, here, unchanged]
  | some channel =>
    have replaces := replaces_close here
    have retired : (bus.close handle).bus.retired = bus.retired ++ [channel.closed] := by
      simp [close, here, Channel.closed]
    refine ⟨replaces.sound sound (sound.of_channel? here).closed fun other member => ?_,
      closing, fun other member former there => ?_, fun other member => ?_, ?_,
      replaces.nextGeneration⟩
    · rw [retired] at member
      rcases List.mem_append.mp member with earlier | last
      · exact sound.drained other earlier
      · obtain rfl := List.mem_singleton.mp last
        exact channel.drained_closed
    · obtain rfl := List.mem_singleton.mp member
      rw [here] at there
      obtain rfl := Option.some.inj there
      simp [retired]
    · simp [retired, member]
    · obtain ⟨rest, original, replaced⟩ := replaces.known
      have same := (replaced.map (·.generation)).trans (original.map (·.generation)).symm
      exact same

/-- Closing several handles. -/
theorem Sound.shuts_closeAll {bus : Bus α} (sound : bus.Sound) (handles : List Handle) :
    bus.Shuts (bus.closeAll handles).bus handles := by
  induction handles generalizing bus with
  | nil => exact sound.shuts_nil
  | cons handle rest ih =>
    have first := sound.shuts_close handle
    exact first.trans (ih first.sound)

/-- A registry without open channels can be released, and every channel stays known. -/
theorem known_release {bus : Bus α} (all : ∀ handle, bus.channel? handle = none) :
    ({ bus with slots := [] } : Bus α).known = bus.known := by
  have nothing : bus.slots.filterMap id = [] := by
    refine List.eq_nil_iff_forall_not_mem.mpr fun channel member => ?_
    obtain ⟨handle, here⟩ := mem_slots.mp member
    rw [all] at here
    contradiction
  show [] ++ bus.retired = bus.slots.filterMap id ++ bus.retired
  rw [nothing]

/-- Releasing a registry without open channels. -/
theorem Shuts.release {bus after : Bus α} {handles : List Handle} (shuts : bus.Shuts after handles)
    (all : ∀ handle, after.channel? handle = none) :
    bus.Shuts { after with slots := [] } handles := by
  have same := known_release all
  refine ⟨⟨same ▸ shuts.sound.channels, same ▸ shuts.sound.distinct, same ▸ shuts.sound.fresh,
    shuts.sound.drained⟩, fun handle => ?_, shuts.closed, shuts.kept, same ▸ shuts.generations,
    shuts.nextGeneration⟩
  rw [← shuts.channel?, all]
  simp [Bus.channel?]

/-- No channel is open after the closing of every slot. -/
theorem channel?_closeAll_slots (bus : Bus α) (handle : Handle) :
    (bus.closeAll ((List.range bus.slots.length).map Handle.mk)).bus.channel? handle = none := by
  rw [channel?_closeAll]
  split
  case isTrue => rfl
  case isFalse outside =>
    have beyond : bus.slots.length ≤ handle.id := by
      refine Nat.le_of_not_lt fun inside => ?_
      exact outside (List.mem_map.mpr ⟨handle.id, List.mem_range.mpr inside, rfl⟩)
    simp [Bus.channel?, List.getElem?_eq_none beyond]

/-- Deleting closes every channel. -/
theorem Sound.shuts_delete {bus : Bus α} (sound : bus.Sound) :
    bus.Shuts bus.delete.bus ((List.range bus.slots.length).map Handle.mk) :=
  (sound.shuts_closeAll _).release bus.channel?_closeAll_slots

/-- Closing leaves every generation its channel, as it was or closed. -/
theorem Shuts.identity?_cases {bus after : Bus α} {handles : List Handle}
    (shuts : bus.Shuts after handles) (sound : bus.Sound) (generation : Nat) :
    after.identity? generation = bus.identity? generation ∨
      ∃ handle ∈ handles, ∃ channel, bus.channel? handle = some channel ∧
        channel.generation = generation ∧ after.identity? generation = some channel.closed := by
  cases named : bus.identity? generation with
  | none =>
    left
    cases found : after.identity? generation with
    | none => rfl
    | some channel =>
      obtain ⟨member, same⟩ := shuts.sound.identity?_eq_some_iff.mp found
      have before := shuts.generations.mem_iff.mp (List.mem_map_of_mem member)
      obtain ⟨original, known, equal⟩ := List.mem_map.mp before
      rw [sound.identity?_eq_some_iff.mpr ⟨known, equal.trans same⟩] at named
      contradiction
  | some channel =>
    obtain ⟨member, same⟩ := sound.identity?_eq_some_iff.mp named
    rcases mem_known.mp member with ⟨handle, here⟩ | closed
    · by_cases inside : handle ∈ handles
      · refine .inr ⟨handle, inside, channel, here, same, ?_⟩
        exact shuts.sound.identity?_eq_some_iff.mpr
          ⟨mem_known.mpr (.inr (shuts.closed handle inside channel here)), same⟩
      · left
        have still : after.channel? handle = some channel := by simpa [shuts.channel?, inside]
        exact same ▸ shuts.sound.identity?_of_channel? still
    · left
      exact shuts.sound.identity?_eq_some_iff.mpr
        ⟨mem_known.mpr (.inr (shuts.kept channel closed)), same⟩

/-- Closing touches no parcel. -/
theorem Shuts.parcel? {bus after : Bus α} {handles : List Handle}
    (shuts : bus.Shuts after handles) (sound : bus.Sound) (address : Address) :
    after.parcel? address = bus.parcel? address := by
  rw [Bus.parcel?, Bus.parcel?]
  rcases shuts.identity?_cases sound address.generation with same | closing
  · rw [same]
  · obtain ⟨handle, _, channel, here, same, closed⟩ := closing
    rw [closed, ← same, sound.identity?_of_channel? here]
    exact (sound.of_channel? here).parcel?_closed _ _

end Bus

end ChannelBus
