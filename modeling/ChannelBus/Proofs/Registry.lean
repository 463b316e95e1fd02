import ChannelBus.Bus.Call
import ChannelBus.Proofs.Channel

/-!
# The registry and its generations

A registry is read in two ways: `channel?` tells which channel is open under a handle, `identity?`
which channel was given a generation, be it open or closed. `Bus.Sound` is the invariant that makes
both readings functions: no two channels of a bus, open or closed, share a generation, and the next
generation is larger than all of them. A closed channel holds no values and nobody is queued on it.

All parcels of a bus lie on one board, `Bus.parcel?`, under the generation, the side and the key of
their wait. Each operation on the registry is described by what it does to the open channels and to
that board.
-/

namespace ChannelBus

variable {α : Type}

/-- Where the wait of a task lies. -/
structure Address where
  /-- The generation of the channel. -/
  generation : Nat
  /-- The queue of the channel. -/
  side : Side
  /-- The wait in the queue. -/
  key : Nat
deriving DecidableEq

/-- The address of the wait that a ticket names. -/
def Ticket.address (ticket : Ticket) : Address :=
  { generation := ticket.generation, side := ticket.side, key := ticket.key }

/-- What closing leaves of a channel: no values, and nobody queued. -/
structure Channel.Drained (channel : Channel α) : Prop where
  /-- Nothing is buffered. -/
  buffer : channel.buffer = []
  /-- Nobody is queued. -/
  waiting : ∀ side, (channel.queue side).waiting = []

namespace Bus

/-- All channels that were ever opened: those that still are, then the closed ones. -/
def known (bus : Bus α) : List (Channel α) :=
  bus.slots.filterMap id ++ bus.retired

/-- The channel that was given a generation. -/
def identity? (bus : Bus α) (generation : Nat) : Option (Channel α) :=
  bus.known.find? (·.generation == generation)

/-- The parcel of the wait at an address. -/
def parcel? (bus : Bus α) (address : Address) : Option (Parcel α) :=
  (bus.identity? address.generation).bind (·.parcel? address.side address.key)

/-- What holds of a registry at any time. -/
structure Sound (bus : Bus α) : Prop where
  /-- Every channel is sound. -/
  channels : ∀ channel ∈ bus.known, channel.Sound
  /-- No two channels share a generation. -/
  distinct : (bus.known.map (·.generation)).Nodup
  /-- The next generation is larger than all that were given out. -/
  fresh : ∀ channel ∈ bus.known, channel.generation < bus.nextGeneration
  /-- Closed channels are empty. -/
  drained : ∀ channel ∈ bus.retired, channel.Drained

/-! ## Two readings of the registry -/

/-- Counting keeps all channels. -/
@[simp] theorem known_note (bus : Bus α) (update : Stats → Stats) :
    (bus.note update).known = bus.known := by
  simp [known]

/-- Counting keeps the channel of every generation. -/
@[simp] theorem identity?_note (bus : Bus α) (update : Stats → Stats) (generation : Nat) :
    (bus.note update).identity? generation = bus.identity? generation := by
  simp [identity?]

/-- Counting keeps all parcels. -/
@[simp] theorem parcel?_note (bus : Bus α) (update : Stats → Stats) (address : Address) :
    (bus.note update).parcel? address = bus.parcel? address := by
  simp [parcel?]

/-- Counting keeps a registry sound. -/
@[simp] theorem sound_note (bus : Bus α) (update : Stats → Stats) :
    (bus.note update).Sound ↔ bus.Sound :=
  ⟨fun sound => ⟨by simpa using sound.channels, by simpa using sound.distinct,
      by simpa using sound.fresh, by simpa using sound.drained⟩,
    fun sound => ⟨by simpa using sound.channels, by simpa using sound.distinct,
      by simpa using sound.fresh, by simpa using sound.drained⟩⟩

/-- Counting keeps pinned channels. -/
@[simp] theorem pinned?_note (bus : Bus α) (update : Stats → Stats) (handle : Handle)
    (generation : Nat) :
    (bus.note update).pinned? handle generation = bus.pinned? handle generation := by
  simp [pinned?]

/-- Counting and replacing a channel do not meet. -/
@[simp] theorem setChannel_note (bus : Bus α) (update : Stats → Stats) (handle : Handle)
    (channel : Channel α) :
    (bus.note update).setChannel handle channel = (bus.setChannel handle channel).note update := by
  unfold note setChannel
  split <;> rfl

/-- An open channel is that of its slot. -/
theorem channel?_eq_some_iff {bus : Bus α} {handle : Handle} {channel : Channel α} :
    bus.channel? handle = some channel ↔ bus.slots[handle.id]? = some (some channel) := by
  simp [channel?, Option.join_eq_some_iff]

/-- The channels in the slots are those that are open under a handle. -/
theorem mem_slots {bus : Bus α} {channel : Channel α} :
    channel ∈ bus.slots.filterMap id ↔ ∃ handle, bus.channel? handle = some channel := by
  simp only [List.mem_filterMap, id, exists_eq_right, channel?_eq_some_iff]
  constructor
  · intro member
    obtain ⟨id, here⟩ := List.mem_iff_getElem?.mp member
    exact ⟨⟨id⟩, here⟩
  · rintro ⟨handle, here⟩
    exact List.mem_of_getElem? here

/-- The channels of a bus are the open and the closed ones. -/
theorem mem_known {bus : Bus α} {channel : Channel α} :
    channel ∈ bus.known ↔
      (∃ handle, bus.channel? handle = some channel) ∨ channel ∈ bus.retired := by
  rw [known, List.mem_append, mem_slots]

/-- The open channels are listed with their handles. -/
theorem mem_openChannels {bus : Bus α} {handle : Handle} {channel : Channel α} :
    (handle, channel) ∈ bus.openChannels ↔ bus.channel? handle = some channel := by
  simp only [openChannels, List.mem_filterMap, channel?_eq_some_iff, Prod.exists,
    Option.map_eq_some_iff, Prod.mk.injEq]
  constructor
  · rintro ⟨slot, id, member, found, rfl, rfl, rfl⟩
    exact List.mem_zipIdx_iff_getElem?.mp member
  · intro here
    exact ⟨some channel, handle.id, List.mem_zipIdx_iff_getElem?.mpr here, channel, rfl, rfl, rfl⟩

/-- The open handles are listed in ascending order. -/
theorem handles_ascending (bus : Bus α) : bus.handles.Pairwise (·.id < ·.id) := by
  have numbers : (bus.slots.zipIdx.map (·.2)).Pairwise (· < ·) := by
    rw [List.zipIdx_map_snd]
    exact List.pairwise_lt_range'
  unfold handles openChannels
  rw [List.pairwise_map, List.pairwise_filterMap]
  refine (List.pairwise_map.mp numbers).imp fun lower left first right second => ?_
  obtain ⟨_, _, rfl⟩ := Option.map_eq_some_iff.mp first
  obtain ⟨_, _, rfl⟩ := Option.map_eq_some_iff.mp second
  exact lower

/-- The listed channels are those in the slots. -/
theorem map_openChannels (bus : Bus α) :
    bus.openChannels.map (·.2) = bus.slots.filterMap id := by
  have slots : bus.slots.zipIdx.map (·.1) = bus.slots := by simp
  calc
    bus.openChannels.map (·.2) = (bus.slots.zipIdx.map (·.1)).filterMap id := by
      rw [openChannels, List.map_filterMap, List.filterMap_map]
      congr 1
      funext ⟨slot, id⟩
      cases slot <;> rfl
    _ = bus.slots.filterMap id := by rw [slots]

/-- What is gathered from the listed channels is gathered from those in the slots. -/
theorem flatMap_openChannels {β : Type} (bus : Bus α) (gather : Channel α → List β) :
    (bus.openChannels.flatMap fun entry => gather entry.2) =
      (bus.slots.filterMap id).flatMap gather := by
  rw [← map_openChannels, List.flatMap_map]

/-- A channel is pinned if it is open under the handle and has the generation. -/
theorem pinned?_eq_some_iff {bus : Bus α} {handle : Handle} {generation : Nat}
    {channel : Channel α} : bus.pinned? handle generation = some channel ↔
      bus.channel? handle = some channel ∧ channel.generation = generation := by
  simp [pinned?, Option.filter_eq_some_iff]

/-- A channel that is looked up is open. -/
theorem channel?_of_lookup {bus : Bus α} {handle : Handle} {generation : Option Nat}
    {channel : Channel α} (found : bus.lookup handle generation = some channel) :
    bus.channel? handle = some channel := by
  cases generation with
  | none => exact found
  | some generation => exact (pinned?_eq_some_iff.mp found).1

/-- Every generation that was given out names one channel. -/
theorem Sound.identity?_eq_some_iff {bus : Bus α} (sound : bus.Sound) {generation : Nat}
    {channel : Channel α} : bus.identity? generation = some channel ↔
      channel ∈ bus.known ∧ channel.generation = generation :=
  find?_number_eq_some_iff sound.distinct

/-- An open channel is that of its generation. -/
theorem Sound.identity?_of_channel? {bus : Bus α} (sound : bus.Sound) {handle : Handle}
    {channel : Channel α} (here : bus.channel? handle = some channel) :
    bus.identity? channel.generation = some channel :=
  sound.identity?_eq_some_iff.mpr ⟨mem_known.mpr (.inl ⟨handle, here⟩), rfl⟩

/-- The next generation names no channel yet. -/
theorem Sound.identity?_next {bus : Bus α} (sound : bus.Sound) {generation : Nat}
    (later : bus.nextGeneration ≤ generation) : bus.identity? generation = none := by
  cases found : bus.identity? generation with
  | none => rfl
  | some channel =>
    obtain ⟨member, rfl⟩ := sound.identity?_eq_some_iff.mp found
    exact absurd (sound.fresh channel member) (Nat.not_lt.mpr later)

/-- Open channels are sound. -/
theorem Sound.of_channel? {bus : Bus α} (sound : bus.Sound) {handle : Handle}
    {channel : Channel α} (here : bus.channel? handle = some channel) : channel.Sound :=
  sound.channels channel (mem_known.mpr (.inl ⟨handle, here⟩))

/-- Parcels on an open channel are found on the board of the bus. -/
theorem Sound.parcel?_of_channel? {bus : Bus α} (sound : bus.Sound) {handle : Handle}
    {channel : Channel α} (here : bus.channel? handle = some channel) (side : Side) (key : Nat) :
    bus.parcel? ⟨channel.generation, side, key⟩ = channel.parcel? side key := by
  simp [parcel?, sound.identity?_of_channel? here]

/-! ## Replacing a channel -/

/-- The channels that remain when one slot is disregarded. -/
def others (bus : Bus α) (handle : Handle) : List (Channel α) :=
  (bus.slots.set handle.id none).filterMap id ++ bus.retired

/-- A slot's channel can be put before all the others. -/
theorem slots_split {slots : List (Option (Channel α))} {index : Nat} {channel : Channel α}
    (here : slots[index]? = some (some channel)) :
    (slots.filterMap id).Perm (channel :: (slots.set index none).filterMap id) := by
  induction slots generalizing index with
  | nil => simp at here
  | cons first rest ih =>
    cases index with
    | zero =>
      obtain rfl : first = some channel := by simpa using here
      simp
    | succ index =>
      have later := ih (by simpa using here)
      cases first with
      | none => simpa using later
      | some other =>
        simp only [List.set_cons_succ, List.filterMap_cons, id]
        exact (later.cons other).trans (List.Perm.swap _ _ _)

/-- An open channel can be put before all the others. -/
theorem known_split {bus : Bus α} {handle : Handle} {channel : Channel α}
    (here : bus.channel? handle = some channel) :
    bus.known.Perm (channel :: bus.others handle) :=
  (slots_split (channel?_eq_some_iff.mp here)).append_right _

/-- Between two buses one channel was replaced by another of its generation. -/
structure Replaces (bus after : Bus α) (old new : Channel α) : Prop where
  /-- All other channels are the same. -/
  known : ∃ rest, bus.known.Perm (old :: rest) ∧ after.known.Perm (new :: rest)
  /-- The generation is kept. -/
  generation : new.generation = old.generation
  /-- No generation was given out. -/
  nextGeneration : after.nextGeneration = bus.nextGeneration

/-- Replacing a channel keeps generations distinct. -/
theorem Replaces.distinct {bus after : Bus α} {old new : Channel α}
    (replaces : bus.Replaces after old new) (distinct : (bus.known.map (·.generation)).Nodup) :
    (after.known.map (·.generation)).Nodup := by
  obtain ⟨rest, original, replaced⟩ := replaces.known
  have before := (original.map (·.generation)).nodup_iff.mp distinct
  refine (replaced.map (·.generation)).nodup_iff.mpr ?_
  rw [List.map_cons, replaces.generation]
  exact before

/-- Replacing a channel by a sound one keeps a registry sound. -/
theorem Replaces.sound {bus after : Bus α} {old new : Channel α}
    (replaces : bus.Replaces after old new) (sound : bus.Sound) (newSound : new.Sound)
    (drained : ∀ channel ∈ after.retired, channel.Drained) : after.Sound := by
  obtain ⟨rest, original, replaced⟩ := replaces.known
  refine ⟨fun channel member => ?_, replaces.distinct sound.distinct,
    fun channel member => ?_, drained⟩
  · rcases List.mem_cons.mp (replaced.mem_iff.mp member) with rfl | kept
    · exact newSound
    · exact sound.channels channel (original.mem_iff.mpr (List.mem_cons_of_mem _ kept))
  · rw [replaces.nextGeneration]
    rcases List.mem_cons.mp (replaced.mem_iff.mp member) with rfl | kept
    · rw [replaces.generation]
      exact sound.fresh old (original.mem_iff.mpr List.mem_cons_self)
    · exact sound.fresh channel (original.mem_iff.mpr (List.mem_cons_of_mem _ kept))

/-- The generation of the replaced channel names the new one, all others name what they did. -/
theorem Replaces.identity? {bus after : Bus α} {old new : Channel α}
    (replaces : bus.Replaces after old new) (sound : bus.Sound) (generation : Nat) :
    after.identity? generation =
      if generation = old.generation then some new else bus.identity? generation := by
  obtain ⟨rest, original, replaced⟩ := replaces.known
  rw [Bus.identity?, find?_number_perm replaced (replaces.distinct sound.distinct),
    Bus.identity?, find?_number_perm original sound.distinct]
  by_cases same : generation = old.generation
  · simp [same, replaces.generation]
  · simp [same, replaces.generation, Ne.symm same]

/-- The board after a channel was replaced. -/
theorem Replaces.parcel? {bus after : Bus α} {old new : Channel α}
    (replaces : bus.Replaces after old new) (sound : bus.Sound) (address : Address) :
    after.parcel? address =
      if address.generation = old.generation then new.parcel? address.side address.key
      else bus.parcel? address := by
  rw [Bus.parcel?, replaces.identity? sound]
  split
  · rfl
  · rfl

/-- The open channels after the channel of one slot was replaced. -/
theorem channel?_setChannel {bus : Bus α} {handle : Handle} {channel : Channel α}
    (here : bus.channel? handle = some channel) (new : Channel α) (other : Handle) :
    (bus.setChannel handle new).channel? other =
      if other = handle then some new else bus.channel? other := by
  have inside := (List.getElem?_eq_some_iff.mp (channel?_eq_some_iff.mp here)).1
  by_cases same : other = handle
  · subst same
    simp [channel?, setChannel, inside]
  · have ids : handle.id ≠ other.id := fun equal => same (by
      cases handle; cases other; simp_all)
    simp [channel?, setChannel, List.getElem?_set_ne ids, same]

/-- Replacing the channel of a slot. -/
theorem replaces_setChannel {bus : Bus α} {handle : Handle} {channel new : Channel α}
    (here : bus.channel? handle = some channel) (same : new.generation = channel.generation) :
    bus.Replaces (bus.setChannel handle new) channel new := by
  have after : (bus.setChannel handle new).channel? handle = some new := by
    simp [channel?_setChannel here]
  refine ⟨⟨bus.others handle, known_split here, ?_⟩, same, rfl⟩
  have split := known_split after
  simpa [others, setChannel] using split

/-- A registry stays sound when an open channel is replaced by a sound one. -/
theorem Sound.setChannel {bus : Bus α} (sound : bus.Sound) {handle : Handle}
    {channel new : Channel α} (here : bus.channel? handle = some channel)
    (same : new.generation = channel.generation) (newSound : new.Sound) :
    (bus.setChannel handle new).Sound :=
  (replaces_setChannel here same).sound sound newSound sound.drained

/-- The board after an open channel was replaced. -/
theorem Sound.parcel?_setChannel {bus : Bus α} (sound : bus.Sound) {handle : Handle}
    {channel new : Channel α} (here : bus.channel? handle = some channel)
    (same : new.generation = channel.generation) (address : Address) :
    (bus.setChannel handle new).parcel? address =
      if address.generation = channel.generation then new.parcel? address.side address.key
      else bus.parcel? address :=
  (replaces_setChannel here same).parcel? sound address

end Bus

end ChannelBus
