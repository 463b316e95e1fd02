import ChannelBus.Proofs.Effects

/-!
# The life of a generation

A generation is given out once. Its channel is open for a while, under one handle, and once it is
closed it stays so, whatever is opened under the handle later. `Bus.Evolves` says of each move what
it does to the registry and nothing else: it opens a channel, closes some, or leaves them open with
the capacities that they had.
-/

namespace ChannelBus

variable {α : Type}

namespace Bus

/-- Whether a channel of this generation is open. -/
def isOpenAs (bus : Bus α) (generation : Nat) : Bool :=
  bus.openChannels.any (·.2.generation == generation)

/-- A generation was given out and is not open any more. -/
def Spent (bus : Bus α) (generation : Nat) : Prop :=
  generation < bus.nextGeneration ∧ bus.isOpenAs generation = false

/-- Some channel of the generation is open. -/
theorem isOpenAs_iff {bus : Bus α} {generation : Nat} : bus.isOpenAs generation = true ↔
    ∃ handle channel, bus.channel? handle = some channel ∧ channel.generation = generation := by
  simp only [isOpenAs, List.any_eq_true, beq_iff_eq, Prod.exists, mem_openChannels]

/-- The generation of an open channel was given out. -/
theorem Sound.generation_lt {bus : Bus α} (sound : bus.Sound) {handle : Handle}
    {channel : Channel α} (here : bus.channel? handle = some channel) :
    channel.generation < bus.nextGeneration :=
  sound.fresh channel (mem_known.mpr (.inl ⟨handle, here⟩))

/-- No open channel has a generation that is not open. -/
theorem generation_ne_of_closed {bus : Bus α} {generation : Nat}
    (closed : bus.isOpenAs generation = false) {handle : Handle} {channel : Channel α}
    (here : bus.channel? handle = some channel) : channel.generation ≠ generation := by
  intro same
  rw [isOpenAs_iff.mpr ⟨handle, channel, here, same⟩] at closed
  contradiction

/-- The same generations are open as long as the same channels are. -/
theorem isOpenAs_of_generations {bus after : Bus α}
    (same : ∀ handle, (after.channel? handle).map (·.generation) =
      (bus.channel? handle).map (·.generation)) (generation : Nat) :
    after.isOpenAs generation = bus.isOpenAs generation := by
  have readings : ∀ bus : Bus α, bus.isOpenAs generation = true ↔
      ∃ handle, (bus.channel? handle).map (·.generation) = some generation := by
    intro bus
    simp only [isOpenAs_iff, Option.map_eq_some_iff]
  rw [Bool.eq_iff_iff, readings, readings]
  simp only [same]

/-- Nothing was opened or closed between two states of a bus. -/
structure Stays (bus after : Bus α) : Prop where
  /-- The same channels are open under the same handles. -/
  generations : ∀ handle, (after.channel? handle).map (·.generation) =
    (bus.channel? handle).map (·.generation)
  /-- Every generation has the capacity that it had. -/
  capacities : ∀ generation, (after.identity? generation).map (·.capacity) =
    (bus.identity? generation).map (·.capacity)
  /-- No generation was given out. -/
  nextGeneration : after.nextGeneration = bus.nextGeneration

/-- What a move may do to the registry. -/
inductive Evolves (bus : Bus α) : Bus α → Prop where
  /-- Nothing is opened or closed. -/
  | stays {after : Bus α} (stays : bus.Stays after) : Evolves bus after
  /-- A channel is opened. -/
  | opens {after : Bus α} {handle : Handle} {capacity : Nat}
    (opens : bus.Opens after handle capacity) : Evolves bus after
  /-- A generation is used up. -/
  | skips : Evolves bus { bus with nextGeneration := bus.nextGeneration + 1 }
  /-- Channels are closed. -/
  | shuts {after : Bus α} {handles : List Handle} (shuts : bus.Shuts after handles) :
    Evolves bus after

/-- A bus stays as it is when it is not touched. -/
theorem Stays.refl (bus : Bus α) : bus.Stays bus :=
  ⟨fun _ => rfl, fun _ => rfl, rfl⟩

/-- What stays twice stays. -/
theorem Stays.trans {bus middle after : Bus α} (first : bus.Stays middle)
    (second : middle.Stays after) : bus.Stays after :=
  ⟨fun handle => (second.generations handle).trans (first.generations handle),
    fun generation => (second.capacities generation).trans (first.capacities generation),
    second.nextGeneration.trans first.nextGeneration⟩

/-- Nothing is opened or closed by a try. -/
theorem Tries.stays {bus after : Bus α} {call : Call α} {suspended? : Option (Suspended α)}
    (tries : bus.Tries after call suspended?) : bus.Stays after :=
  ⟨tries.generations, tries.capacities, tries.nextGeneration⟩

/-- Nothing is opened or closed when a parked call goes away. -/
theorem Clears.stays {bus after : Bus α} {address : Address}
    (clears : bus.Clears after address) : bus.Stays after :=
  ⟨clears.generations, clears.capacities, clears.nextGeneration⟩

/-- The same generations are spent while nothing is opened or closed. -/
theorem Stays.spent_iff {bus after : Bus α} (stays : bus.Stays after) (generation : Nat) :
    after.Spent generation ↔ bus.Spent generation := by
  rw [Spent, Spent, stays.nextGeneration, isOpenAs_of_generations stays.generations]

/-- A channel that is closed leaves a spent generation. -/
theorem Shuts.spent {bus after : Bus α} {handles : List Handle}
    (shuts : bus.Shuts after handles) (sound : bus.Sound) {handle : Handle}
    (inside : handle ∈ handles) {channel : Channel α}
    (here : bus.channel? handle = some channel) : after.Spent channel.generation := by
  refine ⟨shuts.nextGeneration ▸ sound.generation_lt here, Bool.eq_false_iff.mpr fun opened => ?_⟩
  obtain ⟨other, still, there, same⟩ := isOpenAs_iff.mp opened
  rw [shuts.channel?] at there
  split at there
  case isTrue => contradiction
  case isFalse outside =>
    obtain rfl := sound.handle_unique there here same
    exact outside inside

/-- Generations are given out in ascending order. -/
theorem Evolves.nextGeneration_le {bus after : Bus α} (evolves : bus.Evolves after) :
    bus.nextGeneration ≤ after.nextGeneration := by
  cases evolves with
  | stays stays => exact Nat.le_of_eq stays.nextGeneration.symm
  | skips => exact Nat.le_succ _
  | opens opens => exact opens.nextGeneration ▸ Nat.le_succ _
  | shuts shuts => exact Nat.le_of_eq shuts.nextGeneration.symm

/-- A spent generation stays spent. -/
theorem Evolves.spent {bus after : Bus α} (evolves : bus.Evolves after) {generation : Nat}
    (spent : bus.Spent generation) : after.Spent generation := by
  obtain ⟨given, closed⟩ := spent
  cases evolves with
  | stays stays => exact (stays.spent_iff generation).mpr ⟨given, closed⟩
  | skips => exact ⟨Nat.lt_succ_of_lt given, closed⟩
  | opens opens =>
    refine ⟨opens.nextGeneration ▸ Nat.lt_succ_of_lt given, Bool.eq_false_iff.mpr fun opened => ?_⟩
    obtain ⟨handle, channel, here, same⟩ := isOpenAs_iff.mp opened
    rw [opens.channel?] at here
    split at here
    case isTrue =>
      obtain rfl := Option.some.inj here
      exact Nat.lt_irrefl _ (same ▸ given)
    case isFalse => exact generation_ne_of_closed closed here same
  | shuts shuts =>
    refine ⟨shuts.nextGeneration ▸ given, Bool.eq_false_iff.mpr fun opened => ?_⟩
    obtain ⟨handle, channel, here, same⟩ := isOpenAs_iff.mp opened
    rw [shuts.channel?] at here
    split at here
    case isTrue => contradiction
    case isFalse => exact generation_ne_of_closed closed here same

/-- A generation keeps its capacity for good. -/
theorem Evolves.capacity {bus after : Bus α} (evolves : bus.Evolves after) (sound : bus.Sound)
    {generation capacity : Nat}
    (named : (bus.identity? generation).map (·.capacity) = some capacity) :
    (after.identity? generation).map (·.capacity) = some capacity := by
  cases evolves with
  | stays stays => exact (stays.capacities generation).trans named
  | skips => exact named
  | opens opens =>
    rw [opens.identity? sound]
    split
    case isTrue same =>
      rw [same, sound.identity?_next (Nat.le_refl _)] at named
      contradiction
    case isFalse => exact named
  | shuts shuts =>
    rcases shuts.identity?_cases sound generation with same | closing
    · rwa [same]
    · obtain ⟨handle, _, channel, here, rfl, closed⟩ := closing
      rw [sound.identity?_of_channel? here] at named
      rw [closed]
      exact named

/-- A channel of this generation was closed. -/
def Closed (bus : Bus α) (generation : Nat) : Prop :=
  ∃ channel ∈ bus.retired, channel.generation = generation

/-- A generation that was given to a channel is spent once the channel is closed. -/
theorem Sound.closed_iff {bus : Bus α} (sound : bus.Sound) {generation : Nat} :
    bus.Closed generation ↔ bus.Spent generation ∧ (bus.identity? generation).isSome = true := by
  constructor
  · rintro ⟨channel, retired, rfl⟩
    have member : channel ∈ bus.known := mem_known.mpr (.inr retired)
    refine ⟨⟨sound.fresh channel member, Bool.eq_false_iff.mpr fun opened => ?_⟩, ?_⟩
    · obtain ⟨handle, another, here, same⟩ := isOpenAs_iff.mp opened
      have inSlots : another ∈ bus.slots.filterMap id := mem_slots.mpr ⟨handle, here⟩
      have distinct := sound.distinct
      rw [known, List.map_append] at distinct
      exact (List.nodup_append.mp distinct).2.2 _ (List.mem_map_of_mem inSlots) _
        (List.mem_map_of_mem retired) same
    · rw [sound.identity?_eq_some_iff.mpr ⟨member, rfl⟩]
      rfl
  · rintro ⟨spent, given⟩
    obtain ⟨channel, named⟩ := Option.isSome_iff_exists.mp given
    obtain ⟨known, same⟩ := sound.identity?_eq_some_iff.mp named
    rcases mem_known.mp known with ⟨handle, here⟩ | retired
    · exact absurd same (generation_ne_of_closed spent.2 here)
    · exact ⟨channel, retired, same⟩

/-- A closed channel stays closed. -/
theorem Evolves.closed {bus after : Bus α} (evolves : bus.Evolves after) (sound : bus.Sound)
    (soundAfter : after.Sound) {generation : Nat} (closed : bus.Closed generation) :
    after.Closed generation := by
  obtain ⟨spent, given⟩ := sound.closed_iff.mp closed
  obtain ⟨channel, named⟩ := Option.isSome_iff_exists.mp given
  have kept : (after.identity? generation).map (·.capacity) = some channel.capacity :=
    evolves.capacity sound (by rw [named]; rfl)
  obtain ⟨remains, still, _⟩ := Option.map_eq_some_iff.mp kept
  exact soundAfter.closed_iff.mpr ⟨evolves.spent spent, by rw [still]; rfl⟩

end Bus

namespace Session

variable {session : Session α}

/-- A call or a transfer opens and closes nothing. -/
theorem Effect.stays {move : Move α} {status : Status α} {after : Bus α}
    (effect : session.Effect move (some status) after) (lawful : session.Lawful) :
    session.bus.Stays after := by
  have sound := lawful.housed.sound
  cases effect with
  | @refused _ call asked error => exact (sound.tries_note _ call).stays
  | moved asked named here moves becomes =>
    exact (becomes.tries_of_moves moves sound here).1.stays
  | @spread value spare =>
    refine (sound.tries_giveAll (fun handle channel here => ?_) value (.broadcast value)).stays
    simp [Channel.canAccept, spare handle channel here]
  | started acts => exact (acts.tries sound).stays
  | @refreshed id waker suspended waits queued =>
    have houses := lawful.housed.houses id suspended waits
    obtain ⟨_, generations, _⟩ := houses.refresh sound waker
    exact ⟨generations, houses.capacities sound _, Bus.nextGeneration_setTicketQueue _ _ _⟩
  | @settled id waker suspended parcel reply waits dequeued held happened =>
    exact ((lawful.housed.houses id suspended waits).clears_forget sound dequeued).stays
  | @retried id waker suspended parcel progress _ waits dequeued held unsettled acts =>
    have clears := (lawful.housed.houses id suspended waits).clears_forget sound dequeued
    exact clears.stays.trans (acts.tries clears.sound).stays
  | @dropped id suspended waits =>
    exact ((lawful.housed.houses id suspended waits).clears_leave sound).stays

/-- What every move does to the registry. -/
theorem Effect.evolves {move : Move α} {result : Option (Status α)} {after : Bus α}
    (effect : session.Effect move result after) (lawful : session.Lawful) :
    session.bus.Evolves after := by
  cases result with
  | some status => exact .stays (effect.stays lawful)
  | none =>
    cases effect with
    | idle => exact .stays (.refl _)
    | opened opens => exact .opens opens
    | skipped => exact .skips
    | shut shuts => exact .shuts shuts

section Running

variable [Stored α]

/-- What every move of a session does to the registry. -/
theorem Lawful.evolves (lawful : session.Lawful) (move : Move α) :
    session.bus.Evolves (session.step move).bus :=
  (effect lawful move).evolves lawful

/-- A generation that is spent is never open again. -/
theorem Lawful.spent_run (lawful : session.Lawful) {generation : Nat}
    (spent : session.bus.Spent generation) (moves : List (Move α)) :
    (session.run moves).bus.Spent generation := by
  induction moves generalizing session with
  | nil => exact spent
  | cons move rest ih => exact ih (lawful.step move) ((lawful.evolves move).spent spent)

/-- A generation keeps its capacity throughout a run. -/
theorem Lawful.capacity_run (lawful : session.Lawful) {generation capacity : Nat}
    (named : (session.bus.identity? generation).map (·.capacity) = some capacity)
    (moves : List (Move α)) :
    ((session.run moves).bus.identity? generation).map (·.capacity) = some capacity := by
  induction moves generalizing session with
  | nil => exact named
  | cons move rest ih =>
    exact ih (lawful.step move) ((lawful.evolves move).capacity lawful.housed.sound named)

end Running

end Session

end ChannelBus
