import ChannelBus.Proofs.Queue

/-!
# What channels keep

`Channel.Sound` is the invariant of one channel: the buffer stays within the capacity and both
queues are orderly. Every change of a channel is a change of its buffer, a replaced queue, or both,
so the invariant and the board of parcels are followed through `pushMany`, `popMany` and `setQueue`
alone. A single value moves like a batch of one.
-/

namespace ChannelBus

variable {α : Type}

namespace Channel

/-- What holds of a channel at any time. -/
structure Sound (channel : Channel α) : Prop where
  /-- The buffer stays within the capacity. -/
  bounded : channel.length ≤ channel.capacity
  /-- Both queues are orderly. -/
  orderly : ∀ side, (channel.queue side).Orderly side channel.isRendezvous

/-- The parcel of a wait on one side of the channel. -/
def parcel? (channel : Channel α) (side : Side) (key : Nat) : Option (Parcel α) :=
  (channel.queue side).parcel? key

/-- What a blocking send needs: free places in the buffer, or receivers waiting for a rendezvous. -/
def room (channel : Channel α) : Nat :=
  if channel.isRendezvous then channel.receivers.length else channel.freeSpace

/-- A new channel is sound. -/
theorem sound_new (capacity generation : Nat) : (new capacity generation : Channel α).Sound :=
  ⟨Nat.zero_le _, fun side => by
    cases side <;> exact WaitQueue.orderly_new _ _⟩

/-- Nobody has left a parcel on a new channel. -/
@[simp] theorem parcel?_new (capacity generation : Nat) (side : Side) (key : Nat) :
    (new capacity generation : Channel α).parcel? side key = none := by
  cases side <;> rfl

/-! ## Replacing a queue -/

/-- Replacing a queue does not change whether values are buffered. -/
@[simp] theorem isRendezvous_setQueue (channel : Channel α) (side : Side) (queue : WaitQueue α) :
    (channel.setQueue side queue).isRendezvous = channel.isRendezvous := by
  cases side <;> rfl

/-- Replacing a queue by itself changes nothing. -/
theorem setQueue_self (channel : Channel α) (side : Side) :
    channel.setQueue side (channel.queue side) = channel := by
  cases side <;> rfl

/-- The queues after one of them was replaced. -/
theorem queue_setQueue_eq (channel : Channel α) (side other : Side) (queue : WaitQueue α) :
    (channel.setQueue side queue).queue other =
      if other = side then queue else channel.queue other := by
  cases side <;> cases other <;> rfl

/-- A sound channel stays sound when a queue is replaced by an orderly one. -/
theorem Sound.setQueue {channel : Channel α} (sound : channel.Sound) {side : Side}
    {queue : WaitQueue α} (orderly : queue.Orderly side channel.isRendezvous) :
    (channel.setQueue side queue).Sound := by
  refine ⟨?_, fun other => ?_⟩
  · simpa [length] using sound.bounded
  · rw [isRendezvous_setQueue, queue_setQueue_eq]
    split
    case isTrue same => exact same ▸ orderly
    case isFalse => exact sound.orderly other

/-- The board after a queue was replaced. -/
theorem parcel?_setQueue (channel : Channel α) (side other : Side) (queue : WaitQueue α)
    (key : Nat) : (channel.setQueue side queue).parcel? other key =
      if other = side then queue.parcel? key else channel.parcel? other key := by
  unfold parcel?
  rw [queue_setQueue_eq]
  split <;> rfl

/-- Waking keeps a channel sound. -/
theorem Sound.wake {channel : Channel α} (sound : channel.Sound) (side : Side) (count : Nat) :
    (channel.wake side count).Sound :=
  sound.setQueue ((sound.orderly side).wake count)

/-- Waking changes no parcel. -/
theorem Sound.parcel?_wake {channel : Channel α} (sound : channel.Sound) (side other : Side)
    (count key : Nat) :
    (channel.wake side count).parcel? other key = channel.parcel? other key := by
  rw [Channel.wake, parcel?_setQueue]
  split
  case isTrue same => rw [same, (sound.orderly side).keyed.parcel?_wake, parcel?]
  case isFalse => rfl

/-- Waking keeps the generation. -/
@[simp] theorem generation_wake (channel : Channel α) (side : Side) (count : Nat) :
    (channel.wake side count).generation = channel.generation :=
  generation_setQueue _ _ _

/-- Waking keeps the capacity. -/
@[simp] theorem capacity_wake (channel : Channel α) (side : Side) (count : Nat) :
    (channel.wake side count).capacity = channel.capacity :=
  capacity_setQueue _ _ _

/-- Waking keeps the buffer. -/
@[simp] theorem buffer_wake (channel : Channel α) (side : Side) (count : Nat) :
    (channel.wake side count).buffer = channel.buffer :=
  buffer_setQueue _ _ _

/-- Parking keeps a channel sound if its side parks such parcels. -/
theorem Sound.park {channel : Channel α} (sound : channel.Sound) {side : Side} {parcel : Parcel α}
    (allowed : side.mayQueue parcel = true) (waker : Option TaskId) :
    (channel.park side parcel waker).Sound :=
  sound.setQueue ((sound.orderly side).park allowed waker)

/-- Parking puts one parcel on the board. -/
theorem Sound.parcel?_park {channel : Channel α} (sound : channel.Sound) (side other : Side)
    (parcel : Parcel α) (waker : Option TaskId) (key : Nat) :
    (channel.park side parcel waker).parcel? other key =
      if other = side ∧ key = (channel.queue side).nextKey then some parcel
      else channel.parcel? other key := by
  rw [Channel.park, parcel?_setQueue, (sound.orderly side).keyed.parcel?_park]
  by_cases same : other = side
  · subst same
    by_cases next : key = (channel.queue other).nextKey
    · simp [next]
    · simp [next, parcel?]
  · simp [same]

/-- Parking keeps the generation. -/
@[simp] theorem generation_park (channel : Channel α) (side : Side) (parcel : Parcel α)
    (waker : Option TaskId) : (channel.park side parcel waker).generation = channel.generation :=
  generation_setQueue _ _ _

/-- Parking keeps the capacity. -/
@[simp] theorem capacity_park (channel : Channel α) (side : Side) (parcel : Parcel α)
    (waker : Option TaskId) : (channel.park side parcel waker).capacity = channel.capacity :=
  capacity_setQueue _ _ _

/-- Parking keeps the buffer. -/
@[simp] theorem buffer_park (channel : Channel α) (side : Side) (parcel : Parcel α)
    (waker : Option TaskId) : (channel.park side parcel waker).buffer = channel.buffer :=
  buffer_setQueue _ _ _

/-! ## Moving values through the buffer -/

/-- Appending what fits keeps a channel sound. -/
theorem Sound.pushMany {channel : Channel α} (sound : channel.Sound) (values : List α) :
    (channel.pushMany values).Sound :=
  ⟨channel.length_pushMany_le values sound.bounded, fun side => by
    cases side
    · exact sound.orderly .senders
    · exact sound.orderly .receivers⟩

/-- Removing values keeps a channel sound. -/
theorem Sound.popMany {channel : Channel α} (sound : channel.Sound) (max : Nat) :
    (channel.popMany max).Sound := by
  refine ⟨?_, fun side => ?_⟩
  · have bounded := sound.bounded
    simp only [length, Channel.popMany, List.length_drop] at *
    omega
  · cases side
    · exact sound.orderly .senders
    · exact sound.orderly .receivers

/-- Accepting values keeps a channel sound. -/
theorem Sound.acceptMany {channel : Channel α} (sound : channel.Sound) (values : List α) :
    (channel.acceptMany values).2.Sound :=
  (sound.pushMany values).wake .receivers (channel.fitting values).length

/-- Releasing values keeps a channel sound. -/
theorem Sound.releaseMany {channel : Channel α} (sound : channel.Sound) (max : Nat) :
    (channel.releaseMany max).2.Sound :=
  (sound.popMany max).wake .senders (channel.oldest max).length

/-- Accepting values changes no parcel. -/
theorem Sound.parcel?_acceptMany {channel : Channel α} (sound : channel.Sound) (values : List α)
    (side : Side) (key : Nat) :
    (channel.acceptMany values).2.parcel? side key = channel.parcel? side key := by
  refine ((sound.pushMany values).parcel?_wake .receivers side
    (channel.fitting values).length key).trans ?_
  cases side <;> rfl

/-- Releasing values changes no parcel. -/
theorem Sound.parcel?_releaseMany {channel : Channel α} (sound : channel.Sound) (max : Nat)
    (side : Side) (key : Nat) :
    (channel.releaseMany max).2.parcel? side key = channel.parcel? side key := by
  refine ((sound.popMany max).parcel?_wake .senders side
    (channel.oldest max).length key).trans ?_
  cases side <;> rfl

/-- Accepting values appends those that fit. -/
@[simp] theorem buffer_acceptMany (channel : Channel α) (values : List α) :
    (channel.acceptMany values).2.buffer = channel.buffer ++ channel.fitting values := rfl

/-- Accepting values keeps the capacity. -/
@[simp] theorem capacity_acceptMany (channel : Channel α) (values : List α) :
    (channel.acceptMany values).2.capacity = channel.capacity := rfl

/-- Releasing values removes the oldest. -/
@[simp] theorem buffer_releaseMany (channel : Channel α) (max : Nat) :
    (channel.releaseMany max).2.buffer = channel.buffer.drop max := rfl

/-- Releasing values keeps the capacity. -/
@[simp] theorem capacity_releaseMany (channel : Channel α) (max : Nat) :
    (channel.releaseMany max).2.capacity = channel.capacity := rfl

/-- A channel is full exactly if it has no free place. -/
theorem isFull_iff {channel : Channel α} : channel.isFull = true ↔ channel.freeSpace = 0 := by
  simp only [isFull, freeSpace, decide_eq_true_eq]
  omega

/-- A single value fits unless the channel is full. -/
theorem fitting_singleton {channel : Channel α} (spare : channel.isFull = false) (value : α) :
    channel.fitting [value] = [value] := by
  have free : channel.freeSpace ≠ 0 := fun none => by simp [isFull_iff.mpr none] at spare
  exact List.take_of_length_le (Nat.one_le_iff_ne_zero.mpr free)

/-- A single value is accepted like a batch of one. -/
theorem accept_eq (channel : Channel α) (value : α) :
    channel.accept value = if channel.isFull then none else some (channel.acceptMany [value]) := by
  cases full : channel.isFull with
  | true => simp [accept, tryPush, full]
  | false =>
    simp [accept, tryPush, full, acceptMany, Channel.pushMany, fitting_singleton full]

/-- A single value is released like a batch of one. -/
theorem release_eq (channel : Channel α) :
    channel.release = channel.buffer.head?.map fun value => (value, channel.releaseMany 1) := by
  cases held : channel.buffer with
  | nil => simp [release, tryPop, held]
  | cons value rest =>
    simp [release, tryPop, held, releaseMany, Channel.popMany, oldest]

/-- Some of the values fit if the channel is not full. -/
theorem fitting_ne_nil {channel : Channel α} {values : List α} (given : values ≠ [])
    (spare : channel.isFull = false) : channel.fitting values ≠ [] := by
  have free : channel.freeSpace ≠ 0 := fun none => by simp [isFull_iff.mpr none] at spare
  simp [fitting, given, free]

/-! ## Handing over -/

/-- A hand-off gives the value to the receiver that has waited longest. -/
theorem Sound.handOff_eq_some {channel after : Channel α} (sound : channel.Sound) {value : α}
    {served : Wait α} (handed : channel.handOff value = some (served, after)) :
    channel.isRendezvous = true ∧ ∃ wait later, channel.receivers.waiting = wait :: later ∧
      wait.parcel = .empty ∧ served = { wait with parcel := .delivered value } ∧
      after = channel.setQueue .receivers
        (channel.receivers.settle wait (.delivered value) later) := by
  unfold handOff at handed
  split at handed
  case isFalse => contradiction
  case isTrue rendezvous =>
    simp only [Option.map_eq_some_iff, Prod.mk.injEq] at handed
    obtain ⟨⟨served', queue⟩, delivered, rfl, rfl⟩ := handed
    obtain ⟨wait, before, later, split, held, refused, rfl, rfl⟩ :=
      WaitQueue.deliverFirst_eq_some delivered
    have first : before = [] := by
      refine List.eq_nil_iff_forall_not_mem.mpr fun earlier member => ?_
      have queued := (sound.orderly .receivers).queued earlier
        (show earlier ∈ channel.receivers.waiting from split ▸ List.mem_append_left _ member)
      have occupied := refused earlier member
      cases parcel : earlier.parcel <;> simp_all [Side.mayQueue, Parcel.isEmpty]
    subst first
    exact ⟨rendezvous, wait, later, split, held, rfl, rfl⟩

/-- A value can be handed off exactly if a receiver waits for a rendezvous. -/
theorem Sound.handOff_eq_none_iff {channel : Channel α} (sound : channel.Sound) {value : α} :
    channel.handOff value = none ↔
      channel.isRendezvous = true → channel.receivers.waiting = [] := by
  unfold handOff
  split
  case isFalse plain => simp [plain]
  case isTrue rendezvous =>
    simp only [Option.map_eq_none_iff, WaitQueue.deliverFirst_eq_none_iff, rendezvous,
      forall_const]
    constructor
    · intro refused
      refine List.eq_nil_iff_forall_not_mem.mpr fun wait member => ?_
      have queued := (sound.orderly .receivers).queued wait member
      have occupied := refused wait member
      cases parcel : wait.parcel <;> simp_all [Side.mayQueue, Parcel.isEmpty]
    · intro empty
      simp [empty]

/-- A taken offer is that of the longest waiting sender that has one; those before it are
broadcasters. -/
theorem Sound.takeOffer_eq_some {channel after : Channel α} {value : α}
    {settled : Wait α} (taken : channel.takeOffer = some (value, settled, after)) :
    channel.isRendezvous = true ∧ ∃ wait before later,
      channel.senders.waiting = before ++ wait :: later ∧ wait.parcel = .offered value ∧
      (∀ earlier ∈ before, earlier.parcel.offer? = none) ∧
      settled = { wait with parcel := .taken } ∧
      after = channel.setQueue .senders
        (channel.senders.settle wait .taken (before ++ later)) := by
  unfold takeOffer at taken
  split at taken
  case isFalse => contradiction
  case isTrue rendezvous =>
    simp only [Option.map_eq_some_iff, Prod.mk.injEq] at taken
    obtain ⟨⟨offer, settled', queue⟩, found, rfl, rfl, rfl⟩ := taken
    obtain ⟨wait, before, later, split, held, refused, rfl, rfl⟩ :=
      WaitQueue.takeFirstOffer_eq_some found
    exact ⟨rendezvous, wait, before, later, split, held, refused, rfl, rfl⟩

/-- A transfer between two tasks keeps a rendezvous channel sound. -/
theorem Sound.settle {channel : Channel α} (sound : channel.Sound)
    (rendezvous : channel.isRendezvous = true) {side : Side} {wait : Wait α} {parcel : Parcel α}
    {before later : List (Wait α)}
    (split : (channel.queue side).waiting = before ++ wait :: later)
    (allowed : side.mayWake parcel = true) :
    (channel.setQueue side ((channel.queue side).settle wait parcel (before ++ later))).Sound := by
  refine sound.setQueue ?_
  have orderly := sound.orderly side
  rw [rendezvous] at orderly ⊢
  exact orderly.settle split allowed

/-- A transfer between two tasks changes one parcel on the board. -/
theorem Sound.parcel?_settle {channel : Channel α} (sound : channel.Sound) {side other : Side}
    {wait : Wait α} {parcel : Parcel α} {before later : List (Wait α)}
    (split : (channel.queue side).waiting = before ++ wait :: later) (key : Nat) :
    (channel.setQueue side
        ((channel.queue side).settle wait parcel (before ++ later))).parcel? other key =
      if other = side ∧ key = wait.key then some parcel else channel.parcel? other key := by
  rw [parcel?_setQueue, (sound.orderly side).keyed.parcel?_settle split]
  by_cases same : other = side
  · subst same
    by_cases here : key = wait.key
    · simp [here]
    · simp [here, parcel?]
  · simp [same]

/-! ## Readiness -/

/-- A sound channel can accept a value exactly if it has room. -/
theorem Sound.canAccept_iff {channel : Channel α} (sound : channel.Sound) :
    channel.canAccept = true ↔ 0 < channel.room := by
  have bounded := sound.bounded
  cases rendezvous : channel.isRendezvous with
  | true =>
    have full : channel.isFull = true := by
      have zero : channel.capacity = 0 := by simpa [isRendezvous] using rendezvous
      simp [isFull, zero]
    simp [canAccept, room, rendezvous, full, WaitQueue.isEmpty, WaitQueue.length,
      List.length_pos_iff]
  | false =>
    simp only [canAccept, room, rendezvous, isFull, freeSpace, Bool.false_and, Bool.or_false,
      Bool.false_eq_true, if_false, Bool.not_eq_true', decide_eq_false_iff_not, Nat.not_le]
    omega

/-- A channel of capacity zero is always full and empty. -/
theorem Sound.buffer_eq_nil {channel : Channel α} (sound : channel.Sound)
    (rendezvous : channel.isRendezvous = true) : channel.buffer = [] := by
  have zero : channel.capacity = 0 := by simpa [isRendezvous] using rendezvous
  have bounded := sound.bounded
  rw [zero] at bounded
  exact List.length_eq_zero_iff.mp (Nat.le_zero.mp bounded)

/-- A copy that a ready channel is given goes into its buffer, or to its first receiver. -/
theorem Sound.give_cases {channel : Channel α} (sound : channel.Sound)
    (ready : channel.canAccept = true) (value : α) :
    (channel.isFull = false ∧ channel.give value = channel.acceptMany [value]) ∨
    (channel.isFull = true ∧ ∃ served after, channel.handOff value = some (served, after) ∧
      channel.give value = ([served], after)) := by
  cases full : channel.isFull with
  | false => exact .inl ⟨rfl, by simp [give, accept_eq, full]⟩
  | true =>
    refine .inr ⟨rfl, ?_⟩
    cases handed : channel.handOff value with
    | none =>
      have nobody := sound.handOff_eq_none_iff.mp handed
      simp only [canAccept, full, Bool.not_true, Bool.false_or, Bool.and_eq_true,
        Bool.not_eq_true', WaitQueue.isEmpty] at ready
      simp [nobody ready.1] at ready
    | some outcome => exact ⟨outcome.1, outcome.2, rfl, by simp [give, accept_eq, full, handed]⟩

end Channel

end ChannelBus
