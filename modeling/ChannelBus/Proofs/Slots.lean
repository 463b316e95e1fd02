import ChannelBus.Proofs.Generations
import ChannelBus.Proofs.Likeness

/-!
# The registry is a partial map

The slots of a bus stand for a partial map from handles to channels: `channel?` looks a handle up,
opening adds the least handle that is not in the map, and closing removes one. Free slots cannot be
seen. Two buses with the same map, settings, counters and next generation, `Bus.SameMap`, do the
same from then on, however many free slots they have.

A call that is parked on a channel keeps the queues of that channel in reach after it was closed,
although no handle leads there: they belong to the call rather than to the map. So where a call is
polled or dropped that waits on a channel closed before, the two buses are compared with the same
closed channel.

Deleting tells how many slots it releases, which is the one thing that free slots have a part in.
`Outcome.Agrees` disregards it.
-/

namespace ChannelBus

variable {α β γ : Type}

/-- Whether a notice tells that a registry was released. -/
def Notice.isRelease : Notice → Bool
  | .released _ => true
  | _ => false

/-- Two outcomes have the same answer and the same notices but for releases, and their buses are
alike. -/
structure Outcome.Agrees (like : Bus α → Bus α → Prop) (outcome other : Outcome α β) : Prop where
  /-- The same answer. -/
  result : other.result = outcome.result
  /-- The same notices but for releases. -/
  notices : other.notices.filter (!·.isRelease) = outcome.notices.filter (!·.isRelease)
  /-- Buses that are alike. -/
  bus : like outcome.bus other.bus

/-! ## Operations in a row -/

/-- Anything that a bus is asked to do. -/
inductive Operation (α : Type) where
  /-- Answer a request. -/
  | request (request : Request α)
  /-- Start a call. -/
  | start (call : Call α) (waker : TaskId)
  /-- Poll a parked call. -/
  | resume (suspended : Suspended α) (waker : TaskId)
  /-- Drop a parked call. -/
  | cancel (suspended : Suspended α)

/-- What an operation gives back. -/
inductive Returned (α : Type) where
  /-- The answer to a request. -/
  | answered (answered : Answered α)
  /-- Where a call stands. -/
  | progress (progress : Progress α)
  /-- A call was dropped. -/
  | dropped

/-- The generation of the channel on which an operation expects a parked call. -/
def Operation.generation? : Operation α → Option Nat
  | .resume suspended _ | .cancel suspended => some suspended.ticket.generation
  | .request _ | .start _ _ => none

namespace Bus

/-- Does what it is asked to do. -/
def operate [Stored α] (bus : Bus α) : Operation α → Outcome α (Returned α)
  | .request request => (bus.perform request).map .answered
  | .start call waker => (bus.start call waker).map .progress
  | .resume suspended waker => (bus.resume suspended waker).map .progress
  | .cancel suspended => (bus.cancel suspended).map fun _ => .dropped

/-- Does several things, one after the other. -/
def operateAll [Stored α] (bus : Bus α) : List (Operation α) → Outcome α (List (Returned α))
  | [] => bus.unchanged []
  | operation :: rest =>
    (bus.operate operation).andThen fun returned bus =>
      (bus.operateAll rest).map (returned :: ·)

/-- The closed channel of a generation. -/
def retired? (bus : Bus α) (generation : Nat) : Option (Channel α) :=
  bus.retired.find? (·.generation == generation)

/-- Two buses differ in nothing but free slots and closed channels. -/
structure SameMap (bus other : Bus α) : Prop where
  /-- The same settings. -/
  config : other.config = bus.config
  /-- The same counters. -/
  stats : other.stats = bus.stats
  /-- The same next generation. -/
  nextGeneration : other.nextGeneration = bus.nextGeneration
  /-- The same map. -/
  channel? : ∀ handle, other.channel? handle = bus.channel? handle

/-- Two buses differ in nothing but free slots and closed channels of other generations. -/
structure Matches (seen : Nat → Prop) (bus other : Bus α) : Prop extends SameMap bus other where
  /-- The same closed channels of these generations. -/
  retired? : ∀ generation, seen generation → other.retired? generation = bus.retired? generation

end Bus

/-! ## Agreement -/

namespace Outcome

variable {like : Bus α → Bus α → Prop} {outcome other : Outcome α β}

/-- What is alike agrees. -/
theorem Like.agrees (alike : outcome.Like like other) : outcome.Agrees like other :=
  ⟨alike.result, congrArg _ alike.notices, alike.bus⟩

/-- Changing the answer on both sides. -/
theorem Agrees.map (agrees : outcome.Agrees like other) (change : β → γ) :
    (outcome.map change).Agrees like (other.map change) :=
  ⟨congrArg change agrees.result, agrees.notices, agrees.bus⟩

/-- Going on in agreement. -/
theorem Agrees.andThen (agrees : outcome.Agrees like other) {next nextToo : β → Bus α → Outcome α γ}
    (later : ∀ result ⦃bus another⦄, like bus another →
      (next result bus).Agrees like (nextToo result another)) :
    (outcome.andThen next).Agrees like (other.andThen nextToo) := by
  obtain ⟨result, notices, bus⟩ := later outcome.result agrees.bus
  simp only [Outcome.andThen, agrees.result]
  refine ⟨result, ?_, bus⟩
  simp only [List.filter_append, agrees.notices, notices]

/-- Buses may be compared in another way. -/
theorem Agrees.imp {likeToo : Bus α → Bus α → Prop} (agrees : outcome.Agrees like other)
    (implies : like outcome.bus other.bus → likeToo outcome.bus other.bus) :
    outcome.Agrees likeToo other :=
  ⟨agrees.result, agrees.notices, implies agrees.bus⟩

end Outcome

namespace Bus

/-! ## Free slots cannot be seen -/

section Views

variable {bus : Bus α}

/-- Counting keeps the closed channels of every generation. -/
@[simp] theorem retired?_note (update : Stats → Stats) (generation : Nat) :
    (bus.note update).retired? generation = bus.retired? generation := by
  simp [retired?]

/-- Counting is counting on the same settings and counters. -/
theorem SameMap.stats_note {other : Bus α} (same : bus.SameMap other) (update : Stats → Stats) :
    (other.note update).stats = (bus.note update).stats := by
  unfold note
  rw [same.config]
  split
  · exact congrArg update same.stats
  · exact same.stats

/-- The open channels after a slot was freed. -/
theorem channel?_freed (handle : Handle) (closed : Channel α) (other : Handle) :
    (bus.freed handle closed).channel? other =
      if other = handle then none else bus.channel? other :=
  channel?_of_freed rfl other

end Views

variable {seen : Nat → Prop} {bus other : Bus α}

/-- Every bus matches itself. -/
theorem Matches.refl (seen : Nat → Prop) (bus : Bus α) : bus.Matches seen bus :=
  ⟨⟨rfl, rfl, rfl, fun _ => rfl⟩, fun _ _ => rfl⟩

/-- Matching is kept if the map and the closed channels are changed in the same way. -/
theorem Matches.of_changed {after afterToo : Bus α} (alike : bus.Matches seen other)
    (same : after = { bus with slots := after.slots, retired := after.retired })
    (sameToo : afterToo = { other with slots := afterToo.slots, retired := afterToo.retired })
    (channel? : ∀ handle, afterToo.channel? handle = after.channel? handle)
    (retired? : ∀ generation, seen generation →
      afterToo.retired? generation = after.retired? generation) :
    after.Matches seen afterToo := by
  refine ⟨⟨?_, ?_, ?_, channel?⟩, retired?⟩
  · rw [same, sameToo]
    exact alike.config
  · rw [same, sameToo]
    exact alike.stats
  · rw [same, sameToo]
    exact alike.nextGeneration

/-- All operations that look for no free slot respect matching. -/
theorem likeness_matches (seen : Nat → Prop) : Likeness (Matches (α := α) seen) where
  batch := fun _ _ alike => congrArg Config.batch alike.config
  broadcast := fun _ _ alike => congrArg Config.broadcast alike.config
  channel? := fun _ _ alike => alike.channel?
  note := fun bus other alike update => by
    refine ⟨⟨?_, alike.stats_note update, ?_, fun handle => ?_⟩, fun generation wanted => ?_⟩
    · simpa using alike.config
    · simpa using alike.nextGeneration
    · simpa using alike.channel? handle
    · simpa using alike.retired? generation wanted
  setChannel := fun bus other alike handle old here channel => by
    have hereToo := (alike.channel? handle).trans here
    refine alike.of_changed rfl rfl (fun another => ?_) alike.retired?
    rw [channel?_setChannel hereToo, channel?_setChannel here, alike.channel?]
  overOpen := fun bus other alike change => by
    refine alike.of_changed rfl rfl (fun handle => ?_) alike.retired?
    rw [channel?_overOpen, channel?_overOpen, alike.channel?]
  freed := fun bus other alike handle old here closed => by
    refine alike.of_changed rfl rfl (fun another => ?_) fun generation wanted => ?_
    · rw [channel?_freed, channel?_freed, alike.channel?]
    · show (other.retired ++ [closed]).find? _ = (bus.retired ++ [closed]).find? _
      rw [List.find?_append, List.find?_append]
      have kept := alike.retired? generation wanted
      unfold retired? at kept
      rw [kept]

/-- The wait of a ticket is shown if closed channels of its generation are. -/
theorem shows_matches {ticket : Ticket} (wanted : seen ticket.generation) :
    Shows (Matches (α := α) seen) ticket where
  ticketQueue := fun bus other alike => by
    have pinned := (likeness_matches seen).pinned? alike ticket.handle ticket.generation
    have retired := alike.retired? _ wanted
    unfold retired? at retired
    simp only [ticketQueue, ticketed?, pinned, retired]
  setTicketQueue := fun bus other alike queue => by
    have pinned := (likeness_matches seen).pinned? alike ticket.handle ticket.generation
    simp only [setTicketQueue, pinned]
    cases here : bus.pinned? ticket.handle ticket.generation with
    | some channel =>
      exact (likeness_matches seen).setChannel alike (pinned?_eq_some_iff.mp here).1 _
    | none =>
      refine alike.of_changed rfl rfl alike.channel? fun generation wanted => ?_
      have kept : ((·.generation == generation) ∘ fun channel : Channel α =>
          if channel.generation == ticket.generation then channel.setQueue ticket.side queue
          else channel) = (·.generation == generation) := by
        funext channel
        simp only [Function.comp_apply]
        split <;> simp
      show (other.retired.map _).find? _ = (bus.retired.map _).find? _
      rw [List.find?_map, List.find?_map, kept]
      exact congrArg (Option.map _) (alike.retired? generation wanted)

/-! ## Opening takes the least free handle -/

/-- A free slot with no free slot below it. -/
def LeastFree (bus : Bus α) (handle : Handle) : Prop :=
  bus.channel? handle = none ∧ ∀ lower : Handle, lower.id < handle.id → bus.isOpen lower = true

/-- A channel goes to the least free slot. -/
theorem leastFree_occupy (bus : Bus α) (channel : Channel α) :
    bus.LeastFree ⟨(occupy channel bus.slots).1⟩ :=
  ⟨(occupy_spec channel bus.slots).1, fun _ lower => isSome_of_lt_occupy channel lower⟩

/-- There is only one least free slot. -/
theorem LeastFree.unique {handle another : Handle} (least : bus.LeastFree handle)
    (leastToo : other.LeastFree another) (same : bus.SameMap other) : another = handle := by
  have closed {bus : Bus α} {handle : Handle} (free : bus.channel? handle = none) :
      bus.isOpen handle ≠ true := by simp [isOpen, free]
  have opened (handle : Handle) : other.isOpen handle = bus.isOpen handle := by
    rw [isOpen, same.channel?, isOpen]
  rcases Nat.lt_trichotomy another.id handle.id with below | equal | above
  · exact absurd ((opened another).trans (least.2 another below)) (closed leastToo.1)
  · cases another
    cases handle
    exact congrArg Handle.mk equal
  · exact absurd ((opened handle).symm.trans (leastToo.2 handle above)) (closed least.1)

/-- Opening respects matching. -/
theorem matches_openChannel [Stored α] (seen : Nat → Prop) (capacity : Nat) :
    Respects (Matches (α := α) seen) (·.openChannel capacity) := by
  intro bus other alike
  have generation := alike.nextGeneration
  cases fits : bufferFits α capacity with
  | false =>
    simp only [openChannel, fits, generation]
    exact ⟨rfl, rfl, ⟨⟨alike.config, alike.stats, rfl, alike.channel?⟩, alike.retired?⟩⟩
  | true =>
    let channel : Channel α := .new capacity bus.nextGeneration
    have place : (occupy channel other.slots).1 = (occupy channel bus.slots).1 :=
      congrArg Handle.id <|
        (leastFree_occupy bus channel).unique (leastFree_occupy other channel) alike.toSameMap
    simp only [openChannel, fits, if_true, generation]
    refine ⟨?_, ?_, (likeness_matches seen).note ?_ _⟩
    · exact congrArg (fun id => Except.ok (Handle.mk id)) place
    · exact congrArg (fun id => [Notice.opened ⟨id⟩ capacity bus.nextGeneration]) place
    · refine ⟨⟨alike.config, alike.stats, rfl, fun handle => ?_⟩, alike.retired?⟩
      have placed := (occupy_spec channel bus.slots).2.1 handle.id
      have placedToo := (occupy_spec channel other.slots).2.1 handle.id
      have before := alike.channel? handle
      unfold Bus.channel? at before
      rw [place, before, ← placed] at placedToo
      exact placedToo

/-! ## Deleting closes everything -/

/-- Closing a handle that is not open does nothing. -/
theorem close_of_free {handle : Handle} (free : bus.channel? handle = none) :
    bus.close handle = bus.unchanged () := by
  rw [close, free]

/-- Closing handles, each at most once, closes the open ones. -/
theorem closeAll_eq_filter (bus : Bus α) {handles : List Handle} (once : handles.Nodup) :
    bus.closeAll handles = bus.closeAll (handles.filter bus.isOpen) := by
  induction handles generalizing bus with
  | nil => rfl
  | cons handle rest ih =>
    obtain ⟨fresh, onceLater⟩ := List.nodup_cons.mp once
    cases opened : bus.isOpen handle with
    | false =>
      have free : bus.channel? handle = none := by simpa [isOpen] using opened
      have skipped : bus.closeAll (handle :: rest) = bus.closeAll rest := by
        simp only [closeAll, close_of_free free, unchanged, Outcome.andThen, List.nil_append]
      rw [skipped, List.filter_cons_of_neg (by simp [opened]), ih bus onceLater]
    | true =>
      have kept : rest.filter (bus.close handle).bus.isOpen = rest.filter bus.isOpen := by
        refine List.filter_congr fun other listed => ?_
        have apart : other ≠ handle := fun same => fresh (same ▸ listed)
        rw [isOpen, channel?_close, if_neg apart, isOpen]
      rw [List.filter_cons_of_pos (by simp [opened]), closeAll, closeAll, Outcome.andThen,
        Outcome.andThen, ih _ onceLater, kept]

/-- The open handles are listed. -/
theorem mem_handles {handle : Handle} : handle ∈ bus.handles ↔ bus.isOpen handle = true := by
  simp only [handles, List.mem_map, Prod.exists, mem_openChannels, isOpen,
    Option.isSome_iff_exists]
  constructor
  · rintro ⟨_, channel, here, rfl⟩
    exact ⟨channel, here⟩
  · rintro ⟨channel, here⟩
    exact ⟨handle, channel, here, rfl⟩

/-- Among the handles of all slots, those that are open are the listed ones. -/
theorem filter_isOpen_slots (bus : Bus α) :
    ((List.range bus.slots.length).map Handle.mk).filter bus.isOpen = bus.handles := by
  have ascending : ((List.range bus.slots.length).map Handle.mk).Pairwise
      fun lower higher => lower.id < higher.id :=
    List.pairwise_map.mpr List.pairwise_lt_range
  refine eq_of_ascending Handle.id (ascending.filter _) bus.handles_ascending fun handle => ?_
  rw [List.mem_filter, mem_handles, and_iff_right_iff_imp]
  intro opened
  obtain ⟨channel, here⟩ := Option.isSome_iff_exists.mp opened
  have inside := (List.getElem?_eq_some_iff.mp (channel?_eq_some_iff.mp here)).1
  exact List.mem_map.mpr ⟨handle.id, List.mem_range.mpr inside, rfl⟩

/-- Releases the slots of a bus. -/
def release (bus : Bus α) (slots : Nat) : Outcome α Unit :=
  { result := ()
    bus := { bus with slots := [] }
    notices := if slots = 0 then [] else [.released slots] }

/-- Deleting is closing every open handle in ascending order, and then releasing the slots. -/
theorem delete_eq (bus : Bus α) : bus.delete =
    (bus.closeAll bus.handles).andThen fun _ after => after.release bus.slots.length := by
  have once : ((List.range bus.slots.length).map Handle.mk).Nodup :=
    List.pairwise_map.mpr (List.nodup_range.imp fun apart same => apart (congrArg Handle.id same))
  rw [delete, closeAll_eq_filter bus once, filter_isOpen_slots]
  rfl

/-- Nothing is open once the open handles were closed. -/
theorem channel?_closeAll_handles (bus : Bus α) (handle : Handle) :
    (bus.closeAll bus.handles).bus.channel? handle = none := by
  rw [channel?_closeAll]
  split
  case isTrue => rfl
  case isFalse unlisted =>
    rw [mem_handles] at unlisted
    simpa [isOpen] using unlisted

/-- Releasing tells of nothing but the release. -/
theorem filter_release (bus : Bus α) (slots : Nat) :
    (bus.release slots).notices.filter (!·.isRelease) = [] := by
  unfold release
  split <;> rfl

/-- Deleting agrees with closing every open handle in ascending order. -/
theorem agrees_closeAll_handles (seen : Nat → Prop) (bus : Bus α) :
    (bus.closeAll bus.handles).Agrees (Matches seen) bus.delete := by
  rw [delete_eq]
  refine ⟨rfl, ?_, ?_⟩
  · simp only [Outcome.andThen, List.filter_append, filter_release, List.append_nil]
  · refine (Matches.refl seen _).of_changed rfl rfl (fun handle => ?_) fun _ _ => rfl
    exact (channel?_closeAll_handles bus handle).symm

/-- Deleting agrees on buses that match. -/
theorem agrees_delete (alike : bus.Matches seen other) :
    bus.delete.Agrees (Matches seen) other.delete := by
  have listed : other.handles = bus.handles := by
    rw [handles, openChannels_congr alike.channel?, handles]
  obtain ⟨_, notices, left⟩ := (likeness_matches seen).closeAll bus.handles alike
  rw [delete_eq, delete_eq, listed]
  refine ⟨rfl, ?_, left.of_changed rfl rfl (fun _ => rfl) left.retired?⟩
  simp only [Outcome.andThen, List.filter_append, filter_release, notices]

/-- The same generations are spent on buses with the same map. -/
theorem SameMap.spent_iff (same : bus.SameMap other) (generation : Nat) :
    other.Spent generation ↔ bus.Spent generation := by
  rw [Spent, Spent, same.nextGeneration,
    isOpenAs_of_generations fun handle => congrArg _ (same.channel? handle)]

/-- A generation that is not spent names no closed channel. -/
theorem Sound.retired?_eq_none (sound : bus.Sound) {generation : Nat}
    (unspent : ¬ bus.Spent generation) : bus.retired? generation = none := by
  refine List.find?_eq_none.mpr fun channel retired same => unspent ?_
  exact (sound.closed_iff.mp ⟨channel, retired, by simpa using same⟩).1

/-- A bus with more free slots at the end of its registry. -/
def padded (bus : Bus α) (count : Nat) : Bus α :=
  { bus with slots := bus.slots ++ List.replicate count none }

/-- More free slots leave the map as it is. -/
theorem matches_padded (seen : Nat → Prop) (bus : Bus α) (count : Nat) :
    bus.Matches seen (bus.padded count) := by
  refine (Matches.refl seen bus).of_changed rfl rfl (fun handle => ?_) fun _ _ => rfl
  show ((bus.slots ++ List.replicate count none)[handle.id]?).join = (bus.slots[handle.id]?).join
  rcases Nat.lt_or_ge handle.id bus.slots.length with inside | beyond
  · rw [List.getElem?_append_left inside]
  · rw [List.getElem?_append_right beyond, List.getElem?_eq_none beyond, List.getElem?_replicate]
    split <;> rfl

/-- More free slots keep a registry sound. -/
theorem Sound.padded (sound : bus.Sound) (count : Nat) : (bus.padded count).Sound := by
  have same : (bus.padded count).known = bus.known := by simp [known, Bus.padded]
  exact ⟨same ▸ sound.channels, same ▸ sound.distinct, same ▸ sound.fresh, sound.drained⟩

/-! ## Whatever comes later -/

section Operating

variable [Stored α]

/-- Every operation agrees on buses that match. -/
theorem agrees_operate (alike : bus.Matches seen other) {operation : Operation α}
    (wanted : ∀ generation, operation.generation? = some generation → seen generation) :
    (bus.operate operation).Agrees (Matches seen) (other.operate operation) := by
  have likeness := likeness_matches (α := α) seen
  cases operation with
  | request request =>
    refine Outcome.Agrees.map ?_ _
    cases request with
    | openChannel capacity => exact ((matches_openChannel seen capacity alike).map _).agrees
    | delete => exact (agrees_delete alike).map fun _ => Except.ok Answer.done
    | stats => exact ⟨congrArg (Except.ok <| Answer.stats ·) alike.stats, rfl, alike⟩
    | close | isOpen | capacity | length | waiting | channelCount | handles | trySend | tryReceive
    | trySendMany | tryReceiveMany | tryBroadcast =>
      exact (likeness.perform (by simp) (by simp) (by simp) alike).agrees
  | start call waker => exact ((likeness.start waker call alike).map _).agrees
  | resume suspended waker =>
    have shows := shows_matches (α := α) (wanted _ rfl)
    exact ((likeness.resume shows waker alike).map _).agrees
  | cancel suspended =>
    have shows := shows_matches (α := α) (wanted _ rfl)
    exact ((shows.cancel alike).map fun _ => Returned.dropped).agrees

/-- Operations in a row agree on buses that match. -/
theorem agrees_operateAll (alike : bus.Matches seen other) {operations : List (Operation α)}
    (wanted : ∀ generation ∈ operations.filterMap (·.generation?), seen generation) :
    (bus.operateAll operations).Agrees (Matches seen) (other.operateAll operations) := by
  induction operations generalizing bus other with
  | nil => exact ⟨rfl, rfl, alike⟩
  | cons operation rest ih =>
    have first : ∀ generation, operation.generation? = some generation → seen generation :=
      fun generation named =>
        wanted generation (List.mem_filterMap.mpr ⟨operation, List.mem_cons_self, named⟩)
    have later : ∀ generation ∈ rest.filterMap (·.generation?), seen generation := by
      intro generation listed
      obtain ⟨another, inside, named⟩ := List.mem_filterMap.mp listed
      exact wanted generation
        (List.mem_filterMap.mpr ⟨another, List.mem_cons_of_mem _ inside, named⟩)
    exact (agrees_operate alike first).andThen fun returned _ _ alikeLater =>
      (ih alikeLater later).map _

/-- The registry of a bus is a partial map from handles to channels, and nothing more can be seen of
it. -/
structure IsMap (bus : Bus α) : Prop where
  /-- The open handles are listed. -/
  listed : ∀ handle, handle ∈ bus.handles ↔ bus.isOpen handle = true
  /-- They are listed in ascending order, each once. -/
  ascending : bus.handles.Pairwise fun lower higher => lower.id < higher.id
  /-- They are counted. -/
  counted : bus.channelCount = bus.handles.length
  /-- Opening adds a new channel, under the least handle that is not open. It has the capacity that
  was asked for and a generation of its own, it buffers nothing, and nobody waits or has ever waited
  on it. -/
  opens : ∀ capacity, bufferFits α capacity = true →
    ∃ handle, (bus.openChannel capacity).result = .ok handle ∧ bus.LeastFree handle ∧
      (∀ other, (bus.openChannel capacity).bus.channel? other =
        if other = handle then some (.new capacity bus.nextGeneration) else bus.channel? other) ∧
      ∃ channel, (bus.openChannel capacity).bus.channel? handle = some channel ∧
        channel.capacity = capacity ∧ channel.generation = bus.nextGeneration ∧
        channel.buffer = [] ∧
        ∀ side, (channel.queue side).waiting = [] ∧ (channel.queue side).woken = [] ∧
          (channel.queue side).nextKey = 0
  /-- Opening adds nothing if the buffer cannot be allocated. -/
  refuses : ∀ capacity, bufferFits α capacity = false →
    (bus.openChannel capacity).result = .error .capacityOverflow ∧
      ∀ other, (bus.openChannel capacity).bus.channel? other = bus.channel? other
  /-- Closing removes one handle. -/
  closes : ∀ handle other, (bus.close handle).bus.channel? other =
    if other = handle then none else bus.channel? other
  /-- Closing does nothing if the handle is not open. -/
  ignores : ∀ handle, bus.isOpen handle = false → bus.close handle = bus.unchanged ()
  /-- Another sound bus with the same map does the same from now on, whatever slots are free on it.
  If a call is polled or dropped that is parked on a channel closed by now, both buses have to find
  its wait there. -/
  unseen : ∀ other, other.Sound → bus.SameMap other → ∀ operations : List (Operation α),
    (∀ generation ∈ operations.filterMap (·.generation?), bus.Spent generation →
      other.retired? generation = bus.retired? generation) →
    (bus.operateAll operations).Agrees SameMap (other.operateAll operations)
  /-- In particular, free slots at the end of the registry make no difference. -/
  pads : ∀ count, ∀ operations : List (Operation α),
    (bus.operateAll operations).Agrees SameMap ((bus.padded count).operateAll operations)
  /-- Deleting cannot be told from closing every open handle in ascending order. -/
  deletes : ∀ operations : List (Operation α),
    ((bus.closeAll bus.handles).andThen fun _ after => after.operateAll operations).Agrees SameMap
      (bus.delete.andThen fun _ after => after.operateAll operations)
  /-- Deleting leaves an empty map. -/
  empties : ∀ handle, bus.delete.bus.isOpen handle = false
  /-- Deleting again changes nothing. -/
  again : bus.delete.bus.delete = bus.delete.bus.unchanged ()

/-- A sound registry is a partial map. -/
theorem Sound.isMap (sound : bus.Sound) : bus.IsMap where
  listed := fun _ => mem_handles
  ascending := bus.handles_ascending
  counted := by rw [channelCount, handles, List.length_map]
  opens := fun capacity fits => by
    rcases bus.openChannel_cases capacity with ⟨_, handle, opened, opens⟩ | ⟨unfit, _⟩
    · refine ⟨handle, opened, ?_, opens.channel?, .new capacity bus.nextGeneration,
        (opens.channel? handle).trans (if_pos rfl), rfl, rfl, rfl, fun side => ?_⟩
      · have place : handle = ⟨(occupy (.new capacity bus.nextGeneration) bus.slots).1⟩ := by
          simpa [openChannel, fits] using opened.symm
        rw [place]
        exact bus.leastFree_occupy _
      · cases side <;> exact ⟨rfl, rfl, rfl⟩
    · exact absurd (fits.symm.trans unfit) (by decide)
  refuses := fun capacity unfit => by
    simp only [openChannel, unfit]
    exact ⟨rfl, fun _ => rfl⟩
  closes := bus.channel?_close
  ignores := fun handle closed => close_of_free (by simpa [isOpen] using closed)
  unseen := fun other soundToo same operations wanted => by
    let seen generation := generation ∈ operations.filterMap (·.generation?)
    have alike : bus.Matches seen other := by
      refine ⟨same, fun generation listed => ?_⟩
      by_cases spent : bus.Spent generation
      · exact wanted generation listed spent
      · rw [sound.retired?_eq_none spent,
          soundToo.retired?_eq_none fun spentToo => spent ((same.spent_iff generation).mp spentToo)]
    exact (agrees_operateAll alike fun _ listed => listed).imp (·.toSameMap)
  pads := fun count operations => by
    have alike := bus.matches_padded (fun _ => True) count
    exact (agrees_operateAll alike fun _ _ => True.intro).imp (·.toSameMap)
  deletes := fun operations => by
    have closed := agrees_closeAll_handles (fun _ => True) bus
    exact (closed.andThen fun _ _ _ alike => agrees_operateAll alike fun _ _ => True.intro).imp
      (·.toSameMap)
  empties := fun _ => rfl
  again := rfl

end Operating

end Bus

namespace Session

variable [Stored α] {session : Session α}

/-- Generations are given out in ascending order. -/
theorem Lawful.nextGeneration_run (lawful : session.Lawful) (moves : List (Move α)) :
    session.bus.nextGeneration ≤ (session.run moves).bus.nextGeneration := by
  induction moves generalizing session with
  | nil => exact Nat.le_refl _
  | cons move rest ih => exact (lawful.evolves move).nextGeneration_le.trans (ih (lawful.step move))

/-- At any time the registry of a bus is a partial map, and its next channel has a generation that
none has had before. -/
theorem registry_is_map (config : Config) (moves later : List (Move α)) :
    let before : Session α := (new config).run moves
    let bus := (before.run later).bus
    bus.IsMap ∧ ∀ handle channel, before.bus.channel? handle = some channel →
      channel.generation < bus.nextGeneration := by
  intro before bus
  have lawful : before.Lawful := (lawful_new config).run moves
  refine ⟨(lawful.run later).housed.sound.isMap, fun handle channel here => ?_⟩
  exact Nat.lt_of_lt_of_le (lawful.housed.sound.generation_lt here)
    (lawful.nextGeneration_run later)

/-- Three channels are opened, and a receiver parks on the second one. -/
def holeMoves : List (Move UInt32) :=
  [.request (.openChannel 1), .request (.openChannel 1), .request (.openChannel 1),
    .start (.receive ⟨1⟩) 7]

/-- The second channel is closed under the receiver, and the next one takes its place with a new
generation. With two more free slots the bus does the same, even for the receiver. -/
theorem registry_is_map_of_hole :
    let before := (new {} : Session UInt32).run holeMoves
    let bus := (before.run [.request (.close ⟨1⟩)]).bus
    let operations : List (Operation UInt32) :=
      [.resume ⟨.receive ⟨1⟩, ⟨⟨1⟩, 1, .receivers, 0⟩⟩ 7, .request (.openChannel 4),
        .request .handles]
    (∃ channel, before.bus.channel? ⟨1⟩ = some channel ∧
      channel.generation < bus.nextGeneration) ∧
    bus.isOpen ⟨1⟩ = false ∧ bus.LeastFree ⟨1⟩ ∧
    (bus.openChannel 4).bus.channel? ⟨1⟩ = some (.new 4 bus.nextGeneration) ∧
    (bus.operateAll operations).Agrees Bus.SameMap ((bus.padded 2).operateAll operations) := by
  intro before bus operations
  obtain ⟨isMap, fresh⟩ := registry_is_map {} holeMoves [.request (.close ⟨1⟩)]
  obtain ⟨handle, opened, least, map, _⟩ := isMap.opens 4 rfl
  obtain rfl : handle = ⟨1⟩ := Except.ok.inj (opened.symm.trans rfl)
  refine ⟨⟨_, rfl, fresh ⟨1⟩ _ rfl⟩, rfl, least, (map ⟨1⟩).trans (if_pos rfl), ?_⟩
  have lawful := (lawful_new {}).run (holeMoves ++ [.request (.close ⟨1⟩)])
  exact isMap.unseen _ (lawful.housed.sound.padded 2)
    (bus.matches_padded (fun _ => True) 2).toSameMap operations fun _ _ _ => rfl

end Session

end ChannelBus
