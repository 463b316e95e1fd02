import ChannelBus.Proofs.Seating

/-!
# What happens to a line

The waits queued on one side of a channel are a line, the longest waiting first. `Happening` lists
all that can happen to the queue of a side and `Happening.Befalls` what each of it does: a wait that
joins goes to the end of the line, and a wait that is woken or gets a value is the first. Only a
wait whose own task is dropped leaves from anywhere, and a sender whose offer is taken may have
others before it, if they offer nothing. Whoever is dequeued goes to the woken waits, with the
parcel that tells what was done to it, and stays there until its own task resumes or is dropped.
Keys are given out in the order of arrival, so a line ascends in its keys, and who is first has the
lowest.

An operation tells what it did in a log. `Bus.Serves` says that a log is complete: it lists the
dequeued waits of all lines in the order of the notices, and what it lists for one queue leads from
the queue before the operation to the queue after it.
-/

namespace ChannelBus

variable {α β γ : Type}

/-- Something that happens to the queue on one side of a channel. -/
inductive Happening (α : Type) where
  /-- A wait is queued. -/
  | joined (wait : Wait α)
  /-- A wait is dequeued by a wakeup. -/
  | woken (wait : Wait α)
  /-- A receiver's wait is dequeued with a value for it. -/
  | served (wait : Wait α) (value : α)
  /-- A sender's wait is dequeued because its offer is taken; those before it are skipped. -/
  | taken (skipped : List (Wait α)) (wait : Wait α) (value : α)
  /-- A queued wait is polled by the task that it is to make ready from now on. -/
  | renamed (key : Nat) (waker : TaskId)
  /-- A queued wait leaves because its own task is dropped. -/
  | withdrawn (key : Nat)
  /-- A dequeued wait is gone because its own task resumes or is dropped. -/
  | forgotten (key : Nat)

/-- Whether a line ascends in its keys. -/
def ByKey (line : List (Wait α)) : Prop :=
  line.Pairwise (·.key < ·.key)

namespace Happening

/-- The wait that a happening dequeues, with the parcel that its task finds. -/
def dequeued? : Happening α → Option (Wait α)
  | .woken wait => some wait
  | .served wait value => some { wait with parcel := .delivered value }
  | .taken _ wait _ => some { wait with parcel := .taken }
  | .joined _ | .renamed _ _ | .withdrawn _ | .forgotten _ => none

/-- The notice of a happening: every dequeued wait is told. -/
def notice? (happening : Happening α) : Option Notice :=
  happening.dequeued?.map (·.wokenNotice)

/-- Whether nobody but the first wait may leave the line. -/
def isPlain : Happening α → Bool
  | .joined _ | .woken _ | .served _ _ | .renamed _ _ => true
  | .taken _ _ _ | .withdrawn _ | .forgotten _ => false

/-- What a happening does to a queue. -/
inductive Befalls (side : Side) : WaitQueue α → Happening α → WaitQueue α → Prop where
  /-- A wait joins at the end, with a key above all others. -/
  | joined {queue : WaitQueue α} {wait : Wait α} (next : wait.key = queue.nextKey)
    (last : ∀ other ∈ queue.waiting, other.key < wait.key) :
    Befalls side queue (.joined wait)
      { queue with waiting := queue.waiting ++ [wait], nextKey := queue.nextKey + 1 }
  /-- The first wait, that of the lowest key, is woken and keeps its parcel. -/
  | woken {queue : WaitQueue α} {wait : Wait α} {later : List (Wait α)}
    (line : queue.waiting = wait :: later) (first : ∀ other ∈ later, wait.key < other.key) :
    Befalls side queue (.woken wait)
      { queue with waiting := later, woken := queue.woken ++ [wait] }
  /-- The first receiver, that of the lowest key, gets a value into its empty parcel. -/
  | served {queue : WaitQueue α} {wait : Wait α} {later : List (Wait α)} {value : α}
    (receives : side = .receivers) (line : queue.waiting = wait :: later)
    (first : ∀ other ∈ later, wait.key < other.key) (empty : wait.parcel = .empty) :
    Befalls side queue (.served wait value)
      { queue with
        waiting := later
        woken := queue.woken ++ [{ wait with parcel := .delivered value }] }
  /-- The offer of the first sender that has one is taken, which has the lowest key of those, and
  its parcel is marked. -/
  | taken {queue : WaitQueue α} {skipped later : List (Wait α)} {wait : Wait α} {value : α}
    (sends : side = .senders) (line : queue.waiting = skipped ++ wait :: later)
    (offered : wait.parcel = .offered value)
    (before : ∀ other ∈ skipped, other.key < wait.key ∧ other.parcel.offer? = none)
    (first : ∀ other ∈ later, wait.key < other.key) :
    Befalls side queue (.taken skipped wait value)
      { queue with
        waiting := skipped ++ later
        woken := queue.woken ++ [{ wait with parcel := .taken }] }
  /-- A queued wait keeps its place when its task changes. -/
  | renamed {queue : WaitQueue α} {key : Nat} {waker : TaskId}
    (queued : ∃ wait ∈ queue.waiting, wait.key = key) :
    Befalls side queue (.renamed key waker)
      { queue with
        waiting := queue.waiting.map fun wait =>
          if wait.key == key then { wait with waker := some waker } else wait }
  /-- A queued wait leaves, and the others keep their places. -/
  | withdrawn {queue : WaitQueue α} {key : Nat} (queued : ∃ wait ∈ queue.waiting, wait.key = key) :
    Befalls side queue (.withdrawn key)
      { queue with waiting := queue.waiting.filter (·.key != key) }
  /-- A wait that is not queued any more is forgotten. -/
  | forgotten {queue : WaitQueue α} {key : Nat} (left : ∀ wait ∈ queue.waiting, wait.key ≠ key) :
    Befalls side queue (.forgotten key)
      { queue with woken := queue.woken.filter (·.key != key) }

section Befalling

variable {side : Side} {queue after : WaitQueue α} {happening : Happening α}

/-- Whatever happens to a queue, its line ascends in its keys. -/
theorem Befalls.byKey (befalls : happening.Befalls side queue after)
    (ascends : ByKey queue.waiting) : ByKey after.waiting := by
  cases befalls with
  | joined next last =>
    refine List.pairwise_append.mpr ⟨ascends, List.pairwise_singleton _ _, fun other queued => ?_⟩
    simpa using last other queued
  | woken line | served _ line =>
    rw [line] at ascends
    exact (List.pairwise_cons.mp ascends).2
  | taken sends line offered before first =>
    rw [line] at ascends
    exact ascends.sublist ((List.sublist_cons_self _ _).append_left _)
  | withdrawn => exact ascends.sublist List.filter_sublist
  | forgotten => exact ascends
  | @renamed key waker queued =>
    refine List.pairwise_map.mpr (ascends.imp fun {earlier later} less => ?_)
    by_cases here : earlier.key = key
    · by_cases there : later.key = key
      · omega
      · simpa [here, there] using here ▸ less
    · by_cases there : later.key = key
      · simpa [here, there] using there ▸ less
      · simpa [here, there] using less

/-- Whoever is dequeued is among the woken waits, with the parcel that its task finds. -/
theorem Befalls.mem_woken (befalls : happening.Befalls side queue after) {wait : Wait α}
    (dequeued : happening.dequeued? = some wait) : wait ∈ after.woken := by
  cases befalls with
  | joined | renamed | withdrawn | forgotten => contradiction
  | woken | served | taken =>
    obtain rfl := Option.some.inj dequeued
    exact List.mem_append_right _ List.mem_cons_self

/-- Whoever was woken stays so, unless it is forgotten. -/
theorem Befalls.woken_subset (befalls : happening.Befalls side queue after)
    (keeps : ∀ key, happening ≠ .forgotten key) : queue.woken ⊆ after.woken := by
  cases befalls with
  | joined | renamed | withdrawn => exact List.Subset.refl _
  | woken | served | taken => exact List.subset_append_left _ _
  | @forgotten key => exact absurd rfl (keeps key)

/-- A wait that is not queued is forgotten by its own task. -/
theorem befalls_forget {key : Nat} (side : Side) (dequeued : queue.holds key = false) :
    Befalls side queue (.forgotten key) (queue.forget key) := by
  refine .forgotten fun wait queued same => ?_
  rw [WaitQueue.holds_iff.mpr ⟨wait, queued, same⟩] at dequeued
  contradiction

end Befalling

end Happening

/-- Several happenings lead from one queue to another. -/
inductive InTurn (side : Side) : WaitQueue α → List (Happening α) → WaitQueue α → Prop where
  /-- Nothing happens. -/
  | done {queue : WaitQueue α} : InTurn side queue [] queue
  /-- One thing happens, and then the others. -/
  | next {queue middle after : WaitQueue α} {happening : Happening α} {rest : List (Happening α)}
    (befalls : happening.Befalls side queue middle) (later : InTurn side middle rest after) :
    InTurn side queue (happening :: rest) after

namespace InTurn

variable {side : Side} {queue middle after : WaitQueue α} {happenings : List (Happening α)}

/-- One thing happens. -/
theorem single {happening : Happening α} (befalls : happening.Befalls side queue after) :
    InTurn side queue [happening] after :=
  .next befalls .done

/-- Some things happen after others. -/
theorem append {first second : List (Happening α)} (before : InTurn side queue first middle)
    (later : InTurn side middle second after) : InTurn side queue (first ++ second) after := by
  induction before with
  | done => exact later
  | next befalls _ ih => exact .next befalls (ih later)

/-- Whatever happens to a queue in turn, its line ascends in its keys. -/
theorem byKey (inTurn : InTurn side queue happenings after) (ascends : ByKey queue.waiting) :
    ByKey after.waiting := by
  induction inTurn with
  | done => exact ascends
  | next befalls _ ih => exact ih (befalls.byKey ascends)

/-- Whoever was woken stays so while nobody is forgotten. -/
theorem woken_subset (inTurn : InTurn side queue happenings after)
    (keeps : ∀ key, .forgotten key ∉ happenings) : queue.woken ⊆ after.woken := by
  induction inTurn with
  | done => exact List.Subset.refl _
  | next befalls _ ih =>
    have now := befalls.woken_subset fun key same => keeps key (same ▸ List.mem_cons_self)
    have later := ih fun key listed => keeps key (List.mem_cons_of_mem _ listed)
    exact List.Subset.trans now later

/-- Whoever is dequeued is among the woken waits in the end while nobody is forgotten. -/
theorem mem_woken (inTurn : InTurn side queue happenings after)
    (keeps : ∀ key, .forgotten key ∉ happenings) {happening : Happening α}
    (listed : happening ∈ happenings) {wait : Wait α}
    (dequeued : happening.dequeued? = some wait) : wait ∈ after.woken := by
  induction inTurn with
  | done => contradiction
  | next befalls later ih =>
    have rest := fun key inside => keeps key (List.mem_cons_of_mem _ inside)
    obtain rfl | after := List.mem_cons.mp listed
    · exact later.woken_subset rest (befalls.mem_woken dequeued)
    · exact ih rest after

/-- What happens in two parts leads to a queue between them. -/
theorem split {first second : List (Happening α)}
    (inTurn : InTurn side queue (first ++ second) after) :
    ∃ middle, InTurn side queue first middle ∧ InTurn side middle second after := by
  induction first generalizing queue with
  | nil => exact ⟨queue, .done, inTurn⟩
  | cons happening rest ih =>
    cases inTurn with
    | next befalls later =>
      obtain ⟨middle, half, further⟩ := ih later
      exact ⟨middle, .next befalls half, further⟩

end InTurn

/-- The waits at the front of a line are woken one after the other. -/
theorem ByKey.wake {queue : WaitQueue α} (ascends : ByKey queue.waiting) (side : Side)
    (count : Nat) : InTurn side queue ((queue.front count).map .woken) (queue.wake count) := by
  obtain ⟨waiting, woken, nextKey⟩ := queue
  induction waiting generalizing woken count with
  | nil => simpa [WaitQueue.front, WaitQueue.wake] using InTurn.done
  | cons wait rest ih =>
    cases count with
    | zero => simpa [WaitQueue.front, WaitQueue.wake] using InTurn.done
    | succ count =>
      have apart := List.pairwise_cons.mp ascends
      have later := ih count (woken ++ [wait]) apart.2
      simp only [WaitQueue.wake, WaitQueue.front, List.append_assoc, List.singleton_append] at later
      exact .next (.woken rfl apart.1) later

/-! ## Logs -/

/-- Something that happens to one of the queues of a bus. -/
structure Occurrence (α : Type) where
  /-- The generation of the channel. -/
  generation : Nat
  /-- The side of the queue. -/
  side : Side
  /-- What happens. -/
  happening : Happening α

namespace Occurrence

/-- What happens to this queue. -/
def at? (occurrence : Occurrence α) (generation : Nat) (side : Side) : Option (Happening α) :=
  if occurrence.generation = generation ∧ occurrence.side = side then some occurrence.happening
  else none

end Occurrence

/-- Something that happens to the queue that a ticket names. -/
def Ticket.occurrence (ticket : Ticket) (happening : Happening α) : Occurrence α :=
  ⟨ticket.generation, ticket.side, happening⟩

/-- What a log lists for one queue. -/
def happeningsAt (log : List (Occurrence α)) (generation : Nat) (side : Side) :
    List (Happening α) :=
  log.filterMap (·.at? generation side)

/-- What a log lists for a queue is listed under its generation and side. -/
theorem mem_happeningsAt {log : List (Occurrence α)} {generation : Nat} {side : Side}
    {happening : Happening α} :
    happening ∈ happeningsAt log generation side ↔ ⟨generation, side, happening⟩ ∈ log := by
  rw [happeningsAt, List.mem_filterMap]
  constructor
  · rintro ⟨⟨there, other, listed⟩, member, same⟩
    simp only [Occurrence.at?, Option.ite_none_right_eq_some, Option.some.injEq] at same
    obtain ⟨⟨rfl, rfl⟩, rfl⟩ := same
    exact member
  · intro member
    exact ⟨_, member, by simp [Occurrence.at?]⟩

/-- The notices of a log. -/
def noticesOf (log : List (Occurrence α)) : List Notice :=
  log.filterMap (·.happening.notice?)

/-- A log in two parts. -/
@[simp] theorem happeningsAt_append (first second : List (Occurrence α)) (generation : Nat)
    (side : Side) : happeningsAt (first ++ second) generation side =
      happeningsAt first generation side ++ happeningsAt second generation side :=
  List.filterMap_append

/-- The notices of a log in two parts. -/
@[simp] theorem noticesOf_append (first second : List (Occurrence α)) :
    noticesOf (first ++ second) = noticesOf first ++ noticesOf second :=
  List.filterMap_append

/-- Nothing happens to the queues of a channel that a log does not name. -/
theorem happeningsAt_eq_nil {log : List (Occurrence α)} {generation : Nat}
    (elsewhere : ∀ occurrence ∈ log, occurrence.generation ≠ generation) (side : Side) :
    happeningsAt log generation side = [] := by
  refine List.filterMap_eq_nil_iff.mpr fun occurrence listed => ?_
  simp [Occurrence.at?, elsewhere occurrence listed]

/-- The log of several channels lists for each of them what its own log does. -/
theorem happeningsAt_flatMap {channels : List (Channel α)}
    (distinct : (channels.map (·.generation)).Nodup) {logOf : Channel α → List (Occurrence α)}
    (home : ∀ channel ∈ channels, ∀ occurrence ∈ logOf channel,
      occurrence.generation = channel.generation)
    {channel : Channel α} (member : channel ∈ channels) (side : Side) :
    happeningsAt (channels.flatMap logOf) channel.generation side =
      happeningsAt (logOf channel) channel.generation side := by
  obtain ⟨before, later, rfl⟩ := List.append_of_mem member
  have moved : (before ++ channel :: later).Perm (channel :: (before ++ later)) := List.perm_middle
  have apart := (moved.map (·.generation)).nodup_iff.mp distinct
  rw [List.map_cons, List.nodup_cons] at apart
  have elsewhere : ∀ others ⊆ before ++ later,
      happeningsAt (others.flatMap logOf) channel.generation side = [] := by
    intro others inside
    refine happeningsAt_eq_nil (fun occurrence listed same => ?_) side
    obtain ⟨other, here, logged⟩ := List.mem_flatMap.mp listed
    have kept := inside here
    have known : other ∈ before ++ channel :: later := by
      rcases List.mem_append.mp kept with earlier | after
      · exact List.mem_append_left _ earlier
      · exact List.mem_append_right _ (List.mem_cons_of_mem _ after)
    have equal := (home other known occurrence logged).symm.trans same
    exact apart.1 (equal ▸ List.mem_map_of_mem kept)
  rw [List.flatMap_append, List.flatMap_cons, happeningsAt_append, happeningsAt_append,
    elsewhere before (List.subset_append_left _ _), elsewhere later (List.subset_append_right _ _),
    List.nil_append, List.append_nil]

namespace Channel

/-- Something that happens to a queue of this channel. -/
def occurrence (channel : Channel α) (side : Side) (happening : Happening α) : Occurrence α :=
  ⟨channel.generation, side, happening⟩

/-- What happens to one side of a channel is listed for that side. -/
theorem happeningsAt_occurrence (channel : Channel α) (side other : Side)
    (happenings : List (Happening α)) :
    happeningsAt (happenings.map (channel.occurrence side)) channel.generation other =
      if other = side then happenings else [] := by
  unfold happeningsAt
  rw [List.filterMap_map]
  by_cases same : other = side
  · subst same
    have all : (fun happening : Happening α =>
        (channel.occurrence other happening).at? channel.generation other) = some := by
      funext happening
      simp [occurrence, Occurrence.at?]
    rw [if_pos rfl]
    exact (congrArg (List.filterMap · happenings) all).trans List.filterMap_some
  · rw [if_neg same]
    refine List.filterMap_eq_nil_iff.mpr fun happening _ => ?_
    simp [occurrence, Occurrence.at?, Ne.symm same]

/-- The notices of what happens to one side of a channel. -/
theorem noticesOf_occurrence (channel : Channel α) (side : Side)
    (happenings : List (Happening α)) :
    noticesOf (happenings.map (channel.occurrence side)) =
      happenings.filterMap Happening.notice? := by
  rw [noticesOf, List.filterMap_map]
  rfl

/-! ## Queues of a channel -/

/-- A change of a channel does to its queues what the log tells, and the log names no other
channel. -/
structure Serves (channel new : Channel α) (log : List (Occurrence α)) : Prop where
  /-- The generation is kept. -/
  generation : new.generation = channel.generation
  /-- The log is about this channel. -/
  home : ∀ occurrence ∈ log, occurrence.generation = channel.generation
  /-- What the log lists for a queue leads from one to the other. -/
  queues : ∀ side, ByKey (channel.queue side).waiting →
    InTurn side (channel.queue side) (happeningsAt log channel.generation side) (new.queue side)

/-- Nothing happens to the queues when only the buffer changes. -/
theorem serves_of_queues {channel new : Channel α} (same : new.generation = channel.generation)
    (queues : ∀ side, new.queue side = channel.queue side) : channel.Serves new [] :=
  ⟨same, nofun, fun side _ => queues side ▸ .done⟩

/-- One change after another. -/
theorem Serves.trans {channel middle new : Channel α} {first second : List (Occurrence α)}
    (before : channel.Serves middle first) (after : middle.Serves new second) :
    channel.Serves new (first ++ second) := by
  refine ⟨after.generation.trans before.generation, fun occurrence listed => ?_,
    fun side ascends => ?_⟩
  · rcases List.mem_append.mp listed with earlier | later
    · exact before.home occurrence earlier
    · exact (after.home occurrence later).trans before.generation
  · have half := before.queues side ascends
    have rest := after.queues side (half.byKey ascends)
    rw [before.generation] at rest
    rw [happeningsAt_append]
    exact half.append rest

/-- What happens to a queue when it is replaced. -/
theorem serves_setQueue {channel : Channel α} {side : Side} {queue : WaitQueue α}
    {happenings : List (Happening α)} (inTurn : ByKey (channel.queue side).waiting →
      InTurn side (channel.queue side) happenings queue) :
    channel.Serves (channel.setQueue side queue) (happenings.map (channel.occurrence side)) := by
  refine ⟨channel.generation_setQueue _ _, fun occurrence listed => ?_, fun other ascends => ?_⟩
  · obtain ⟨happening, _, rfl⟩ := List.mem_map.mp listed
    rfl
  · rw [happeningsAt_occurrence, queue_setQueue_eq]
    by_cases same : other = side
    · subst same
      rw [if_pos rfl, if_pos rfl]
      exact inTurn ascends
    · rw [if_neg same, if_neg same]
      exact .done

/-- The one thing that happens to a queue when it is replaced. -/
theorem serves_setQueue_single {channel : Channel α} {side : Side} {queue : WaitQueue α}
    {happening : Happening α} (befalls : ByKey (channel.queue side).waiting →
      happening.Befalls side (channel.queue side) queue) :
    channel.Serves (channel.setQueue side queue) [channel.occurrence side happening] :=
  serves_setQueue fun ascends => .single (befalls ascends)

/-- The log of a waking. -/
def wakings (channel : Channel α) (side : Side) (waits : List (Wait α)) : List (Occurrence α) :=
  (waits.map Happening.woken).map (channel.occurrence side)

/-- The notices of a waking. -/
@[simp] theorem noticesOf_wakings (channel : Channel α) (side : Side) (waits : List (Wait α)) :
    noticesOf (channel.wakings side waits) = waits.map (·.wokenNotice) := by
  rw [wakings, noticesOf_occurrence, List.filterMap_map]
  exact congrFun List.filterMap_eq_map waits

/-- Nobody but the first waits is woken. -/
theorem isPlain_of_wakings {channel : Channel α} {side : Side} {waits : List (Wait α)}
    {occurrence : Occurrence α} (listed : occurrence ∈ channel.wakings side waits) :
    occurrence.happening.isPlain = true := by
  simp only [wakings, List.map_map, List.mem_map] at listed
  obtain ⟨wait, _, rfl⟩ := listed
  rfl

/-- Waking dequeues the waits at the front, in their order. -/
theorem serves_wake (channel : Channel α) (side : Side) (count : Nat) :
    channel.Serves (channel.wake side count) (channel.wakings side (channel.front side count)) :=
  serves_setQueue fun ascends => ascends.wake side count

/-- A wait parks at the end. -/
theorem Sound.serves_park {channel : Channel α} (sound : channel.Sound) (side : Side)
    (parcel : Parcel α) (waker : Option TaskId) :
    channel.Serves (channel.park side parcel waker)
      [channel.occurrence side (.joined ⟨(channel.queue side).nextKey, waker, parcel⟩)] := by
  have fresh := (sound.orderly side).keyed.fresh
  exact serves_setQueue_single fun _ =>
    .joined rfl fun other queued => fresh other (List.mem_append_left _ queued)

/-- A value that is handed over goes to the first receiver. -/
theorem Sound.serves_handOff {channel after : Channel α} (sound : channel.Sound) {value : α}
    {served : Wait α} (handed : channel.handOff value = some (served, after)) :
    ∃ wait, channel.front .receivers 1 = [wait] ∧ served.wokenNotice = wait.wokenNotice ∧
      channel.Serves after [channel.occurrence .receivers (.served wait value)] := by
  obtain ⟨_, wait, later, line, empty, rfl, rfl⟩ := sound.handOff_eq_some handed
  have queued : (channel.queue .receivers).waiting = wait :: later := line
  refine ⟨wait, by simp [front, WaitQueue.front, queued], rfl,
    serves_setQueue_single fun ascends => ?_⟩
  rw [queued] at ascends
  exact .served rfl queued (List.pairwise_cons.mp ascends).1 empty

/-- An offer that is taken is that of the first sender that has one. -/
theorem serves_takeOffer {channel after : Channel α} {value : α} {settled : Wait α}
    (taken : channel.takeOffer = some (value, settled, after)) :
    ∃ skipped wait, settled.wokenNotice = wait.wokenNotice ∧
      (∀ other ∈ skipped, other ∈ channel.senders.waiting ∧ other.parcel.offer? = none) ∧
      channel.Serves after [channel.occurrence .senders (.taken skipped wait value)] := by
  obtain ⟨_, wait, skipped, later, line, offered, refused, rfl, rfl⟩ :=
    Sound.takeOffer_eq_some taken
  have queued : (channel.queue .senders).waiting = skipped ++ wait :: later := line
  refine ⟨skipped, wait, rfl, fun other inside => ⟨?_, refused other inside⟩,
    serves_setQueue_single fun ascends => ?_⟩
  · rw [line]
    exact List.mem_append_left _ inside
  · rw [queued] at ascends
    obtain ⟨_, others, between⟩ := List.pairwise_append.mp ascends
    exact .taken rfl queued offered
      (fun other inside => ⟨between other inside wait List.mem_cons_self, refused other inside⟩)
      (List.pairwise_cons.mp others).1

/-- The log of a copy that a ready channel is given. -/
def given (channel : Channel α) (value : α) : List (Occurrence α) :=
  (channel.front .receivers 1).map fun wait =>
    channel.occurrence .receivers (if channel.isFull then .served wait value else .woken wait)

/-- A copy that a ready channel is given is for the first receiver, or it wakes that receiver. -/
theorem Sound.serves_give {channel : Channel α} (sound : channel.Sound)
    (ready : channel.canAccept = true) (value : α) :
    channel.Serves (channel.give value).2 (channel.given value) ∧
      noticesOf (channel.given value) = (channel.give value).1.map (·.wokenNotice) := by
  rcases sound.give_cases ready value with ⟨spare, gives⟩ | ⟨full, served, after, handed, gives⟩
  · have wakes : channel.given value = channel.wakings .receivers (channel.front .receivers 1) := by
      simp [given, wakings, spare]
    have one : (channel.fitting [value]).length = 1 := by
      rw [fitting_singleton spare]
      rfl
    have fills : channel.Serves (channel.pushMany [value]) [] :=
      serves_of_queues rfl fun side => by cases side <;> rfl
    rw [wakes, gives, Channel.acceptMany, one, noticesOf_wakings]
    exact ⟨fills.trans ((channel.pushMany [value]).serves_wake .receivers 1), rfl⟩
  · obtain ⟨wait, first, same, serves⟩ := sound.serves_handOff handed
    rw [given, first, gives]
    simp only [full, if_true, List.map_cons, List.map_nil, same]
    exact ⟨serves, rfl⟩

/-- Nobody but the first receiver gets a copy. -/
theorem isPlain_of_given {channel : Channel α} {value : α} {occurrence : Occurrence α}
    (listed : occurrence ∈ channel.given value) : occurrence.happening.isPlain = true := by
  obtain ⟨wait, _, rfl⟩ := List.mem_map.mp listed
  cases channel.isFull <;> rfl

/-- Closing wakes the senders in the order of their line, and then the receivers. -/
theorem serves_closed (channel : Channel α) : channel.Serves channel.closed
    (channel.wakings .senders channel.senders.waiting ++
      channel.wakings .receivers channel.receivers.waiting) := by
  refine ⟨rfl, fun occurrence listed => ?_, fun side ascends => ?_⟩
  · simp only [wakings, List.map_map, List.mem_append, List.mem_map] at listed
    rcases listed with ⟨wait, _, rfl⟩ | ⟨wait, _, rfl⟩
    · rfl
    · rfl
  · have everyone : InTurn side (channel.queue side) ((channel.queue side).waiting.map .woken)
        ((channel.queue side).wake (channel.queue side).length) := by
      have whole := ascends.wake side (channel.queue side).length
      rwa [WaitQueue.front, WaitQueue.length, List.take_length] at whole
    rw [queue_closed, happeningsAt_append, wakings, wakings, happeningsAt_occurrence,
      happeningsAt_occurrence]
    cases side with
    | senders => exact (List.append_nil _).symm ▸ everyone
    | receivers => exact everyone

end Channel

end ChannelBus
