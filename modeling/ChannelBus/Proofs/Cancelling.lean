import ChannelBus.Proofs.Queue

/-!
# Dropping waits before and after they are woken

A wait that is dropped while it is queued leaves its place to those behind it; one that is dropped
after it was woken passes its wakeup on to whoever is first by then. So it makes no difference when
a wait is dropped: the waits that are never dropped are woken as if the others had not been there.

`Touch` lists all that can be done to a wait queue, and `WaitQueue.Interleaves` the ways in which
calls for a wakeup, drops, and polls that find their wait queued can follow each other. `Standing`
is the invariant: those not dropped so far, in the order in which they were parked, are first the
woken and then the queued ones, and each call for a wakeup moves the border by one place.
-/

namespace ChannelBus

variable {α : Type}

/-- One operation on a wait queue or on one of its waits. -/
inductive Touch (α : Type) where
  /-- Park a wait, which nobody has polled yet. -/
  | park (parcel : Parcel α)
  /-- Poll a wait. -/
  | poll (key : Nat) (waker : TaskId)
  /-- Drop a wait. -/
  | drop (key : Nat)
  /-- Wake the first wait. -/
  | wakeFirst
  /-- Wake every wait. -/
  | wakeAll
  /-- Take the first offer. -/
  | takeFirstOffer
  /-- Deliver a value to the first wait that is empty. -/
  | deliverFirst (value : α)
deriving DecidableEq

/-- A wait apart from the task that waits. -/
def Wait.face (wait : Wait α) : Nat × Parcel α :=
  (wait.key, wait.parcel)

namespace WaitQueue

/-- The queue after an operation. -/
def touch (queue : WaitQueue α) : Touch α → WaitQueue α
  | .park parcel => queue.park parcel none
  | .poll key waker => queue.poll key waker
  | .drop key => queue.leave key
  | .wakeFirst => queue.wake 1
  | .wakeAll => queue.wake queue.length
  | .takeFirstOffer => queue.takeFirstOffer.elim queue (·.2.2)
  | .deliverFirst value => (queue.deliverFirst value).elim queue (·.2)

/-- The queue after several operations. -/
def touchAll (queue : WaitQueue α) (touches : List (Touch α)) : WaitQueue α :=
  touches.foldl touch queue

/-! ## Keys under every operation -/

section Keys

variable {queue : WaitQueue α}

/-- Every operation keeps the keys unique. -/
theorem Keyed.touch (keyed : queue.Keyed) (touch : Touch α) : (queue.touch touch).Keyed := by
  cases touch with
  | park parcel => exact keyed.park parcel none
  | drop key => exact keyed.leave key
  | wakeFirst => exact keyed.perm (queue.waits_wake 1) rfl
  | wakeAll => exact keyed.perm (queue.waits_wake queue.length) rfl
  | poll key waker =>
    simp only [WaitQueue.touch, WaitQueue.poll]
    split
    · exact keyed.refresh key waker
    · exact keyed.forget key
  | takeFirstOffer =>
    simp only [WaitQueue.touch]
    cases taken : queue.takeFirstOffer with
    | none => exact keyed
    | some outcome =>
      obtain ⟨wait, before, later, split, _, _, _, after⟩ := takeFirstOffer_eq_some taken
      rw [Option.elim_some, after]
      exact keyed.settle split
  | deliverFirst value =>
    simp only [WaitQueue.touch]
    cases delivered : queue.deliverFirst value with
    | none => exact keyed
    | some outcome =>
      obtain ⟨wait, before, later, split, _, _, _, after⟩ := deliverFirst_eq_some delivered
      rw [Option.elim_some, after]
      exact keyed.settle split

/-- Keys are unique after any history. -/
theorem keyed_touchAll (history : List (Touch α)) :
    ((new : WaitQueue α).touchAll history).Keyed := by
  have run : ∀ (queue : WaitQueue α), queue.Keyed → (queue.touchAll history).Keyed := by
    induction history with
    | nil => exact fun _ keyed => keyed
    | cons touch rest ih => exact fun queue keyed => ih _ (keyed.touch touch)
  exact run new (orderly_new .senders false).keyed

end Keys

/-! ## Interleavings -/

/-- A sequence of so many calls for a wakeup, of drops of these waits, each once, and of polls that
find their wait queued. -/
inductive Interleaves : WaitQueue α → Nat → List Nat → List (Touch α) → Prop where
  /-- Nothing is left to do. -/
  | done {queue : WaitQueue α} : Interleaves queue 0 [] []
  /-- A call for a wakeup. -/
  | wake {queue : WaitQueue α} {wakes : Nat} {dropped : List Nat} {touches : List (Touch α)}
    (rest : Interleaves (queue.touch .wakeFirst) wakes dropped touches) :
    Interleaves queue (wakes + 1) dropped (.wakeFirst :: touches)
  /-- A wait is dropped. -/
  | drop {queue : WaitQueue α} {wakes key : Nat} {dropped : List Nat} {touches : List (Touch α)}
    (once : key ∉ dropped) (rest : Interleaves (queue.touch (.drop key)) wakes dropped touches) :
    Interleaves queue wakes (key :: dropped) (.drop key :: touches)
  /-- A wait is polled in vain. -/
  | poll {queue : WaitQueue α} {wakes key : Nat} {waker : TaskId} {dropped : List Nat}
    {touches : List (Touch α)} (pending : queue.found? key = none)
    (rest : Interleaves (queue.touch (.poll key waker)) wakes dropped touches) :
    Interleaves queue wakes dropped (.poll key waker :: touches)

/-- Those of the waits that are not dropped. -/
def spared (dropped : List Nat) (faces : List (Nat × Parcel α)) : List (Nat × Parcel α) :=
  faces.filter fun face => !dropped.contains face.1

/-- If none is dropped, all are spared. -/
theorem spared_nil (faces : List (Nat × Parcel α)) : spared [] faces = faces :=
  List.filter_eq_self.mpr fun _ _ => rfl

/-- The drop of one wait spares the others. -/
theorem spared_cons (key : Nat) (dropped : List Nat) (faces : List (Nat × Parcel α)) :
    spared (key :: dropped) faces = spared dropped (faces.filter (·.1 != key)) := by
  rw [spared, spared, List.filter_filter]
  refine List.filter_congr fun face _ => ?_
  rw [List.contains_cons, Bool.not_or, Bool.and_comm]
  rfl

/-- Of these waits, in parking order, the first so many are woken and the others queued; `former`
are the waits that were woken before. -/
structure Standing (queue : WaitQueue α) (former lasting : List (Nat × Parcel α)) (wakes : Nat) :
    Prop where
  /-- The first were woken, in order. -/
  woken : queue.woken.map Wait.face = former ++ lasting.take wakes
  /-- The others wait, in order. -/
  waiting : queue.waiting.map Wait.face = lasting.drop wakes
  /-- No two waits have the same key. -/
  distinct : ((former ++ lasting).map (·.1)).Nodup
  /-- No transfer has happened on any of them. -/
  unsettled : ∀ face ∈ lasting, face.2.isSettled = false

section Standings

variable {queue : WaitQueue α} {former lasting : List (Nat × Parcel α)} {wakes : Nat}

/-- At first everybody waits. -/
theorem Keyed.standing (keyed : queue.Keyed)
    (unsettled : ∀ wait ∈ queue.waiting, wait.parcel.isSettled = false) :
    queue.Standing (queue.woken.map Wait.face) (queue.waiting.map Wait.face) 0 := by
  refine ⟨by simp, by simp, ?_, fun face listed => ?_⟩
  · have swapped : queue.waits.Perm (queue.woken ++ queue.waiting) := List.perm_append_comm
    have distinct := (swapped.map (·.key)).nodup_iff.mp keyed.distinct
    simpa [Wait.face, Function.comp_def] using distinct
  · obtain ⟨wait, queued, rfl⟩ := List.mem_map.mp listed
    exact unsettled wait queued

/-- A call for a wakeup moves the border by one place. -/
theorem Standing.wake (standing : queue.Standing former lasting wakes) :
    (queue.wake 1).Standing former lasting (wakes + 1) := by
  refine ⟨?_, ?_, standing.distinct, standing.unsettled⟩
  · simp only [WaitQueue.wake, front, List.map_append, List.map_take, standing.woken,
      standing.waiting, List.append_assoc]
    rw [List.take_add]
  · simp only [WaitQueue.wake, List.map_drop, standing.waiting, List.drop_drop]

/-- Calls for a wakeup that find nobody change nothing. -/
theorem Standing.atMost (standing : queue.Standing former lasting wakes) :
    queue.Standing former lasting (min wakes lasting.length) := by
  rcases Nat.le_total wakes lasting.length with enough | beyond
  · rwa [Nat.min_eq_left enough]
  · rw [Nat.min_eq_right beyond]
    refine ⟨?_, ?_, standing.distinct, standing.unsettled⟩
    · rw [standing.woken, List.take_of_length_le beyond, List.take_length]
    · rw [standing.waiting, List.drop_of_length_le beyond, List.drop_length]

/-- A poll of a queued wait changes no face. -/
theorem Standing.refresh (standing : queue.Standing former lasting wakes) (key : Nat)
    (waker : TaskId) : (queue.refresh key waker).Standing former lasting wakes := by
  refine ⟨standing.woken, ?_, standing.distinct, standing.unsettled⟩
  rw [← standing.waiting, WaitQueue.refresh, List.map_map]
  refine List.map_congr_left fun wait _ => ?_
  simp only [Function.comp_apply]
  split <;> rfl

/-- A wait can be looked up by its key among the woken. -/
theorem Standing.woken?_of_mem (standing : queue.Standing former lasting wakes)
    {face : Nat × Parcel α} (early : face ∈ lasting.take wakes) :
    ∃ wait, queue.woken? face.1 = some wait ∧ wait.parcel = face.2 := by
  have listed : face ∈ queue.woken.map Wait.face := by
    rw [standing.woken]
    exact List.mem_append_right _ early
  obtain ⟨wait, woken, rfl⟩ := List.mem_map.mp listed
  have keys : queue.woken.map (·.key) = (former ++ lasting.take wakes).map (·.1) := by
    rw [← standing.woken, List.map_map]
    rfl
  have distinct : (queue.woken.map (·.key)).Nodup := by
    rw [keys]
    exact standing.distinct.sublist
      (((List.take_sublist wakes lasting).append_left former).map (·.1))
  exact ⟨wait, find?_number_of_mem distinct woken, rfl⟩

/-- A woken wait is not queued. -/
theorem Standing.dequeued (standing : queue.Standing former lasting wakes)
    {face : Nat × Parcel α} (early : face ∈ lasting.take wakes) : queue.holds face.1 = false := by
  have distinct : (lasting.map (·.1)).Nodup :=
    standing.distinct.sublist ((List.sublist_append_right former lasting).map (·.1))
  rw [← List.take_append_drop wakes lasting, List.map_append, List.nodup_append] at distinct
  refine Bool.eq_false_iff.mpr fun queued => ?_
  obtain ⟨wait, waiting, same⟩ := holds_iff.mp queued
  have late : wait.face ∈ lasting.drop wakes := by
    rw [← standing.waiting]
    exact List.mem_map_of_mem waiting
  exact distinct.2.2 _ (List.mem_map_of_mem early) _ (List.mem_map_of_mem late) same.symm

/-- A poll is in vain exactly if the wait is queued. -/
theorem found?_eq_none_iff {key : Nat} : queue.found? key = none ↔ queue.holds key = true := by
  cases queued : queue.holds key <;> simp [found?, queued]

/-- A wait behind the border is queued. -/
theorem Standing.queued (standing : queue.Standing former lasting wakes)
    {face : Nat × Parcel α} (late : face ∈ lasting.drop wakes) : queue.holds face.1 = true := by
  rw [← standing.waiting] at late
  obtain ⟨wait, waiting, rfl⟩ := List.mem_map.mp late
  exact holds_iff.mpr ⟨wait, waiting, rfl⟩

/-- A woken wait that is dropped is forgotten, and the first behind the border is woken. -/
theorem Standing.leave_of_woken (standing : queue.Standing former lasting wakes)
    {face : Nat × Parcel α} (early : face ∈ lasting.take wakes) :
    queue.leave face.1 = (queue.forget face.1).wake 1 := by
  obtain ⟨wait, found, parcel⟩ := standing.woken?_of_mem early
  have pending : wait.parcel.isSettled = false := by
    rw [parcel]
    exact standing.unsettled face (List.mem_of_mem_take early)
  rcases queue.leave_cases face.1 with ⟨queued, _⟩ | ⟨_, _, settled⟩ | ⟨_, left, _⟩
  · simp [standing.dequeued early] at queued
  · simp [settled wait found] at pending
  · exact left

/-- A queued wait that is dropped leaves the others where they are. -/
theorem Standing.leave_of_queued (standing : queue.Standing former lasting wakes)
    {face : Nat × Parcel α} (late : face ∈ lasting.drop wakes) :
    queue.leave face.1 = { queue with waiting := queue.waiting.filter (·.key != face.1) } := by
  have queued := standing.queued late
  rcases queue.leave_cases face.1 with ⟨_, left⟩ | ⟨dequeued, _⟩ | ⟨dequeued, _⟩
  · exact left
  · simp [queued] at dequeued
  · simp [queued] at dequeued

/-- The faces of the waits that have another key. -/
theorem map_face_filter (waits : List (Wait α)) (key : Nat) :
    (waits.filter (·.key != key)).map Wait.face = (waits.map Wait.face).filter (·.1 != key) := by
  rw [List.filter_map]
  rfl

variable {before later : List (Nat × Parcel α)} {face : Nat × Parcel α}

/-- The waits other than one of them have distinct keys, too. -/
theorem Standing.distinct_others
    (standing : queue.Standing former (before ++ face :: later) wakes) :
    ((former ++ (before ++ later)).map (·.1)).Nodup :=
  standing.distinct.sublist
    ((((List.sublist_cons_self face later).append_left before).append_left former).map (·.1))

/-- No transfer has happened on the waits other than one of them. -/
theorem Standing.unsettled_others
    (standing : queue.Standing former (before ++ face :: later) wakes) :
    ∀ other ∈ before ++ later, other.2.isSettled = false := by
  intro other kept
  refine standing.unsettled other ?_
  rcases List.mem_append.mp kept with earlier | after
  · exact List.mem_append_left _ earlier
  · exact List.mem_append_right _ (List.mem_cons_of_mem _ after)

/-- When a woken wait is dropped, its wakeup moves the border past the first who was behind it. -/
theorem Standing.pass {extra : Nat}
    (standing : queue.Standing former (before ++ face :: later) (before.length + (extra + 1))) :
    (queue.leave face.1).Standing former (before ++ later) (before.length + (extra + 1)) := by
  have front : (before ++ face :: later).take (before.length + (extra + 1)) =
      before ++ face :: later.take extra := by simp [List.take_length_add_append]
  have back : (before ++ face :: later).drop (before.length + (extra + 1)) =
      later.drop extra := by simp [List.drop_length_add_append]
  have inside : face ∈ (before ++ face :: later).take (before.length + (extra + 1)) := by
    simp [front]
  have left := standing.leave_of_woken inside
  have woken := standing.woken
  rw [front, ← List.append_assoc] at woken
  have distinct : ((former ++ before ++ face :: later.take extra).map (·.1)).Nodup := by
    rw [List.append_assoc, ← front]
    exact standing.distinct.sublist (((List.take_sublist _ _).append_left former).map (·.1))
  refine ⟨?_, ?_, standing.distinct_others, standing.unsettled_others⟩
  · rw [left, List.take_length_add_append, List.take_add]
    simp only [WaitQueue.wake, WaitQueue.forget, WaitQueue.front, List.map_append,
      map_face_filter, List.map_take, woken, standing.waiting, back]
    rw [filter_number_split distinct]
    simp only [List.append_assoc]
  · rw [left, List.drop_length_add_append]
    simp only [WaitQueue.wake, WaitQueue.forget, List.map_drop, standing.waiting, back,
      List.drop_drop]

/-- When a queued wait is dropped, the border stays. -/
theorem Standing.withdraw (standing : queue.Standing former (before ++ face :: later) wakes)
    (short : wakes ≤ before.length) :
    (queue.leave face.1).Standing former (before ++ later) wakes := by
  have back : (before ++ face :: later).drop wakes = before.drop wakes ++ face :: later :=
    List.drop_append_of_le_length short
  have inside : face ∈ (before ++ face :: later).drop wakes := by simp [back]
  have left := standing.leave_of_queued inside
  have distinct : ((before.drop wakes ++ face :: later).map (·.1)).Nodup := by
    rw [← back]
    exact standing.distinct.sublist
      (((List.drop_sublist _ _).trans (List.sublist_append_right former _)).map (·.1))
  refine ⟨?_, ?_, standing.distinct_others, standing.unsettled_others⟩
  · rw [left, standing.woken, List.take_append_of_le_length short,
      List.take_append_of_le_length short]
  · rw [left, map_face_filter, standing.waiting, back, filter_number_split distinct,
      List.drop_append_of_le_length short]

/-- One of the waits is dropped: whether it was queued or woken, the border is where it would be
without it. -/
theorem Standing.leave (standing : queue.Standing former lasting wakes) {key : Nat}
    (own : key ∈ lasting.map (·.1)) :
    (queue.leave key).Standing former (lasting.filter (·.1 != key)) wakes := by
  obtain ⟨face, listed, rfl⟩ := List.mem_map.mp own
  obtain ⟨before, later, rfl⟩ := List.append_of_mem listed
  rw [filter_number_split
    (standing.distinct.sublist ((List.sublist_append_right former _).map (·.1)))]
  by_cases early : before.length < wakes
  · obtain ⟨extra, rfl⟩ : ∃ extra, wakes = before.length + (extra + 1) :=
      ⟨wakes - before.length - 1, by omega⟩
    exact standing.pass
  · exact standing.withdraw (Nat.le_of_not_lt early)

/-- A wait of another key is still there when the waits of one key are gone. -/
theorem key_listed_of_ne {key other : Nat} (listed : other ∈ lasting.map (·.1))
    (apart : other ≠ key) : other ∈ (lasting.filter (·.1 != key)).map (·.1) := by
  obtain ⟨face, known, rfl⟩ := List.mem_map.mp listed
  exact List.mem_map_of_mem (List.mem_filter.mpr ⟨known, by simpa using apart⟩)

/-- The invariant holds through a whole interleaving. -/
theorem Standing.touchAll {more : Nat} {dropped : List Nat} {touches : List (Touch α)}
    (standing : queue.Standing former lasting wakes)
    (own : ∀ key ∈ dropped, key ∈ lasting.map (·.1))
    (interleaves : queue.Interleaves more dropped touches) :
    (queue.touchAll touches).Standing former (spared dropped lasting) (wakes + more) := by
  induction interleaves generalizing lasting wakes with
  | done =>
    rw [spared_nil]
    exact standing
  | @wake queue more dropped touches rest ih =>
    have later := ih standing.wake own
    rwa [Nat.add_right_comm] at later
  | @poll queue more key waker dropped touches pending rest ih =>
    have polled : queue.touch (.poll key waker) = queue.refresh key waker := by
      simp [WaitQueue.touch, WaitQueue.poll, found?_eq_none_iff.mp pending]
    exact ih (polled ▸ standing.refresh key waker) own
  | @drop queue more key dropped touches once rest ih =>
    rw [spared_cons]
    refine ih (standing.leave (own key List.mem_cons_self)) fun other later => ?_
    exact key_listed_of_ne (own other (List.mem_cons_of_mem _ later))
      fun same => once (same ▸ later)

/-- A wait is dropped once. -/
theorem Interleaves.nodup {more : Nat} {dropped : List Nat} {touches : List (Touch α)}
    (interleaves : queue.Interleaves more dropped touches) : dropped.Nodup := by
  induction interleaves with
  | done => exact List.nodup_nil
  | wake _ ih => exact ih
  | poll _ _ ih => exact ih
  | drop once _ ih => exact List.nodup_cons.mpr ⟨once, ih⟩

/-- Every drop leaves one wait less. -/
theorem length_spared {dropped : List Nat} (once : dropped.Nodup)
    (distinct : (lasting.map (·.1)).Nodup) (own : ∀ key ∈ dropped, key ∈ lasting.map (·.1)) :
    (spared dropped lasting).length + dropped.length = lasting.length := by
  induction dropped generalizing lasting with
  | nil =>
    rw [spared_nil]
    rfl
  | cons key rest ih =>
    obtain ⟨absent, onceRest⟩ := List.nodup_cons.mp once
    obtain ⟨face, listed, rfl⟩ := List.mem_map.mp (own key List.mem_cons_self)
    have one := (perm_cons_filter_number distinct listed).length_eq
    have kept : ∀ other ∈ rest, other ∈ (lasting.filter (·.1 != face.1)).map (·.1) :=
      fun other later => key_listed_of_ne (own other (List.mem_cons_of_mem _ later))
        fun same => absent (same ▸ later)
    have fewer := ih onceRest (distinct.sublist (List.filter_sublist.map _)) kept
    rw [spared_cons]
    simp only [List.length_cons] at one ⊢
    omega

end Standings

/-- The waits that are never dropped are woken in the order in which they were parked, as many as
there were calls for a wakeup, in whatever order calls and drops came: whether a wait is dropped
before or after it was woken, no wakeup is lost and none counts twice. -/
theorem survivors_woken_in_order (history touches : List (Touch α)) (wakes : Nat)
    (dropped : List Nat)
    (unsettled : ∀ wait ∈ ((new : WaitQueue α).touchAll history).waiting,
      wait.parcel.isSettled = false)
    (own : ∀ key ∈ dropped, ((new : WaitQueue α).touchAll history).holds key = true)
    (interleaves : ((new : WaitQueue α).touchAll history).Interleaves wakes dropped touches) :
    let queue := (new : WaitQueue α).touchAll history
    let after := queue.touchAll touches
    let survivors := spared dropped (queue.waiting.map Wait.face)
    let border := min wakes (queue.length - dropped.length)
    survivors.length = queue.length - dropped.length ∧
      after.woken.map Wait.face = queue.woken.map Wait.face ++ survivors.take border ∧
      after.waiting.map Wait.face = survivors.drop border ∧
      (∀ face ∈ survivors.take border, after.found? face.1 = some face.2) ∧
      ∀ face ∈ survivors.drop border, after.found? face.1 = none := by
  intro queue after survivors border
  have start := (keyed_touchAll history).standing unsettled
  have ownFaces : ∀ key ∈ dropped, key ∈ (queue.waiting.map Wait.face).map (·.1) := by
    intro key listed
    obtain ⟨wait, queued, rfl⟩ := holds_iff.mp (own key listed)
    exact List.mem_map_of_mem (List.mem_map_of_mem queued)
  have distinct : ((queue.waiting.map Wait.face).map (·.1)).Nodup :=
    start.distinct.sublist
      ((List.sublist_append_right (queue.woken.map Wait.face) _).map (·.1))
  have count : survivors.length = queue.length - dropped.length := by
    have total := length_spared interleaves.nodup distinct ownFaces
    simp only [List.length_map] at total
    exact Nat.eq_sub_of_add_eq total
  have finish : after.Standing (queue.woken.map Wait.face) survivors border := by
    have run := start.touchAll ownFaces interleaves
    rw [Nat.zero_add] at run
    have reached := run.atMost
    rwa [count] at reached
  refine ⟨count, finish.woken, finish.waiting, fun face early => ?_, fun face late => ?_⟩
  · obtain ⟨wait, found, same⟩ := finish.woken?_of_mem early
    simp [found?, finish.dequeued early, found, same]
  · exact found?_eq_none_iff.mpr (finish.queued late)

/-- Of three waits the first is woken and then dropped: its wakeup goes to the second, which finds
its offer untouched, and the third stays queued. -/
theorem wakeup_of_dropped_passed_on :
    let queue := (new : WaitQueue Nat).touchAll [.park .empty, .park (.offered 5), .park .empty]
    let after := queue.touchAll [.wakeFirst, .poll 2 7, .drop 0]
    after.woken.map Wait.face = [(1, .offered 5)] ∧ after.waiting.map Wait.face = [(2, .empty)] ∧
      after.found? 1 = some (.offered 5) ∧ after.found? 2 = none := by
  have ⟨_, woken, waiting, found, pending⟩ := survivors_woken_in_order
    [.park .empty, .park (.offered 5), .park .empty] [.wakeFirst, .poll 2 7, .drop 0] 1 [0]
    (by decide) (by decide) (.wake (.poll rfl (.drop (by decide) .done)))
  exact ⟨woken, waiting, found (1, .offered 5) (by decide), pending (2, .empty) (by decide)⟩

end WaitQueue

end ChannelBus
