import ChannelBus.Channel

/-!
# Wait queues as boards of parcels

What a wait queue means to the tasks parked on it is a board: under each key lies one parcel, from
the moment a wait is parked until its task resumes or is dropped, whether the wait is queued or
already woken. Every operation on a queue is described here by what it does to that board.

`WaitQueue.Orderly` is the invariant of one queue. Its keys are never used twice, the parcels on
queued waits are those that the side of the queue parks, and a parcel on which a transfer has
happened lies on a woken wait of a rendezvous channel.
-/

namespace ChannelBus

variable {α : Type}

/-- Whether the transfer for which the parcel was left has happened. -/
def Parcel.isSettled : Parcel α → Bool
  | .delivered _ | .taken => true
  | .empty | .offered _ => false

/-- Whether a queued wait of this side may hold the parcel: senders offer a value, broadcasters and
receivers leave nothing. -/
def Side.mayQueue : Side → Parcel α → Bool
  | .senders, .empty | .senders, .offered _ | .receivers, .empty => true
  | _, _ => false

/-- Whether a woken wait of this side may hold the parcel. -/
def Side.mayWake : Side → Parcel α → Bool
  | .senders, .taken | .receivers, .delivered _ => true
  | side, parcel => side.mayQueue parcel

/-- No transfer has happened on a parcel that may be queued. -/
theorem Side.isSettled_of_mayQueue {side : Side} {parcel : Parcel α}
    (queued : side.mayQueue parcel = true) : parcel.isSettled = false := by
  cases side <;> cases parcel <;> simp_all [Side.mayQueue, Parcel.isSettled]

/-- A wait keeps its parcel when it is woken. -/
theorem Side.mayWake_of_mayQueue {side : Side} {parcel : Parcel α}
    (queued : side.mayQueue parcel = true) : side.mayWake parcel = true := by
  cases side <;> cases parcel <;> simp_all [Side.mayQueue, Side.mayWake]

section Lookup

variable {β : Type} {numberOf : β → Nat}

/-- Among items with distinct numbers, each is the one found under its number. -/
theorem find?_number_of_mem {items : List β} (distinct : (items.map numberOf).Nodup) {item : β}
    (member : item ∈ items) : items.find? (numberOf · == numberOf item) = some item := by
  induction items with
  | nil => simp at member
  | cons first rest ih =>
    rw [List.map_cons, List.nodup_cons] at distinct
    rcases List.mem_cons.mp member with rfl | later
    · simp
    · have other : numberOf first ≠ numberOf item := fun same =>
        distinct.1 (same ▸ List.mem_map_of_mem later)
      simpa [other] using ih distinct.2 later

/-- Among items with distinct numbers, finding one means that it is there and has the number. -/
theorem find?_number_eq_some_iff {items : List β} (distinct : (items.map numberOf).Nodup)
    {item : β} {number : Nat} :
    items.find? (numberOf · == number) = some item ↔ item ∈ items ∧ numberOf item = number := by
  constructor
  · intro found
    exact ⟨List.mem_of_find?_eq_some found, by simpa using List.find?_some found⟩
  · rintro ⟨member, rfl⟩
    exact find?_number_of_mem distinct member

/-- The order of items with distinct numbers does not matter for what is found. -/
theorem find?_number_perm {items others : List β} (same : items.Perm others)
    (distinct : (items.map numberOf).Nodup) (number : Nat) :
    items.find? (numberOf · == number) = others.find? (numberOf · == number) := by
  have distinctToo : (others.map numberOf).Nodup := (same.map _).nodup_iff.mp distinct
  ext item
  rw [find?_number_eq_some_iff distinct, find?_number_eq_some_iff distinctToo, same.mem_iff]

/-- Without the item of one number, the others keep their places. -/
theorem filter_number_split {before later : List β} {item : β}
    (distinct : ((before ++ item :: later).map numberOf).Nodup) :
    ((before ++ item :: later).filter fun other => numberOf other != numberOf item) =
      before ++ later := by
  have apart := (List.perm_middle.map numberOf).nodup_iff.mp distinct
  have others : ((before ++ later).filter fun other => numberOf other != numberOf item) =
      before ++ later := by
    refine List.filter_eq_self.mpr fun other inside => ?_
    have different : numberOf other ≠ numberOf item := fun same =>
      (List.nodup_cons.mp apart).1 (same ▸ List.mem_map_of_mem inside)
    simpa using different
  simpa using others

/-- An item comes away from a list by its number. -/
theorem perm_cons_filter_number {items : List β} (distinct : (items.map numberOf).Nodup) {item : β}
    (member : item ∈ items) :
    items.Perm (item :: items.filter fun other => numberOf other != numberOf item) := by
  obtain ⟨before, later, rfl⟩ := List.append_of_mem member
  rw [filter_number_split distinct]
  exact List.perm_middle

end Lookup

namespace WaitQueue

/-! ## Boards -/

/-- The parcel that the wait with this key holds in a list of waits. -/
def parcelIn (waits : List (Wait α)) (key : Nat) : Option (Parcel α) :=
  (waits.find? (·.key == key)).map (·.parcel)

/-- The first wait answers to its own key. -/
theorem parcelIn_cons (wait : Wait α) (rest : List (Wait α)) (key : Nat) :
    parcelIn (wait :: rest) key =
      if key = wait.key then some wait.parcel else parcelIn rest key := by
  by_cases same : wait.key = key
  · simp [parcelIn, same]
  · simp [parcelIn, same, Ne.symm same]

/-- Nothing is found under a key that no wait has. -/
theorem parcelIn_eq_none {waits : List (Wait α)} {key : Nat}
    (absent : ∀ wait ∈ waits, wait.key ≠ key) : parcelIn waits key = none := by
  simpa [parcelIn] using absent

/-- The order of waits with distinct keys does not matter for their parcels. -/
theorem parcelIn_perm {waits others : List (Wait α)} (same : waits.Perm others)
    (distinct : (waits.map (·.key)).Nodup) (key : Nat) :
    parcelIn waits key = parcelIn others key := by
  rw [parcelIn, parcelIn, find?_number_perm same distinct]

/-- Every wait whose task has neither resumed nor been dropped: the queued, then the woken. -/
def waits (queue : WaitQueue α) : List (Wait α) :=
  queue.waiting ++ queue.woken

/-- The parcel of the wait with this key. -/
def parcel? (queue : WaitQueue α) (key : Nat) : Option (Parcel α) :=
  parcelIn queue.waits key

/-- How many waits were dequeued without a transfer and have not resumed: the wakeups that are
still on their way. -/
def pending (queue : WaitQueue α) : Nat :=
  queue.woken.countP fun wait => !wait.parcel.isSettled

/-! ## The invariant of a queue -/

/-- Keys are given out in order and never twice. -/
structure Keyed (queue : WaitQueue α) : Prop where
  /-- No two waits have the same key. -/
  distinct : (queue.waits.map (·.key)).Nodup
  /-- The next key is larger than every key in use. -/
  fresh : ∀ wait ∈ queue.waits, wait.key < queue.nextKey

/-- What holds of a queue on one side of a channel at any time. -/
structure Orderly (queue : WaitQueue α) (side : Side) (rendezvous : Bool) : Prop where
  /-- Keys are unique. -/
  keyed : queue.Keyed
  /-- Queued waits hold what their side parks. -/
  queued : ∀ wait ∈ queue.waiting, side.mayQueue wait.parcel = true
  /-- Woken waits hold that, or the outcome of a transfer. -/
  woken : ∀ wait ∈ queue.woken, side.mayWake wait.parcel = true
  /-- Transfers between parked tasks happen only on rendezvous channels. -/
  settled : ∀ wait ∈ queue.woken, wait.parcel.isSettled = true → rendezvous = true

/-- A queue keeps distinct keys under any rearrangement of its waits. -/
theorem Keyed.perm {queue after : WaitQueue α} (keyed : queue.Keyed)
    (same : after.waits.Perm queue.waits) (next : after.nextKey = queue.nextKey) : after.Keyed :=
  ⟨(same.map _).nodup_iff.mpr keyed.distinct, fun wait member => by
    rw [next]
    exact keyed.fresh wait (same.mem_iff.mp member)⟩

/-- A queue keeps distinct keys when waits go away. -/
theorem Keyed.sublist {queue after : WaitQueue α} (keyed : queue.Keyed)
    (fewer : after.waits.Sublist queue.waits) (next : after.nextKey = queue.nextKey) :
    after.Keyed :=
  ⟨keyed.distinct.sublist (fewer.map _), fun wait member => by
    rw [next]
    exact keyed.fresh wait (fewer.subset member)⟩

/-- The next key is no key in use. -/
theorem Keyed.nextKey_unused {queue : WaitQueue α} (keyed : queue.Keyed) :
    queue.nextKey ∉ queue.waits.map (·.key) := by
  intro used
  obtain ⟨wait, member, same⟩ := List.mem_map.mp used
  exact Nat.lt_irrefl _ (same ▸ keyed.fresh wait member)

/-- Each wait's parcel is found under its key. -/
theorem Keyed.parcel?_of_mem {queue : WaitQueue α} (keyed : queue.Keyed) {wait : Wait α}
    (member : wait ∈ queue.waits) : queue.parcel? wait.key = some wait.parcel := by
  rw [parcel?, parcelIn, find?_number_of_mem keyed.distinct member]
  rfl

/-- Nothing lies under keys that were not given out yet. -/
theorem Keyed.parcel?_nextKey {queue : WaitQueue α} (keyed : queue.Keyed) :
    queue.parcel? queue.nextKey = none :=
  parcelIn_eq_none fun wait member same => Nat.lt_irrefl _ (same ▸ keyed.fresh wait member)

/-- A queue that nobody has parked on is orderly. -/
theorem orderly_new (side : Side) (rendezvous : Bool) :
    (new : WaitQueue α).Orderly side rendezvous :=
  ⟨⟨by simp [waits, new], by simp [waits, new]⟩, by simp [new], by simp [new], by simp [new]⟩

/-! ## Parking -/

/-- A parked wait is added to the others. -/
theorem waits_park (queue : WaitQueue α) (parcel : Parcel α) (waker : Option TaskId) :
    (queue.park parcel waker).waits.Perm
      ({ key := queue.nextKey, waker, parcel } :: queue.waits) := by
  simp only [waits, park, List.append_assoc]
  exact List.perm_middle

/-- Parking keeps the keys unique. -/
theorem Keyed.park {queue : WaitQueue α} (keyed : queue.Keyed) (parcel : Parcel α)
    (waker : Option TaskId) : (queue.park parcel waker).Keyed := by
  have same := queue.waits_park parcel waker
  refine ⟨(same.map _).nodup_iff.mpr ?_, fun wait member => ?_⟩
  · exact List.nodup_cons.mpr ⟨keyed.nextKey_unused, keyed.distinct⟩
  · rcases List.mem_cons.mp (same.mem_iff.mp member) with rfl | earlier
    · exact Nat.lt_succ_self _
    · exact Nat.lt_succ_of_lt (keyed.fresh wait earlier)

/-- Parking keeps a queue orderly if the side parks such parcels. -/
theorem Orderly.park {queue : WaitQueue α} {side : Side} {rendezvous : Bool}
    (orderly : queue.Orderly side rendezvous) {parcel : Parcel α}
    (allowed : side.mayQueue parcel = true) (waker : Option TaskId) :
    (queue.park parcel waker).Orderly side rendezvous := by
  refine ⟨orderly.keyed.park parcel waker, fun wait member => ?_, orderly.woken, orderly.settled⟩
  rcases List.mem_append.mp member with earlier | parked
  · exact orderly.queued wait earlier
  · obtain rfl := List.mem_singleton.mp parked
    exact allowed

/-- Parking puts one parcel on the board. -/
theorem Keyed.parcel?_park {queue : WaitQueue α} (keyed : queue.Keyed) (parcel : Parcel α)
    (waker : Option TaskId) (key : Nat) :
    (queue.park parcel waker).parcel? key =
      if key = queue.nextKey then some parcel else queue.parcel? key := by
  unfold parcel?
  rw [parcelIn_perm (queue.waits_park parcel waker) (keyed.park parcel waker).distinct,
    parcelIn_cons]

/-! ## Waking -/

/-- Waking only moves waits from the queued to the woken. -/
theorem waits_wake (queue : WaitQueue α) (count : Nat) :
    (queue.wake count).waits.Perm queue.waits := by
  have moved : (queue.wake count).waits.Perm
      ((queue.woken ++ queue.front count) ++ (queue.wake count).waiting) := List.perm_append_comm
  rw [List.append_assoc, queue.front_append_waiting_wake count] at moved
  exact moved.trans List.perm_append_comm

/-- Waking changes no parcel. -/
theorem Keyed.parcel?_wake {queue : WaitQueue α} (keyed : queue.Keyed) (count key : Nat) :
    (queue.wake count).parcel? key = queue.parcel? key :=
  (parcelIn_perm (queue.waits_wake count).symm keyed.distinct key).symm

/-- Waking keeps a queue orderly. -/
theorem Orderly.wake {queue : WaitQueue α} {side : Side} {rendezvous : Bool}
    (orderly : queue.Orderly side rendezvous) (count : Nat) :
    (queue.wake count).Orderly side rendezvous := by
  refine ⟨orderly.keyed.perm (queue.waits_wake count) rfl, fun wait member => ?_,
    fun wait member => ?_, fun wait member happened => ?_⟩
  · exact orderly.queued wait (List.mem_of_mem_drop member)
  · rcases List.mem_append.mp member with earlier | fronted
    · exact orderly.woken wait earlier
    · exact Side.mayWake_of_mayQueue (orderly.queued wait (List.mem_of_mem_take fronted))
  · rcases List.mem_append.mp member with earlier | fronted
    · exact orderly.settled wait earlier happened
    · have unsettled := Side.isSettled_of_mayQueue
        (orderly.queued wait (List.mem_of_mem_take fronted))
      rw [unsettled] at happened
      contradiction

/-- Every woken wait adds a pending wakeup. -/
theorem Orderly.pending_wake {queue : WaitQueue α} {side : Side} {rendezvous : Bool}
    (orderly : queue.Orderly side rendezvous) (count : Nat) :
    (queue.wake count).pending = queue.pending + min count queue.length := by
  have all : (queue.front count).countP (fun wait => !wait.parcel.isSettled) =
      (queue.front count).length := by
    refine List.countP_eq_length.mpr fun wait member => ?_
    rw [Side.isSettled_of_mayQueue (orderly.queued wait (List.mem_of_mem_take member))]
    rfl
  simp only [pending, WaitQueue.wake, List.countP_append, all]
  simp [front, length]

/-- If somebody is still queued after a waking, as many wakeups are on their way as were asked
for. -/
theorem Orderly.pending_wake_of_waiting {queue : WaitQueue α} {side : Side} {rendezvous : Bool}
    (orderly : queue.Orderly side rendezvous) {count : Nat}
    (waiting : (queue.wake count).waiting ≠ []) :
    queue.waiting ≠ [] ∧ (queue.wake count).pending = queue.pending + count := by
  have more : count < queue.length := by
    simpa only [WaitQueue.wake, WaitQueue.length, ne_eq, List.drop_eq_nil_iff, Nat.not_le] using
      waiting
  constructor
  · intro nobody
    simp [length, nobody] at more
  · rw [orderly.pending_wake, Nat.min_eq_left (Nat.le_of_lt more)]

/-! ## Transfers -/

/-- A queued wait is woken with another parcel; `others` are the waits that stay queued. -/
def settle (queue : WaitQueue α) (wait : Wait α) (parcel : Parcel α) (others : List (Wait α)) :
    WaitQueue α :=
  { queue with waiting := others, woken := queue.woken ++ [{ wait with parcel }] }

/-- A delivery goes to a queued wait whose parcel is empty, and there is none before it. -/
theorem deliverFirst_eq_some {queue after : WaitQueue α} {value : α} {served : Wait α}
    (delivered : queue.deliverFirst value = some (served, after)) :
    ∃ wait before later, queue.waiting = before ++ wait :: later ∧ wait.parcel = .empty ∧
      (∀ earlier ∈ before, earlier.parcel.isEmpty = false) ∧
      served = { wait with parcel := .delivered value } ∧
      after = queue.settle wait (.delivered value) (before ++ later) := by
  simp only [deliverFirst, Option.map_eq_some_iff, Prod.mk.injEq] at delivered
  obtain ⟨⟨wait, _, others⟩, extracted, rfl, rfl⟩ := delivered
  obtain ⟨before, later, split, rfl, chosen, refused⟩ := extractFirst_eq_some extracted
  refine ⟨wait, before, later, split, ?_, fun earlier member => ?_, rfl, rfl⟩
  · cases held : wait.parcel <;> simp [held, Parcel.isEmpty] at chosen ⊢
  · simpa using refused earlier member

/-- Nothing can be delivered exactly if no queued wait holds an empty parcel. -/
theorem deliverFirst_eq_none_iff {queue : WaitQueue α} {value : α} :
    queue.deliverFirst value = none ↔ ∀ wait ∈ queue.waiting, wait.parcel.isEmpty = false := by
  simp [deliverFirst, extractFirst_eq_none_iff]

/-- An offer is taken from a queued wait that holds one, and there is none before it. -/
theorem takeFirstOffer_eq_some {queue after : WaitQueue α} {value : α} {settled : Wait α}
    (taken : queue.takeFirstOffer = some (value, settled, after)) :
    ∃ wait before later, queue.waiting = before ++ wait :: later ∧
      wait.parcel = .offered value ∧ (∀ earlier ∈ before, earlier.parcel.offer? = none) ∧
      settled = { wait with parcel := .taken } ∧
      after = queue.settle wait .taken (before ++ later) := by
  simp only [takeFirstOffer, Option.map_eq_some_iff, Prod.mk.injEq] at taken
  obtain ⟨⟨wait, offer, others⟩, extracted, rfl, rfl, rfl⟩ := taken
  obtain ⟨before, later, split, rfl, chosen, refused⟩ := extractFirst_eq_some extracted
  refine ⟨wait, before, later, split, ?_, refused, rfl, rfl⟩
  cases held : wait.parcel <;> simp [held, Parcel.offer?] at chosen ⊢
  exact chosen

section Settling

variable {queue : WaitQueue α} {wait : Wait α} {parcel : Parcel α} {before later : List (Wait α)}

/-- A queued wait can be put before all the others. -/
theorem waits_split (split : queue.waiting = before ++ wait :: later) :
    queue.waits.Perm (wait :: (before ++ later ++ queue.woken)) := by
  simp only [waits, split, List.append_assoc, List.cons_append]
  exact List.perm_middle

/-- Settling a queued wait replaces it by one that differs in its parcel. -/
theorem waits_settle (queue : WaitQueue α) (wait : Wait α) (parcel : Parcel α)
    (before later : List (Wait α)) :
    (queue.settle wait parcel (before ++ later)).waits.Perm
      ({ wait with parcel } :: (before ++ later ++ queue.woken)) := by
  simp only [waits, settle]
  rw [← List.append_assoc]
  exact List.perm_append_singleton _ _

/-- Settling keeps the keys unique. -/
theorem Keyed.settle (keyed : queue.Keyed) (split : queue.waiting = before ++ wait :: later) :
    (queue.settle wait parcel (before ++ later)).Keyed := by
  have replaced := waits_settle queue wait parcel before later
  have original := waits_split split
  refine ⟨?_, fun other member => ?_⟩
  · have distinct := (original.map (·.key)).nodup_iff.mp keyed.distinct
    exact (replaced.map (·.key)).nodup_iff.mpr distinct
  · rcases List.mem_cons.mp (replaced.mem_iff.mp member) with rfl | kept
    · exact keyed.fresh wait (original.mem_iff.mpr List.mem_cons_self)
    · exact keyed.fresh other (original.mem_iff.mpr (List.mem_cons_of_mem _ kept))

/-- Settling changes one parcel on the board. -/
theorem Keyed.parcel?_settle (keyed : queue.Keyed) (split : queue.waiting = before ++ wait :: later)
    (key : Nat) : (queue.settle wait parcel (before ++ later)).parcel? key =
      if key = wait.key then some parcel else queue.parcel? key := by
  have replaced := waits_settle queue wait parcel before later
  have original := waits_split split
  unfold parcel?
  rw [parcelIn_perm replaced (keyed.settle split).distinct, parcelIn_cons,
    parcelIn_perm original keyed.distinct, parcelIn_cons]
  split <;> rfl

/-- The settled wait is one of the queue. -/
theorem mem_waits_of_split (split : queue.waiting = before ++ wait :: later) : wait ∈ queue.waits :=
  (waits_split split).mem_iff.mpr List.mem_cons_self

/-- A transfer on a rendezvous channel keeps its queue orderly. -/
theorem Orderly.settle {side : Side} (orderly : queue.Orderly side true)
    (split : queue.waiting = before ++ wait :: later) (allowed : side.mayWake parcel = true) :
    (queue.settle wait parcel (before ++ later)).Orderly side true := by
  refine ⟨orderly.keyed.settle split, fun other member => ?_, fun other member => ?_,
    fun _ _ _ => rfl⟩
  · refine orderly.queued other ?_
    rw [split]
    rcases List.mem_append.mp member with earlier | after
    · exact List.mem_append_left _ earlier
    · exact List.mem_append_right _ (List.mem_cons_of_mem _ after)
  · rcases List.mem_append.mp member with earlier | settled
    · exact orderly.woken other earlier
    · obtain rfl := List.mem_singleton.mp settled
      exact allowed

/-- A settled wait is no pending wakeup. -/
theorem pending_settle (settled : parcel.isSettled = true) :
    (queue.settle wait parcel (before ++ later)).pending = queue.pending := by
  simp [pending, WaitQueue.settle, settled]

end Settling

/-! ## Resuming and leaving -/

/-- The wait with a key is queued exactly if the queue holds the key. -/
theorem holds_iff {queue : WaitQueue α} {key : Nat} :
    queue.holds key = true ↔ ∃ wait ∈ queue.waiting, wait.key = key := by
  simp [holds]

/-- A new waker changes neither keys nor parcels. -/
theorem waits_refresh (queue : WaitQueue α) (key : Nat) (waker : TaskId) :
    (queue.refresh key waker).waits.map (fun wait => (wait.key, wait.parcel)) =
      queue.waits.map (fun wait => (wait.key, wait.parcel)) := by
  have kept : ∀ wait : Wait α, (fun wait : Wait α => (wait.key, wait.parcel))
      (if wait.key == key then { wait with waker := some waker } else wait) =
        (wait.key, wait.parcel) := by
    intro wait
    split <;> rfl
  simp only [waits, refresh, List.map_append, List.map_map]
  congr 1
  exact List.map_congr_left fun wait _ => kept wait

/-- A new waker changes no parcel. -/
theorem parcel?_refresh (queue : WaitQueue α) (waker : TaskId) (refreshed key : Nat) :
    (queue.refresh refreshed waker).parcel? key = queue.parcel? key := by
  have board : ∀ waits : List (Wait α), parcelIn waits key =
      ((waits.map fun wait => (wait.key, wait.parcel)).find? (·.1 == key)).map (·.2) := by
    intro waits
    rw [List.find?_map, Option.map_map]
    rfl
  rw [parcel?, parcel?, board, board, waits_refresh]

/-- A new waker that is the old one changes nothing. -/
theorem refresh_eq_self {queue : WaitQueue α} {key : Nat} {waker : TaskId}
    (own : ∀ wait ∈ queue.waiting, wait.key = key → wait.waker = some waker) :
    queue.refresh key waker = queue := by
  have kept : ∀ wait ∈ queue.waiting,
      (if wait.key == key then { wait with waker := some waker } else wait) = id wait := by
    intro wait queued
    split
    case isTrue here => rw [← own wait queued (beq_iff_eq.mp here), id]
    case isFalse => rfl
  rw [refresh, List.map_congr_left kept, List.map_id]

/-- A new waker keeps the keys unique. -/
theorem Keyed.refresh {queue : WaitQueue α} (keyed : queue.Keyed) (key : Nat) (waker : TaskId) :
    (queue.refresh key waker).Keyed := by
  have keys : (queue.refresh key waker).waits.map (·.key) = queue.waits.map (·.key) := by
    simpa [Function.comp_def] using congrArg (List.map Prod.fst) (queue.waits_refresh key waker)
  refine ⟨keys ▸ keyed.distinct, fun wait member => ?_⟩
  obtain ⟨original, known, same⟩ := List.mem_map.mp (keys ▸ List.mem_map_of_mem member :
    wait.key ∈ queue.waits.map (·.key))
  exact same ▸ keyed.fresh original known

/-- A new waker keeps a queue orderly. -/
theorem Orderly.refresh {queue : WaitQueue α} {side : Side} {rendezvous : Bool}
    (orderly : queue.Orderly side rendezvous) (key : Nat) (waker : TaskId) :
    (queue.refresh key waker).Orderly side rendezvous := by
  refine ⟨orderly.keyed.refresh key waker, fun wait member => ?_, orderly.woken, orderly.settled⟩
  obtain ⟨original, known, rfl⟩ := List.mem_map.mp member
  split <;> exact orderly.queued original known

/-- Without the waits of one key, nothing lies under that key and the rest of the board stays. -/
theorem parcelIn_filter (waits : List (Wait α)) (gone key : Nat) :
    parcelIn (waits.filter (·.key != gone)) key =
      if key = gone then none else parcelIn waits key := by
  by_cases same : key = gone
  · rw [if_pos same]
    exact parcelIn_eq_none fun wait member => by
      simpa [same] using (List.mem_filter.mp member).2
  · rw [if_neg same]
    simp only [parcelIn, List.find?_filter]
    congr 2
    funext wait
    by_cases found : wait.key = key <;> simp [found, same]

/-- Forgetting a wait that is not queued takes it off the board. -/
theorem waits_forget {queue : WaitQueue α} {key : Nat} (dequeued : queue.holds key = false) :
    (queue.forget key).waits = queue.waits.filter (·.key != key) := by
  have kept : queue.waiting.filter (·.key != key) = queue.waiting := by
    refine List.filter_eq_self.mpr fun wait member => ?_
    simp only [holds, List.any_eq_false] at dequeued
    simpa using dequeued wait member
  simp only [waits, forget, List.filter_append, kept]

/-- A queued wait has no second wait of its key among the woken. -/
theorem Keyed.woken_ne {queue : WaitQueue α} (keyed : queue.Keyed) {key : Nat}
    (queued : queue.holds key = true) : ∀ wait ∈ queue.woken, wait.key ≠ key := by
  intro wait member same
  obtain ⟨first, waiting, firstKey⟩ := holds_iff.mp queued
  have distinct := keyed.distinct
  rw [waits, List.map_append, List.nodup_append] at distinct
  exact distinct.2.2 _ (List.mem_map_of_mem waiting) _ (List.mem_map_of_mem member)
    (firstKey.trans same.symm)

/-- A woken wait that is dropped leaves nothing behind, or a value that is lost, or a wakeup for the
first in line. -/
theorem departure_of_dequeued {queue : WaitQueue α} {key : Nat}
    (dequeued : queue.holds key = false) :
    queue.departure key = .settled ∨ (∃ value, queue.departure key = .discarded value) ∨
      queue.departure key = .passedOn queue.waiting.head? := by
  cases found : queue.woken? key with
  | none => exact .inl (by simp [departure, dequeued, found])
  | some wait =>
    cases held : wait.parcel with
    | taken => exact .inl (by simp [departure, dequeued, found, held])
    | delivered value => exact .inr (.inl ⟨value, by simp [departure, dequeued, found, held]⟩)
    | empty | offered => exact .inr (.inr (by simp [departure, dequeued, found, held]))

/-- A dropped wait leaves the queue, or is forgotten, or is forgotten and passes its wakeup on. -/
theorem leave_cases (queue : WaitQueue α) (key : Nat) :
    (queue.holds key = true ∧
      queue.leave key = { queue with waiting := queue.waiting.filter (·.key != key) }) ∨
    (queue.holds key = false ∧ queue.leave key = queue.forget key ∧
      ∀ wait, queue.woken? key = some wait → wait.parcel.isSettled = true) ∨
    (queue.holds key = false ∧ queue.leave key = (queue.forget key).wake 1 ∧
      ∃ wait, queue.woken? key = some wait ∧ wait.parcel.isSettled = false) := by
  cases queued : queue.holds key with
  | true => exact .inl ⟨rfl, by simp [leave, departure, queued]⟩
  | false =>
    right
    cases found : queue.woken? key with
    | none => exact .inl ⟨rfl, by simp [leave, departure, queued, found], by simp⟩
    | some wait =>
      cases held : wait.parcel with
      | taken | delivered =>
        refine .inl ⟨rfl, by simp [leave, departure, queued, found, held], fun other same => ?_⟩
        obtain rfl := Option.some.inj same
        rw [held]
        rfl
      | empty | offered =>
        refine .inr ⟨rfl, by simp [leave, departure, queued, found, held], wait, rfl, ?_⟩
        rw [held]
        rfl

/-- The dropped wait goes off the board and nothing else does. -/
theorem Keyed.waits_leave {queue : WaitQueue α} (keyed : queue.Keyed) (key : Nat) :
    (queue.leave key).waits.Perm (queue.waits.filter (·.key != key)) := by
  rcases queue.leave_cases key with ⟨queued, left⟩ | ⟨dequeued, left, _⟩ | ⟨dequeued, left, _⟩
  · have kept : queue.woken.filter (·.key != key) = queue.woken :=
      List.filter_eq_self.mpr fun wait member => by simpa using keyed.woken_ne queued wait member
    simp [left, waits, List.filter_append, kept]
  · rw [left, waits_forget dequeued]
  · rw [left, ← waits_forget dequeued]
    exact waits_wake _ 1

/-- Forgetting a dequeued wait clears its key on the board. -/
theorem parcel?_forget {queue : WaitQueue α} {gone : Nat} (dequeued : queue.holds gone = false)
    (key : Nat) : (queue.forget gone).parcel? key =
      if key = gone then none else queue.parcel? key := by
  rw [parcel?, waits_forget dequeued, parcelIn_filter]
  rfl

/-- Dropping a wait clears its key on the board. -/
theorem Keyed.parcel?_leave {queue : WaitQueue α} (keyed : queue.Keyed) (gone key : Nat) :
    (queue.leave gone).parcel? key = if key = gone then none else queue.parcel? key := by
  have same := keyed.waits_leave gone
  have distinct : ((queue.leave gone).waits.map (·.key)).Nodup :=
    (same.map (·.key)).nodup_iff.mpr (keyed.distinct.sublist (List.filter_sublist.map _))
  rw [parcel?, parcelIn_perm same distinct, parcelIn_filter]
  rfl

/-- Forgetting a wait keeps the keys unique. -/
theorem Keyed.forget {queue : WaitQueue α} (keyed : queue.Keyed) (key : Nat) :
    (queue.forget key).Keyed :=
  keyed.sublist (List.Sublist.append (List.Sublist.refl _) List.filter_sublist) rfl

/-- Forgetting a wait keeps a queue orderly. -/
theorem Orderly.forget {queue : WaitQueue α} {side : Side} {rendezvous : Bool}
    (orderly : queue.Orderly side rendezvous) (key : Nat) :
    (queue.forget key).Orderly side rendezvous :=
  ⟨orderly.keyed.forget key, orderly.queued,
    fun wait member => orderly.woken wait (List.mem_filter.mp member).1,
    fun wait member => orderly.settled wait (List.mem_filter.mp member).1⟩

/-- Dropping a wait keeps the keys unique. -/
theorem Keyed.leave {queue : WaitQueue α} (keyed : queue.Keyed) (key : Nat) :
    (queue.leave key).Keyed := by
  rcases queue.leave_cases key with ⟨_, left⟩ | ⟨_, left, _⟩ | ⟨_, left, _⟩
  · rw [left]
    exact keyed.sublist (List.Sublist.append List.filter_sublist (List.Sublist.refl _)) rfl
  · rw [left]
    exact keyed.forget key
  · rw [left]
    exact (keyed.forget key).perm (waits_wake _ 1) rfl

/-- Dropping a wait keeps a queue orderly. -/
theorem Orderly.leave {queue : WaitQueue α} {side : Side} {rendezvous : Bool}
    (orderly : queue.Orderly side rendezvous) (key : Nat) :
    (queue.leave key).Orderly side rendezvous := by
  have keyed := orderly.keyed.leave key
  rcases queue.leave_cases key with ⟨_, left⟩ | ⟨_, left, _⟩ | ⟨_, left, _⟩
  · rw [left] at keyed ⊢
    exact ⟨keyed, fun wait member => orderly.queued wait (List.mem_filter.mp member).1,
      orderly.woken, orderly.settled⟩
  · rw [left]
    exact orderly.forget key
  · rw [left]
    exact (orderly.forget key).wake 1

/-- A woken wait can be put before those that stay when it is forgotten. -/
theorem Keyed.woken_split {queue : WaitQueue α} (keyed : queue.Keyed) {key : Nat} {wait : Wait α}
    (found : queue.woken? key = some wait) :
    queue.woken.Perm (wait :: (queue.forget key).woken) := by
  have distinct : (queue.woken.map (·.key)).Nodup :=
    keyed.distinct.sublist ((List.sublist_append_right _ _).map _)
  obtain ⟨member, rfl⟩ := (find?_number_eq_some_iff distinct).mp found
  exact perm_cons_filter_number distinct member

/-- Resuming a wait uses up its pending wakeup, if no transfer has settled it. -/
theorem Keyed.pending_forget {queue : WaitQueue α} (keyed : queue.Keyed) {key : Nat}
    {wait : Wait α} (found : queue.woken? key = some wait) :
    queue.pending = (queue.forget key).pending + if wait.parcel.isSettled then 0 else 1 := by
  rw [pending, (keyed.woken_split found).countP_eq, List.countP_cons]
  cases wait.parcel.isSettled <;> rfl

/-- Forgetting a key that no woken wait has changes nothing. -/
theorem forget_of_woken?_eq_none {queue : WaitQueue α} {key : Nat}
    (absent : queue.woken? key = none) : queue.forget key = queue := by
  have kept : queue.woken.filter (·.key != key) = queue.woken :=
    List.filter_eq_self.mpr (by simpa [woken?] using absent)
  simp [forget, kept]

/-- While somebody is queued after it, dropping a wait loses no pending wakeup. -/
theorem Orderly.pending_le_leave {queue : WaitQueue α} {side : Side} {rendezvous : Bool}
    (orderly : queue.Orderly side rendezvous) {key : Nat}
    (waiting : (queue.leave key).waiting ≠ []) : queue.pending ≤ (queue.leave key).pending := by
  rcases queue.leave_cases key with
    ⟨_, left⟩ | ⟨_, left, settled⟩ | ⟨_, left, wait, found, unsettled⟩
  · rw [left]
    exact Nat.le_refl _
  · rw [left]
    cases found : queue.woken? key with
    | none => simp [forget_of_woken?_eq_none found]
    | some wait => simp [orderly.keyed.pending_forget found, settled wait found]
  · have two : 1 < queue.length := by
      rw [left] at waiting
      simp only [WaitQueue.wake, WaitQueue.forget, ne_eq, List.drop_eq_nil_iff, Nat.not_le]
        at waiting
      exact waiting
    have passed := (orderly.forget key).pending_wake 1
    have resumed := orderly.keyed.pending_forget found
    rw [left]
    simp only [WaitQueue.length, WaitQueue.forget] at two passed
    simp only [unsettled, Bool.false_eq_true, if_false] at resumed
    simp only [WaitQueue.forget] at resumed ⊢
    omega

/-- Dropping a wait queues nobody. -/
theorem length_leave_le (queue : WaitQueue α) (key : Nat) :
    (queue.leave key).length ≤ queue.length := by
  rcases queue.leave_cases key with ⟨_, left⟩ | ⟨_, left, _⟩ | ⟨_, left, _⟩
  · rw [left]
    exact List.length_filter_le _ _
  · rw [left]
    exact Nat.le_refl _
  · rw [left, length_wake]
    exact Nat.sub_le _ _

/-- A task finds the parcel of its wait once the wait is dequeued. -/
theorem found?_of_parcel? {queue : WaitQueue α} {key : Nat} {parcel : Parcel α}
    (held : queue.parcel? key = some parcel) (dequeued : queue.holds key = false) :
    queue.found? key = some parcel ∧
      ∃ wait, queue.woken? key = some wait ∧ wait.parcel = parcel := by
  have none : queue.waiting.find? (·.key == key) = none := by
    simpa [holds] using dequeued
  simp only [parcel?, parcelIn, waits, List.find?_append, none, Option.none_or] at held
  obtain ⟨wait, found, same⟩ := Option.map_eq_some_iff.mp held
  refine ⟨?_, wait, found, same⟩
  simp [found?, dequeued, woken?, found, same]

end WaitQueue

end ChannelBus
