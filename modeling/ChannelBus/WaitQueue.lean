/-!
# Wait queues

A wait queue holds the waits of suspended tasks in arrival order. Waking a wait takes it out of the
queue, but the wait lives on among the woken ones until its task resumes or is dropped: a task that
is dropped between the two passes its wakeup on to the next in line, so no wakeup is lost.

Each wait has a key, unique within its queue. Keys are natural numbers: they count the waits, and no
run is long enough to exhaust a machine word. A wait is queued, woken, or gone; a key that is
neither queued nor woken belongs to a wait that was resumed or dropped.

The queue hands out the waits that it dequeues; making their tasks ready is up to the caller.
-/

namespace ChannelBus

/-- The number of a task, by which a parked task is made ready again. -/
abbrev TaskId := Nat

variable {α : Type}

/-- What a parked task leaves on its wait and what it finds there when it resumes. -/
inductive Parcel (α : Type) where
  /-- Nothing: a receiver's wait, or a broadcaster's. -/
  | empty
  /-- A sender's value, for a receiver to take. -/
  | offered (value : α)
  /-- A value given to a waiting receiver. -/
  | delivered (value : α)
  /-- The mark of an offer that a receiver took. -/
  | taken
deriving DecidableEq

/-- The value on offer, if there is one. -/
def Parcel.offer? : Parcel α → Option α
  | .offered value => some value
  | _ => none

/-- Whether nothing lies in the parcel. -/
def Parcel.isEmpty : Parcel α → Bool
  | .empty => true
  | _ => false

/-- One suspended task in a queue. -/
structure Wait (α : Type) where
  /-- Number of the wait in its queue, never used twice. -/
  key : Nat
  /-- The task to make ready; absent until the wait is first polled. -/
  waker : Option TaskId
  /-- What travels between the parked task and the one that dequeues it. -/
  parcel : Parcel α
deriving DecidableEq

/-- The tasks suspended for one reason, first come first served. -/
structure WaitQueue (α : Type) where
  /-- Waits in the queue, in arrival order. -/
  waiting : List (Wait α)
  /-- Waits dequeued by someone else whose tasks have neither resumed nor been dropped. -/
  woken : List (Wait α)
  /-- The key of the next wait, which is the number of waits so far. -/
  nextKey : Nat
deriving DecidableEq

namespace WaitQueue

/-- The queue in which nobody has ever waited. -/
def new : WaitQueue α :=
  { waiting := [], woken := [], nextKey := 0 }

/-- How many waits are queued. -/
def length (queue : WaitQueue α) : Nat :=
  queue.waiting.length

/-- Whether no wait is queued. -/
def isEmpty (queue : WaitQueue α) : Bool :=
  queue.waiting.isEmpty

/-- Queues a new wait at the tail; its key is the queue's `nextKey` before. -/
def park (queue : WaitQueue α) (parcel : Parcel α) (waker : Option TaskId) : WaitQueue α :=
  { queue with
    waiting := queue.waiting ++ [{ key := queue.nextKey, waker, parcel }]
    nextKey := queue.nextKey + 1 }

/-- Nobody waits in a new queue. -/
@[simp] theorem length_new : (new : WaitQueue α).length = 0 := rfl

/-- Parking lengthens the queue by one wait. -/
@[simp] theorem length_park (queue : WaitQueue α) (parcel : Parcel α) (waker : Option TaskId) :
    (queue.park parcel waker).length = queue.length + 1 := by
  simp [park, length]

/-- The first `count` queued waits, fewer if fewer are queued. -/
def front (queue : WaitQueue α) (count : Nat) : List (Wait α) :=
  queue.waiting.take count

/-- Dequeues the waits that `front` lists. -/
def wake (queue : WaitQueue α) (count : Nat) : WaitQueue α :=
  { queue with
    waiting := queue.waiting.drop count
    woken := queue.woken ++ queue.front count }

/-- The dequeued waits and those still queued make up the queue before. -/
theorem front_append_waiting_wake (queue : WaitQueue α) (count : Nat) :
    queue.front count ++ (queue.wake count).waiting = queue.waiting :=
  List.take_append_drop count queue.waiting

/-- Waking shortens the queue by as many waits as there are to wake. -/
@[simp] theorem length_wake (queue : WaitQueue α) (count : Nat) :
    (queue.wake count).length = queue.length - count := by
  simp [wake, length]

/-- Splits a list of waits at the first one that `choose` accepts. -/
def extractFirst {β : Type} (choose : Wait α → Option β) :
    List (Wait α) → Option (Wait α × β × List (Wait α))
  | [] => none
  | wait :: rest =>
    match choose wait with
    | some found => some (wait, found, rest)
    | none => (extractFirst choose rest).map fun (chosen, found, others) =>
        (chosen, found, wait :: others)

/-- No wait is extracted exactly if `choose` accepts none. -/
theorem extractFirst_eq_none_iff {β : Type} {choose : Wait α → Option β} {waits : List (Wait α)} :
    extractFirst choose waits = none ↔ ∀ wait ∈ waits, choose wait = none := by
  induction waits with
  | nil => simp [extractFirst]
  | cons wait rest ih =>
    cases accepted : choose wait with
    | some found => simp [extractFirst, accepted]
    | none => simp [extractFirst, accepted, ih]

/-- An extracted wait is the first one that `choose` accepts, and the others keep their order. -/
theorem extractFirst_eq_some {β : Type} {choose : Wait α → Option β} {waits others : List (Wait α)}
    {wait : Wait α} {found : β}
    (extracted : extractFirst choose waits = some (wait, found, others)) :
    ∃ before after, waits = before ++ wait :: after ∧ others = before ++ after ∧
      choose wait = some found ∧ ∀ earlier ∈ before, choose earlier = none := by
  induction waits generalizing others with
  | nil => simp [extractFirst] at extracted
  | cons first rest ih =>
    cases accepted : choose first with
    | some value =>
      simp only [extractFirst, accepted, Option.some.injEq, Prod.mk.injEq] at extracted
      obtain ⟨rfl, rfl, rfl⟩ := extracted
      exact ⟨[], rest, rfl, rfl, accepted, by simp⟩
    | none =>
      simp only [extractFirst, accepted, Option.map_eq_some_iff] at extracted
      obtain ⟨⟨chosen, value, kept⟩, inner, same⟩ := extracted
      simp only [Prod.mk.injEq] at same
      obtain ⟨rfl, rfl, rfl⟩ := same
      obtain ⟨before, after, split, joined, chosenHere, refused⟩ := ih inner
      refine ⟨first :: before, after, by simp [split], by simp [joined], chosenHere, ?_⟩
      simpa [accepted] using refused

/-- Takes the value of the first queued wait that offers one, marks that wait's parcel as taken and
dequeues it. The answer holds the value, the dequeued wait and the queue that remains. -/
def takeFirstOffer (queue : WaitQueue α) : Option (α × Wait α × WaitQueue α) :=
  (extractFirst (·.parcel.offer?) queue.waiting).map fun (wait, value, waiting) =>
    let settled := { wait with parcel := .taken }
    (value, settled, { queue with waiting, woken := queue.woken ++ [settled] })

/-- Puts a value into the first queued wait whose parcel is empty and dequeues it. The answer holds
the dequeued wait and the queue that remains. -/
def deliverFirst (queue : WaitQueue α) (value : α) : Option (Wait α × WaitQueue α) :=
  (extractFirst (fun wait => if wait.parcel.isEmpty then some () else none) queue.waiting).map
    fun (wait, _, waiting) =>
      let served := { wait with parcel := .delivered value }
      (served, { queue with waiting, woken := queue.woken ++ [served] })

/-- Whether the wait with this key is queued. -/
def holds (queue : WaitQueue α) (key : Nat) : Bool :=
  queue.waiting.any (·.key == key)

/-- The woken wait with this key. -/
def woken? (queue : WaitQueue α) (key : Nat) : Option (Wait α) :=
  queue.woken.find? (·.key == key)

/-- Forgets the woken wait with this key. -/
def forget (queue : WaitQueue α) (key : Nat) : WaitQueue α :=
  { queue with woken := queue.woken.filter (·.key != key) }

/-- Makes `waker` the task to be made ready when the wait with this key is dequeued. -/
def refresh (queue : WaitQueue α) (key : Nat) (waker : TaskId) : WaitQueue α :=
  { queue with
    waiting := queue.waiting.map fun wait =>
      if wait.key == key then { wait with waker := some waker } else wait }

/-- What a task that polls its wait finds: nothing while the wait is queued, else the parcel. A wait
that has been resumed before has an empty parcel. -/
def found? (queue : WaitQueue α) (key : Nat) : Option (Parcel α) :=
  if queue.holds key then none
  else some ((queue.woken? key).elim .empty (·.parcel))

/-- The queue after a poll of the wait with this key by the task `waker`: a queued wait takes the
new waker, a woken one is resumed and forgotten. -/
def poll (queue : WaitQueue α) (key : Nat) (waker : TaskId) : WaitQueue α :=
  if queue.holds key then queue.refresh key waker else queue.forget key

/-- What becomes of a wait whose task is dropped. -/
inductive Departure (α : Type) where
  /-- The wait had been resumed before, or its offer was taken: nothing to do. -/
  | settled
  /-- The wait left the queue. -/
  | withdrawn
  /-- The value delivered to the woken wait is lost. -/
  | discarded (value : α)
  /-- The wakeup of the woken wait goes to the first queued wait, if there is one. -/
  | passedOn (next : Option (Wait α))

/-- What happens to the wait with this key when its task is dropped. -/
def departure (queue : WaitQueue α) (key : Nat) : Departure α :=
  if queue.holds key then .withdrawn
  else
    match queue.woken? key with
    | none => .settled
    | some wait =>
      match wait.parcel with
      | .taken => .settled
      | .delivered value => .discarded value
      | .empty | .offered _ => .passedOn queue.waiting.head?

/-- The queue after the task of the wait with this key was dropped. -/
def leave (queue : WaitQueue α) (key : Nat) : WaitQueue α :=
  match queue.departure key with
  | .withdrawn => { queue with waiting := queue.waiting.filter (·.key != key) }
  | .passedOn _ => (queue.forget key).wake 1
  | .settled | .discarded _ => queue.forget key

end WaitQueue

end ChannelBus
