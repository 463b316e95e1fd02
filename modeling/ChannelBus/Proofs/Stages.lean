import ChannelBus.Proofs.Cancelling

/-!
# The stages of a wait

A wait is parked, polled in vain for a while, taken out of its queue by someone else or by its own
drop, resumed with its parcel, and dropped. `Wait.Episode` lists what can happen to it, and
`WaitQueue.story` reads off a history what happened to the wait of one key, from both of its ends:
what its task does and finds, and what others do to its place in the queue.

A story moves through stages. `Wait.Stage.Turns` says which episode can follow in which stage, and
`WaitQueue.Shows` what the queue holds of a wait in that stage. Every operation turns the stage of
every wait as its episodes say, whichever of its ends it touches, so the shape of a story follows
from the stages alone.
-/

namespace ChannelBus

variable {α : Type}

/-! ## Episodes and stages -/

namespace Wait

/-- Why a wait is taken out of its queue by someone else. -/
inductive Cause (α : Type) where
  /-- It is woken. -/
  | wakeup
  /-- The value on offer is taken. -/
  | take (value : α)
  /-- A value is delivered to it. -/
  | delivery (value : α)
deriving DecidableEq

/-- What lies on a wait after it was taken out of its queue. -/
def Cause.result (parcel : Parcel α) : Cause α → Parcel α
  | .wakeup => parcel
  | .take _ => .taken
  | .delivery value => .delivered value

/-- Whether a wait with this parcel can be taken out of its queue for this reason: an offer can be
taken, and an empty parcel can be filled. -/
inductive Cause.Fits : Cause α → Parcel α → Prop where
  /-- Every wait can be woken. -/
  | wakeup {parcel : Parcel α} : Fits .wakeup parcel
  /-- The value that is taken was on offer. -/
  | take {value : α} : Fits (.take value) (.offered value)
  /-- A value is delivered where nothing lay. -/
  | delivery {value : α} : Fits (.delivery value) .empty

/-- One thing that happens to a wait. -/
inductive Episode (α : Type) where
  /-- It is parked. -/
  | parked (parcel : Parcel α)
  /-- A poll by this task finds it queued. -/
  | pending (waker : TaskId)
  /-- Someone else takes it out of the queue, and this task is made ready. -/
  | dequeued (called : Option TaskId) (cause : Cause α)
  /-- A poll is over, and this lay on the wait. -/
  | resumed (parcel : Parcel α)
  /-- It is dropped, and this goes with it. -/
  | dropped (parcel : Parcel α)
deriving DecidableEq

/-- The value on offer that leaves a wait in an episode: a receiver takes it, it is given back to
the task that offered it, or it goes with the dropped wait. -/
def Episode.offer? : Episode α → Option α
  | .parked _ | .pending _ => none
  | .dequeued _ cause =>
    match cause with
    | .take value => some value
    | .wakeup | .delivery _ => none
  | .resumed parcel | .dropped parcel => parcel.offer?

/-- The task of a poll in vain. -/
def Episode.waker? : Episode α → Option TaskId
  | .pending waker => some waker
  | .parked _ | .dequeued _ _ | .resumed _ | .dropped _ => none

/-- A stage in the life of a wait. -/
inductive Stage (α : Type) where
  /-- Not parked yet. -/
  | unborn
  /-- In the queue. -/
  | queued (waker : Option TaskId) (parcel : Parcel α)
  /-- Out of the queue and not resumed. -/
  | woken (parcel : Parcel α)
  /-- Resumed. -/
  | resumed
  /-- Dropped. -/
  | dropped

/-- Which stage follows when something happens to a wait. -/
inductive Stage.Turns : Stage α → Episode α → Stage α → Prop where
  /-- A wait is parked without a waker. -/
  | parked {parcel : Parcel α} : Turns .unborn (.parked parcel) (.queued none parcel)
  /-- A poll in vain leaves its waker. -/
  | pending {former : Option TaskId} {parcel : Parcel α} {waker : TaskId} :
    Turns (.queued former parcel) (.pending waker) (.queued (some waker) parcel)
  /-- The latest waker is called. -/
  | dequeued {waker : Option TaskId} {parcel : Parcel α} {cause : Cause α}
    (fits : cause.Fits parcel) :
    Turns (.queued waker parcel) (.dequeued waker cause) (.woken (cause.result parcel))
  /-- A queued wait leaves with its parcel. -/
  | withdrawn {waker : Option TaskId} {parcel : Parcel α} :
    Turns (.queued waker parcel) (.dropped parcel) .dropped
  /-- A woken wait is resumed with its parcel. -/
  | resumed {parcel : Parcel α} : Turns (.woken parcel) (.resumed parcel) .resumed
  /-- A woken wait that nobody resumes is dropped with its parcel. -/
  | lost {parcel : Parcel α} : Turns (.woken parcel) (.dropped parcel) .dropped
  /-- Nothing lies on a resumed wait. -/
  | again : Turns .resumed (.resumed .empty) .resumed
  /-- A resumed wait is dropped with nothing on it. -/
  | ended : Turns .resumed (.dropped .empty) .dropped

/-- The stages of a wait while these episodes happen to it. -/
inductive Stage.Course : Stage α → List (Episode α) → Stage α → Prop where
  /-- Nothing happens. -/
  | still {stage : Stage α} : Course stage [] stage
  /-- Something happens, and then the rest. -/
  | turn {first middle last : Stage α} {episode : Episode α} {rest : List (Episode α)}
    (turns : first.Turns episode middle) (onward : Course middle rest last) :
    Course first (episode :: rest) last

section Courses

variable {first middle last : Stage α} {before after story : List (Episode α)}
  {parcel : Parcel α} {waker : Option TaskId}

/-- One episode is a course. -/
theorem Stage.Turns.course {episode : Episode α} (turns : first.Turns episode last) :
    first.Course [episode] last :=
  .turn turns .still

/-- Courses follow each other. -/
theorem Stage.Course.trans (early : first.Course before middle) (late : middle.Course after last) :
    first.Course (before ++ after) last := by
  induction early with
  | still => exact late
  | turn turns _ ih => exact .turn turns (ih late)

/-- Nothing happens to a dropped wait. -/
theorem Stage.Course.of_dropped (course : Stage.dropped.Course story last) :
    story = [] ∧ last = .dropped := by
  cases course with
  | still => exact ⟨rfl, rfl⟩
  | turn turns _ => cases turns

/-- How a story goes on once the wait was resumed: every poll finds it empty, and so does its
drop. -/
inductive Aftermath : List (Episode α) → Stage α → Prop where
  /-- The wait is still there. -/
  | lasting (polls : Nat) : Aftermath (List.replicate polls (.resumed .empty)) .resumed
  /-- The wait was dropped. -/
  | ended (polls : Nat) :
    Aftermath (List.replicate polls (.resumed .empty) ++ [.dropped .empty]) .dropped

/-- A wait is dropped by an episode. -/
theorem Stage.Course.ends_dropped (course : first.Course story last) (final : last = .dropped) :
    first = .dropped ∨ ∃ parcel, .dropped parcel ∈ story := by
  induction course with
  | still => exact .inl final
  | turn turns _ ih =>
    right
    rcases ih final with rfl | ⟨parcel, told⟩
    · cases turns with
      | withdrawn | lost | ended => exact ⟨_, List.mem_cons_self⟩
    · exact ⟨parcel, List.mem_cons_of_mem _ told⟩

/-- A resumed wait is polled in any number and then dropped. -/
theorem Stage.Course.of_resumed (course : Stage.resumed.Course story last) :
    Aftermath story last := by
  generalize start : (Stage.resumed : Stage α) = stage at course
  induction course with
  | still =>
    subst start
    exact .lasting 0
  | turn turns onward ih =>
    subst start
    cases turns with
    | again =>
      cases ih rfl with
      | lasting polls => exact .lasting (polls + 1)
      | ended polls => exact .ended (polls + 1)
    | ended =>
      obtain ⟨rfl, rfl⟩ := onward.of_dropped
      exact .ended 0

/-- How a story goes on once the wait is out of its queue with this parcel on it. -/
inductive Freedom (parcel : Parcel α) : List (Episode α) → Stage α → Prop where
  /-- Nobody has resumed the wait. -/
  | woken : Freedom parcel [] (.woken parcel)
  /-- Nobody resumed the wait before it was dropped. -/
  | lost : Freedom parcel [.dropped parcel] .dropped
  /-- The first poll finds the parcel. -/
  | resumed {rest : List (Episode α)} {last : Stage α} (aftermath : Aftermath rest last) :
    Freedom parcel (.resumed parcel :: rest) last

/-- A woken wait is resumed once with its parcel, or dropped with it. -/
theorem Stage.Course.of_woken (course : (Stage.woken parcel).Course story last) :
    Freedom parcel story last := by
  cases course with
  | still => exact .woken
  | turn turns onward =>
    cases turns with
    | resumed => exact .resumed onward.of_resumed
    | lost =>
      obtain ⟨rfl, rfl⟩ := onward.of_dropped
      exact .lost

/-- How a story goes on once the wait has been polled in vain as often as it ever is: `waker` is the
task of the latest such poll. -/
inductive Departing (waker : Option TaskId) (parcel : Parcel α) :
    List (Episode α) → Stage α → Prop where
  /-- The wait is queued. -/
  | queued : Departing waker parcel [] (.queued waker parcel)
  /-- The wait was dropped while it was queued. -/
  | withdrawn : Departing waker parcel [.dropped parcel] .dropped
  /-- Someone else took the wait out of the queue. -/
  | dequeued {cause : Cause α} {rest : List (Episode α)} {last : Stage α}
    (fits : cause.Fits parcel) (freedom : Freedom (cause.result parcel) rest last) :
    Departing waker parcel (.dequeued waker cause :: rest) last

/-- The task that polled last, if any poll came after `waker` was left. -/
def latest (waker : Option TaskId) (polls : List TaskId) : Option TaskId :=
  polls.getLast?.or waker

/-- Each poll leaves its waker to the polls after it. -/
theorem latest_cons (waker : Option TaskId) (poll : TaskId) (polls : List TaskId) :
    latest waker (poll :: polls) = latest (some poll) polls := by
  cases polls with
  | nil => rfl
  | cons next rest => simp [latest, List.getLast?_cons]

/-- A queued wait is polled in vain in any number, and then leaves the queue once. -/
theorem Stage.Course.of_queued (course : (Stage.queued waker parcel).Course story last) :
    ∃ polls ending, story = polls.map .pending ++ ending ∧
      Departing (latest waker polls) parcel ending last := by
  generalize start : Stage.queued waker parcel = stage at course
  induction course generalizing waker with
  | still =>
    subst start
    exact ⟨[], [], rfl, .queued⟩
  | turn turns onward ih =>
    subst start
    cases turns with
    | pending =>
      obtain ⟨polls, ending, rfl, departing⟩ := ih rfl
      exact ⟨_ :: polls, ending, rfl, latest_cons waker _ polls ▸ departing⟩
    | dequeued fits => exact ⟨[], _, rfl, .dequeued fits onward.of_woken⟩
    | withdrawn =>
      obtain ⟨rfl, rfl⟩ := onward.of_dropped
      exact ⟨[], _, rfl, .withdrawn⟩

/-- A story is empty or starts with the wait being parked. -/
theorem Stage.Course.of_unborn (course : Stage.unborn.Course story last) :
    story = [] ∧ last = .unborn ∨
      ∃ parcel, ∃ polls : List TaskId, ∃ ending,
        story = .parked parcel :: (polls.map .pending ++ ending) ∧
          Departing polls.getLast? parcel ending last := by
  cases course with
  | still => exact .inl ⟨rfl, rfl⟩
  | turn turns onward =>
    cases turns with
    | parked =>
      obtain ⟨polls, ending, rfl, departing⟩ := onward.of_queued
      rw [latest, Option.or_none] at departing
      exact .inr ⟨_, polls, ending, rfl, departing⟩

end Courses

/-- The parcel of a wait in this stage, until the wait is resumed or dropped. -/
def Stage.parcel? : Stage α → Option (Parcel α)
  | .queued _ parcel | .woken parcel => some parcel
  | .unborn | .resumed | .dropped => none

/-- Whether a wait in this stage is in the queue. -/
def Stage.isQueued : Stage α → Bool
  | .queued _ _ => true
  | .unborn | .woken _ | .resumed | .dropped => false

/-- Whether a wait in this stage can be polled and dropped. -/
def Stage.IsLive : Stage α → Prop
  | .unborn | .dropped => False
  | .queued _ _ | .woken _ | .resumed => True

section Offers

variable {rest ending : List (Episode α)} {last : Stage α} {parcel : Parcel α}
  {waker : Option TaskId}

/-- No value is on offer on a resumed wait. -/
theorem Aftermath.offers (aftermath : Aftermath rest last) :
    rest.filterMap Episode.offer? = [] ∧ last.parcel? = none := by
  have polled (polls : Nat) :
      (List.replicate polls (.resumed .empty : Episode α)).filterMap Episode.offer? = [] :=
    List.filterMap_eq_nil_iff.mpr fun episode told => by rw [List.eq_of_mem_replicate told]; rfl
  cases aftermath with
  | lasting polls => exact ⟨polled polls, rfl⟩
  | ended polls =>
    rw [List.filterMap_append, polled]
    exact ⟨rfl, rfl⟩

/-- An offer that nobody took lies on the wait until it is given back or dropped. -/
theorem Freedom.offers (freedom : Freedom parcel rest last) :
    rest.filterMap Episode.offer? ++ (last.parcel?.bind Parcel.offer?).toList =
      parcel.offer?.toList := by
  cases freedom with
  | woken => rfl
  | lost =>
    rw [List.filterMap_cons]
    cases parcel <;> rfl
  | resumed aftermath =>
    obtain ⟨none, gone⟩ := aftermath.offers
    rw [List.filterMap_cons, none, gone]
    cases parcel <;> rfl

/-- An offer lies on the wait until it is taken, given back or dropped. -/
theorem Departing.offers (departing : Departing waker parcel ending last) :
    ending.filterMap Episode.offer? ++ (last.parcel?.bind Parcel.offer?).toList =
      parcel.offer?.toList := by
  cases departing with
  | queued => rfl
  | withdrawn =>
    rw [List.filterMap_cons]
    cases parcel <;> rfl
  | dequeued fits freedom =>
    have kept := freedom.offers
    cases fits with
    | wakeup => exact kept
    | take => exact congrArg (_ :: ·) kept
    | delivery => exact kept

/-- A wait that is out of its queue is not dequeued again. -/
theorem Freedom.not_dequeued (freedom : Freedom parcel rest last) (called : Option TaskId)
    (cause : Cause α) : .dequeued called cause ∉ rest := by
  cases freedom with
  | woken => exact List.not_mem_nil
  | lost => simp
  | resumed aftermath => cases aftermath <;> simp

end Offers

end Wait

/-! ## Stories -/

/-- The key of the wait whose own task acts. -/
def Touch.target? : Touch α → Option Nat
  | .poll key _ | .drop key => some key
  | .park _ | .wakeFirst | .wakeAll | .takeFirstOffer | .deliverFirst _ => none

/-- Whether a wait is parked. -/
def Touch.parks : Touch α → Bool
  | .park _ => true
  | .poll _ _ | .drop _ | .wakeFirst | .wakeAll | .takeFirstOffer | .deliverFirst _ => false

namespace WaitQueue

open Wait (Cause Episode Stage)

/-- The waits that an operation takes out of the queue and hands out, so that their tasks are made
ready, in order. A wait that leaves with its own drop is not among them. -/
def dequeues (queue : WaitQueue α) : Touch α → List (Wait α × Cause α)
  | .park _ | .poll _ _ => []
  | .drop key =>
    match queue.departure key with
    | .passedOn next => next.toList.map (·, .wakeup)
    | .settled | .withdrawn | .discarded _ => []
  | .wakeFirst => (queue.front 1).map (·, .wakeup)
  | .wakeAll => (queue.front queue.length).map (·, .wakeup)
  | .takeFirstOffer =>
    queue.takeFirstOffer.toList.map fun (value, wait, _) => (wait, .take value)
  | .deliverFirst value =>
    (queue.deliverFirst value).toList.map fun (wait, _) => (wait, .delivery value)

/-- The calls for the wait with this key among the waits handed out. -/
def calls (key : Nat) (dequeued : List (Wait α × Cause α)) : List (Episode α) :=
  (dequeued.filter (·.1.key == key)).map fun (wait, cause) => .dequeued wait.waker cause

/-- What the task of the wait with this key does and finds in an operation of its own. -/
def ownEpisodes (queue : WaitQueue α) (key : Nat) : Touch α → List (Episode α)
  | .park parcel => if key = queue.nextKey then [.parked parcel] else []
  | .poll polled waker =>
    if key = polled then [(queue.found? polled).elim (.pending waker) .resumed] else []
  | .drop dropped => if key = dropped then [.dropped ((queue.parcel? key).getD .empty)] else []
  | .wakeFirst | .wakeAll | .takeFirstOffer | .deliverFirst _ => []

/-- What an operation means for the wait with this key. -/
def episodes (queue : WaitQueue α) (key : Nat) (touch : Touch α) : List (Episode α) :=
  queue.ownEpisodes key touch ++ calls key (queue.dequeues touch)

/-- What several operations mean for the wait with this key. -/
def story (queue : WaitQueue α) (key : Nat) : List (Touch α) → List (Episode α)
  | [] => []
  | touch :: rest => queue.episodes key touch ++ (queue.touch touch).story key rest

/-- A story goes on where it stopped. -/
theorem story_append (queue : WaitQueue α) (key : Nat) (early late : List (Touch α)) :
    queue.story key (early ++ late) =
      queue.story key early ++ (queue.touchAll early).story key late := by
  induction early generalizing queue with
  | nil => rfl
  | cons touch rest ih =>
    simp only [List.cons_append, story, ih, List.append_assoc]
    rfl

/-- Among waits of other keys there is no call for this one. -/
theorem calls_eq_nil {key : Nat} {dequeued : List (Wait α × Cause α)}
    (others : ∀ call ∈ dequeued, call.1.key ≠ key) : calls key dequeued = [] := by
  rw [calls, List.filter_eq_nil_iff.mpr fun call listed => by simpa using others call listed]
  rfl

/-- What the queue holds of the wait with this key in each stage of its life. -/
inductive Shows (queue : WaitQueue α) (key : Nat) : Stage α → Prop where
  /-- The key was not given out yet. -/
  | unborn (later : queue.nextKey ≤ key) : Shows queue key .unborn
  /-- The wait is queued, with the latest waker and its parcel. -/
  | queued {waker : Option TaskId} {parcel : Parcel α}
    (here : { key, waker, parcel } ∈ queue.waiting) : Shows queue key (.queued waker parcel)
  /-- The wait is among the woken, with its parcel. -/
  | woken {waker : Option TaskId} {parcel : Parcel α}
    (here : { key, waker, parcel } ∈ queue.woken) : Shows queue key (.woken parcel)
  /-- A resumed wait is gone. -/
  | resumed (given : key < queue.nextKey) (gone : ∀ wait ∈ queue.waits, wait.key ≠ key) :
    Shows queue key .resumed
  /-- A dropped wait is gone. -/
  | dropped (given : key < queue.nextKey) (gone : ∀ wait ∈ queue.waits, wait.key ≠ key) :
    Shows queue key .dropped

/-- Nothing has changed for the wait with this key. -/
structure Spares (queue after : WaitQueue α) (key : Nat) : Prop where
  /-- It is queued as before. -/
  waiting : ∀ wait, wait.key = key → (wait ∈ after.waiting ↔ wait ∈ queue.waiting)
  /-- It is woken as before. -/
  woken : ∀ wait, wait.key = key → (wait ∈ after.woken ↔ wait ∈ queue.woken)
  /-- Its key has been given out as before. -/
  given : after.nextKey ≤ key ↔ queue.nextKey ≤ key

section Showing

variable {queue after : WaitQueue α} {key : Nat} {stage : Stage α} {wait : Wait α}

/-- A wait for which nothing has changed is in the same stage. -/
theorem Shows.spared (shown : queue.Shows key stage) (spares : queue.Spares after key) :
    after.Shows key stage := by
  have gone (absent : ∀ wait ∈ queue.waits, wait.key ≠ key) :
      ∀ wait ∈ after.waits, wait.key ≠ key := by
    intro wait member same
    refine absent wait (List.mem_append.mpr ?_) same
    exact (List.mem_append.mp member).imp (spares.waiting wait same).mp (spares.woken wait same).mp
  have given (known : key < queue.nextKey) : key < after.nextKey :=
    Nat.lt_of_not_le fun later => Nat.not_lt_of_le (spares.given.mp later) known
  cases shown with
  | unborn later => exact .unborn (spares.given.mpr later)
  | queued here => exact .queued ((spares.waiting _ rfl).mpr here)
  | woken here => exact .woken ((spares.woken _ rfl).mpr here)
  | resumed known absent => exact .resumed (given known) (gone absent)
  | dropped known absent => exact .dropped (given known) (gone absent)

/-- A wait that is not queued and not woken has left no trace. -/
theorem not_waiting_of_gone (gone : ∀ wait ∈ queue.waits, wait.key ≠ key) :
    ∀ wait ∈ queue.waiting, wait.key ≠ key :=
  fun wait member => gone wait (List.mem_append_left _ member)

/-- Two waits with the same key are the same. -/
theorem Keyed.eq_of_key (keyed : queue.Keyed) {one other : Wait α} (first : one ∈ queue.waits)
    (second : other ∈ queue.waits) (same : one.key = other.key) : one = other := by
  have found := find?_number_of_mem keyed.distinct first
  rw [same, find?_number_of_mem keyed.distinct second] at found
  exact (Option.some.inj found).symm

/-- A key that is in use was given out. -/
theorem Keyed.given (keyed : queue.Keyed) (member : wait ∈ queue.waits) :
    ¬ queue.nextKey ≤ wait.key :=
  Nat.not_le_of_lt (keyed.fresh wait member)

/-- A queued wait is in the stage that its entry says. -/
theorem Shows.eq_queued (shown : queue.Shows wait.key stage) (keyed : queue.Keyed)
    (here : wait ∈ queue.waiting) : stage = .queued wait.waker wait.parcel := by
  have member : wait ∈ queue.waits := List.mem_append_left _ here
  cases shown with
  | unborn later => exact absurd later (keyed.given member)
  | queued also => rw [← keyed.eq_of_key (List.mem_append_left _ also) member rfl]
  | woken also =>
    exact (keyed.woken_ne (holds_iff.mpr ⟨wait, here, rfl⟩) _ also rfl).elim
  | resumed _ gone => exact absurd rfl (gone wait member)
  | dropped _ gone => exact absurd rfl (gone wait member)

/-- A key that was not given out belongs to no wait. -/
theorem Shows.eq_unborn (shown : queue.Shows key stage) (keyed : queue.Keyed)
    (later : queue.nextKey ≤ key) : stage = .unborn := by
  cases shown with
  | unborn _ => rfl
  | queued here => exact absurd later (keyed.given (List.mem_append_left _ here))
  | woken here => exact absurd later (keyed.given (List.mem_append_right _ here))
  | resumed given _ => exact absurd later (Nat.not_le_of_lt given)
  | dropped given _ => exact absurd later (Nat.not_le_of_lt given)

/-- The parcel of a wait lies on the board until the wait is resumed or dropped. -/
theorem Shows.parcel?_eq (shown : queue.Shows key stage) (keyed : queue.Keyed) :
    queue.parcel? key = stage.parcel? := by
  cases shown with
  | unborn later =>
    exact parcelIn_eq_none fun wait member same => keyed.given member (same ▸ later)
  | queued here => exact keyed.parcel?_of_mem (List.mem_append_left _ here)
  | woken here => exact keyed.parcel?_of_mem (List.mem_append_right _ here)
  | resumed _ gone | dropped _ gone => exact parcelIn_eq_none gone

/-- A wait is queued in one stage only. -/
theorem Shows.holds_eq (shown : queue.Shows key stage) (keyed : queue.Keyed) :
    queue.holds key = stage.isQueued := by
  have absent (others : ∀ wait ∈ queue.waiting, wait.key ≠ key) : queue.holds key = false :=
    Bool.eq_false_iff.mpr fun queued => by
      obtain ⟨wait, waiting, same⟩ := holds_iff.mp queued
      exact others wait waiting same
  cases shown with
  | unborn later =>
    exact absent fun wait waiting same =>
      keyed.given (List.mem_append_left _ waiting) (same ▸ later)
  | queued here => exact holds_iff.mpr ⟨_, here, rfl⟩
  | woken here =>
    exact Bool.eq_false_iff.mpr fun queued => keyed.woken_ne queued _ here rfl
  | resumed _ gone | dropped _ gone => exact absent (not_waiting_of_gone gone)

/-- A poll of a wait that is out of the queue finds what lies on it. -/
theorem found?_of_dequeued (dequeued : queue.holds key = false) :
    queue.found? key = some ((queue.parcel? key).getD .empty) := by
  cases lies : queue.parcel? key with
  | some parcel => exact (found?_of_parcel? lies dequeued).1
  | none =>
    simp only [parcel?, parcelIn, waits, List.find?_append, Option.map_eq_none_iff,
      Option.or_eq_none_iff] at lies
    simp [found?, dequeued, woken?, lies.2]

end Showing

/-! ## What each operation does to one wait -/

section Turning

variable {queue : WaitQueue α} {key : Nat} {stage : Stage α}

/-- Parking starts one life. -/
theorem Shows.park (shown : queue.Shows key stage) (keyed : queue.Keyed) (parcel : Parcel α) :
    ∃ last, stage.Course (if key = queue.nextKey then [.parked parcel] else []) last ∧
      (queue.park parcel none).Shows key last := by
  by_cases new : key = queue.nextKey
  · subst new
    obtain rfl := shown.eq_unborn keyed (Nat.le_refl _)
    rw [if_pos rfl]
    exact ⟨_, Stage.Turns.parked.course, .queued (List.mem_append_right _ List.mem_cons_self)⟩
  · rw [if_neg new]
    refine ⟨stage, .still, shown.spared ⟨fun wait own => ?_, fun _ _ => .rfl, ?_⟩⟩
    · have other : wait ≠ { key := queue.nextKey, waker := none, parcel } := by
        rintro rfl
        exact new own.symm
      simp [WaitQueue.park, other]
    · simp only [WaitQueue.park]
      omega

/-- A poll in vain leaves its waker on one wait. -/
theorem Shows.refresh (shown : queue.Shows key stage) {polled : Nat}
    (queued : queue.holds polled = true) (keyed : queue.Keyed) (waker : TaskId) :
    ∃ last, stage.Course (if key = polled then [.pending waker] else []) last ∧
      (queue.refresh polled waker).Shows key last := by
  by_cases own : key = polled
  · subst own
    obtain ⟨wait, here, rfl⟩ := holds_iff.mp queued
    obtain rfl := shown.eq_queued keyed here
    rw [if_pos rfl]
    refine ⟨_, Stage.Turns.pending.course, .queued (List.mem_map.mpr ⟨wait, here, ?_⟩)⟩
    simp
  · rw [if_neg own]
    refine ⟨stage, .still, shown.spared ⟨fun wait same => ?_, fun _ _ => .rfl, .rfl⟩⟩
    simp only [WaitQueue.refresh, List.mem_map]
    constructor
    · rintro ⟨former, waiting, rfl⟩
      by_cases here : former.key = polled
      · exact absurd (same.symm.trans (by simp [here])) own
      · simpa [here] using waiting
    · intro waiting
      exact ⟨wait, waiting, if_neg (by simpa [same] using own)⟩

/-- A wait of another key is not affected when a wait leaves the queue or is forgotten. -/
theorem Spares.filter {gone : Nat} (other : key ≠ gone) :
    (queue.Spares { queue with waiting := queue.waiting.filter (·.key != gone) } key) ∧
      queue.Spares (queue.forget gone) key := by
  have kept (waits : List (Wait α)) (wait : Wait α) (same : wait.key = key) :
      wait ∈ waits.filter (·.key != gone) ↔ wait ∈ waits := by
    simp [List.mem_filter, same, other]
  exact ⟨⟨kept _, fun _ _ => .rfl, .rfl⟩, ⟨fun _ _ => .rfl, kept _, .rfl⟩⟩

/-- A forgotten wait has left no trace. -/
theorem gone_forget (dequeued : queue.holds key = false) :
    ∀ wait ∈ (queue.forget key).waits, wait.key ≠ key := by
  rw [waits_forget dequeued]
  intro wait member
  simpa using (List.mem_filter.mp member).2

/-- A poll of a wait that is out of the queue resumes it: it finds the parcel and leaves nothing. -/
theorem Shows.resume (shown : queue.Shows key stage) {polled : Nat}
    (dequeued : queue.holds polled = false) (keyed : queue.Keyed)
    (live : key = polled → stage.IsLive) :
    ∃ last, stage.Course
        (if key = polled then [.resumed ((queue.parcel? polled).getD .empty)] else []) last ∧
      (queue.forget polled).Shows key last := by
  by_cases own : key = polled
  · subst own
    have gone := gone_forget dequeued
    rw [if_pos rfl, shown.parcel?_eq keyed]
    cases shown with
    | unborn | dropped => exact (live rfl).elim
    | queued here => exact absurd (holds_iff.mpr ⟨_, here, rfl⟩) (by simp [dequeued])
    | woken here =>
      have given := keyed.fresh _ (List.mem_append_right _ here)
      exact ⟨_, Stage.Turns.resumed.course, .resumed given gone⟩
    | resumed given _ => exact ⟨_, Stage.Turns.again.course, .resumed given gone⟩
  · rw [if_neg own]
    exact ⟨stage, .still, shown.spared (Spares.filter own).2⟩

/-- A dropped wait leaves the queue, or is forgotten, with what lies on it. -/
theorem Shows.drop (shown : queue.Shows key stage) {dropped : Nat} (keyed : queue.Keyed)
    (live : key = dropped → stage.IsLive) :
    ∃ last, stage.Course
        (if key = dropped then [.dropped ((queue.parcel? key).getD .empty)] else []) last ∧
      (if queue.holds dropped then
        { queue with waiting := queue.waiting.filter (·.key != dropped) }
      else queue.forget dropped).Shows key last := by
  by_cases own : key = dropped
  · subst own
    rw [if_pos rfl, shown.parcel?_eq keyed, shown.holds_eq keyed]
    have dequeued (away : stage.isQueued = false) : queue.holds key = false :=
      (shown.holds_eq keyed).trans away
    cases shown with
    | unborn | dropped => exact (live rfl).elim
    | queued here =>
      refine ⟨_, Stage.Turns.withdrawn.course,
        .dropped (keyed.fresh _ (List.mem_append_left _ here)) fun wait member => ?_⟩
      rcases List.mem_append.mp member with waiting | woken
      · simpa using (List.mem_filter.mp waiting).2
      · exact keyed.woken_ne (holds_iff.mpr ⟨_, here, rfl⟩) wait woken
    | woken here =>
      have given := keyed.fresh _ (List.mem_append_right _ here)
      exact ⟨_, Stage.Turns.lost.course, .dropped given (gone_forget (dequeued rfl))⟩
    | resumed given _ =>
      exact ⟨_, Stage.Turns.ended.course, .dropped given (gone_forget (dequeued rfl))⟩
  · rw [if_neg own]
    refine ⟨stage, .still, shown.spared ?_⟩
    split
    · exact (Spares.filter own).1
    · exact (Spares.filter own).2

/-- Of waits with distinct keys, one is called under its key. -/
theorem calls_of_mem {dequeued : List (Wait α × Cause α)}
    (distinct : (dequeued.map (·.1.key)).Nodup) {wait : Wait α} {cause : Cause α}
    (listed : (wait, cause) ∈ dequeued) :
    calls wait.key dequeued = [.dequeued wait.waker cause] := by
  induction dequeued with
  | nil => exact absurd listed List.not_mem_nil
  | cons first rest ih =>
    rw [List.map_cons, List.nodup_cons] at distinct
    rcases List.mem_cons.mp listed with rfl | later
    · have others : calls wait.key rest = [] := calls_eq_nil fun call member same =>
        distinct.1 (same ▸ List.mem_map_of_mem member)
      rw [calls, List.filter_cons_of_pos (by simp), List.map_cons]
      exact congrArg _ others
    · have apart : first.1.key ≠ wait.key := fun same =>
        distinct.1 (same ▸ List.mem_map.mpr ⟨_, later, rfl⟩)
      rw [← ih distinct.2 later, calls, List.filter_cons_of_neg (by simpa using apart), calls]

/-- Waking calls the front of the queue. -/
theorem Shows.wake (shown : queue.Shows key stage) (keyed : queue.Keyed) (count : Nat) :
    ∃ last, stage.Course (calls key ((queue.front count).map (·, .wakeup))) last ∧
      (queue.wake count).Shows key last := by
  by_cases fronted : ∃ wait ∈ queue.front count, wait.key = key
  · obtain ⟨wait, front, rfl⟩ := fronted
    obtain rfl := shown.eq_queued keyed (List.mem_of_mem_take front)
    have distinct :
        (((queue.front count).map (·, (Cause.wakeup : Cause α))).map (·.1.key)).Nodup := by
      rw [List.map_map]
      exact keyed.distinct.sublist (List.Sublist.map Wait.key
        ((List.take_sublist count _).trans (List.sublist_append_left _ _)))
    rw [calls_of_mem distinct (List.mem_map_of_mem front)]
    exact ⟨_, (Stage.Turns.dequeued .wakeup).course, .woken (List.mem_append_right _ front)⟩
  · have others : ∀ wait ∈ queue.front count, wait.key ≠ key :=
      fun wait front same => fronted ⟨wait, front, same⟩
    rw [calls_eq_nil fun call listed => by
      obtain ⟨wait, front, rfl⟩ := List.mem_map.mp listed
      exact others wait front]
    refine ⟨stage, .still, shown.spared ⟨fun wait own => ?_, fun wait own => ?_, .rfl⟩⟩
    · rw [← queue.front_append_waiting_wake count, List.mem_append]
      exact ⟨.inr, fun member => member.resolve_left fun front => others wait front own⟩
    · simp only [WaitQueue.wake, List.mem_append]
      exact ⟨fun member => member.resolve_right fun front => others wait front own, .inl⟩

/-- A transfer calls the wait on which it happens. -/
theorem Shows.settle (shown : queue.Shows key stage) (keyed : queue.Keyed) {wait : Wait α}
    {cause : Cause α} {before later : List (Wait α)}
    (split : queue.waiting = before ++ wait :: later) (fits : cause.Fits wait.parcel)
    {handed : Wait α} (same : handed.key = wait.key ∧ handed.waker = wait.waker) :
    ∃ last, stage.Course (calls key [(handed, cause)]) last ∧
      (queue.settle wait (cause.result wait.parcel) (before ++ later)).Shows key last := by
  have here : wait ∈ queue.waiting := split ▸ List.mem_append_right _ List.mem_cons_self
  by_cases own : wait.key = key
  · subst own
    obtain rfl := shown.eq_queued keyed here
    have called : calls wait.key [(handed, cause)] = [.dequeued wait.waker cause] := by
      simp [calls, same]
    rw [called]
    exact ⟨_, (Stage.Turns.dequeued fits).course,
      .woken (List.mem_append_right _ List.mem_cons_self)⟩
  · rw [calls_eq_nil (by simpa [same.1] using own)]
    refine ⟨stage, .still, shown.spared ⟨fun other mine => ?_, fun other mine => ?_, .rfl⟩⟩
    · have apart : other ≠ wait := by
        rintro rfl
        exact own mine
      simp [WaitQueue.settle, split, apart]
    · have apart : other ≠ { wait with parcel := cause.result wait.parcel } := by
        rintro rfl
        exact own mine
      simp [WaitQueue.settle, apart]

/-- Every operation turns the stage of a wait as its episodes say. -/
theorem Shows.touch (shown : queue.Shows key stage) (keyed : queue.Keyed) {touch : Touch α}
    (live : touch.target? = some key → stage.IsLive) :
    ∃ last, stage.Course (queue.episodes key touch) last ∧ (queue.touch touch).Shows key last := by
  cases touch with
  | park parcel =>
    simpa only [episodes, ownEpisodes, dequeues, calls, List.filter_nil, List.map_nil,
      List.append_nil, WaitQueue.touch] using shown.park keyed parcel
  | poll polled waker =>
    simp only [episodes, ownEpisodes, dequeues, calls, List.filter_nil, List.map_nil,
      List.append_nil, WaitQueue.touch, WaitQueue.poll]
    cases queued : queue.holds polled with
    | true =>
      rw [found?_eq_none_iff.mpr queued]
      exact shown.refresh queued keyed waker
    | false =>
      rw [found?_of_dequeued queued]
      exact shown.resume queued keyed fun own => live (own ▸ rfl)
  | drop dropped =>
    obtain ⟨middle, course, vacated⟩ := shown.drop keyed fun own => live (own ▸ rfl)
    cases queued : queue.holds dropped with
    | true =>
      have departure : queue.departure dropped = .withdrawn := by simp [departure, queued]
      simp only [queued, if_true] at vacated
      refine ⟨middle, ?_, ?_⟩
      · simpa [episodes, ownEpisodes, dequeues, departure, calls] using course
      · simpa only [WaitQueue.touch, leave, departure] using vacated
    | false =>
      simp only [queued, Bool.false_eq_true, if_false] at vacated
      rcases departure_of_dequeued queued with departure | ⟨value, departure⟩ | departure
      · refine ⟨middle, ?_, ?_⟩
        · simpa [episodes, ownEpisodes, dequeues, departure, calls] using course
        · simpa only [WaitQueue.touch, leave, departure] using vacated
      · refine ⟨middle, ?_, ?_⟩
        · simpa [episodes, ownEpisodes, dequeues, departure, calls] using course
        · simpa only [WaitQueue.touch, leave, departure] using vacated
      · obtain ⟨last, onward, woken⟩ := vacated.wake (keyed.forget dropped) 1
        refine ⟨last, ?_, ?_⟩
        · have next : (queue.forget dropped).front 1 = queue.waiting.head?.toList := by
            cases waiting : queue.waiting <;> simp [front, forget, waiting]
          rw [next] at onward
          simpa only [episodes, ownEpisodes, dequeues, departure] using course.trans onward
        · simpa only [WaitQueue.touch, leave, departure] using woken
  | wakeFirst => exact shown.wake keyed 1
  | wakeAll => exact shown.wake keyed queue.length
  | takeFirstOffer =>
    simp only [episodes, ownEpisodes, dequeues, List.nil_append, WaitQueue.touch]
    cases taken : queue.takeFirstOffer with
    | none => exact ⟨stage, .still, shown⟩
    | some outcome =>
      obtain ⟨value, handed, after⟩ := outcome
      obtain ⟨wait, before, later, split, offered, _, rfl, rfl⟩ := takeFirstOffer_eq_some taken
      have fits : (Cause.take value).Fits wait.parcel := offered ▸ .take
      exact shown.settle keyed split fits ⟨rfl, rfl⟩
  | deliverFirst value =>
    simp only [episodes, ownEpisodes, dequeues, List.nil_append, WaitQueue.touch]
    cases delivered : queue.deliverFirst value with
    | none => exact ⟨stage, .still, shown⟩
    | some outcome =>
      obtain ⟨handed, after⟩ := outcome
      obtain ⟨wait, before, later, split, empty, _, rfl, rfl⟩ := deliverFirst_eq_some delivered
      have fits : (Cause.delivery value).Fits wait.parcel := empty ▸ .delivery
      exact shown.settle keyed split fits ⟨rfl, rfl⟩

end Turning

end WaitQueue

end ChannelBus
