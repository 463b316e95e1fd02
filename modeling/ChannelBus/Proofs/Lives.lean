import ChannelBus.Proofs.Stages
import Mathlib.Data.List.Induction

/-!
# The life cycle of waits

What holds of all waits of a queue after any history in which tasks poll and drop only waits of
their own: each of them is on one course through its stages. `WaitQueue.LifeCycle` says what that
means for the order of the queue, for who is called and when, for what a poll finds, and for the
values that are offered and delivered.
-/

namespace ChannelBus

variable {α : Type}

namespace WaitQueue

open Wait (Cause Episode Stage)

/-! ## Whole histories -/

/-- The queue after a history. -/
def reached (history : List (Touch α)) : WaitQueue α :=
  new.touchAll history

/-- What happened in a history to the wait with this key. -/
def life (history : List (Touch α)) (key : Nat) : List (Episode α) :=
  new.story key history

/-- A history in which a wait is polled and dropped only from when it was parked until it is
dropped. -/
inductive Proper : List (Touch α) → Prop where
  /-- Nothing was done. -/
  | start : Proper []
  /-- One more operation, whose own wait was parked and not dropped. -/
  | step {history : List (Touch α)} (proper : Proper history) (touch : Touch α)
    (live : ∀ key ∈ touch.target?, key < (reached history).nextKey ∧ .drop key ∉ history) :
    Proper (history ++ [touch])

section Histories

variable {history : List (Touch α)} {key : Nat} {stage last : Stage α}

/-- One more operation after a history. -/
theorem reached_snoc (history : List (Touch α)) (touch : Touch α) :
    reached (history ++ [touch]) = (reached history).touch touch := by
  simp [reached, touchAll]

/-- A life goes on with the next operation. -/
theorem life_snoc (history : List (Touch α)) (touch : Touch α) (key : Nat) :
    life (history ++ [touch]) key =
      life history key ++ (reached history).episodes key touch := by
  rw [life, story_append]
  simp only [story, List.append_nil]
  rfl

/-- What a task does and finds with its wait: it parks it, polls it, or drops it. -/
theorem ownEpisodes_cases {queue : WaitQueue α} {touch : Touch α} {episode : Episode α}
    (told : episode ∈ queue.ownEpisodes key touch) :
    (∃ parcel, episode = .parked parcel) ∨
      (∃ waker, episode = .pending waker) ∨ (∃ parcel, episode = .resumed parcel) ∨
        touch = .drop key ∧ ∃ parcel, episode = .dropped parcel := by
  cases touch with
  | park parcel =>
    simp only [ownEpisodes] at told
    split at told
    · exact .inl ⟨parcel, List.mem_singleton.mp told⟩
    · exact absurd told List.not_mem_nil
  | poll polled waker =>
    simp only [ownEpisodes] at told
    split at told
    · cases found : queue.found? polled with
      | none =>
        rw [found] at told
        exact .inr (.inl ⟨waker, List.mem_singleton.mp told⟩)
      | some parcel =>
        rw [found] at told
        exact .inr (.inr (.inl ⟨parcel, List.mem_singleton.mp told⟩))
    · exact absurd told List.not_mem_nil
  | drop dropped =>
    simp only [ownEpisodes] at told
    split at told
    case isTrue same =>
      exact .inr (.inr (.inr ⟨by rw [same], _, List.mem_singleton.mp told⟩))
    case isFalse => exact absurd told List.not_mem_nil
  | wakeFirst | wakeAll | takeFirstOffer | deliverFirst => exact absurd told List.not_mem_nil

/-- Only an operation that drops a wait tells that it was dropped. -/
theorem drop_of_dropped_mem {queue : WaitQueue α} {touch : Touch α} {parcel : Parcel α}
    (told : .dropped parcel ∈ queue.episodes key touch) : touch = .drop key := by
  rcases List.mem_append.mp told with own | called
  · rcases ownEpisodes_cases own with ⟨_, same⟩ | ⟨_, same⟩ | ⟨_, same⟩ | ⟨dropped, _⟩
    · cases same
    · cases same
    · cases same
    · exact dropped
  · obtain ⟨call, _, same⟩ := List.mem_map.mp called
    cases same

/-- Whoever is told to be called is handed out. -/
theorem call_of_dequeued_mem {queue : WaitQueue α} {touch : Touch α} {called : Option TaskId}
    {cause : Cause α} (told : .dequeued called cause ∈ queue.episodes key touch) :
    ∃ wait, (wait, cause) ∈ queue.dequeues touch ∧ wait.key = key ∧ wait.waker = called := by
  rcases List.mem_append.mp told with own | call
  · rcases ownEpisodes_cases own with ⟨_, same⟩ | ⟨_, same⟩ | ⟨_, same⟩ | ⟨_, _, same⟩ <;>
      cases same
  · obtain ⟨⟨wait, reason⟩, listed, same⟩ := List.mem_map.mp call
    obtain ⟨rfl, rfl⟩ := Episode.dequeued.inj same
    obtain ⟨handed, own⟩ := List.mem_filter.mp listed
    exact ⟨wait, handed, beq_iff_eq.mp own, rfl⟩

/-- The life of every wait is a course through its stages, and the queue shows its stage. -/
theorem Proper.lives (proper : Proper history) (key : Nat) :
    ∃ stage : Stage α, Stage.unborn.Course (life history key) stage ∧
      (reached history).Shows key stage ∧ (stage = .dropped → .drop key ∈ history) := by
  induction proper with
  | start => exact ⟨.unborn, .still, .unborn (Nat.zero_le key), fun dropped => by cases dropped⟩
  | @step history proper touch live ih =>
    obtain ⟨stage, course, shown, dropped⟩ := ih
    have alive (own : touch.target? = some key) : stage.IsLive := by
      obtain ⟨given, kept⟩ := live key own
      cases shown with
      | unborn later => exact absurd given (Nat.not_lt_of_le later)
      | dropped _ _ => exact absurd (dropped rfl) kept
      | queued | woken | resumed => exact True.intro
    obtain ⟨last, onward, shows'⟩ := shown.touch (keyed_touchAll history) alive
    refine ⟨last, ?_, reached_snoc history touch ▸ shows', fun final => ?_⟩
    · rw [life_snoc]
      exact course.trans onward
    · rcases onward.ends_dropped final with before | ⟨parcel, told⟩
      · exact List.mem_append_left _ (dropped before)
      · rw [drop_of_dropped_mem told]
        exact List.mem_append_right _ List.mem_cons_self

/-- What came before was proper, too. -/
theorem Proper.before {early rest : List (Touch α)} (proper : Proper (early ++ rest)) :
    Proper early := by
  generalize whole : early ++ rest = history at proper
  induction proper generalizing rest with
  | start => exact (List.append_eq_nil_iff.mp whole).1 ▸ .start
  | @step history proper touch live ih =>
    rcases List.eq_nil_or_concat rest with rfl | ⟨shorter, final, rfl⟩
    · rw [List.append_nil] at whole
      exact whole ▸ .step proper touch live
    · rw [List.concat_eq_append, ← List.append_assoc] at whole
      exact ih (List.append_inj' whole rfl).1

end Histories

/-! ## Keys over a history -/

section Keys

variable {queue : WaitQueue α} {key : Nat}

/-- The keys of the queued waits, in arrival order. -/
def queuedKeys (queue : WaitQueue α) : List Nat :=
  queue.waiting.map (·.key)

/-- A key is among those of the queued waits if the queue holds it. -/
theorem mem_queuedKeys : key ∈ queue.queuedKeys ↔ queue.holds key = true := by
  rw [holds_iff, queuedKeys, List.mem_map]

/-- Parking takes the next key, and nothing else does. -/
theorem nextKey_touch (queue : WaitQueue α) (touch : Touch α) :
    (queue.touch touch).nextKey = queue.nextKey + if touch.parks then 1 else 0 := by
  cases touch with
  | park | wakeFirst | wakeAll => rfl
  | poll key waker =>
    simp only [WaitQueue.touch, WaitQueue.poll]
    split <;> rfl
  | drop key =>
    rcases queue.leave_cases key with ⟨_, left⟩ | ⟨_, left, _⟩ | ⟨_, left, _⟩ <;>
      simp only [WaitQueue.touch, left] <;> rfl
  | takeFirstOffer =>
    simp only [WaitQueue.touch, takeFirstOffer]
    cases extractFirst (·.parcel.offer?) queue.waiting <;> rfl
  | deliverFirst value =>
    simp only [WaitQueue.touch, deliverFirst]
    cases extractFirst (fun wait : Wait α => if wait.parcel.isEmpty then some () else none)
      queue.waiting <;> rfl

/-- The keys of the queued waits keep their order; only a parked wait adds one, at the end. -/
theorem keys_touch (queue : WaitQueue α) (touch : Touch α) :
    (queue.touch touch).queuedKeys.Sublist
      (queue.queuedKeys ++ if touch.parks then [queue.nextKey] else []) := by
  have shorter {waits : List (Wait α)} (fewer : waits.Sublist queue.waiting) :
      (waits.map (·.key)).Sublist (queue.queuedKeys ++ []) := by
    rw [List.append_nil]
    exact fewer.map _
  have removed {wait : Wait α} {before later : List (Wait α)}
      (split : queue.waiting = before ++ wait :: later) : (before ++ later).Sublist queue.waiting :=
    split ▸ (List.sublist_cons_self wait later).append_left before
  simp only [queuedKeys]
  cases touch with
  | park parcel =>
    simp only [WaitQueue.touch, WaitQueue.park, List.map_append, List.map_cons, List.map_nil]
    exact List.Sublist.refl _
  | poll polled waker =>
    simp only [WaitQueue.touch, WaitQueue.poll]
    split
    · have keys : (queue.refresh polled waker).waiting.map (·.key) = queue.queuedKeys := by
        simp only [queuedKeys, WaitQueue.refresh, List.map_map]
        refine List.map_congr_left fun wait _ => ?_
        simp only [Function.comp_apply]
        split <;> rfl
      rw [keys]
      exact shorter (List.Sublist.refl _)
    · exact shorter (List.Sublist.refl _)
  | drop dropped =>
    rcases queue.leave_cases dropped with ⟨_, left⟩ | ⟨_, left, _⟩ | ⟨_, left, _⟩ <;>
      simp only [WaitQueue.touch, left]
    · exact shorter List.filter_sublist
    · exact shorter (List.Sublist.refl _)
    · exact shorter (List.drop_sublist 1 _)
  | wakeFirst => exact shorter (List.drop_sublist 1 _)
  | wakeAll => exact shorter (List.drop_sublist _ _)
  | takeFirstOffer =>
    simp only [WaitQueue.touch]
    cases taken : queue.takeFirstOffer with
    | none => exact shorter (List.Sublist.refl _)
    | some outcome =>
      obtain ⟨wait, before, later, split, _, _, _, after⟩ := takeFirstOffer_eq_some taken
      rw [Option.elim_some, after]
      exact shorter (removed split)
  | deliverFirst value =>
    simp only [WaitQueue.touch]
    cases delivered : queue.deliverFirst value with
    | none => exact shorter (List.Sublist.refl _)
    | some outcome =>
      obtain ⟨wait, before, later, split, _, _, _, after⟩ := deliverFirst_eq_some delivered
      rw [Option.elim_some, after]
      exact shorter (removed split)

/-- The waits that an operation hands out were queued, in this order and with these wakers. -/
theorem dequeues_sublist (queue : WaitQueue α) (touch : Touch α) :
    ((queue.dequeues touch).map fun call => (call.1.key, call.1.waker)).Sublist
      (queue.waiting.map fun wait => (wait.key, wait.waker)) := by
  have fronted (count : Nat) : (((queue.front count).map (·, (Cause.wakeup : Cause α))).map
      fun call => (call.1.key, call.1.waker)).Sublist
        (queue.waiting.map fun wait => (wait.key, wait.waker)) := by
    rw [List.map_map]
    exact (List.take_sublist count queue.waiting).map fun wait => (wait.key, wait.waker)
  have one {wait : Wait α} {before later : List (Wait α)}
      (split : queue.waiting = before ++ wait :: later) :
      [(wait.key, wait.waker)].Sublist (queue.waiting.map fun wait => (wait.key, wait.waker)) := by
    have here : wait ∈ queue.waiting := split ▸ List.mem_append_right _ List.mem_cons_self
    exact List.singleton_sublist.mpr (List.mem_map_of_mem here)
  cases touch with
  | park | poll => exact List.nil_sublist _
  | wakeFirst => exact fronted 1
  | wakeAll => exact fronted queue.length
  | drop key =>
    simp only [dequeues]
    cases queued : queue.holds key with
    | true => simp [departure, queued]
    | false =>
      rcases departure_of_dequeued queued with gone | ⟨value, gone⟩ | gone <;> rw [gone]
      · exact List.nil_sublist _
      · exact List.nil_sublist _
      · cases waiting : queue.waiting with
        | nil => exact List.nil_sublist _
        | cons first rest => exact List.singleton_sublist.mpr List.mem_cons_self
  | takeFirstOffer =>
    simp only [dequeues]
    cases taken : queue.takeFirstOffer with
    | none => exact List.nil_sublist _
    | some outcome =>
      obtain ⟨value, handed, after⟩ := outcome
      obtain ⟨wait, before, later, split, _, _, rfl, _⟩ := takeFirstOffer_eq_some taken
      have listed := one split
      exact listed
  | deliverFirst value =>
    simp only [dequeues]
    cases delivered : queue.deliverFirst value with
    | none => exact List.nil_sublist _
    | some outcome =>
      obtain ⟨handed, after⟩ := outcome
      obtain ⟨wait, before, later, split, _, _, rfl, _⟩ := deliverFirst_eq_some delivered
      have listed := one split
      exact listed

/-- An operation hands out each wait once. -/
theorem Keyed.dequeues_distinct (keyed : queue.Keyed) (touch : Touch α) :
    ((queue.dequeues touch).map (·.1.key)).Nodup := by
  have fewer := (queue.dequeues_sublist touch).map Prod.fst
  simp only [List.map_map] at fewer
  exact (keyed.distinct.sublist ((List.sublist_append_left _ _).map _)).sublist fewer

/-- An operation queues no wait that had left the queue. -/
theorem not_queued_touch (touch : Touch α) (given : key < queue.nextKey)
    (left : key ∉ queue.queuedKeys) : key ∉ (queue.touch touch).queuedKeys := by
  intro queued
  rcases List.mem_append.mp ((queue.keys_touch touch).subset queued) with before | parked
  · exact left before
  · split at parked
    · exact absurd (List.mem_singleton.mp parked) (Nat.ne_of_lt given)
    · exact List.not_mem_nil parked

end Keys

/-! ## The life cycle -/

/-- The task of the latest poll in a life that found the wait queued. -/
def latestPoll (life : List (Episode α)) : Option TaskId :=
  (life.filterMap Episode.waker?).getLast?

/-- In this history the wait was taken out of the queue for this reason, once: the task of its
latest poll in vain was called, and its first poll afterwards finds what the reason left. -/
def Called (history : List (Touch α)) (wait : Wait α) (cause : Cause α) : Prop :=
  ∃ parcel, ∃ polls : List TaskId, ∃ ending stage, cause.Fits parcel ∧
    wait.waker = polls.getLast? ∧
    life history wait.key =
      .parked parcel :: (polls.map .pending ++ .dequeued wait.waker cause :: ending) ∧
    Wait.Freedom (cause.result parcel) ending stage

/-- What holds of the waits of one queue after a history. -/
structure LifeCycle (history : List (Touch α)) : Prop where
  /-- Queued waits ascend in their keys. -/
  ascending : (reached history).queuedKeys.Pairwise (· < ·)
  /-- Keys count the waits that were parked. -/
  counted : (reached history).nextKey = history.countP Touch.parks
  /-- Nothing has happened under the keys that were not given out. -/
  unborn : ∀ key, (reached history).nextKey ≤ key → life history key = []
  /-- Under every other key one wait was parked, polled in vain, taken out of the queue or dropped,
  resumed with what lay on it, and dropped; the queue shows how far this has come. -/
  lives : ∀ key < (reached history).nextKey, ∃ parcel, ∃ polls : List TaskId, ∃ ending stage,
    life history key = .parked parcel :: (polls.map .pending ++ ending) ∧
    Wait.Departing polls.getLast? parcel ending stage ∧ (reached history).Shows key stage
  /-- A poll is in vain exactly while the wait is queued. -/
  pending : ∀ key, (reached history).found? key = none ↔ key ∈ (reached history).queuedKeys
  /-- A wait that has left the queue is never queued again. -/
  final : ∀ before after, history = before ++ after → ∀ key < (reached before).nextKey,
    key ∉ (reached before).queuedKeys → key ∉ (reached history).queuedKeys
  /-- A wait leaves the queue with its own drop, and then nobody is called, or the task of its
  latest poll in vain is called once. -/
  leaving : ∀ before touch after, history = before ++ touch :: after →
    ∀ key ∈ (reached before).queuedKeys, key ∉ ((reached before).touch touch).queuedKeys →
      touch = .drop key ∧ (reached before).dequeues touch = [] ∨
        ∃ cause, calls key ((reached before).dequeues touch) =
          [.dequeued (latestPoll (life before key)) cause]
  /-- Whoever is called has just left the queue, once and for all. -/
  called : ∀ before touch after, history = before ++ touch :: after →
    ∀ call ∈ (reached before).dequeues touch, call.1.key ∈ (reached before).queuedKeys ∧
      call.1.key ∉ ((reached before).touch touch).queuedKeys ∧ Called history call.1 call.2
  /-- A value that is delivered reaches one wait and no other. -/
  delivered : ∀ before value after, history = before ++ .deliverFirst value :: after →
    ∀ served rest, (reached before).deliverFirst value = some (served, rest) →
      Called history served (.delivery value) ∧
        ∀ key ≠ served.key, (reached before).episodes key (.deliverFirst value) = []
  /-- A value on offer is in one place: still on its wait, with the receiver that took it, given
  back to its owner, or released with the dropped wait. -/
  offers : ∀ key parcel rest, life history key = .parked parcel :: rest →
    (life history key).filterMap Episode.offer? ++
      (((reached history).parcel? key).bind Parcel.offer?).toList = parcel.offer?.toList

section Cycles

variable {history before after : List (Touch α)} {key : Nat} {touch : Touch α}

/-- Keys are counted by the waits that are parked. -/
theorem nextKey_reached (history : List (Touch α)) :
    (reached history).nextKey = history.countP Touch.parks := by
  induction history using List.reverseRecOn with
  | nil => rfl
  | append_singleton earlier touch ih =>
    rw [reached_snoc, nextKey_touch, ih, List.countP_append, List.countP_singleton]

/-- Queued waits ascend in their keys after any history. -/
theorem queuedKeys_ascending (history : List (Touch α)) :
    (reached history).queuedKeys.Pairwise (· < ·) := by
  induction history using List.reverseRecOn with
  | nil => exact List.Pairwise.nil
  | append_singleton earlier touch ih =>
    rw [reached_snoc]
    refine List.Pairwise.sublist ((reached earlier).keys_touch touch) ?_
    refine List.pairwise_append.mpr ⟨ih, ?_, fun key queued next parked => ?_⟩
    · split <;> simp
    · obtain ⟨wait, waiting, rfl⟩ := List.mem_map.mp queued
      split at parked
      · rw [List.mem_singleton.mp parked]
        exact (keyed_touchAll earlier).fresh wait (List.mem_append_left _ waiting)
      · exact absurd parked List.not_mem_nil

/-- A wait that has left the queue does not come back. -/
theorem not_queued_reached (given : key < (reached before).nextKey)
    (left : key ∉ (reached before).queuedKeys) (after : List (Touch α)) :
    key < (reached (before ++ after)).nextKey ∧ key ∉ (reached (before ++ after)).queuedKeys := by
  induction after using List.reverseRecOn with
  | nil => simpa using ⟨given, left⟩
  | append_singleton earlier touch ih =>
    rw [← List.append_assoc, reached_snoc]
    refine ⟨?_, not_queued_touch touch ih.1 ih.2⟩
    rw [nextKey_touch]
    exact Nat.lt_add_right _ ih.1

/-- A called wait was called once, as its life tells. -/
theorem Proper.called (proper : Proper history) {wait : Wait α} {cause : Cause α}
    (told : .dequeued wait.waker cause ∈ life history wait.key) : Called history wait cause := by
  obtain ⟨stage, course, _⟩ := proper.lives wait.key
  rcases course.of_unborn with ⟨nothing, _⟩ | ⟨parcel, polls, ending, story, departing⟩
  · rw [nothing] at told
    exact absurd told List.not_mem_nil
  · have ended : .dequeued wait.waker cause ∈ ending := by
      rw [story] at told
      simpa using told
    cases departing with
    | queued => exact absurd ended List.not_mem_nil
    | withdrawn => simp at ended
    | dequeued fits freedom =>
      rcases List.mem_cons.mp ended with same | later
      · obtain ⟨waker, rfl⟩ := Episode.dequeued.inj same
        exact ⟨parcel, polls, _, _, fits, waker, by rw [story, waker], freedom⟩
      · exact absurd later (freedom.not_dequeued _ _)

/-- A call is told in the life of the wait that is called. -/
theorem dequeued_mem_life {wait : Wait α} {cause : Cause α}
    (call : (wait, cause) ∈ (reached before).dequeues touch) (after : List (Touch α)) :
    .dequeued wait.waker cause ∈ life (before ++ touch :: after) wait.key := by
  have called := calls_of_mem ((keyed_touchAll before).dequeues_distinct touch) call
  rw [life, story_append]
  refine List.mem_append_right _ (List.mem_append_left _ (List.mem_append_right _ ?_))
  exact called ▸ List.mem_cons_self

/-- A queued wait has only been polled in vain, and its waker is the task of the latest poll. -/
theorem Proper.queued (proper : Proper history) {wait : Wait α}
    (queued : wait ∈ (reached history).waiting) :
    ∃ polls : List TaskId,
      life history wait.key = .parked wait.parcel :: polls.map .pending ∧
        wait.waker = polls.getLast? := by
  obtain ⟨stage, course, shown, _⟩ := proper.lives wait.key
  obtain rfl := shown.eq_queued (keyed_touchAll history) queued
  rcases course.of_unborn with ⟨_, unborn⟩ | ⟨parcel, polls, ending, story, departing⟩
  · cases unborn
  · generalize latest : polls.getLast? = waker at departing
    cases departing with
    | queued => exact ⟨polls, by rw [story, List.append_nil], latest.symm⟩
    | dequeued _ freedom =>
      cases freedom with
      | resumed aftermath => cases aftermath

/-- The waker of a queued wait is the task of the latest poll in vain. -/
theorem Proper.latestPoll (proper : Proper history) {wait : Wait α}
    (queued : wait ∈ (reached history).waiting) :
    latestPoll (life history wait.key) = wait.waker := by
  obtain ⟨polls, story, latest⟩ := proper.queued queued
  simp [WaitQueue.latestPoll, story, latest, List.filterMap_cons, List.filterMap_map,
    Function.comp_def, Episode.waker?]

/-- A wait that was called is out of the queue. -/
theorem Proper.not_queued (proper : Proper history) {called : Option TaskId} {cause : Cause α}
    (told : .dequeued called cause ∈ life history key) :
    key ∉ (reached history).queuedKeys := by
  intro queued
  obtain ⟨wait, waiting, rfl⟩ := List.mem_map.mp queued
  obtain ⟨polls, story, _⟩ := proper.queued waiting
  simp [story] at told

/-- A wait that leaves the queue is dropped or called. -/
theorem Proper.leaving (proper : Proper before) (queued : key ∈ (reached before).queuedKeys)
    (left : key ∉ ((reached before).touch touch).queuedKeys) :
    touch = .drop key ∧ (reached before).dequeues touch = [] ∨
      ∃ cause, calls key ((reached before).dequeues touch) =
        [.dequeued (WaitQueue.latestPoll (life before key)) cause] := by
  have keyed : (reached before).Keyed := keyed_touchAll before
  obtain ⟨wait, waiting, rfl⟩ := List.mem_map.mp queued
  have shown : (reached before).Shows wait.key (.queued wait.waker wait.parcel) := .queued waiting
  obtain ⟨last, onward, shows'⟩ := shown.touch keyed fun _ => True.intro
  have away : last.isQueued = false := by
    rw [← shows'.holds_eq (keyed.touch touch)]
    exact Bool.eq_false_iff.mpr fun holds => left (mem_queuedKeys.mpr holds)
  obtain ⟨polls, ending, told, departing⟩ := onward.of_queued
  cases departing with
  | queued => cases away
  | withdrawn =>
    have gone : .dropped wait.parcel ∈ (reached before).episodes wait.key touch := by simp [told]
    have dropped := drop_of_dropped_mem gone
    refine .inl ⟨dropped, ?_⟩
    simp [dropped, dequeues, departure, mem_queuedKeys.mp queued]
  | @dequeued cause rest last fits freedom =>
    have called : .dequeued (Wait.latest wait.waker polls) cause ∈
        (reached before).episodes wait.key touch := by simp [told]
    obtain ⟨handed, call, same, _⟩ := call_of_dequeued_mem called
    have entry : (handed.key, handed.waker) ∈
        (reached before).waiting.map fun wait => (wait.key, wait.waker) :=
      ((reached before).dequeues_sublist touch).subset (List.mem_map_of_mem call)
    obtain ⟨original, known, equal⟩ := List.mem_map.mp entry
    obtain ⟨own, waker⟩ := Prod.mk.inj equal
    obtain rfl := keyed.eq_of_key (List.mem_append_left _ known) (List.mem_append_left _ waiting)
      (own.trans same)
    refine .inr ⟨cause, ?_⟩
    rw [← same, calls_of_mem (keyed.dequeues_distinct touch) call, same,
      proper.latestPoll waiting, waker]

/-- An offer is where the life of its wait says, or still on the wait. -/
theorem Proper.offers (proper : Proper history) {parcel : Parcel α} {rest : List (Episode α)}
    (begun : life history key = .parked parcel :: rest) :
    (life history key).filterMap Episode.offer? ++
      (((reached history).parcel? key).bind Parcel.offer?).toList = parcel.offer?.toList := by
  obtain ⟨stage, course, shown, _⟩ := proper.lives key
  have held : (reached history).parcel? key = stage.parcel? :=
    shown.parcel?_eq (keyed_touchAll history)
  rcases course.of_unborn with ⟨nothing, _⟩ | ⟨first, polls, ending, story, departing⟩
  · rw [nothing] at begun
    cases begun
  · rw [story] at begun
    obtain ⟨same, _⟩ := List.cons.inj begun
    obtain rfl := Episode.parked.inj same
    have vain : (polls.map Episode.pending).filterMap Episode.offer? = ([] : List α) :=
      List.filterMap_eq_nil_iff.mpr fun episode told => by
        obtain ⟨waker, _, rfl⟩ := List.mem_map.mp told
        rfl
    rw [story, held, List.filterMap_cons, List.filterMap_append, vain]
    exact departing.offers

/-- Every wait on a queue lives one life, whatever is done at either end of it: it is queued until
it is called or dropped, its call goes to the task of its latest poll, its first poll afterwards
finds what was parked with it, taken from it or delivered to it, and no value on offer is lost or
doubled. -/
theorem life_cycle (history : List (Touch α)) (proper : Proper history) : LifeCycle history where
  ascending := queuedKeys_ascending history
  counted := nextKey_reached history
  unborn key later := by
    obtain ⟨stage, course, shown, _⟩ := proper.lives key
    obtain rfl := shown.eq_unborn (keyed_touchAll history) later
    rcases course.of_unborn with ⟨nothing, _⟩ | ⟨parcel, polls, ending, story, departing⟩
    · exact nothing
    · cases departing with
      | dequeued _ freedom =>
        cases freedom with
        | resumed aftermath => cases aftermath
  lives key given := by
    obtain ⟨stage, course, shown, _⟩ := proper.lives key
    rcases course.of_unborn with ⟨_, rfl⟩ | ⟨parcel, polls, ending, story, departing⟩
    · cases shown with
      | unborn later => exact absurd given (Nat.not_lt_of_le later)
    · exact ⟨parcel, polls, ending, stage, story, departing, shown⟩
  pending key := found?_eq_none_iff.trans mem_queuedKeys.symm
  final before after split key given left := split ▸ (not_queued_reached given left after).2
  leaving before touch after split key queued left := (split ▸ proper).before.leaving queued left
  called before touch after split call handed := by
    subst split
    have told := dequeued_mem_life handed
    have upTo : Proper (before ++ [touch]) := by
      rw [List.append_cons] at proper
      exact proper.before
    refine ⟨?_, ?_, proper.called (told after)⟩
    · have keys := ((reached before).dequeues_sublist touch).map Prod.fst
      simp only [List.map_map] at keys
      exact keys.subset (List.mem_map.mpr ⟨call, handed, rfl⟩)
    · rw [← reached_snoc]
      exact upTo.not_queued (told [])
  delivered before value after split served rest delivered := by
    subst split
    have handed : (served, Cause.delivery value) ∈
        (reached before).dequeues (.deliverFirst value) := by
      simp [dequeues, delivered]
    refine ⟨proper.called (dequeued_mem_life handed after), fun key other => ?_⟩
    simp [episodes, ownEpisodes, dequeues, delivered, calls, other.symm]
  offers key parcel rest begun := proper.offers begun

/-- Three waits: the first is polled and its offer taken, the second gets a value that it finds in
its first poll, and the third is woken, dropped, and passes its wakeup on to nobody. -/
def threeLives : List (Touch Nat) :=
  [.park (.offered 5), .park .empty, .poll 0 7, .park .empty, .takeFirstOffer, .deliverFirst 9,
    .poll 1 8, .poll 1 8, .wakeFirst, .poll 0 7, .drop 2]

/-- The three waits live as every wait does. -/
theorem life_cycle_of_threeLives :
    Proper threeLives ∧ LifeCycle threeLives ∧
      life threeLives 0 = [.parked (.offered 5), .pending 7, .dequeued (some 7) (.take 5),
        .resumed .taken] ∧
      life threeLives 1 = [.parked .empty, .dequeued none (.delivery 9), .resumed (.delivered 9),
        .resumed .empty] ∧
      life threeLives 2 = [.parked .empty, .dequeued none .wakeup, .dropped .empty] := by
  have early : Proper ([.park (.offered 5), .park .empty, .poll 0 7, .park .empty,
      .takeFirstOffer, .deliverFirst 9] : List (Touch Nat)) :=
    (((((Proper.start.step (.park (.offered 5)) (by decide)).step (.park .empty) (by decide)).step
      (.poll 0 7) (by decide)).step (.park .empty) (by decide)).step .takeFirstOffer
        (by decide)).step (.deliverFirst 9) (by decide)
  have proper : Proper threeLives :=
    ((((early.step (.poll 1 8) (by decide)).step (.poll 1 8) (by decide)).step .wakeFirst
      (by decide)).step (.poll 0 7) (by decide)).step (.drop 2) (by decide)
  exact ⟨proper, life_cycle threeLives proper, by decide, by decide, by decide⟩

end Cycles

end WaitQueue

end ChannelBus
