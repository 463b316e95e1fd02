import ChannelBus.Proofs.Polling
import ChannelBus.Proofs.Stalls
import ChannelBus.Scheduler.Script
import Mathlib.Algebra.Order.Ring.Nat
import Mathlib.Data.List.Nodup

/-!
# Polling comes to an end

If nobody interferes, polling ready tasks in whatever order leaves no task ready after finitely many
polls. Four numbers tell how much is left to do, each counting for more than all that follow: the
steps that the programs may still take; the ready tasks that wait to receive; the broadcasters
parked elsewhere than at the channel that stalls them; and the ready tasks. Each poll of a ready
task lowers the first of them that it changes: a task that is answered goes on with its program, a
receiver that parks again wakes nobody but senders, a broadcaster that parks again does so where it
is stalled, and wakes nobody unless it has moved there, and any other sender wakes nobody.
-/

open scoped List

namespace ChannelBus

variable {σ α β : Type}

/-- What a list weighs after one of its items was replaced. -/
theorem sum_map_set (weigh : β → Nat) {items : List β} {index : Nat} {item : β}
    (here : items[index]? = some item) (new : β) :
    ((items.set index new).map weigh).sum + weigh item = (items.map weigh).sum + weigh new := by
  induction items generalizing index with
  | nil => contradiction
  | cons first rest ih =>
    cases index with
    | zero =>
      obtain rfl : first = item := Option.some.inj here
      simp only [List.set_cons_zero, List.map_cons, List.sum_cons]
      omega
    | succ index =>
      have later := ih here
      simp only [List.set_cons_succ, List.map_cons, List.sum_cons]
      omega

/-- A bound on the steps of a task that are still to come; the first one counts as two, and one
more if the task was not polled yet. -/
def Task.effort (program : Program σ α) (task : Task σ α) : Nat :=
  match task.phase with
  | .fresh => 2 * program.rank task.state + 3
  | .yielded | .parked _ _ => 2 * program.rank task.state + 2
  | .over => 0

namespace Scheduler

/-- The steps that all tasks may still take. -/
def effort (program : Program σ α) (scheduler : Scheduler σ α) : Nat :=
  (scheduler.tasks.map (Task.effort program)).sum

/-- Whether a task waits to receive. -/
def listens (scheduler : Scheduler σ α) (id : TaskId) : Bool :=
  (scheduler.waits id).any fun (_, suspended) => suspended.ticket.side = .receivers

/-- The number of ready tasks that wait to receive. -/
def listeners (scheduler : Scheduler σ α) : Nat :=
  scheduler.ready.countP scheduler.listens

/-- What stalls a broadcast on one of the buses. -/
def stallAt? (scheduler : Scheduler σ α) (index : Nat) : Option Stall :=
  (scheduler.buses[index]?).bind (·.stall? Channel.canAccept)

/-- Counts a task that is a broadcaster and parked elsewhere than at the channel that stalls it. -/
def astray (scheduler : Scheduler σ α) (task : Task σ α) : Nat :=
  match task.phase with
  | .parked index suspended =>
    if suspended.call.handle? = none ∧
        scheduler.stallAt? index ≠
          some (.refused suspended.ticket.handle suspended.ticket.generation) then 1
    else 0
  | .fresh | .yielded | .over => 0

/-- The number of broadcasters that are parked elsewhere than at the channel that stalls them. -/
def strays (scheduler : Scheduler σ α) : Nat :=
  (scheduler.tasks.map scheduler.astray).sum

/-- What is left to do, the weightiest first. -/
def burden (program : Program σ α) (scheduler : Scheduler σ α) : Nat × Nat × Nat × Nat :=
  (scheduler.effort program, scheduler.listeners, scheduler.strays, scheduler.ready.length)

/-- The order of burdens. -/
def Lighter : Nat × Nat × Nat × Nat → Nat × Nat × Nat × Nat → Prop :=
  Prod.Lex (· < ·) (Prod.Lex (· < ·) (Prod.Lex (· < ·) (· < ·)))

/-- No burden can be lightened for ever. -/
theorem wellFounded_lighter : WellFounded Lighter :=
  (Prod.lex Nat.lt_wfRel (Prod.lex Nat.lt_wfRel (Prod.lex Nat.lt_wfRel Nat.lt_wfRel))).wf

/-! ## Going on with a program -/

section Advancing

variable [Stored α] {program : Program σ α} {scheduler : Scheduler σ α} {id : TaskId}

/-- A task that was polled is not fresh any more. -/
theorem effort_takeStep (program : Program σ α) (scheduler : Scheduler σ α) (id : TaskId)
    (step : Step α) (state : σ) :
    Task.effort program ⟨state, (scheduler.takeStep id step).result.phase⟩ ≤
      2 * program.rank state + 2 := by
  cases step with
  | yield => exact Nat.le_refl _
  | act action =>
    simp only [takeStep]
    cases (scheduler.act action).result <;> exact Nat.zero_le _
  | call index call =>
    simp only [takeStep]
    cases (scheduler.onBus index (·.start call id)).result with
    | error fault => exact Nat.zero_le _
    | ok progress =>
      cases progress with
      | finished reply => exact Nat.zero_le _
      | parked suspended => exact Nat.le_refl _

/-- A task that goes on from a state is left with no more than the steps from there. -/
theorem tasks_advance (program : Program σ α) (scheduler : Scheduler σ α) (id : TaskId)
    (state : σ) : ∃ task,
    (scheduler.advance program id state).1.tasks = scheduler.tasks.set id task ∧
      task.effort program ≤ 2 * program.rank state + 2 := by
  refine advance_induction
    (fun middle now => middle.tasks = scheduler.tasks ∧ program.rank now ≤ program.rank state)
    (fun after => ∃ task, after.tasks = scheduler.tasks.set id task ∧
      task.effort program ≤ 2 * program.rank state + 2) ?_ ?_ ?_ ⟨rfl, Nat.le_refl _⟩
  · rintro middle now ⟨same, _⟩ _
    exact ⟨⟨now, .over⟩, congrArg (List.set · id _) same, Nat.zero_le _⟩
  · rintro middle now step answer ⟨same, bound⟩ follows _
    have less := program.rank_after now step answer follows
    exact ⟨(middle.tasks_takeStep id step).trans same, by omega⟩
  · rintro middle now step ⟨same, bound⟩ _ _
    have effort := effort_takeStep program middle id step now
    refine ⟨⟨now, (middle.takeStep id step).result.phase⟩, ?_, by omega⟩
    exact congrArg (List.set · id _) ((middle.tasks_takeStep id step).trans same)

end Advancing

/-! ## Parking again -/

section Reparking

variable {program : Program σ α} {scheduler after : Scheduler σ α} {id : TaskId}
  {task : Task σ α} {index : Nat} {suspended again : Suspended α}

/-- A task that is replaced by one of the same effort leaves the effort of all. -/
theorem effort_of_set (program : Program σ α) {new : Task σ α}
    (here : scheduler.tasks[id]? = some task)
    (tasks : after.tasks = scheduler.tasks.set id new) :
    after.effort program + task.effort program = scheduler.effort program + new.effort program := by
  rw [effort, tasks]
  exact sum_map_set (Task.effort program) here new

/-- A ready task is ready once. -/
theorem Tidy.ready_split (tidy : scheduler.Tidy program) (isReady : id ∈ scheduler.ready) :
    scheduler.ready ~ id :: scheduler.ready.filter (· != id) := by
  have distinct : scheduler.ready.Nodup := (List.nodup_append.mp tidy.balanced.nodup).1
  rw [← distinct.erase_eq_filter]
  exact List.perm_cons_erase isReady

/-- A task that parks again and wakes only senders is one listener less, if it was one. -/
theorem Tidy.listeners_of_reparked (tidy : scheduler.Tidy program) (isReady : id ∈ scheduler.ready)
    (waits : ∀ other, other ≠ id → after.waits other = scheduler.waits other)
    {woken : List TaskId} (ready : after.ready = scheduler.ready.filter (· != id) ++ woken)
    (senders : ∀ other ∈ woken, after.listens other = false) :
    after.listeners + (if scheduler.listens id then 1 else 0) = scheduler.listeners := by
  have nobody : woken.countP after.listens = 0 :=
    List.countP_eq_zero.mpr fun other member => by simp [senders other member]
  have same : (scheduler.ready.filter (· != id)).countP after.listens =
      (scheduler.ready.filter (· != id)).countP scheduler.listens := by
    refine List.countP_congr fun other member => ?_
    have apart : other ≠ id := by simpa using (List.mem_filter.mp member).2
    rw [listens, listens, waits other apart]
  rw [listeners, listeners, ready, List.countP_append, nobody, same,
    (tidy.ready_split isReady).countP_eq, List.countP_cons]
  omega

/-- Whether a parked task is astray depends on what stalls broadcasts, nothing else. -/
theorem strays_of_set {new : Task σ α} (here : scheduler.tasks[id]? = some task)
    (tasks : after.tasks = scheduler.tasks.set id new)
    (stalls : ∀ index, after.stallAt? index = scheduler.stallAt? index) :
    after.strays + scheduler.astray task = scheduler.strays + scheduler.astray new := by
  have same : after.astray = scheduler.astray := by
    funext task
    unfold astray
    simp only [stalls]
  rw [strays, same, tasks]
  exact sum_map_set scheduler.astray here new

/-- What a task whose wait was dequeued leaves when it is resumed: its bus, those whom it wakes, and
no other task. -/
theorem Tidy.onBus_of_dequeued (tidy : scheduler.Tidy program) {bus : Bus α}
    (waiting : scheduler.waits id = some (index, suspended))
    (known : scheduler.buses[index]? = some bus) (dequeued : id ∉ seated scheduler.buses) :
    let turn := (scheduler.unready id).onBus index (·.resume suspended id)
    turn.result = .ok (bus.resume suspended id).result ∧
      turn.scheduler.buses = scheduler.buses.set index (bus.resume suspended id).bus ∧
      turn.scheduler.tasks = scheduler.tasks ∧
      turn.scheduler.ready = scheduler.ready.filter (· != id) ++
        (bus.resume suspended id).notices.filterMap Notice.wakes? := by
  intro turn
  have settles := tidy.settles_resume waiting known dequeued
  have after := tidy.balanced.operate known dequeued
    (fun other apart => Waits.onBus_of_elsewhere waiting apart) settles
  have distinct := (List.nodup_append.mp after.nodup).1
  have ready := (scheduler.unready id).ready_onBus (·.resume suspended id) known distinct
  obtain ⟨result, buses, tasks⟩ :=
    (scheduler.unready id).onBus_of_known (·.resume suspended id) known
  exact ⟨result, buses, tasks, ready⟩

end Reparking

/-- A ready task whose wait was dequeued is polled, and it waits again. -/
structure Reparked (program : Program σ α) (scheduler after : Scheduler σ α) (id : TaskId)
    (task : Task σ α) (index : Nat) (bus : Bus α) (suspended again : Suspended α) : Prop where
  /-- Everything is accounted for before the poll. -/
  tidy : scheduler.Tidy program
  /-- The task is ready. -/
  isReady : id ∈ scheduler.ready
  /-- The task was spawned. -/
  here : scheduler.tasks[id]? = some task
  /-- It was suspended on this bus. -/
  parked : task.phase = .parked index suspended
  /-- The bus is there. -/
  known : scheduler.buses[index]? = some bus
  /-- The call parks again. -/
  parks : (bus.resume suspended id).result = .parked again
  /-- The bus is left as the call leaves it. -/
  buses : after.buses = scheduler.buses.set index (bus.resume suspended id).bus
  /-- The task waits anew. -/
  tasks : after.tasks = scheduler.tasks.set id ⟨task.state, .parked index again⟩
  /-- Those who are woken become ready. -/
  ready : after.ready = scheduler.ready.filter (· != id) ++
    (bus.resume suspended id).notices.filterMap Notice.wakes?

namespace Reparked

variable {program : Program σ α} {scheduler after : Scheduler σ α} {id : TaskId}
  {task : Task σ α} {index : Nat} {bus : Bus α} {suspended again : Suspended α}

section Before

variable (reparked : Reparked program scheduler after id task index bus suspended again)
include reparked

/-- The task waits before the poll. -/
theorem waiting : scheduler.waits id = some (index, suspended) :=
  waits_eq_some_iff.mpr ⟨task, reparked.here, reparked.parked⟩

/-- Its call waits on the bus. -/
theorem housed : bus.Housed (scheduler.waits.onBus index) :=
  reparked.tidy.balanced.housed index bus reparked.known

/-- Its call has its parcel. -/
theorem houses : bus.Houses suspended :=
  reparked.housed.houses id suspended (Waits.onBus_eq_some_iff.mpr reparked.waiting)

/-- It has no seat. -/
theorem unseated : id ∉ seated scheduler.buses :=
  reparked.tidy.balanced.not_seated reparked.isReady

/-- Its wait was dequeued. -/
theorem dequeued : (bus.ticketQueue suspended.ticket).holds suspended.ticket.key = false :=
  reparked.tidy.balanced.dequeued reparked.known reparked.waiting reparked.unseated

/-- It listens if its call receives. -/
theorem listens_eq : scheduler.listens id = (suspended.call.side == .receivers) := by
  simp [listens, reparked.waiting, reparked.houses.side, beq_eq_decide]

/-- The same call waits after the poll. -/
theorem call_eq : again.call = suspended.call := by
  obtain ⟨limit, below⟩ := reparked.tidy.balanced.bounded
  exact reparked.housed.call_resume (below index) (Waits.onBus_eq_some_iff.mpr reparked.waiting)
    (by rw [reparked.parks]; rfl)

/-- No other wait has changed. -/
theorem waits_eq : after.waits = scheduler.waits.reassign id (some (index, again)) := by
  have same : after.waits = (scheduler.setTask id ⟨task.state, .parked index again⟩).waits := by
    unfold Scheduler.waits
    rw [reparked.tasks]
    rfl
  exact same.trans (waits_setTask (List.getElem?_eq_some_iff.mp reparked.here).1)

/-- The program has not gone on. -/
theorem effort_eq : after.effort program = scheduler.effort program := by
  have weighed := effort_of_set program reparked.here reparked.tasks
  have equal : Task.effort program ⟨task.state, .parked index again⟩ = task.effort program := by
    simp [Task.effort, reparked.parked]
  omega

/-- Those who are woken lose their seats, all on senders' queues. A sender wakes nobody, unless it
is a broadcaster that has moved. -/
theorem rings : ∃ woken : List Seat,
    after.ready = scheduler.ready.filter (· != id) ++ woken.filterMap (·.waker) ∧
    (∀ seat ∈ woken, seat.address.side = .senders ∧ (seat = again.seat id ∨ seat ∈ bus.roster)) ∧
    (suspended.call.side = .senders → (suspended.call.handle? = none →
      suspended.ticket.handle = again.ticket.handle ∧
        suspended.ticket.generation = again.ticket.generation) → woken = []) := by
  obtain ⟨woken, rings, parks⟩ :=
    reparked.houses.ringsTrying_resume reparked.housed.sound reparked.dequeued id
  obtain ⟨senders, still⟩ := parks again reparked.parks
  refine ⟨woken, rings.rung ▸ reparked.ready, fun seat inside => ⟨senders seat inside, ?_⟩,
    fun sender home => still sender fun everywhere => ?_⟩
  · have former : seat ∈ (Progress.parked again).seats id ++ bus.roster :=
      reparked.parks ▸ rings.roster.mem_iff.mpr (List.mem_append_left _ inside)
    rcases List.mem_append.mp former with own | seated
    · exact .inl (List.mem_singleton.mp own)
    · exact .inr seated
  · obtain ⟨handle, generation⟩ := home everywhere
    rw [handle, generation]

/-- Nobody who is woken from a senders' queue listens. -/
theorem deaf {seat : Seat} (sender : seat.address.side = .senders)
    (former : seat = again.seat id ∨ seat ∈ bus.roster) {other : TaskId}
    (named : seat.waker = some other) : after.listens other = false := by
  rcases former with rfl | seated
  · obtain rfl : id = other := Option.some.inj named
    have side : again.ticket.side = .senders := sender
    simp [listens, reparked.waits_eq, side]
  · obtain ⟨owner, another, waitsToo, rfl⟩ :=
      reparked.tidy.balanced.manned index bus seat reparked.known seated
    obtain rfl : owner = other := Option.some.inj named
    have apart : owner ≠ id := by
      rintro rfl
      exact waker_ne_of_unseated reparked.unseated reparked.known seated rfl
    have side : another.ticket.side = .senders := sender
    simp [listens, reparked.waits_eq, Waits.reassign_of_ne _ apart, waitsToo, side]

/-- There is one listener less, if the task was one. -/
theorem listeners_eq :
    after.listeners + (if scheduler.listens id then 1 else 0) = scheduler.listeners := by
  obtain ⟨woken, ready, senders, _⟩ := reparked.rings
  refine reparked.tidy.listeners_of_reparked reparked.isReady (fun other apart => ?_) ready
    fun other member => ?_
  · rw [reparked.waits_eq, Waits.reassign_of_ne _ apart]
  · obtain ⟨seat, inside, named⟩ := List.mem_filterMap.mp member
    obtain ⟨sender, former⟩ := senders seat inside
    exact reparked.deaf sender former named

/-- A poll that wakes nobody leaves fewer tasks ready. -/
theorem fewer_ready {woken : List Seat} (nobody : woken = [])
    (ready : after.ready = scheduler.ready.filter (· != id) ++ woken.filterMap (·.waker)) :
    after.ready.length < scheduler.ready.length := by
  rw [ready, nobody, List.filterMap_nil, List.append_nil,
    (reparked.tidy.ready_split reparked.isReady).length_eq]
  exact Nat.lt_succ_self _

/-- What stalls broadcasts is the same, if the call is that of a sender. -/
theorem stallAt?_eq (sender : suspended.call.side = .senders) (other : Nat) :
    after.stallAt? other = scheduler.stallAt? other := by
  obtain ⟨keeps, _⟩ :=
    reparked.houses.repark reparked.housed.sound reparked.dequeued reparked.parks sender
  unfold stallAt?
  rw [reparked.buses]
  by_cases same : other = index
  · subst same
    rw [List.getElem?_set_self (List.getElem?_eq_some_iff.mp reparked.known).1, reparked.known]
    exact keeps.stall?_eq
  · rw [List.getElem?_set_ne (Ne.symm same)]

/-- A broadcaster is parked where it is stalled. -/
theorem stalled (sender : suspended.call.side = .senders)
    (everywhere : suspended.call.handle? = none) : scheduler.stallAt? index =
      some (.refused again.ticket.handle again.ticket.generation) := by
  obtain ⟨_, stalled⟩ :=
    reparked.houses.repark reparked.housed.sound reparked.dequeued reparked.parks sender
  rw [stallAt?, reparked.known]
  exact stalled everywhere

/-- A sender that parks again wakes nobody, or it was astray before. -/
theorem lighter_of_sender (sender : suspended.call.side = .senders) :
    Lighter (after.burden program) (scheduler.burden program) := by
  obtain ⟨woken, ready, _, still⟩ := reparked.rings
  have listeners := reparked.listeners_eq
  rw [reparked.listens_eq, sender] at listeners
  have strays := strays_of_set reparked.here reparked.tasks (reparked.stallAt?_eq sender)
  have settled : scheduler.astray ⟨task.state, .parked index again⟩ = 0 := by
    refine if_neg fun wanders => ?_
    rw [reparked.call_eq] at wanders
    exact wanders.2 (reparked.stalled sender wanders.1)
  rw [burden, burden, reparked.effort_eq, show after.listeners = scheduler.listeners from listeners]
  refine .right _ (.right _ ?_)
  by_cases home : suspended.call.handle? = none →
      suspended.ticket.handle = again.ticket.handle ∧
        suspended.ticket.generation = again.ticket.generation
  · have before : scheduler.astray task = 0 := by
      simp only [astray, reparked.parked]
      refine if_neg fun wanders => wanders.2 ?_
      obtain ⟨handle, generation⟩ := home wanders.1
      rw [reparked.stalled sender wanders.1, handle, generation]
    have same : after.strays = scheduler.strays := by omega
    rw [same]
    exact .right _ (reparked.fewer_ready (still sender home) ready)
  · have before : scheduler.astray task = 1 := by
      obtain ⟨everywhere, moved⟩ := Classical.not_imp.mp home
      simp only [astray, reparked.parked]
      refine if_pos ⟨everywhere, fun here => moved ?_⟩
      rw [reparked.stalled sender everywhere] at here
      obtain ⟨handle, generation⟩ := Stall.refused.inj (Option.some.inj here)
      exact ⟨handle.symm, generation.symm⟩
    exact .left _ _ (by omega)

/-- A task that parks again leaves a lighter burden. -/
theorem lighter : Lighter (after.burden program) (scheduler.burden program) := by
  cases side : suspended.call.side with
  | senders => exact reparked.lighter_of_sender side
  | receivers =>
    have listeners := reparked.listeners_eq
    rw [reparked.listens_eq, side] at listeners
    have fewer : after.listeners + 1 = scheduler.listeners := listeners
    rw [burden, burden, reparked.effort_eq]
    exact .right _ (.left _ _ (by omega))

end Before

end Reparked

/-! ## Every poll lightens the burden -/

section Lightening

variable [Stored α] {program : Program σ α} {scheduler : Scheduler σ α} {id : TaskId}

/-- A task that goes on with its program leaves a lighter burden. -/
theorem lighter_of_advance {task : Task σ α} (here : scheduler.tasks[id]? = some task)
    (middle : Scheduler σ α) (tasks : middle.tasks = scheduler.tasks) (state : σ)
    (less : 2 * program.rank state + 2 < task.effort program) :
    Lighter ((middle.advance program id state).1.burden program) (scheduler.burden program) := by
  obtain ⟨new, replaced, bound⟩ := tasks_advance program middle id state
  rw [tasks] at replaced
  have weighed := effort_of_set program here replaced
  exact .left _ _ (by omega)

/-- Every poll of a ready task leaves a lighter burden. -/
theorem Tidy.lighter_of_poll (tidy : scheduler.Tidy program) (isReady : id ∈ scheduler.ready) :
    Lighter ((scheduler.poll program id).1.burden program) (scheduler.burden program) := by
  obtain ⟨task, alive, here, live⟩ := tidy.live_of_ready isReady
  have due := tidy.due id task here
  have polled : (scheduler.poll program id).1 =
      ((scheduler.unready id).resume program id task).1 := by
    rw [Scheduler.poll, alive]
  rw [polled, Scheduler.resume]
  cases phase : task.phase with
  | fresh =>
    refine lighter_of_advance here (scheduler.unready id) rfl task.state ?_
    rw [Task.effort, phase]
    exact Nat.lt_succ_self _
  | yielded =>
    rw [Task.Due, phase] at due
    have less := program.rank_after task.state .yield .done due
    refine lighter_of_advance here (scheduler.unready id) rfl (program.after task.state .done) ?_
    simp only [Task.effort, phase]
    omega
  | parked index suspended =>
    rw [Task.Due, phase] at due
    have waiting := waits_eq_some_iff.mpr ⟨task, here, phase⟩
    obtain ⟨bus, known⟩ := tidy.bus_of_waits waiting
    obtain ⟨result, buses, tasks, ready⟩ :=
      tidy.onBus_of_dequeued waiting known (tidy.balanced.not_seated isReady)
    simp only [result]
    cases progress : (bus.resume suspended id).result with
    | finished reply =>
      have less := program.rank_after task.state (.call index suspended.call) (.reply reply) due
      refine lighter_of_advance here _ tasks (program.after task.state (.reply reply)) ?_
      simp only [Task.effort, phase]
      omega
    | parked again =>
      have replaced := congrArg (List.set · id ⟨task.state, .parked index again⟩) tasks
      exact Reparked.lighter ⟨tidy, isReady, here, phase, known, progress, buses, replaced, ready⟩
  | _ => exact absurd phase (isLive_iff.mp live)

/-- If each step of a sequence polls a ready task as long as there is one, then at last no task is
ready. -/
theorem Tidy.drains (states : Nat → Scheduler σ α) (tidy : (states 0).Tidy program)
    (polls : ∀ n, (states n).ready ≠ [] →
      ∃ id ∈ (states n).ready, states (n + 1) = ((states n).poll program id).1) :
    ∃ n, (states n).ready = [] := by
  generalize burdened : (states 0).burden program = burden
  induction burden using wellFounded_lighter.induction generalizing states with
  | _ burden ih =>
    by_cases idle : (states 0).ready = []
    · exact ⟨0, idle⟩
    · obtain ⟨id, isReady, next⟩ := polls 0 idle
      have lighter := tidy.lighter_of_poll isReady
      rw [burdened, ← next] at lighter
      have stays : (states 1).Tidy program := next ▸ (tidy.poll id).1
      obtain ⟨n, drained⟩ := ih _ lighter (fun n => states (n + 1)) stays
        (fun n => polls (n + 1)) rfl
      exact ⟨n + 1, drained⟩

/-- Polling from the front is one way to do it, and a long enough run gets there. -/
theorem Tidy.run_drains (tidy : scheduler.Tidy program) :
    ∃ limit, (scheduler.run program limit).scheduler.ready = [] := by
  generalize burdened : scheduler.burden program = burden
  induction burden using wellFounded_lighter.induction generalizing scheduler with
  | _ burden ih =>
    cases ready : scheduler.ready with
    | nil => exact ⟨0, ready⟩
    | cons id rest =>
      have isReady : id ∈ scheduler.ready := ready ▸ List.mem_cons_self
      have lighter := tidy.lighter_of_poll isReady
      rw [burdened] at lighter
      obtain ⟨limit, drained⟩ := ih _ lighter (tidy.poll id).1 rfl
      refine ⟨limit + 1, ?_⟩
      rw [Scheduler.run, tidy.skipDead, ready]
      exact drained

/-- Scheduling always drains. Whatever was done to a scheduler, if from then on every step polls
some ready task as long as there is one, then after finitely many polls no task is ready; in
particular so if it is always the front of the ready queue that is polled. -/
theorem polling_drains (program : Program σ α) (configs : List Config)
    (deeds : List (Deed σ α)) :
    let start := (new (configs.map Bus.new)).after program deeds
    (∀ states : Nat → Scheduler σ α, states 0 = start →
      (∀ n, (states n).ready ≠ [] →
        ∃ id ∈ (states n).ready, states (n + 1) = ((states n).poll program id).1) →
      ∃ n, (states n).ready = []) ∧
    ∃ limit, (start.run program limit).scheduler.ready = [] := by
  intro start
  have tidy : start.Tidy program := ((tidy_new program configs).after deeds).1
  refine ⟨fun states starts polls => ?_, tidy.run_drains⟩
  exact Tidy.drains states (starts ▸ tidy) polls

/-- The schedulers met when always the last ready task is polled. -/
def pollingLast (program : Program σ α) (start : Scheduler σ α) : Nat → Scheduler σ α
  | 0 => start
  | n + 1 =>
    let scheduler := pollingLast program start n
    (scheduler.poll program (scheduler.ready.getLastD 0)).1

end Lightening

/-- Two broadcasters, a sender and a receiver contend for a rendezvous channel and another one. -/
def contendingDeeds : List (Deed (Script UInt32) UInt32) :=
  [.act (.onBus 0 (.openChannel 0)), .act (.onBus 0 (.openChannel 1)),
    .spawn (.ofSteps [.call 0 (.broadcast 1)] 2 false),
    .spawn (.ofSteps [.call 0 (.broadcast 2)] 2 false),
    .spawn (.ofSteps [.call 0 (.send ⟨0⟩ 3)] 2 false),
    .spawn (.ofSteps [.call 0 (.receive ⟨0⟩), .call 0 (.receive ⟨1⟩)] 3 false)]

/-- The contenders come to rest even if always the last one that is ready goes on. -/
theorem polling_drains_of_contending :
    let start : Scheduler (Script UInt32) UInt32 :=
      (new ([{}].map Bus.new)).after Script.program contendingDeeds
    start.ready = [0, 1, 2, 3] ∧ ∃ n, (pollingLast Script.program start n).ready = [] := by
  intro start
  refine ⟨by decide +kernel, ?_⟩
  refine (polling_drains Script.program [{}] contendingDeeds).1
    (pollingLast Script.program start) rfl fun n busy => ?_
  refine ⟨(pollingLast Script.program start n).ready.getLastD 0, ?_, rfl⟩
  cases ready : (pollingLast Script.program start n).ready with
  | nil => exact absurd ready busy
  | cons first rest =>
    rw [List.getLastD_cons]
    exact List.getLastD_mem_cons

end Scheduler

end ChannelBus
