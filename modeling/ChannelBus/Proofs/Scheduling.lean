import ChannelBus.Proofs.Balance
import ChannelBus.Scheduler.Poll

/-!
# A scheduler keeps its tasks accounted for

Between two polls a scheduler is tidy: its buses, its ready queue and its tasks are balanced, and
every task that waits does so in the middle of a step of its program. While a task runs the
scheduler is tidy but for that task, which is listed nowhere until it suspends.
-/

open scoped List

namespace ChannelBus

variable {σ α β : Type}

/-- The bus and the call on which a task at this phase waits. -/
def Phase.parked? : Phase α → Option (Nat × Suspended α)
  | .parked index suspended => some (index, suspended)
  | .fresh | .yielded | .over => none

/-- What a task that stands at this phase adds to the list of live tasks. -/
def Phase.listed (id : TaskId) : Phase α → List TaskId
  | .fresh | .yielded | .parked _ _ => [id]
  | .over => []

/-- A suspended task is in the middle of a step of its program. -/
def Task.Due (program : Program σ α) (task : Task σ α) : Prop :=
  match task.phase with
  | .parked index suspended => program.next task.state = some (.call index suspended.call)
  | .yielded => program.next task.state = some .yield
  | .fresh | .over => True

namespace Scheduler

/-- The waits of all tasks. -/
def waits (scheduler : Scheduler σ α) : Waits α :=
  fun id => (scheduler.tasks[id]?).bind (·.phase.parked?)

/-- The tasks that can still be polled. -/
def living (scheduler : Scheduler σ α) : List TaskId :=
  (List.range scheduler.tasks.length).filter fun id => (scheduler.live? id).isSome

/-- How a scheduler is between two polls. -/
structure Tidy (program : Program σ α) (scheduler : Scheduler σ α) : Prop where
  /-- Every live task is ready or seated, once. -/
  balanced : Balanced scheduler.buses scheduler.ready scheduler.living scheduler.waits
  /-- Suspended tasks are in the middle of a step. -/
  due : ∀ (id : TaskId) (task : Task σ α), scheduler.tasks[id]? = some task → task.Due program

/-- How a scheduler is while one task runs: it would be tidy if the task stood at this phase. -/
structure TidyBut (program : Program σ α) (scheduler : Scheduler σ α) (id : TaskId)
    (phase : Phase α) : Prop where
  /-- Every other live task is ready or seated, once. -/
  balanced : Balanced scheduler.buses scheduler.ready
    (phase.listed id ++ scheduler.living.filter (· != id))
    (scheduler.waits.reassign id phase.parked?)
  /-- The other suspended tasks are in the middle of a step. -/
  due : ∀ (other : TaskId) (task : Task σ α), other ≠ id →
    scheduler.tasks[other]? = some task → task.Due program

/-- Buses stay, tasks are only ever added, and what was closed is closed for good. -/
structure Later (before after : Scheduler σ α) : Prop where
  /-- The same number of buses is there. -/
  length : after.buses.length = before.buses.length
  /-- No task loses its number. -/
  tasks : before.tasks.length ≤ after.tasks.length
  /-- A closed channel is closed on the same bus later. -/
  closed : ∀ (index : Nat) (bus later : Bus α) (generation : Nat),
    before.buses[index]? = some bus → after.buses[index]? = some later →
    bus.Closed generation → later.Closed generation

/-! ## Tasks -/

section Tasks

variable {scheduler : Scheduler σ α} {id : TaskId} {task : Task σ α}

/-- A live task was spawned and is not over. -/
theorem live?_eq_some_iff : scheduler.live? id = some task ↔
    scheduler.tasks[id]? = some task ∧ task.isLive = true := by
  simp [live?, Option.filter_eq_some_iff]

/-- The live tasks are listed. -/
theorem mem_living : id ∈ scheduler.living ↔ (scheduler.live? id).isSome = true := by
  rw [living, List.mem_filter, List.mem_range, and_iff_right_iff_imp]
  intro alive
  obtain ⟨task, here⟩ := Option.isSome_iff_exists.mp alive
  exact (List.getElem?_eq_some_iff.mp (live?_eq_some_iff.mp here).1).1

/-- Every live task is listed once. -/
theorem nodup_living (scheduler : Scheduler σ α) : scheduler.living.Nodup :=
  List.nodup_range.filter _

/-- A task that is not over is live. -/
theorem isLive_iff : task.isLive = true ↔ task.phase ≠ .over := by
  unfold Task.isLive
  cases task.phase <;> simp

/-- A task that waits is parked. -/
theorem waits_eq_some_iff {index : Nat} {suspended : Suspended α} :
    scheduler.waits id = some (index, suspended) ↔
      ∃ task, scheduler.tasks[id]? = some task ∧ task.phase = .parked index suspended := by
  rw [waits, Option.bind_eq_some_iff]
  refine exists_congr fun task => and_congr_right fun _ => ?_
  unfold Phase.parked?
  cases task.phase <;> simp

/-- The waits after a task was replaced. -/
theorem waits_setTask (known : id < scheduler.tasks.length) :
    (scheduler.setTask id task).waits = scheduler.waits.reassign id task.phase.parked? := by
  funext other
  by_cases same : other = id
  · subst same
    simp [waits, setTask, known]
  · rw [Waits.reassign_of_ne _ same]
    simp [waits, setTask, List.getElem?_set_ne (Ne.symm same)]

/-- The live tasks after a task was replaced. -/
theorem living_setTask (known : id < scheduler.tasks.length) :
    (scheduler.setTask id task).living ~
      task.phase.listed id ++ scheduler.living.filter (· != id) := by
  have rest : (scheduler.living.filter (· != id)).Nodup := scheduler.nodup_living.filter _
  have distinct : (task.phase.listed id ++ scheduler.living.filter (· != id)).Nodup := by
    cases task.phase with
    | fresh | yielded | parked => exact List.nodup_cons.mpr ⟨by simp, rest⟩
    | _ => exact rest
  refine (List.perm_ext_iff_of_nodup (nodup_living _) distinct).mpr fun other => ?_
  rw [mem_living, List.mem_append, List.mem_filter, mem_living]
  by_cases same : other = id
  · subst same
    have here : (scheduler.setTask other task).tasks[other]? = some task := by
      simp [setTask, known]
    rw [live?, here]
    cases phase : task.phase <;> simp [Task.isLive, phase, Option.filter, Phase.listed]
  · have there : (scheduler.setTask id task).tasks[other]? = scheduler.tasks[other]? := by
      simp [setTask, List.getElem?_set_ne (Ne.symm same)]
    have foreign : other ∉ task.phase.listed id := by
      cases task.phase <;> simp [Phase.listed, same]
    simp [live?, there, foreign, same]

/-- A new task stands behind all others. -/
theorem getElem?_spawn (scheduler : Scheduler σ α) (state : σ) (id : Nat) :
    (scheduler.spawn state).tasks[id]? =
      if id = scheduler.tasks.length then some ⟨state, .fresh⟩ else scheduler.tasks[id]? := by
  show (scheduler.tasks ++ [_])[id]? = _
  by_cases same : id = scheduler.tasks.length
  · rw [if_pos same, same, List.getElem?_concat_length]
  · rw [if_neg same]
    by_cases inside : id < scheduler.tasks.length
    · exact List.getElem?_append_left inside
    · have beyond : scheduler.tasks.length + 1 ≤ id := by omega
      rw [List.getElem?_eq_none (by simpa using beyond), List.getElem?_eq_none (by omega)]

/-- A new task does not wait. -/
theorem waits_spawn (scheduler : Scheduler σ α) (state : σ) :
    (scheduler.spawn state).waits = scheduler.waits := by
  funext id
  rw [waits, waits, getElem?_spawn]
  by_cases same : id = scheduler.tasks.length
  · rw [if_pos same, same, List.getElem?_eq_none (Nat.le_refl _)]
    rfl
  · rw [if_neg same]

/-- A new task is alive. -/
theorem living_spawn (scheduler : Scheduler σ α) (state : σ) :
    (scheduler.spawn state).living = scheduler.living ++ [scheduler.tasks.length] := by
  have length : (scheduler.spawn state).tasks.length = scheduler.tasks.length + 1 := by
    simp [spawn]
  have fresh : ((scheduler.spawn state).live? scheduler.tasks.length).isSome = true := by
    rw [live?, getElem?_spawn, if_pos rfl]
    rfl
  have last : [scheduler.tasks.length].filter
      (fun id => ((scheduler.spawn state).live? id).isSome) = [scheduler.tasks.length] := by
    simp [fresh]
  rw [living, length, List.range_succ, List.filter_append, last]
  refine congrArg (· ++ _) (List.filter_congr fun id inside => ?_)
  have apart : id ≠ scheduler.tasks.length := Nat.ne_of_lt (List.mem_range.mp inside)
  rw [live?, getElem?_spawn, if_neg apart]
  rfl

end Tasks

/-! ## The running task -/

section Running

variable {program : Program σ α} {scheduler : Scheduler σ α} {id : TaskId}

/-- Once the running task stands somewhere, the scheduler is tidy. -/
theorem TidyBut.settle {phase : Phase α} (tidy : scheduler.TidyBut program id phase)
    (known : id < scheduler.tasks.length) {state : σ} (due : Task.Due program ⟨state, phase⟩) :
    (scheduler.setTask id ⟨state, phase⟩).Tidy program := by
  refine ⟨?_, fun other task here => ?_⟩
  · have living : (scheduler.setTask id ⟨state, phase⟩).living ~
        phase.listed id ++ scheduler.living.filter (· != id) := living_setTask known
    rw [waits_setTask known]
    exact tidy.balanced.perm living.symm
  · by_cases same : other = id
    · subst same
      have stands :
          (scheduler.setTask other ⟨state, phase⟩).tasks[other]? = some ⟨state, phase⟩ := by
        simp [setTask, known]
      rw [stands] at here
      obtain rfl := Option.some.inj here
      exact due
    · have there :
          (scheduler.setTask id ⟨state, phase⟩).tasks[other]? = scheduler.tasks[other]? := by
        simp [setTask, List.getElem?_set_ne (Ne.symm same)]
      exact tidy.due other task same (there ▸ here)

end Running

/-! ## Hearing -/

section Hearing

variable (scheduler : Scheduler σ α) (notice : Notice) (notices : List Notice)

/-- Ringing changes no bus and no task. -/
theorem ring_keeps (id : TaskId) : (scheduler.ring id).buses = scheduler.buses ∧
    (scheduler.ring id).tasks = scheduler.tasks := by
  unfold ring
  split <;> exact ⟨rfl, rfl⟩

/-- A task that is rung is ready. -/
theorem ready_ring {id : TaskId} (absent : id ∉ scheduler.ready) :
    (scheduler.ring id).ready = scheduler.ready ++ [id] := by
  rw [ring, if_neg absent]

/-- A notice changes no bus and no task, and it makes ready whom it wakes. -/
theorem hear_keeps : (scheduler.hear notice).buses = scheduler.buses ∧
    (scheduler.hear notice).tasks = scheduler.tasks ∧
    (scheduler.hear notice).ready = (notice.wakes?.elim scheduler scheduler.ring).ready := by
  unfold hear
  cases notice.wakes? with
  | none => cases notice.raises? <;> exact ⟨rfl, rfl, rfl⟩
  | some id =>
    obtain ⟨buses, tasks⟩ := scheduler.ring_keeps id
    cases notice.raises? <;> exact ⟨buses, tasks, rfl⟩

/-- Hearing changes no bus. -/
@[simp] theorem buses_hearAll : (scheduler.hearAll notices).buses = scheduler.buses := by
  induction notices generalizing scheduler with
  | nil => rfl
  | cons notice rest ih => exact (ih (scheduler.hear notice)).trans (scheduler.hear_keeps notice).1

/-- Hearing changes no task. -/
@[simp] theorem tasks_hearAll : (scheduler.hearAll notices).tasks = scheduler.tasks := by
  induction notices generalizing scheduler with
  | nil => rfl
  | cons notice rest ih =>
    exact (ih (scheduler.hear notice)).trans (scheduler.hear_keeps notice).2.1

/-- Whether a task is replaced before or after does not matter to a notice. -/
theorem hear_setTask (id : TaskId) (task : Task σ α) :
    (scheduler.setTask id task).hear notice = (scheduler.hear notice).setTask id task := by
  have rings : ∀ other,
      (scheduler.setTask id task).ring other = (scheduler.ring other).setTask id task := by
    intro other
    by_cases member : other ∈ scheduler.ready <;> simp [ring, setTask, member]
  have wakes : notice.wakes?.elim (scheduler.setTask id task) (scheduler.setTask id task).ring =
      (notice.wakes?.elim scheduler scheduler.ring).setTask id task := by
    cases notice.wakes? with
    | none => rfl
    | some other => exact rings other
  unfold hear
  simp only [wakes]
  cases notice.raises? <;> rfl

/-- Whether a task is replaced before or after does not matter to notices. -/
theorem hearAll_setTask (id : TaskId) (task : Task σ α) :
    (scheduler.setTask id task).hearAll notices = (scheduler.hearAll notices).setTask id task := by
  induction notices generalizing scheduler with
  | nil => rfl
  | cons notice rest ih =>
    show ((scheduler.setTask id task).hear notice).hearAll rest = _
    rw [hear_setTask]
    exact ih (scheduler.hear notice)

variable {scheduler notices}

/-- Those who are woken become ready in their order, if nobody is woken who is ready already. -/
theorem ready_hearAll (distinct : (scheduler.ready ++ notices.filterMap Notice.wakes?).Nodup) :
    (scheduler.hearAll notices).ready = scheduler.ready ++ notices.filterMap Notice.wakes? := by
  induction notices generalizing scheduler with
  | nil => exact (List.append_nil _).symm
  | cons notice rest ih =>
    have here := (scheduler.hear_keeps notice).2.2
    have later : (scheduler.hear notice).hearAll rest = scheduler.hearAll (notice :: rest) := rfl
    rw [← later]
    cases wakes : notice.wakes? with
    | none =>
      rw [wakes] at here
      rw [List.filterMap_cons_none wakes] at distinct ⊢
      rw [ih (by rwa [here]), here]
      rfl
    | some id =>
      rw [List.filterMap_cons_some wakes] at distinct ⊢
      have absent : id ∉ scheduler.ready := fun inside =>
        (List.nodup_append.mp distinct).2.2 id inside id List.mem_cons_self rfl
      have rung : (scheduler.hear notice).ready = scheduler.ready ++ [id] := by
        rw [here, wakes]
        exact scheduler.ready_ring absent
      rw [ih (by simpa [rung] using distinct), rung, List.append_assoc]
      rfl

end Hearing

/-! ## Acting on a bus -/

section Acting

variable (scheduler : Scheduler σ α) {index : Nat} {bus : Bus α}
  (operation : Bus α → Outcome α β)

/-- An operation on a bus that is not there is a fault. -/
theorem onBus_of_unknown (unknown : scheduler.buses[index]? = none) :
    scheduler.onBus index operation =
      { result := .error .unknownBus, scheduler, events := [] } := by
  simp [onBus, unknown]

/-- An operation on a bus leaves what it leaves of the bus, and nothing else of the buses and
tasks. -/
theorem onBus_of_known (here : scheduler.buses[index]? = some bus) :
    (scheduler.onBus index operation).result = .ok (operation bus).result ∧
    (scheduler.onBus index operation).scheduler.buses =
      scheduler.buses.set index (operation bus).bus ∧
    (scheduler.onBus index operation).scheduler.tasks = scheduler.tasks := by
  simp [onBus, here]

/-- An operation on a bus changes no task. -/
@[simp] theorem tasks_onBus (index : Nat) :
    (scheduler.onBus index operation).scheduler.tasks = scheduler.tasks := by
  cases here : scheduler.buses[index]? with
  | none => rw [scheduler.onBus_of_unknown operation here]
  | some bus => exact (scheduler.onBus_of_known operation here).2.2

/-- An operation on a bus makes those ready whom it wakes. -/
theorem ready_onBus (here : scheduler.buses[index]? = some bus)
    (distinct : (scheduler.ready ++ (operation bus).notices.filterMap Notice.wakes?).Nodup) :
    (scheduler.onBus index operation).scheduler.ready =
      scheduler.ready ++ (operation bus).notices.filterMap Notice.wakes? := by
  have heard : (scheduler.onBus index operation).scheduler =
      { scheduler with buses := scheduler.buses.set index (operation bus).bus }.hearAll
        (operation bus).notices := by
    simp [onBus, here]
  rw [heard]
  exact ready_hearAll distinct

/-- Whether a task is replaced before or after does not matter to an operation on a bus. -/
theorem onBus_setTask (index : Nat) (id : TaskId) (task : Task σ α) :
    ((scheduler.setTask id task).onBus index operation).scheduler =
      (scheduler.onBus index operation).scheduler.setTask id task := by
  cases found : scheduler.buses[index]? with
  | none => simp only [onBus, setTask, found]
  | some bus =>
    have same : (scheduler.setTask id task).buses[index]? = some bus := found
    simp only [onBus, found, same]
    let changed := { scheduler with buses := scheduler.buses.set index (operation bus).bus }
    exact changed.hearAll_setTask (operation bus).notices id task

end Acting

/-! ## Later -/

/-- Nothing has happened. -/
theorem Later.refl (scheduler : Scheduler σ α) : scheduler.Later scheduler := by
  refine ⟨rfl, Nat.le_refl _, fun index bus later generation here there closed => ?_⟩
  obtain rfl : bus = later := Option.some.inj (here.symm.trans there)
  exact closed

/-- Later than later is later. -/
theorem Later.trans {before middle after : Scheduler σ α} (first : before.Later middle)
    (second : middle.Later after) : before.Later after := by
  refine ⟨second.length.trans first.length, Nat.le_trans first.tasks second.tasks,
    fun index bus later generation here there closed => ?_⟩
  have inside : index < middle.buses.length := by
    rw [first.length]
    exact (List.getElem?_eq_some_iff.mp here).1
  have between := List.getElem?_eq_getElem inside
  exact second.closed index _ later generation between there
    (first.closed index bus _ generation here between closed)

/-- A change that leaves the buses alone. -/
theorem Later.of_same {before after : Scheduler σ α} (same : after.buses = before.buses)
    (tasks : before.tasks.length ≤ after.tasks.length) : before.Later after := by
  refine ⟨by rw [same], tasks, fun index bus later generation here there closed => ?_⟩
  rw [same, here] at there
  exact Option.some.inj there ▸ closed

/-- The phase of a task does not matter to the buses. -/
theorem later_setTask (scheduler : Scheduler σ α) (id : TaskId) (task : Task σ α) :
    scheduler.Later (scheduler.setTask id task) :=
  .of_same rfl (Nat.le_of_eq List.length_set.symm)

/-- An operation that keeps closed channels closed. -/
theorem later_onBus (scheduler : Scheduler σ α) (index : Nat) (operation : Bus α → Outcome α β)
    (keeps : ∀ bus generation, scheduler.buses[index]? = some bus → bus.Closed generation →
      (operation bus).bus.Closed generation) :
    scheduler.Later (scheduler.onBus index operation).scheduler := by
  cases here : scheduler.buses[index]? with
  | none =>
    rw [scheduler.onBus_of_unknown operation here]
    exact .refl scheduler
  | some bus =>
    obtain ⟨_, buses, tasks⟩ := scheduler.onBus_of_known operation here
    refine ⟨by rw [buses, List.length_set], Nat.le_of_eq (by rw [tasks]),
      fun other former later generation was there closed => ?_⟩
    rw [buses] at there
    by_cases same : other = index
    · subst same
      obtain rfl : bus = former := Option.some.inj (here.symm.trans was)
      rw [List.getElem?_set_self (List.getElem?_eq_some_iff.mp here).1] at there
      obtain rfl := Option.some.inj there
      exact keeps bus generation here closed
    · rw [List.getElem?_set_ne (Ne.symm same), was] at there
      exact Option.some.inj there ▸ closed

/-! ## What the running task does to a bus -/

section Operating

variable {program : Program σ α} {scheduler : Scheduler σ α} {id : TaskId}

/-- A task that runs has no seat, is not ready and waits nowhere. -/
theorem TidyBut.absent (tidy : scheduler.TidyBut program id .over) :
    id ∉ scheduler.ready ∧ id ∉ seated scheduler.buses := by
  have gone : id ∉ scheduler.living.filter (· != id) := by simp
  have apart := fun member => gone (tidy.balanced.accounted.mem_iff.mp member)
  exact ⟨fun isReady => apart (List.mem_append_left _ isReady),
    fun isSeated => apart (List.mem_append_right _ isSeated)⟩

/-- An operation leaves everything else tidy if it leaves everything else balanced. -/
theorem tidyBut_of_balanced (scheduler : Scheduler σ α) {phase : Phase α} {index : Nat}
    {bus : Bus α} (here : scheduler.buses[index]? = some bus) (operation : Bus α → Outcome α β)
    (balanced : Balanced (scheduler.buses.set index (operation bus).bus)
      (scheduler.ready ++ (operation bus).notices.filterMap Notice.wakes?)
      (phase.listed id ++ scheduler.living.filter (· != id))
      (scheduler.waits.reassign id phase.parked?))
    (due : ∀ (other : TaskId) (task : Task σ α), other ≠ id →
      scheduler.tasks[other]? = some task → task.Due program) :
    (scheduler.onBus index operation).scheduler.TidyBut program id phase := by
  obtain ⟨_, buses, tasks⟩ := scheduler.onBus_of_known operation here
  have ready := scheduler.ready_onBus operation here (List.nodup_append.mp balanced.nodup).1
  have living : (scheduler.onBus index operation).scheduler.living = scheduler.living := by
    unfold Scheduler.living live?
    rw [tasks]
  have waiting : (scheduler.onBus index operation).scheduler.waits = scheduler.waits := by
    unfold Scheduler.waits
    rw [tasks]
  refine ⟨?_, fun other task apart there => due other task apart (tasks ▸ there)⟩
  rw [living, waiting, buses, ready]
  exact balanced

/-- What an operation of a task on a bus leaves of a scheduler in which everything else is tidy. -/
theorem tidyBut_onBus (scheduler : Scheduler σ α) {ready live : List TaskId} {waits : Waits α}
    (balanced : Balanced scheduler.buses ready live waits)
    (others : scheduler.ready = ready.filter (· != id))
    (listed : live.filter (· != id) = scheduler.living.filter (· != id))
    (same : ∀ parked?, waits.reassign id parked? = scheduler.waits.reassign id parked?)
    (due : ∀ (other : TaskId) (task : Task σ α), other ≠ id →
      scheduler.tasks[other]? = some task → task.Due program) {index : Nat} {bus : Bus α}
    (here : scheduler.buses[index]? = some bus) (operation : Bus α → Outcome α β)
    (unseated : id ∉ seated scheduler.buses)
    (elsewhere : ∀ other, other ≠ index → waits.onBus other id = none)
    {suspended? : Option (Suspended α)}
    (settles : bus.Settles (waits.onBus index) id (operation bus) suspended?) :
    (scheduler.onBus index operation).scheduler.TidyBut program id
      (suspended?.elim .over (.parked index)) := by
  have after := balanced.operate here unseated elsewhere settles
  have listedAfter : (suspended?.elim .over (.parked index) : Phase α).listed id =
      suspended?.toList.map fun _ => id := by
    cases suspended? <;> rfl
  have parkedAfter : (suspended?.elim .over (.parked index) : Phase α).parked? =
      suspended?.map (index, ·) := by
    cases suspended? <;> rfl
  refine tidyBut_of_balanced scheduler here operation ?_ due
  rw [listedAfter, parkedAfter, others, ← listed, ← same]
  exact after

/-- An operation of the running task on a bus. -/
theorem TidyBut.onBus (tidy : scheduler.TidyBut program id .over) {index : Nat} {bus : Bus α}
    (here : scheduler.buses[index]? = some bus) (operation : Bus α → Outcome α β)
    {suspended? : Option (Suspended α)}
    (settles : bus.Settles ((scheduler.waits.reassign id none).onBus index) id (operation bus)
      suspended?) :
    (scheduler.onBus index operation).scheduler.TidyBut program id
      (suspended?.elim .over (.parked index)) := by
  obtain ⟨notReady, unseated⟩ := tidy.absent
  have idle : (scheduler.waits.reassign id none) id = none := Waits.reassign_self _ _ _
  refine tidyBut_onBus scheduler tidy.balanced (filter_ne_of_not_mem notReady).symm ?_
    (fun parked? => Waits.reassign_reassign _ _ _ _) tidy.due here operation unseated
    (fun other _ => Waits.onBus_of_idle idle other) settles
  show ([] ++ scheduler.living.filter (· != id)).filter (· != id) = _
  rw [List.nil_append, List.filter_filter]
  simp

/-- The error slot does not matter. -/
theorem TidyBut.congr {after : Scheduler σ α} {phase : Phase α}
    (tidy : scheduler.TidyBut program id phase) (buses : after.buses = scheduler.buses)
    (ready : after.ready = scheduler.ready) (tasks : after.tasks = scheduler.tasks) :
    after.TidyBut program id phase := by
  obtain ⟨buses', lastError, tasks', ready'⟩ := after
  obtain ⟨buses, lastError, tasks, ready⟩ := scheduler
  simp only at buses ready tasks
  subst buses ready tasks
  exact ⟨tidy.balanced, tidy.due⟩

end Operating

end Scheduler

end ChannelBus
