import ChannelBus.Proofs.Trade

/-!
# The books after a poll

A worker that is polled learns how its call was settled, or tries it again, and goes on calling
until it waits or ends. Whatever it does, the books stay right, and every poll of a worker that is
not queued uses up some of the work that is left.
-/

open scoped List

namespace ChannelBus

namespace Books

variable {workload : Workload} {config : Config} {opened : Bool} {fuel : Nat}
  {bus after : Bus Message}
  {tasks : List (Task Worker Message)} {id : Nat} {channel : Channel Message}
  {call : Call Message} {state : Worker}

/-! ## Calls -/

/-- Once the channel is closed, every producer has passed on all it has. -/
theorem gone_of_closed (books : Books workload config opened fuel bus tasks)
    (closed : opened = false) (inside : id < workload.producers) :
    goneOf (standing bus tasks) id = workload.messages := by
  obtain ⟨history, accounts⟩ := books.accounts
  have received := accounts.received_le books.crowd
  have all := books.shut closed
  apply accounts.ledger.gone_eq _ inside
  omega

/-- A call on the closed channel fails. Only consumers make one, and it ends them. -/
theorem refuse (books : Books workload config opened (fuel + 1) bus tasks)
    (idle : tasks[id]? = some ⟨state, .fresh⟩)
    (follows : state.next ⟨0⟩ = some (.call 0 call)) (closed : opened = false) :
    Recorded workload config opened fuel tasks id state (bus.note (·.countError .noChannel))
      (.finished (call.failed .noChannel)) := by
  have known := (List.getElem?_eq_some_iff.mp idle).1
  have employed := books.employed id _ idle
  have sound := books.housed.sound
  cases employed with
  | producer remaining _ inside few _ =>
    have gone := books.gone_of_closed closed inside
    rw [goneOf_of_standing (standing_of_fresh bus idle)] at gone
    obtain ⟨count, asks⟩ := Producer.asks_of_call follows
    have some := asks.some
    have left : count ≤ remaining := asks.few
    have all : workload.messages - remaining + 0 = workload.messages := gone
    omega
  | consumer consumer _ outside _ _ _ =>
    obtain ⟨rfl, busy⟩ := Consumer.receives_of_call follows
    obtain ⟨history, ledger, covered, tallied⟩ := books.accounts
    have stands := standing_of_board known (bus.parcel?_note (·.countError .noChannel))
      (.consumer { consumer with budget := 0 })
    have stood := standing_of_fresh bus idle
    have employed : Employed workload opened id
        ⟨.consumer { consumer with budget := 0 }, .fresh⟩ := by
      apply Employed.consumer _ .fresh outside (.inl rfl) _ nofun
      intro opened
      rw [closed] at opened
      contradiction
    have charges := bus.charges_noChannel workload.capacity
    have dismissed : (Worker.consumer { consumer with budget := 0 }).dismissed.toNat =
        (Worker.consumer consumer).dismissed.toNat + 1 := by
      rw [Worker.dismissed_consumer busy]
      rfl
    apply books.goOn idle (sound.tries_note _ (.receive ⟨0⟩)) employed (Nat.le_refl _) charges
      dismissed
    refine ⟨history, ?_, ?_, charges.tallied tallied⟩
    · rw [goneOf_eq stood stands rfl, heldOf_eq stood stands rfl, Bus.content_note]
      exact ledger
    · rw [Bus.content_note, Bus.roster_note, countP_set_live idle rfl rfl]
      exact covered

/-- A try of a call on the open channel. -/
theorem attempted (books : Books workload config opened (fuel + 1) bus tasks)
    (idle : tasks[id]? = some ⟨state, .fresh⟩)
    (follows : state.next ⟨0⟩ = some (.call 0 call)) (here : bus.channel? ⟨0⟩ = some channel)
    {outcome : Outcome Message (Progress Message)}
    (attempted : bus.Attempted ⟨0⟩ channel id call outcome) :
    Recorded workload config opened fuel tasks id state outcome.bus outcome.result := by
  have employed := books.employed id _ idle
  cases employed with
  | producer remaining => exact books.sends idle follows here attempted
  | consumer consumer => exact books.receives idle follows here attempted

/-- A worker calls on the channel of the workload, and its call is enabled. -/
theorem enabled (books : Books workload config opened fuel bus tasks) {phase : Phase Message}
    (here : tasks[id]? = some ⟨state, phase⟩)
    (follows : state.next ⟨0⟩ = some (.call 0 call)) :
    call.handle? = some ⟨0⟩ ∧ bus.config.enables call = true := by
  have employed := books.employed id _ here
  cases employed with
  | producer remaining =>
    obtain ⟨count, asks⟩ := Producer.asks_of_call follows
    exact ⟨asks.named, asks.enabled bus.config books.batching⟩
  | consumer consumer =>
    obtain ⟨rfl, _⟩ := Consumer.receives_of_call follows
    exact ⟨rfl, rfl⟩

/-- Every call waits on the one channel. -/
theorem ticket_generation (books : Books workload config opened fuel bus tasks)
    {suspended : Suspended Message} (waits : waitingOf tasks id = some suspended) :
    suspended.ticket.generation = 0 := by
  have sound := books.housed.sound
  obtain ⟨channel, _, named, _⟩ := (books.housed.houses id suspended waits).ticketed sound
  obtain ⟨member, same⟩ := sound.identity?_eq_some_iff.mp named
  have given := sound.fresh channel member
  rw [books.sole] at given
  omega

/-- A worker makes a call. -/
theorem start (books : Books workload config opened (fuel + 1) bus tasks)
    (idle : tasks[id]? = some ⟨state, .fresh⟩)
    (follows : state.next ⟨0⟩ = some (.call 0 call)) :
    Recorded workload config opened fuel tasks id state (bus.start call id).bus
      (bus.start call id).result := by
  obtain ⟨named, enabled⟩ := books.enabled idle follows
  cases here : bus.channel? ⟨0⟩ with
  | none =>
    rw [Bus.start_of_closed enabled named here]
    exact books.refuse idle follows (by rw [← books.gate, Bus.isOpen, here]; rfl)
  | some channel =>
    have pinned := Bus.pinned?_eq_some_iff.mpr ⟨here, rfl⟩
    rw [Bus.start_of_open enabled named here]
    exact books.attempted idle follows here (Bus.attempted_attempt pinned named id)

/-- A worker tries its call again. -/
theorem retry (books : Books workload config opened (fuel + 1) bus tasks)
    (idle : tasks[id]? = some ⟨state, .fresh⟩)
    (follows : state.next ⟨0⟩ = some (.call 0 call)) :
    Recorded workload config opened fuel tasks id state (bus.attempt 0 id call).bus
      (bus.attempt 0 id call).result := by
  obtain ⟨named, _⟩ := books.enabled idle follows
  cases here : bus.channel? ⟨0⟩ with
  | none =>
    have gone : bus.pinned? ⟨0⟩ 0 = none := by rw [Bus.pinned?, here]; rfl
    rw [Bus.attempt_gone gone named]
    exact books.refuse idle follows (by rw [← books.gate, Bus.isOpen, here]; rfl)
  | some channel =>
    have pinned := Bus.pinned?_eq_some_iff.mpr ⟨here, books.generation_eq here⟩
    exact books.attempted idle follows here (Bus.attempted_attempt pinned named id)

/-- A worker that was woken learns how its call was settled, or tries it again. -/
theorem resume (books : Books workload config opened (fuel + 1) bus tasks) {index : Nat}
    {suspended : Suspended Message} (here : tasks[id]? = some ⟨state, .parked index suspended⟩)
    (dequeued : (bus.ticketQueue suspended.ticket).holds suspended.ticket.key = false) :
    Recorded workload config opened fuel tasks id state (bus.resume suspended id).bus
      (bus.resume suspended id).result := by
  have known := (List.getElem?_eq_some_iff.mp here).1
  have waits : waitingOf tasks id = some suspended :=
    waitingOf_eq_some_iff.mpr ⟨_, index, here, rfl⟩
  have sound := books.housed.sound
  have houses := books.housed.houses id suspended waits
  obtain ⟨parcel, lies, finds⟩ := houses.parcel
  have due : state.next ⟨0⟩ = some (.call index suspended.call) := books.due id _ here
  obtain ⟨_, called⟩ := Worker.calls_of_next due
  obtain ⟨rfl, _⟩ := Step.call.inj called
  have employed := books.employed id _ here
  have resumed := Bus.resume_of_dequeued dequeued
    ((houses.parcel?_ticketQueue sound).trans lies) id
  rw [resumed]
  cases happened : suspended.call.settledReply parcel with
  | some reply =>
    rw [Bus.wakeUp_of_settled finds happened]
    obtain ⟨_, accounts⟩ := books.accounts
    have few := accounts.held_le (standing_of_parked here lies)
    obtain ⟨next, gone, held, received, dismissed⟩ := employed.settled due finds few happened
    exact books.collect here dequeued lies gone held received dismissed next
  | none =>
    have unsettled := Call.unsettled_of_settledReply happened
    have fresh : Employed workload opened id ⟨state, .fresh⟩ := employed.moved nofun
    have collected := books.collect here dequeued lies
      (Worker.gone_of_unsettled unsettled state).symm
      (Worker.held_of_unsettled unsettled state).symm (Nat.le_refl _) rfl fresh
    have idle : (tasks.set id ⟨state, .fresh⟩)[id]? = some ⟨state, .fresh⟩ := by
      rw [List.getElem?_set_self known]
    have named := (collected.enabled idle due).1
    obtain ⟨notices, woken, _⟩ := Bus.wakeUp_of_unsettled finds unsettled named id
    have generation := books.ticket_generation waits
    have again := collected.retry idle due
    rw [woken, generation]
    unfold Recorded at again ⊢
    simp only [List.set_set] at again
    exact again

end Books

/-! ## Polls -/

namespace Scheduler

/-- What an operation on the only bus leaves. -/
theorem onBus_only {σ α β : Type} {scheduler : Scheduler σ α} {bus : Bus α}
    (only : scheduler.buses = [bus]) (operation : Bus α → Outcome α β) :
    (scheduler.onBus 0 operation).result = .ok (operation bus).result ∧
      (scheduler.onBus 0 operation).scheduler.buses = [(operation bus).bus] ∧
      (scheduler.onBus 0 operation).scheduler.tasks = scheduler.tasks := by
  have here : scheduler.buses[0]? = some bus := by rw [only]; rfl
  obtain ⟨result, buses, tasks⟩ := scheduler.onBus_of_known operation here
  refine ⟨result, ?_, tasks⟩
  rw [buses, only]
  rfl

end Scheduler

/-- The books of a crew are right, and nobody but one worker was touched. -/
def Workload.Keeps (workload : Workload) (config : Config) (opened : Bool) (fuel : Nat)
    (id : TaskId) (before : List (Task Worker Message)) (crew : Workload.Crew) : Prop :=
  ∃ bus task, crew.buses = [bus] ∧ crew.tasks = before.set id task ∧
    Books workload config opened fuel bus crew.tasks

/-- How a crew is while one worker runs: its books would be right if the worker had this state and
had not been polled. -/
def Workload.Runs (workload : Workload) (config : Config) (opened : Bool) (fuel : Nat)
    (id : TaskId) (before : List (Task Worker Message)) (crew : Workload.Crew) (state : Worker) :
    Prop :=
  ∃ bus, crew.buses = [bus] ∧ crew.tasks = before ∧
    Books workload config opened (fuel + 1) bus (before.set id ⟨state, .fresh⟩)

namespace Books

variable {workload : Workload} {config : Config} {opened : Bool} {fuel : Nat} {bus : Bus Message}
  {id : TaskId}
  {state : Worker} {crew : Workload.Crew} {before : List (Task Worker Message)}

/-- A worker that runs takes a step: it calls. -/
theorem takeStep (runs : workload.Runs config opened fuel id before crew state)
    (known : id < before.length) {step : Step Message}
    (follows : (Worker.program ⟨0⟩).next state = some step) :
    ∃ after progress, (crew.takeStep id step).scheduler.buses = [after] ∧
      (crew.takeStep id step).scheduler.tasks = before ∧
      (crew.takeStep id step).result = .ofProgress 0 (.ok progress) ∧
      Recorded workload config opened fuel (before.set id ⟨state, .fresh⟩) id state after
        progress := by
  obtain ⟨bus, only, same, books⟩ := runs
  obtain ⟨call, rfl⟩ := Worker.calls_of_next follows
  obtain ⟨result, buses, tasks⟩ := Scheduler.onBus_only only (·.start call id)
  have idle : (before.set id ⟨state, .fresh⟩)[id]? =
      some (⟨state, .fresh⟩ : Task Worker Message) := List.getElem?_set_self known
  exact ⟨_, _, buses, tasks.trans same, congrArg (Scheduler.Footing.ofProgress 0) result,
    books.start idle follows⟩

/-- A worker that runs goes on until it waits or ends. -/
theorem advance (known : id < before.length)
    (runs : workload.Runs config opened fuel id before crew state) :
    workload.Keeps config opened fuel id before (crew.advance (Worker.program ⟨0⟩) id state).1 := by
  apply Scheduler.advance_induction (workload.Runs config opened fuel id before)
    (workload.Keeps config opened fuel id before) _ _ _ runs
  · rintro middle state ⟨bus, only, same, books⟩ ends
    have finished := books.finish (List.getElem?_set_self known) ends
    rw [List.set_set] at finished
    refine ⟨bus, ⟨state, .over⟩, only, ?_, ?_⟩
    · rw [Scheduler.setTask, same]
    · rw [Scheduler.setTask, same]
      exact finished
  · intro middle state step answer runs follows answered
    obtain ⟨after, progress, buses, tasks, result, recorded⟩ := takeStep runs known follows
    rw [result] at answered
    cases progress with
    | parked suspended => contradiction
    | finished reply =>
      obtain rfl : Answer.reply reply = answer := Scheduler.Footing.answered.inj answered
      rw [Recorded, List.set_set] at recorded
      exact ⟨after, buses, tasks, recorded⟩
  · intro middle state step runs follows unanswered
    obtain ⟨after, progress, buses, tasks, result, recorded⟩ := takeStep runs known follows
    rw [result] at unanswered ⊢
    cases progress with
    | finished reply => exact absurd rfl (unanswered (.reply reply))
    | parked suspended =>
      rw [Recorded, List.set_set] at recorded
      refine ⟨after, ⟨state, .parked 0 suspended⟩, buses, ?_, ?_⟩
      · rw [Scheduler.setTask, tasks]
        rfl
      · rw [Scheduler.setTask, tasks]
        exact recorded

/-- A poll of a ready worker keeps the books right and uses up some of the work that is left. -/
theorem poll (books : Books workload config opened (fuel + 1) bus crew.tasks)
    (only : crew.buses = [bus]) (tidy : crew.Tidy (Worker.program ⟨0⟩))
    (isReady : id ∈ crew.ready) :
    workload.Keeps config opened fuel id crew.tasks (crew.poll (Worker.program ⟨0⟩) id).1 := by
  obtain ⟨task, alive, here, live⟩ := tidy.live_of_ready isReady
  have known := (List.getElem?_eq_some_iff.mp here).1
  obtain ⟨state, phase⟩ := task
  have polled : (crew.poll (Worker.program ⟨0⟩) id).1 =
      ((crew.unready id).resume (Worker.program ⟨0⟩) id ⟨state, phase⟩).1 := by
    rw [Scheduler.poll, alive]
  rw [polled]
  cases phase with
  | fresh =>
    have same : crew.tasks.set id ⟨state, .fresh⟩ = crew.tasks := by
      obtain ⟨_, there⟩ := List.getElem?_eq_some_iff.mp here
      rw [← there, List.set_getElem_self]
    have unready : (crew.unready id).buses = [bus] := only
    exact Books.advance known ⟨bus, unready, rfl, same.symm ▸ books⟩
  | yielded =>
    have due : (Worker.program ⟨0⟩).next state = some .yield := books.due id _ here
    obtain ⟨call, called⟩ := Worker.calls_of_next due
    contradiction
  | parked index suspended =>
    have due : state.next ⟨0⟩ = some (.call index suspended.call) := books.due id _ here
    obtain ⟨_, called⟩ := Worker.calls_of_next due
    obtain ⟨rfl, _⟩ := Step.call.inj called
    have waits : crew.waits id = some (0, suspended) :=
      Scheduler.waits_eq_some_iff.mpr ⟨_, here, rfl⟩
    have there : crew.buses[0]? = some bus := by rw [only]; rfl
    have dequeued := tidy.balanced.dequeued there waits (tidy.balanced.not_seated isReady)
    have recorded := books.resume here dequeued
    have unready : (crew.unready id).buses = [bus] := only
    obtain ⟨result, buses, tasks⟩ := Scheduler.onBus_only unready (·.resume suspended id)
    have tasks : ((crew.unready id).onBus 0 (·.resume suspended id)).scheduler.tasks =
        crew.tasks := tasks
    simp only [Scheduler.resume, result]
    cases progress : (bus.resume suspended id).result with
    | finished reply =>
      rw [progress, Recorded] at recorded
      simp only [Scheduler.Footing.ofProgress, Scheduler.Turn.follow]
      exact Books.advance known ⟨_, buses, tasks, recorded⟩
    | parked again =>
      rw [progress, Recorded] at recorded
      simp only [Scheduler.Footing.ofProgress, Scheduler.Turn.follow]
      refine ⟨_, ⟨state, .parked 0 again⟩, buses, ?_, ?_⟩
      · rw [Scheduler.setTask, tasks]
      · rw [Scheduler.setTask, tasks]
        exact recorded
  | _ => exact absurd rfl (Scheduler.isLive_iff.mp live)

end Books

end ChannelBus
