import ChannelBus.Proofs.Fifo
import ChannelBus.Proofs.Labour
import ChannelBus.Proofs.Ledger
import ChannelBus.Proofs.Draining
import ChannelBus.Proofs.Spreading
import ChannelBus.Proofs.Tally

/-!
# The books of a workload

`Books` is what holds of the bus of a workload and of its workers whenever none of them is in the
middle of a call; a worker that runs counts as one that has not been polled yet. The accounts are
those of a ledger. They also bound the work that is left: `fuel` covers a poll for each worker that
is alive but not queued, one for each message that is still to be passed on and one for each that is
still to leave the buffer. If counters are kept, they agree with the accounts.
-/

open scoped List

namespace ChannelBus

/-- Looking at items one by one is looking at them in the order of their numbers. -/
theorem map_eq_map_range {β γ : Type} {items : List β} {view : β → γ} {numbered : Nat → γ}
    (same : ∀ (index : Nat) (item : β), items[index]? = some item → view item = numbered index) :
    items.map view = (List.range items.length).map numbered := by
  apply List.ext_getElem (by simp only [List.length_map, List.length_range])
  intro index inside _
  rw [List.length_map] at inside
  rw [List.getElem_map, List.getElem_map, List.getElem_range]
  exact same index _ (List.getElem?_eq_getElem inside)

section Standing

variable {σ α : Type}

/-- What lies in the parcel of the call on which a task waits. -/
def Task.parcel? (bus : Bus α) (task : Task σ α) : Option (Parcel α) :=
  task.phase.parked?.bind fun parked => bus.parcel? parked.2.ticket.address

/-- The calls on which tasks wait. -/
def waitingOf (tasks : List (Task σ α)) (id : Nat) : Option (Suspended α) :=
  (tasks[id]?).bind fun task => task.phase.parked?.map (·.2)

/-- The state of a task and what lies in the parcel of its call. -/
def standing (bus : Bus α) (tasks : List (Task σ α)) (id : Nat) : Option (σ × Option (Parcel α)) :=
  (tasks[id]?).map fun task => (task.state, task.parcel? bus)

variable {bus after : Bus α} {tasks : List (Task σ α)} {id : Nat} {new : Task σ α}

/-- A parked task waits on its call. -/
theorem waitingOf_eq_some_iff {suspended : Suspended α} : waitingOf tasks id = some suspended ↔
    ∃ task index, tasks[id]? = some task ∧ task.phase = .parked index suspended := by
  unfold waitingOf
  constructor
  · intro waits
    obtain ⟨task, here, parked⟩ := Option.bind_eq_some_iff.mp waits
    obtain ⟨⟨index, call⟩, stands, same⟩ := Option.map_eq_some_iff.mp parked
    obtain rfl : call = suspended := same
    refine ⟨task, index, here, ?_⟩
    cases phase : task.phase with
    | parked => simpa [phase, Phase.parked?] using stands
    | _ => simp [phase, Phase.parked?] at stands
  · rintro ⟨task, index, here, parked⟩
    rw [here, Option.bind_some, parked]
    rfl

/-- The calls on which tasks wait after one task changed. -/
theorem waitingOf_set (known : id < tasks.length) : waitingOf (tasks.set id new) =
    reassign (waitingOf tasks) id (new.phase.parked?.map (·.2)) := by
  funext other
  unfold waitingOf reassign
  rw [List.getElem?_set]
  by_cases same : id = other
  · rw [if_pos same, if_pos same.symm, if_pos known, Option.bind_some]
  · rw [if_neg same, if_neg fun equal => same equal.symm]

/-- How tasks stand after one of them changed. -/
theorem standing_set (known : id < tasks.length) (other : Nat) :
    standing bus (tasks.set id new) other =
      if other = id then some (new.state, new.parcel? bus) else standing bus tasks other := by
  unfold standing
  rw [List.getElem?_set]
  by_cases same : id = other
  · rw [if_pos same, if_pos same.symm, if_pos known, Option.map_some]
  · rw [if_neg same, if_neg fun equal => same equal.symm]

/-- How a waiting task stands. -/
theorem standing_of_waiting {suspended : Suspended α}
    (waits : waitingOf tasks id = some suspended) :
    ∃ task, tasks[id]? = some task ∧ ∀ bus : Bus α,
      standing bus tasks id = some (task.state, bus.parcel? suspended.ticket.address) := by
  obtain ⟨task, index, here, parked⟩ := waitingOf_eq_some_iff.mp waits
  refine ⟨task, here, fun bus => ?_⟩
  unfold standing Task.parcel?
  rw [here, Option.map_some, parked]
  rfl

/-- How a parked task stands. -/
theorem standing_of_parked {state : σ} {index : Nat} {suspended : Suspended α} {parcel : Parcel α}
    (here : tasks[id]? = some ⟨state, .parked index suspended⟩)
    (lies : bus.parcel? suspended.ticket.address = some parcel) :
    standing bus tasks id = some (state, some parcel) := by
  rw [standing, here, ← lies]
  rfl

/-- A task stands as it did while its parcel stays. -/
theorem standing_kept (kept : ∀ suspended, waitingOf tasks id = some suspended →
      after.parcel? suspended.ticket.address = bus.parcel? suspended.ticket.address) :
    standing after tasks id = standing bus tasks id := by
  cases waits : waitingOf tasks id with
  | some suspended =>
    obtain ⟨task, _, stands⟩ := standing_of_waiting waits
    rw [stands, stands, kept suspended waits]
  | none =>
    unfold standing Task.parcel?
    unfold waitingOf at waits
    cases here : tasks[id]? with
    | none => rfl
    | some task =>
      rw [here, Option.bind_some, Option.map_eq_none_iff] at waits
      rw [Option.map_some, Option.map_some, waits]
      rfl

end Standing

/-- How many messages a worker with its parcel has passed on. -/
def goneOf (standings : Nat → Option (Worker × Option (Parcel Message))) (id : Nat) : Nat :=
  (standings id).elim 0 fun (worker, parcel?) => worker.gone parcel?

/-- The messages that a worker with its parcel holds. -/
def heldOf (standings : Nat → Option (Worker × Option (Parcel Message))) (id : Nat) :
    List Message :=
  (standings id).elim [] fun (worker, parcel?) => worker.held parcel?

/-- What one worker has passed on. -/
theorem goneOf_of_standing {standings : Nat → Option (Worker × Option (Parcel Message))} {id : Nat}
    {worker : Worker} {parcel? : Option (Parcel Message)}
    (stands : standings id = some (worker, parcel?)) :
    goneOf standings id = worker.gone parcel? := by
  rw [goneOf, stands]
  rfl

/-- What one worker holds. -/
theorem heldOf_of_standing {standings : Nat → Option (Worker × Option (Parcel Message))} {id : Nat}
    {worker : Worker} {parcel? : Option (Parcel Message)}
    (stands : standings id = some (worker, parcel?)) :
    heldOf standings id = worker.held parcel? := by
  rw [heldOf, stands]
  rfl

section Changing

variable {before after : Nat → Option (Worker × Option (Parcel Message))} {id : Nat}
  {stand : Worker × Option (Parcel Message)}

/-- What workers have passed on after one of them changed. -/
theorem goneOf_of_change
    (stands : ∀ other, after other = if other = id then some stand else before other)
    (other : Nat) :
    goneOf after other = if other = id then stand.1.gone stand.2 else goneOf before other := by
  unfold goneOf
  rw [stands]
  split
  · rfl
  · rfl

/-- What workers hold after one of them changed. -/
theorem heldOf_of_change
    (stands : ∀ other, after other = if other = id then some stand else before other)
    (other : Nat) :
    heldOf after other = if other = id then stand.1.held stand.2 else heldOf before other := by
  unfold heldOf
  rw [stands]
  split
  · rfl
  · rfl

/-- What workers have passed on after two of them changed. -/
theorem goneOf_of_changes {owner : Nat} {another : Worker × Option (Parcel Message)}
    (stands : ∀ other, after other = if other = id then some stand
      else if other = owner then some another else before other) (other : Nat) :
    goneOf after other = if other = id then stand.1.gone stand.2
      else if other = owner then another.1.gone another.2 else goneOf before other := by
  unfold goneOf
  rw [stands]
  split
  · rfl
  · split
    · rfl
    · rfl

/-- What workers hold after two of them changed. -/
theorem heldOf_of_changes {owner : Nat} {another : Worker × Option (Parcel Message)}
    (stands : ∀ other, after other = if other = id then some stand
      else if other = owner then some another else before other) (other : Nat) :
    heldOf after other = if other = id then stand.1.held stand.2
      else if other = owner then another.1.held another.2 else heldOf before other := by
  unfold heldOf
  rw [stands]
  split
  · rfl
  · split
    · rfl
    · rfl

/-- Workers have passed on what they did if the one that changed has. -/
theorem goneOf_eq {former : Worker × Option (Parcel Message)} (stood : before id = some former)
    (stands : ∀ other, after other = if other = id then some stand else before other)
    (same : stand.1.gone stand.2 = former.1.gone former.2) : goneOf after = goneOf before := by
  funext other
  rw [goneOf_of_change stands]
  split
  case isTrue equal =>
    rw [equal, goneOf_of_standing stood]
    exact same
  case isFalse => rfl

/-- Workers hold what they did if the one that changed does. -/
theorem heldOf_eq {former : Worker × Option (Parcel Message)} (stood : before id = some former)
    (stands : ∀ other, after other = if other = id then some stand else before other)
    (same : stand.1.held stand.2 = former.1.held former.2) : heldOf after = heldOf before := by
  funext other
  rw [heldOf_of_change stands]
  split
  case isTrue equal =>
    rw [equal, heldOf_of_standing stood]
    exact same
  case isFalse => rfl

end Changing

namespace Bus

/-- The same handles are open while the generations stay. -/
theorem isOpen_of_generations {α : Type} {bus after : Bus α}
    (same : ∀ handle, (after.channel? handle).map (·.generation) =
      (bus.channel? handle).map (·.generation)) (handle : Handle) :
    after.isOpen handle = bus.isOpen handle := by
  have both := congrArg Option.isSome (same handle)
  rw [Option.isSome_map, Option.isSome_map] at both
  exact both

end Bus

/-- The accounts of a workload with some history. -/
structure Accounts (workload : Workload) (fuel : Nat) (bus : Bus Message)
    (tasks : List (Task Worker Message)) (history : List Message) : Prop where
  /-- What was passed on is in the buffer or has left it, and is held then. -/
  ledger : Ledger workload (goneOf (standing bus tasks)) (heldOf (standing bus tasks))
    (bus.content 0) history
  /-- The work that is left is covered. -/
  covered : tasks.countP (·.isLive) + 2 * workload.expected ≤
    fuel + bus.roster.length + 2 * history.length + (bus.content 0).length
  /-- The counters agree if they are kept. -/
  tallied : bus.config.telemetry = true → bus.Tallied workload.capacity history.length

section Received

variable {workload : Workload} {fuel : Nat} {bus : Bus Message} {tasks : List (Task Worker Message)}
  {history : List Message}

/-- The workers hold together as many messages as have left the buffer. -/
theorem Accounts.length_history (accounts : Accounts workload fuel bus tasks history)
    (crowd : tasks.length = workload.producers + workload.consumers) :
    history.length = (tasks.map fun task => (task.state.held (task.parcel? bus)).length).sum := by
  have numbered : (tasks.map fun task => (task.state.held (task.parcel? bus)).length) =
      (List.range tasks.length).map fun id => (heldOf (standing bus tasks) id).length := by
    apply map_eq_map_range
    intro id task here
    rw [heldOf, standing, here]
    rfl
  rw [accounts.ledger.shared.length_eq, List.length_flatMap, numbered, crowd]

/-- No more was received than has left the buffer. -/
theorem Accounts.received_le (accounts : Accounts workload fuel bus tasks history)
    (crowd : tasks.length = workload.producers + workload.consumers) :
    (tasks.map fun task => task.state.receivedCount).sum ≤ history.length := by
  rw [accounts.length_history crowd]
  apply List.sum_le_sum
  intro task _
  exact task.state.receivedCount_le (task.parcel? bus)

/-- Once everything was received, everything has left the buffer. -/
theorem Accounts.length_of_received (accounts : Accounts workload fuel bus tasks history)
    (crowd : tasks.length = workload.producers + workload.consumers)
    (all : workload.expected ≤ (tasks.map fun task => task.state.receivedCount).sum) :
    history.length = workload.expected := by
  have few := accounts.received_le crowd
  have most := accounts.ledger.length_le
  omega

/-- Nobody holds more messages than there are. -/
theorem Accounts.held_le (accounts : Accounts workload fuel bus tasks history) {id : Nat}
    {worker : Worker} {parcel? : Option (Parcel Message)}
    (stands : standing bus tasks id = some (worker, parcel?)) :
    (worker.held parcel?).length ≤ workload.expected := by
  have few := (accounts.ledger.ordered id).length_le
  have all := accounts.ledger.length_le
  rw [heldOf_of_standing stands] at few
  omega

end Received

/-- What holds of the bus and the workers of a workload between calls, while the channel is open or
after it was closed. -/
structure Books (workload : Workload) (config : Config) (opened : Bool) (fuel : Nat)
    (bus : Bus Message) (tasks : List (Task Worker Message)) : Prop where
  /-- The settings are the same all the time. -/
  settings : bus.config = config
  /-- Every parcel has its call. -/
  housed : bus.Housed (waitingOf tasks)
  /-- One channel was opened. -/
  sole : bus.nextGeneration = 1
  /-- It has the capacity that was asked for. -/
  sized : (bus.identity? 0).map (·.capacity) = some workload.capacity
  /-- It is open or closed. -/
  gate : bus.isOpen ⟨0⟩ = opened
  /-- Batches are on if they are sent. -/
  batching : ∀ size, workload.batch = some size → 1 < size → bus.config.batch = true
  /-- All workers are there. -/
  crowd : tasks.length = workload.producers + workload.consumers
  /-- Waiting workers are in the middle of a call. -/
  due : ∀ (id : Nat) (task : Task Worker Message), tasks[id]? = some task →
    task.Due (Worker.program ⟨0⟩)
  /-- Every worker is where it should be. -/
  employed : ∀ (id : Nat) (task : Task Worker Message), tasks[id]? = some task →
    Employed workload opened id task
  /-- The accounts are right. -/
  accounts : ∃ history, Accounts workload fuel bus tasks history
  /-- The counters tell who was told that the channel is closed, if they are kept. -/
  attended : bus.config.telemetry = true →
    bus.Attended opened (tasks.countP (·.state.dismissed))
  /-- The channel was closed only after everything had been received. -/
  shut : opened = false →
    workload.expected ≤ (tasks.map fun task => task.state.receivedCount).sum

namespace Books

variable {workload : Workload} {config : Config} {opened : Bool} {fuel left : Nat}
  {bus after : Bus Message} {tasks : List (Task Worker Message)} {id : Nat}

/-- How many tasks are of a kind after one that was changed. -/
theorem countP_set_kind {old : Task Worker Message} (here : tasks[id]? = some old)
    (kind : Task Worker Message → Bool) (new : Task Worker Message) :
    (tasks.set id new).countP kind + (kind old).toNat = tasks.countP kind + (kind new).toNat := by
  obtain ⟨known, there⟩ := List.getElem?_eq_some_iff.mp here
  rw [List.countP_set known, there]
  cases was : kind old with
  | false => cases kind new <;> rfl
  | true =>
    have some : 0 < tasks.countP kind :=
      List.countP_pos_iff.mpr ⟨old, List.mem_of_getElem? here, was⟩
    cases kind new <;>
      simp only [if_true, Bool.false_eq_true, if_false, Bool.toNat_true, Bool.toNat_false] <;> omega

/-- The books after one worker changed. -/
theorem change (books : Books workload config opened fuel bus tasks)
    {old new : Task Worker Message} (here : tasks[id]? = some old)
    (housed : after.Housed (reassign (waitingOf tasks) id (new.phase.parked?.map (·.2))))
    (stays : bus.Stays after) (due : new.Due (Worker.program ⟨0⟩))
    (employed : Employed workload opened id new)
    (received : old.state.receivedCount ≤ new.state.receivedCount) {bill : Bill}
    (charges : bus.Charges after workload.capacity bill)
    (dismissed : new.state.dismissed.toNat = old.state.dismissed.toNat + bill.missing)
    (accounts : ∃ history, Accounts workload left after (tasks.set id new) history) :
    Books workload config opened left after (tasks.set id new) := by
  have known := (List.getElem?_eq_some_iff.mp here).1
  have config := charges.pays.config
  have others : ∀ (other : Nat) (task : Task Worker Message),
      (tasks.set id new)[other]? = some task →
      other = id ∧ task = new ∨ tasks[other]? = some task := by
    intro other task there
    rw [List.getElem?_set] at there
    by_cases same : id = other
    · rw [if_pos same, if_pos known] at there
      exact .inl ⟨same.symm, (Option.some.inj there).symm⟩
    · rw [if_neg same] at there
      exact .inr there
  have still := Bus.isOpen_of_generations stays.generations ⟨0⟩
  refine ⟨config.trans books.settings, waitingOf_set known ▸ housed,
    stays.nextGeneration.trans books.sole, (stays.capacities 0).trans books.sized,
    still.trans books.gate, config ▸ books.batching,
    List.length_set.trans books.crowd, ?_, ?_, accounts, ?_, ?_⟩
  · intro other task there
    obtain ⟨_, rfl⟩ | there := others other task there
    · exact due
    · exact books.due other task there
  · intro other task there
    obtain ⟨rfl, rfl⟩ | there := others other task there
    · exact employed
    · exact books.employed other task there
  · have count := countP_set_kind here (·.state.dismissed) new
    have same : (tasks.set id new).countP (·.state.dismissed) =
        tasks.countP (·.state.dismissed) + bill.missing := by
      omega
    rw [same]
    exact charges.attended books.attended
  · intro closed
    have before := books.shut closed
    have sum := sum_map_set (fun task : Task Worker Message => task.state.receivedCount) here new
    omega

/-- A worker that runs waits on no call. -/
theorem waitingOf_of_fresh {state : Worker} (here : tasks[id]? = some ⟨state, .fresh⟩) :
    waitingOf tasks id = none := by
  unfold waitingOf
  rw [here]
  rfl

/-- How a worker that does not wait stands. -/
theorem standing_of_fresh (bus : Bus Message) {state : Worker}
    (here : tasks[id]? = some ⟨state, .fresh⟩) :
    standing bus tasks id = some (state, none) := by
  unfold standing
  rw [here]
  rfl

/-- As many workers are alive after one goes on. -/
theorem countP_set_live {old new : Task Worker Message} (here : tasks[id]? = some old)
    (alive : old.isLive = true) (still : new.isLive = true) :
    (tasks.set id new).countP (·.isLive) = tasks.countP (·.isLive) := by
  have count := countP_set_kind here (·.isLive) new
  simp only [alive, still] at count
  omega

/-- A worker that has nothing to do any more ends. -/
theorem finish (books : Books workload config opened (fuel + 1) bus tasks) {state : Worker}
    (here : tasks[id]? = some ⟨state, .fresh⟩)
    (ends : (Worker.program ⟨0⟩).next state = none) :
    Books workload config opened fuel bus (tasks.set id ⟨state, .over⟩) := by
  have known := (List.getElem?_eq_some_iff.mp here).1
  have idle := waitingOf_of_fresh here
  have same : reassign (waitingOf tasks) id none = waitingOf tasks := by
    funext other
    unfold reassign
    split
    case isTrue equal => rw [equal, idle]
    case isFalse => rfl
  have stands : standing bus (tasks.set id ⟨state, .over⟩) = standing bus tasks := by
    funext other
    rw [standing_set known]
    split
    case isTrue equal => rw [equal, standing_of_fresh bus here]; rfl
    case isFalse => rfl
  obtain ⟨history, ledger, covered, tallied⟩ := books.accounts
  have due : Task.Due (Worker.program ⟨0⟩) (⟨state, .over⟩ : Task Worker Message) := trivial
  have employed : Employed workload opened id ⟨state, .over⟩ := by
    have before := books.employed id _ here
    cases before with
    | producer remaining _ inside few _ =>
      exact .producer remaining .over inside few fun _ => Producer.remaining_of_next ends
    | consumer consumer _ outside used stays _ =>
      exact .consumer consumer .over outside used stays fun _ => Consumer.budget_of_next ends
  apply books.change here (same.symm ▸ books.housed) (.refl bus) due employed (Nat.le_refl _)
    (bus.charges_self workload.capacity) rfl
  refine ⟨history, stands.symm ▸ ledger, ?_, tallied⟩
  have count : (tasks.set id ⟨state, .over⟩).countP (·.isLive) + 1 = tasks.countP (·.isLive) + 0 :=
    countP_set_kind here (·.isLive) ⟨state, .over⟩
  omega

/-- A woken worker takes its wait away. It goes on with what its parcel told it, so that it has
passed on and holds what it did. -/
theorem collect (books : Books workload config opened fuel bus tasks) {state new : Worker}
    {index : Nat} {suspended : Suspended Message} {parcel : Parcel Message}
    (here : tasks[id]? = some ⟨state, .parked index suspended⟩)
    (dequeued : (bus.ticketQueue suspended.ticket).holds suspended.ticket.key = false)
    (lies : bus.parcel? suspended.ticket.address = some parcel)
    (gone : new.gone none = state.gone (some parcel))
    (held : new.held none = state.held (some parcel))
    (received : state.receivedCount ≤ new.receivedCount)
    (dismissed : new.dismissed = state.dismissed)
    (employed : Employed workload opened id ⟨new, .fresh⟩) :
    Books workload config opened fuel (bus.setTicketQueue suspended.ticket
      ((bus.ticketQueue suspended.ticket).forget suspended.ticket.key))
      (tasks.set id ⟨new, .fresh⟩) := by
  have known := (List.getElem?_eq_some_iff.mp here).1
  have waits : waitingOf tasks id = some suspended :=
    waitingOf_eq_some_iff.mpr ⟨_, index, here, rfl⟩
  have houses := books.housed.houses id suspended waits
  have clears := houses.clears_forget books.housed.sound dequeued
  have content := houses.content_setTicketQueue books.housed.sound
    ((bus.ticketQueue suspended.ticket).forget suspended.ticket.key) 0
  have roster := (bus.roster_forget suspended.ticket suspended.ticket.key).length_eq
  have stands : ∀ other, standing (bus.setTicketQueue suspended.ticket
      ((bus.ticketQueue suspended.ticket).forget suspended.ticket.key))
      (tasks.set id ⟨new, .fresh⟩) other =
        if other = id then some (new, none) else standing bus tasks other := by
    intro other
    rw [standing_set known]
    split
    case isTrue => rfl
    case isFalse apart =>
      apply standing_kept
      intro another waitsToo
      rw [clears.parcel?, if_neg]
      exact fun same => apart (books.housed.apart other id another suspended waitsToo waits same)
  have before : standing bus tasks id = some (state, some parcel) := standing_of_parked here lies
  have due : Task.Due (Worker.program ⟨0⟩) (⟨new, .fresh⟩ : Task Worker Message) := trivial
  have charges := books.housed.sound.charges_forget suspended.ticket suspended.ticket.key
    workload.capacity
  obtain ⟨history, ledger, covered, tallied⟩ := books.accounts
  apply books.change here (books.housed.clears waits clears) clears.stays due employed received
    charges (congrArg Bool.toNat dismissed)
  refine ⟨history, ?_, ?_, charges.tallied tallied⟩
  · rw [goneOf_eq before stands gone, heldOf_eq before stands held, content]
    exact ledger
  · rw [content, ← roster, countP_set_live here rfl rfl]
    exact covered

end Books

end ChannelBus
