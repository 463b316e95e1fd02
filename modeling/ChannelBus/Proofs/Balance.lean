import ChannelBus.Proofs.Generations
import ChannelBus.Proofs.Seating
import ChannelBus.Proofs.Wakeups

/-!
# Every task is accounted for

Some buses, a queue of ready tasks, and the calls on which tasks wait are balanced if every live
task is accounted for exactly once: it is ready, or it has a seat on one of the buses. A seat is
always that of a task which waits there.

One operation of one task keeps the balance. The seats that it takes away are those of the tasks
that it makes ready, and the only seat that it may add is its own.
-/

open scoped List

namespace ChannelBus

variable {α β : Type}

namespace Bus

/-- What one operation of a task leaves of a bus, if the task then waits for `suspended?`. -/
structure Settles (bus : Bus α) (waiting : Nat → Option (Suspended α)) (id : TaskId)
    (outcome : Outcome α β) (suspended? : Option (Suspended α)) : Prop where
  /-- Every parcel has its call. -/
  housed : outcome.bus.Housed (reassign waiting id suspended?)
  /-- Nobody is queued in vain. -/
  served : outcome.bus.Served noCredit
  /-- Channels are opened and closed as ever. -/
  evolves : bus.Evolves outcome.bus
  /-- Those who lose their seats are made ready, and the task may take one. -/
  rings : ∃ woken, bus.Rings outcome (suspended?.toList.map (·.seat id)) woken

/-- What was closed before an operation is closed after it. -/
theorem Settles.closed {bus : Bus α} {waiting : Nat → Option (Suspended α)} {id : TaskId}
    {outcome : Outcome α β} {suspended? : Option (Suspended α)}
    (settles : bus.Settles waiting id outcome suspended?) (sound : bus.Sound) {generation : Nat}
    (closed : bus.Closed generation) : outcome.bus.Closed generation :=
  settles.evolves.closed sound settles.housed.sound closed

/-- Every housed bus is that of a lawful session. -/
theorem Housed.session {bus : Bus α} {waiting : Nat → Option (Suspended α)}
    (housed : bus.Housed waiting) {limit : Nat}
    (bounded : ∀ id suspended, waiting id = some suspended → id < limit) :
    ∃ session : Session α, session.bus = bus ∧ session.waiting? = waiting ∧ session.Lawful := by
  let record : Nat → Record α := fun id =>
    match waiting id with
    | some suspended => ⟨suspended.call, some suspended.ticket.generation, .waiting suspended⟩
    | none => ⟨.receive ⟨0⟩, none, .dropped⟩
  let session : Session α :=
    { bus, lastError := .clear, calls := (List.range limit).map record }
  have status : ∀ id, (record id).status.suspended? = waiting id := by
    intro id
    simp only [record]
    cases waiting id <;> rfl
  have waits : session.waiting? = waiting := by
    funext id
    by_cases inside : id < limit
    · simp [Session.waiting?, session, inside, status]
    · have idle : waiting id = none := by
        refine Option.eq_none_iff_forall_not_mem.mpr fun suspended waits => ?_
        exact inside (bounded id suspended waits)
      simp [Session.waiting?, session, inside, idle]
  refine ⟨session, rfl, waits, by rwa [waits], fun id found suspended here stands => ?_⟩
  have member := List.mem_of_getElem? here
  obtain ⟨other, _, rfl⟩ := List.mem_map.mp member
  simp only [record] at stands ⊢
  cases called : waiting other with
  | none =>
    rw [called] at stands
    contradiction
  | some another =>
    rw [called] at stands
    obtain rfl := Status.waiting.inj stands
    exact ⟨rfl, fun _ => rfl⟩

section Settling

variable {bus : Bus α} {waiting : Nat → Option (Suspended α)} {id limit : Nat}

/-- What a request leaves of a bus. -/
theorem Housed.settles_perform [Stored α] (housed : bus.Housed waiting)
    (served : bus.Served noCredit)
    (bounded : ∀ id suspended, waiting id = some suspended → id < limit)
    (idle : waiting id = none) (request : Request α) :
    bus.Settles waiting id (bus.perform request) none := by
  obtain ⟨session, rfl, rfl, lawful⟩ := housed.session bounded
  have effect := Session.effect_request lawful request
  refine ⟨?_, effect.served lawful served, effect.evolves lawful,
    session.bus.rings_perform request⟩
  rw [Session.reassign_self idle]
  exact (effect.lawful lawful .clear).housed

/-- What the first poll of a call leaves of a bus. -/
theorem Housed.settles_start (housed : bus.Housed waiting) (served : bus.Served noCredit)
    (idle : waiting id = none) (call : Call α) :
    bus.Settles waiting id (bus.start call id) (bus.start call id).result.suspended? := by
  have acts := bus.acts_start call id
  have tries := acts.tries housed.sound
  obtain ⟨woken, rings, _⟩ := bus.ringsTrying_start call id
  exact ⟨housed.tries idle tries, acts.served housed.sound served (by simp), .stays tries.stays,
    woken, rings⟩

/-- What resuming a woken call leaves of a bus. -/
theorem Housed.settles_resume (housed : bus.Housed waiting) (served : bus.Served noCredit)
    (bounded : ∀ id suspended, waiting id = some suspended → id < limit)
    {suspended : Suspended α} (waits : waiting id = some suspended)
    (dequeued : (bus.ticketQueue suspended.ticket).holds suspended.ticket.key = false) :
    bus.Settles waiting id (bus.resume suspended id)
      (bus.resume suspended id).result.suspended? := by
  have houses := housed.houses id suspended waits
  obtain ⟨woken, rings, _⟩ := houses.ringsTrying_resume housed.sound dequeued id
  obtain ⟨session, rfl, rfl, lawful⟩ := housed.session bounded
  have effect := Session.effect_poll lawful waits id
  obtain ⟨record, here, _⟩ := Session.record_of_waiting? waits
  have after := (effect.lawful lawful .clear).housed
  refine ⟨?_, effect.served lawful served, effect.evolves lawful, woken, rings⟩
  have calls := Session.waiting?_modify (session.bus.resume suspended id).bus .clear here
    (session.bus.resume suspended id).result.status
  rw [Session.suspended?_status] at calls
  rw [← calls]
  exact after

/-- A call that parks at its first poll is the one that was started. -/
theorem Sound.call_start (sound : bus.Sound) {call : Call α} {parked : Suspended α}
    (parks : (bus.start call id).result.suspended? = some parked) : parked.call = call :=
  ((((bus.acts_start call id).tries sound).parked parked parks).2).1

/-- A call that parks again is the one that was resumed. -/
theorem Housed.call_resume (housed : bus.Housed waiting)
    (bounded : ∀ id suspended, waiting id = some suspended → id < limit)
    {suspended parked : Suspended α} (waits : waiting id = some suspended)
    (parks : (bus.resume suspended id).result.suspended? = some parked) :
    parked.call = suspended.call := by
  obtain ⟨session, rfl, rfl, lawful⟩ := housed.session bounded
  have effect := Session.effect_poll lawful waits id
  obtain ⟨record, here, status⟩ := Session.record_of_waiting? waits
  have after := effect.lawful lawful .clear
  have stands : (session.bus.resume suspended id).result.status = .waiting parked := by
    cases result : (session.bus.resume suspended id).result with
    | finished reply =>
      rw [result] at parks
      contradiction
    | parked another =>
      rw [result] at parks
      obtain rfl := Option.some.inj parks
      rfl
  rw [stands] at after
  have now := after.recorded id { record with status := .waiting parked } parked
    (by simp [Session.recording, here]) rfl
  exact now.call.trans (lawful.recorded id record suspended here status).call.symm

/-- What dropping a woken call leaves of a bus. -/
theorem Housed.settles_cancel (housed : bus.Housed waiting) (served : bus.Served noCredit)
    {suspended : Suspended α} (waits : waiting id = some suspended) :
    (bus.cancel suspended).bus.Housed (reassign waiting id none) ∧
      (bus.cancel suspended).bus.Served noCredit ∧ bus.Evolves (bus.cancel suspended).bus := by
  have houses := housed.houses id suspended waits
  have clears := houses.clears_leave housed.sound
  exact ⟨housed.clears waits clears, served.leave housed.sound houses, .stays clears.stays⟩

end Settling

end Bus

/-- The bus and the parked call of each task that waits. -/
abbrev Waits (α : Type) := TaskId → Option (Nat × Suspended α)

namespace Waits

/-- The calls that wait on one bus. -/
def onBus (waits : Waits α) (index : Nat) (id : TaskId) : Option (Suspended α) :=
  (waits id).bind fun (bus, suspended) => if bus = index then some suspended else none

/-- The waits after that of one task was replaced. -/
def reassign (waits : Waits α) (id : TaskId) (parked? : Option (Nat × Suspended α)) : Waits α :=
  fun other => if other = id then parked? else waits other

/-- A call waits on a bus if its task waits there. -/
theorem onBus_eq_some_iff {waits : Waits α} {index : Nat} {id : TaskId}
    {suspended : Suspended α} :
    waits.onBus index id = some suspended ↔ waits id = some (index, suspended) := by
  unfold onBus
  cases waits id with
  | none => simp
  | some parked =>
    obtain ⟨bus, other⟩ := parked
    by_cases same : bus = index <;> simp [same]

/-- A task that waits nowhere does not wait on any bus. -/
theorem onBus_of_idle {waits : Waits α} {id : TaskId} (idle : waits id = none) (index : Nat) :
    waits.onBus index id = none := by
  simp [onBus, idle]

/-- A task waits on one bus only. -/
theorem onBus_of_elsewhere {waits : Waits α} {id : TaskId} {index other : Nat}
    {suspended : Suspended α} (waiting : waits id = some (index, suspended))
    (apart : other ≠ index) : waits.onBus other id = none := by
  simp [onBus, waiting, apart.symm]

/-- A replaced wait is the one found afterwards. -/
@[simp] theorem reassign_self (waits : Waits α) (id : TaskId)
    (parked? : Option (Nat × Suspended α)) : waits.reassign id parked? id = parked? :=
  if_pos rfl

/-- The waits of the other tasks stay. -/
theorem reassign_of_ne (waits : Waits α) {id other : TaskId} (apart : other ≠ id)
    (parked? : Option (Nat × Suspended α)) : waits.reassign id parked? other = waits other :=
  if_neg apart

/-- Only the latest wait of a task counts. -/
@[simp] theorem reassign_reassign (waits : Waits α) (id : TaskId)
    (first second : Option (Nat × Suspended α)) :
    (waits.reassign id first).reassign id second = waits.reassign id second := by
  funext other
  by_cases same : other = id <;> simp [reassign, same]

/-- The calls on a bus after the wait of one task was replaced by one on that bus. -/
theorem onBus_reassign (waits : Waits α) (index : Nat) (id : TaskId)
    (suspended? : Option (Suspended α)) :
    (waits.reassign id (suspended?.map (index, ·))).onBus index =
      ChannelBus.reassign (waits.onBus index) id suspended? := by
  funext other
  by_cases same : other = id
  · subst same
    cases suspended? <;> simp [onBus, ChannelBus.reassign]
  · simp [onBus, ChannelBus.reassign, reassign_of_ne _ same, same]

/-- The calls on another bus than the one on which a task waits, before and after. -/
theorem onBus_reassign_of_ne {waits : Waits α} {index other : Nat} {id : TaskId}
    (apart : other ≠ index) (elsewhere : waits.onBus other id = none)
    (suspended? : Option (Suspended α)) :
    (waits.reassign id (suspended?.map (index, ·))).onBus other = waits.onBus other := by
  funext task
  by_cases same : task = id
  · subst same
    rw [elsewhere]
    cases suspended? <;> simp [onBus, apart.symm]
  · simp [onBus, reassign_of_ne _ same]

end Waits

/-- The tasks that have a seat on one of some buses. -/
def seated (buses : List (Bus α)) : List TaskId :=
  (buses.flatMap Bus.roster).filterMap (·.waker)

/-- Nothing is removed from a list that is not there. -/
theorem filter_ne_of_not_mem {ids : List TaskId} {id : TaskId} (absent : id ∉ ids) :
    ids.filter (· != id) = ids :=
  List.filter_eq_self.mpr fun other member => by
    simpa using fun same : other = id => absent (same ▸ member)

/-- The seats of a bus count apart from those of the others. -/
theorem seated_set {buses : List (Bus α)} {index : Nat} {bus : Bus α}
    (here : buses[index]? = some bus) : ∃ others : List TaskId,
      seated buses ~ bus.roster.filterMap (·.waker) ++ others ∧
      ∀ after, seated (buses.set index after) ~ after.roster.filterMap (·.waker) ++ others := by
  have first : ∀ (bus : Bus α) (rest : List (Bus α)),
      seated (bus :: rest) = bus.roster.filterMap (·.waker) ++ seated rest := by
    intro bus rest
    rw [seated, List.flatMap_cons, List.filterMap_append]
    rfl
  induction buses generalizing index with
  | nil => contradiction
  | cons other rest ih =>
    cases index with
    | zero =>
      obtain rfl : other = bus := Option.some.inj here
      exact ⟨seated rest, .of_eq (first _ _), fun after => .of_eq (first after rest)⟩
    | succ index =>
      obtain ⟨others, before, after⟩ := ih here
      refine ⟨other.roster.filterMap (·.waker) ++ others, ?_, fun replaced => ?_⟩
      · rw [first]
        exact (before.append_left _).trans (List.perm_append_comm_assoc _ _ _)
      · rw [List.set_cons_succ, first]
        exact ((after replaced).append_left _).trans (List.perm_append_comm_assoc _ _ _)

/-- No seat is that of a task that is not seated. -/
theorem waker_ne_of_unseated {buses : List (Bus α)} {id : TaskId} (unseated : id ∉ seated buses)
    {index : Nat} {bus : Bus α} (here : buses[index]? = some bus) {seat : Seat}
    (inside : seat ∈ bus.roster) : seat.waker ≠ some id := by
  intro own
  refine unseated (List.mem_filterMap.mpr ⟨seat, ?_, own⟩)
  exact List.mem_flatMap.mpr ⟨bus, List.mem_of_getElem? here, inside⟩

/-- The buses, the ready tasks, the live tasks and their waits belong together. -/
structure Balanced (buses : List (Bus α)) (ready live : List TaskId) (waits : Waits α) :
    Prop where
  /-- On every bus, every parcel has its call. -/
  housed : ∀ (index : Nat) (bus : Bus α), buses[index]? = some bus →
    bus.Housed (waits.onBus index)
  /-- On no bus is anybody queued in vain. -/
  served : ∀ (index : Nat) (bus : Bus α), buses[index]? = some bus → bus.Served Bus.noCredit
  /-- Every seat is that of a task which waits there. -/
  manned : ∀ (index : Nat) (bus : Bus α) (seat : Seat), buses[index]? = some bus →
    seat ∈ bus.roster → ∃ id suspended, waits id = some (index, suspended) ∧
      suspended.seat id = seat
  /-- Tasks wait on buses that exist. -/
  placed : ∀ id index suspended, waits id = some (index, suspended) → index < buses.length
  /-- Only live tasks wait. -/
  alive : ∀ id parked, waits id = some parked → id ∈ live
  /-- Every live task is ready or seated, once. -/
  accounted : ready ++ seated buses ~ live
  /-- The live tasks are listed once. -/
  distinct : live.Nodup

namespace Balanced

variable {buses : List (Bus α)} {ready live : List TaskId} {waits : Waits α}

/-- Buses without channels, and no task. -/
theorem new (configs : List Config) :
    Balanced (configs.map Bus.new : List (Bus α)) [] [] fun _ => none := by
  have isNew : ∀ (index : Nat) (bus : Bus α), (configs.map Bus.new)[index]? = some bus →
      ∃ config, bus = .new config := by
    intro index bus here
    rw [List.getElem?_map, Option.map_eq_some_iff] at here
    obtain ⟨config, _, rfl⟩ := here
    exact ⟨config, rfl⟩
  have empty : seated (configs.map Bus.new : List (Bus α)) = [] := by
    simp [seated, List.flatMap_map, Bus.new, Bus.roster]
  refine ⟨fun index bus here => ?_, fun index bus here => ?_, fun index bus seat here there => ?_,
    by simp, by simp, by simp [empty], List.nodup_nil⟩
  · obtain ⟨config, rfl⟩ := isNew index bus here
    exact Bus.housed_new config
  · obtain ⟨config, rfl⟩ := isNew index bus here
    intro handle channel opened
    simp [Bus.new, Bus.channel?] at opened
  · obtain ⟨config, rfl⟩ := isNew index bus here
    simp [Bus.new, Bus.roster] at there

/-- The order in which tasks are listed does not matter. -/
theorem perm (balanced : Balanced buses ready live waits) {other : List TaskId}
    (same : live ~ other) : Balanced buses ready other waits :=
  { balanced with
    alive := fun id parked waiting => same.mem_iff.mp (balanced.alive id parked waiting)
    accounted := balanced.accounted.trans same
    distinct := same.nodup_iff.mp balanced.distinct }

/-- There are only finitely many tasks that wait. -/
theorem bounded (balanced : Balanced buses ready live waits) :
    ∃ limit, ∀ (index : Nat) (id : TaskId) (suspended : Suspended α),
      waits.onBus index id = some suspended → id < limit := by
  have limited : ∀ ids : List Nat, ∃ limit, ∀ id ∈ ids, id < limit := by
    intro ids
    induction ids with
    | nil => exact ⟨0, nofun⟩
    | cons first rest ih =>
      obtain ⟨limit, below⟩ := ih
      refine ⟨max (first + 1) limit, fun id member => ?_⟩
      rcases List.mem_cons.mp member with rfl | later
      · omega
      · have := below id later
        omega
  obtain ⟨limit, below⟩ := limited live
  exact ⟨limit, fun index id suspended waiting =>
    below id (balanced.alive id _ (Waits.onBus_eq_some_iff.mp waiting))⟩

/-- No task is both ready and seated, or twice. -/
theorem nodup (balanced : Balanced buses ready live waits) : (ready ++ seated buses).Nodup :=
  balanced.accounted.nodup_iff.mpr balanced.distinct

/-- A task that is ready has no seat. -/
theorem not_seated (balanced : Balanced buses ready live waits) {id : TaskId}
    (isReady : id ∈ ready) : id ∉ seated buses :=
  fun isSeated => (List.nodup_append.mp balanced.nodup).2.2 id isReady id isSeated rfl

/-- A task has the seat of its wait as long as it is queued, and is ready otherwise. -/
theorem holds_iff (balanced : Balanced buses ready live waits) {id : TaskId} {index : Nat}
    {bus : Bus α} {suspended : Suspended α} (here : buses[index]? = some bus)
    (waiting : waits id = some (index, suspended)) :
    (bus.ticketQueue suspended.ticket).holds suspended.ticket.key = true ↔
      id ∈ seated buses := by
  have housed := balanced.housed index bus here
  have onBus := Waits.onBus_eq_some_iff.mpr waiting
  rw [(housed.houses id suspended onBus).holds_iff housed.sound]
  constructor
  · rintro ⟨seat, inside, same⟩
    obtain ⟨owner, another, waitsHere, rfl⟩ := balanced.manned index bus seat here inside
    obtain rfl : owner = id := housed.apart owner id another suspended
      (Waits.onBus_eq_some_iff.mpr waitsHere) onBus same
    refine List.mem_filterMap.mpr ⟨another.seat owner, ?_, rfl⟩
    exact List.mem_flatMap.mpr ⟨bus, List.mem_of_getElem? here, inside⟩
  · intro isSeated
    obtain ⟨seat, inside, named⟩ := List.mem_filterMap.mp isSeated
    obtain ⟨other, member, inOther⟩ := List.mem_flatMap.mp inside
    obtain ⟨number, there⟩ := List.mem_iff_getElem?.mp member
    obtain ⟨owner, another, waitsThere, rfl⟩ := balanced.manned number other seat there inOther
    obtain rfl : owner = id := Option.some.inj named
    rw [waiting] at waitsThere
    obtain ⟨rfl, rfl⟩ := Prod.mk.inj (Option.some.inj waitsThere)
    obtain rfl : bus = other := Option.some.inj (here.symm.trans there)
    exact ⟨_, inOther, rfl⟩

/-- A task that waits and has no seat was taken out of the queue. -/
theorem dequeued (balanced : Balanced buses ready live waits) {id : TaskId} {index : Nat}
    {bus : Bus α} {suspended : Suspended α} (here : buses[index]? = some bus)
    (waiting : waits id = some (index, suspended)) (unseated : id ∉ seated buses) :
    (bus.ticketQueue suspended.ticket).holds suspended.ticket.key = false := by
  rw [Bool.eq_false_iff]
  exact fun holds => unseated ((balanced.holds_iff here waiting).mp holds)

/-- A task that neither waits nor has a seat leaves. -/
theorem remove (balanced : Balanced buses ready live waits) {id : TaskId}
    (idle : waits id = none) (unseated : id ∉ seated buses) :
    Balanced buses (ready.filter (· != id)) (live.filter (· != id)) waits := by
  refine { balanced with
    alive := fun task parked waiting => ?_
    accounted := ?_
    distinct := balanced.distinct.filter _ }
  · have apart : task ≠ id := by
      rintro rfl
      rw [idle] at waiting
      contradiction
    exact List.mem_filter.mpr ⟨balanced.alive task parked waiting, by simpa using apart⟩
  · have left := balanced.accounted.filter (· != id)
    rwa [List.filter_append, filter_ne_of_not_mem unseated] at left

/-- A task joins, ready to run. -/
theorem enlist (balanced : Balanced buses ready live waits) {id : TaskId} (absent : id ∉ live) :
    Balanced buses (ready ++ [id]) (id :: live) waits := by
  refine { balanced with
    alive := fun task parked waiting =>
      List.mem_cons_of_mem _ (balanced.alive task parked waiting)
    accounted := ?_
    distinct := List.nodup_cons.mpr ⟨absent, balanced.distinct⟩ }
  rw [List.append_assoc]
  exact List.perm_middle.trans (balanced.accounted.cons id)

section Operating

variable {index : Nat} {bus : Bus α} {id : TaskId} {suspended? : Option (Suspended α)}

/-- A task goes on and perhaps waits again, on a bus that it has changed. -/
theorem set (balanced : Balanced buses ready live waits) (here : buses[index]? = some bus)
    {after : Bus α} {readyAfter : List TaskId} (suspended? : Option (Suspended α))
    (housed : after.Housed (reassign (waits.onBus index) id suspended?))
    (served : after.Served Bus.noCredit)
    (elsewhere : ∀ other, other ≠ index → waits.onBus other id = none)
    (seats : ∀ seat ∈ after.roster, (∃ suspended, suspended? = some suspended ∧
      suspended.seat id = seat) ∨ seat ∈ bus.roster ∧ seat.waker ≠ some id)
    (others : ∀ other another, other ≠ index → buses[other]? = some another →
      ∀ seat ∈ another.roster, seat.waker ≠ some id)
    (accounted : readyAfter ++ seated (buses.set index after) ~
      suspended?.toList.map (fun _ => id) ++ live.filter (· != id)) :
    Balanced (buses.set index after) readyAfter
      (suspended?.toList.map (fun _ => id) ++ live.filter (· != id))
      (waits.reassign id (suspended?.map (index, ·))) := by
  have placed := (List.getElem?_eq_some_iff.mp here).1
  have former : ∀ other another, (buses.set index after)[other]? = some another →
      other = index ∧ another = after ∨ other ≠ index ∧ buses[other]? = some another := by
    intro other another there
    by_cases same : other = index
    · subst same
      rw [List.getElem?_set_self placed] at there
      exact .inl ⟨rfl, (Option.some.inj there).symm⟩
    · rw [List.getElem?_set_ne (Ne.symm same)] at there
      exact .inr ⟨same, there⟩
  have stays : ∀ other another seat, buses[other]? = some another → seat ∈ another.roster →
      seat.waker ≠ some id → ∃ task suspended,
        waits.reassign id (suspended?.map (index, ·)) task = some (other, suspended) ∧
        suspended.seat task = seat := by
    intro other another seat there inside foreign
    obtain ⟨task, suspended, waiting, rfl⟩ := balanced.manned other another seat there inside
    have apart : task ≠ id := fun same => foreign (congrArg some same)
    exact ⟨task, suspended, (waits.reassign_of_ne apart _).trans waiting, rfl⟩
  refine ⟨fun other another there => ?_, fun other another there => ?_,
    fun other another seat there inside => ?_, fun task other suspended waiting => ?_,
    fun task parked waiting => ?_, accounted, ?_⟩
  · rcases former other another there with ⟨rfl, rfl⟩ | ⟨apart, before⟩
    · rw [Waits.onBus_reassign]
      exact housed
    · rw [Waits.onBus_reassign_of_ne apart (elsewhere other apart)]
      exact balanced.housed other another before
  · rcases former other another there with ⟨rfl, rfl⟩ | ⟨_, before⟩
    · exact served
    · exact balanced.served other another before
  · rcases former other another there with ⟨rfl, rfl⟩ | ⟨apart, before⟩
    · rcases seats seat inside with ⟨suspended, rfl, same⟩ | ⟨old, foreign⟩
      · exact ⟨id, suspended, waits.reassign_self id _, same⟩
      · exact stays other bus seat here old foreign
    · exact stays other another seat before inside (others other another apart before seat inside)
  · rw [List.length_set]
    by_cases same : task = id
    · subst same
      rw [Waits.reassign_self, Option.map_eq_some_iff] at waiting
      obtain ⟨_, _, equal⟩ := waiting
      exact (Prod.mk.inj equal).1 ▸ placed
    · rw [waits.reassign_of_ne same] at waiting
      exact balanced.placed task other suspended waiting
  · by_cases same : task = id
    · subst same
      rw [Waits.reassign_self, Option.map_eq_some_iff] at waiting
      obtain ⟨suspended, rfl, _⟩ := waiting
      simp
    · rw [waits.reassign_of_ne same] at waiting
      have member := balanced.alive task parked waiting
      exact List.mem_append_right _ (List.mem_filter.mpr ⟨member, by simpa using same⟩)
  · have absent : id ∉ live.filter (· != id) := by simp
    cases suspended? with
    | none => exact balanced.distinct.filter _
    | some suspended => exact List.nodup_cons.mpr ⟨absent, balanced.distinct.filter _⟩

/-- A task without a seat goes on: those who lose their seats become ready, and it may take one. -/
theorem operate (balanced : Balanced buses ready live waits) (here : buses[index]? = some bus)
    {outcome : Outcome α β} (unseated : id ∉ seated buses)
    (elsewhere : ∀ other, other ≠ index → waits.onBus other id = none)
    (settles : bus.Settles (waits.onBus index) id outcome suspended?) :
    Balanced (buses.set index outcome.bus)
      (ready.filter (· != id) ++ outcome.notices.filterMap Notice.wakes?)
      (suspended?.toList.map (fun _ => id) ++ live.filter (· != id))
      (waits.reassign id (suspended?.map (index, ·))) := by
  obtain ⟨woken, rung, moved⟩ := settles.rings
  obtain ⟨others, before, after⟩ := seated_set here
  refine balanced.set here suspended? settles.housed settles.served elsewhere
    (fun seat inside => ?_)
    (fun other another _ there seat inside => waker_ne_of_unseated unseated there inside) ?_
  · have old : seat ∈ suspended?.toList.map (·.seat id) ++ bus.roster :=
      moved.mem_iff.mpr (List.mem_append_right _ inside)
    rcases List.mem_append.mp old with own | stayed
    · obtain ⟨suspended, parks, same⟩ := List.mem_map.mp own
      exact .inl ⟨suspended, Option.mem_toList.mp parks, same⟩
    · exact .inr ⟨stayed, waker_ne_of_unseated unseated here stayed⟩
  · have kept := filter_ne_of_not_mem unseated
    have left : ready.filter (· != id) ++ seated buses ~ live.filter (· != id) := by
      have filtered := balanced.accounted.filter (· != id)
      rwa [List.filter_append, kept] at filtered
    have own : (suspended?.toList.map (·.seat id)).filterMap (·.waker) =
        suspended?.toList.map fun _ => id := by
      cases suspended? <;> rfl
    have wakers := moved.filterMap (·.waker)
    rw [List.filterMap_append, List.filterMap_append, own, ← rung] at wakers
    let rings := outcome.notices.filterMap Notice.wakes?
    let ids := suspended?.toList.map fun _ => id
    calc
      ready.filter (· != id) ++ rings ++ seated (buses.set index outcome.bus)
        ~ ready.filter (· != id) ++
            (rings ++ (outcome.bus.roster.filterMap (·.waker) ++ others)) := by
          rw [List.append_assoc]
          exact ((after outcome.bus).append_left _).append_left _
      _ ~ ready.filter (· != id) ++ (ids ++ (bus.roster.filterMap (·.waker) ++ others)) := by
          rw [← List.append_assoc rings, ← List.append_assoc ids]
          exact (wakers.symm.append_right _).append_left _
      _ ~ ready.filter (· != id) ++ (ids ++ seated buses) :=
          (before.symm.append_left _).append_left _
      _ ~ ids ++ (ready.filter (· != id) ++ seated buses) := List.perm_append_comm_assoc _ _ _
      _ ~ ids ++ live.filter (· != id) := left.append_left _

/-- A queued task is withdrawn: it gives up its seat. -/
theorem withdraw (balanced : Balanced buses ready live waits) (here : buses[index]? = some bus)
    {suspended : Suspended α} (waiting : waits id = some (index, suspended))
    (queued : (bus.ticketQueue suspended.ticket).holds suspended.ticket.key = true) :
    Balanced (buses.set index (bus.cancel suspended).bus) (ready.filter (· != id))
      (live.filter (· != id)) (waits.reassign id none) := by
  have onBus := Waits.onBus_eq_some_iff.mpr waiting
  have housed := balanced.housed index bus here
  obtain ⟨_, waker, moved⟩ := housed.sound.cancel_queued queued
  obtain ⟨settled, served, _⟩ := housed.settles_cancel (balanced.served index bus here) onBus
  have own : waker = some id := by
    have member : (⟨suspended.ticket.address, waker⟩ : Seat) ∈ bus.roster :=
      moved.mem_iff.mpr List.mem_cons_self
    obtain ⟨owner, another, waitsHere, same⟩ := balanced.manned index bus _ here member
    have address := congrArg Seat.address same
    obtain rfl : owner = id := housed.apart owner id another suspended
      (Waits.onBus_eq_some_iff.mpr waitsHere) onBus address
    exact (congrArg Seat.waker same).symm
  subst own
  obtain ⟨others, before, after⟩ := seated_set here
  have split : seated buses ~ id :: seated (buses.set index (bus.cancel suspended).bus) := by
    calc
      seated buses
        ~ bus.roster.filterMap (·.waker) ++ others := before
      _ ~ id :: ((bus.cancel suspended).bus.roster.filterMap (·.waker) ++ others) :=
          (moved.filterMap (·.waker)).append_right others
      _ ~ id :: seated (buses.set index (bus.cancel suspended).bus) :=
          (after (bus.cancel suspended).bus).symm.cons id
  have distinct : (id :: (ready ++ seated (buses.set index (bus.cancel suspended).bus))).Nodup := by
    have nodup := ((split.append_left ready).trans List.perm_middle).nodup_iff.mp balanced.nodup
    exact nodup
  obtain ⟨absent, _⟩ := List.nodup_cons.mp distinct
  have unseated : id ∉ seated (buses.set index (bus.cancel suspended).bus) := fun isSeated =>
    absent (List.mem_append_right _ isSeated)
  have placed := (List.getElem?_eq_some_iff.mp here).1
  refine balanced.set here none settled served (fun other apart => ?_)
    (fun seat inside => .inr ⟨moved.mem_iff.mpr (List.mem_cons_of_mem _ inside), ?_⟩)
    (fun other another apart there seat inside => ?_) ?_
  · exact Waits.onBus_of_elsewhere waiting apart
  · exact waker_ne_of_unseated unseated (List.getElem?_set_self placed) inside
  · have still : (buses.set index (bus.cancel suspended).bus)[other]? = some another :=
      (List.getElem?_set_ne (Ne.symm apart)).trans there
    exact waker_ne_of_unseated unseated still inside
  · have kept := filter_ne_of_not_mem unseated
    have filtered := ((split.append_left ready).symm.trans balanced.accounted).filter (· != id)
    rw [List.filter_append, List.filter_cons_of_neg (by simp), kept] at filtered
    exact filtered

end Operating

end Balanced

end ChannelBus
