import ChannelBus.Proofs.Fifo
import ChannelBus.Proofs.Spreading

/-!
# Broadcasts are atomic

`Session.Broadcasts` gathers what a session shows of broadcasts. Each attempt goes ahead on all open
channels or on none. One that never waits does, if it succeeds, the same as sending the value to
every open channel in turn. And a call that waits has given its copies at its last turn, the one
with which it succeeds, and nothing before. The counter of sent values takes part in this only if
telemetry is on.
-/

namespace ChannelBus

variable {α : Type}

/-- Whether a move lets a call wait; a request never does. -/
def Move.mayWait : Move α → Bool
  | .request _ => false
  | .start _ _ | .poll _ _ | .drop _ | .overwrite _ => true

/-- Nothing that wakes a wait touches the error slot. -/
theorem ErrorCode.afterHearing_wokenNotices (code : ErrorCode) (waits : List (Wait α)) :
    code.afterHearing (waits.map (·.wokenNotice)) = code := by
  induction waits with
  | nil => rfl
  | cons wait rest ih => exact ih

/-! ## Sending to every channel in turn -/

/-- Values sent one after the other are counted like values sent at once. -/
theorem Stats.countSent_countSent (values woken more others : Nat) :
    (Stats.countSent · more others) ∘ (Stats.countSent · values woken) =
      (Stats.countSent · (values + more) (woken + others)) := by
  funext stats
  simp only [Function.comp_apply, countSent, Nat.add_assoc]

namespace Bus

/-- The open channels of a part of the registry whose slots are counted from `first`. -/
def openFrom (first : Nat) (slots : List (Option (Channel α))) : List (Handle × Channel α) :=
  (slots.zipIdx first).filterMap fun (slot, id) => slot.map fun channel => (⟨id⟩, channel)

/-- An open channel comes before those of higher slots. -/
theorem openFrom_open (first : Nat) (channel : Channel α) (rest : List (Option (Channel α))) :
    openFrom first (some channel :: rest) = (⟨first⟩, channel) :: openFrom (first + 1) rest := rfl

/-- Counting and replacing the registry do not interfere. -/
theorem note_slots (bus : Bus α) (update : Stats → Stats) (slots : List (Option (Channel α))) :
    ({ bus.note update with slots } : Bus α) = ({ bus with slots } : Bus α).note update := by
  unfold note
  split <;> rfl

end Bus

namespace Session

variable [Stored α] {session : Session α}

/-- The tasks that a move wakes, in order. -/
def wakes (session : Session α) (move : Move α) : List TaskId :=
  (session.act move).notices.filterMap Notice.wakes?

/-- Sending to a channel with room gives it the value. -/
theorem step_trySend {handle : Handle} {channel : Channel α}
    (here : session.bus.channel? handle = some channel) (spare : channel.isFull = false)
    (value : α) :
    let given := channel.give value
    session.step (.request (.trySend handle value)) = { session with
        bus := (session.bus.setChannel handle given.2).note (·.countSent 1 given.1.length) } ∧
      session.wakes (.request (.trySend handle value)) = given.1.filterMap (·.waker) ∧
      session.reply? (.request (.trySend handle value)) = some (.sent (.ok ())) := by
  intro given
  have accepted : channel.accept value = some given := by
    simp [given, Channel.give, Channel.accept_eq, spare]
  have outcome : session.act (.request (.trySend handle value)) =
      { result := some (.ended (.sent (.ok ())))
        bus := (session.bus.setChannel handle given.2).note (·.countSent 1 given.1.length)
        notices := given.1.map (·.wokenNotice) } := by
    simp [act, Bus.perform, Bus.trySend, Bus.push, Bus.lookup, here, accepted, Outcome.map,
      Except.toOption, Answer.status?]
  refine ⟨?_, ?_, ?_⟩
  · unfold step
    rw [outcome]
    simp only [ErrorCode.afterHearing_wokenNotices, recording]
  · rw [wakes, outcome, Bus.wakes?_wokenNotices]
  · rw [reply?, outcome]
    rfl

/-- Sending to the channels of one part of the registry gives each of them the value. -/
theorem run_trySends (value : α) (rest : List (Option (Channel α))) :
    ∀ (done : List (Option (Channel α))) (session : Session α),
      session.bus.slots = done ++ rest →
      (∀ channel, some channel ∈ rest → channel.isFull = false) →
      let entries := Bus.openFrom done.length rest
      let sends := entries.map fun entry => Move.request (.trySend entry.1 value)
      let woken := entries.flatMap fun entry => (entry.2.give value).1
      session.run sends = { session with
          bus := ({ session.bus with
            slots := done ++ rest.map (Option.map fun channel => (channel.give value).2) }
              : Bus α).note (·.countSent entries.length woken.length) } ∧
        ((session.trail sends).flatMap fun entry => entry.1.wakes entry.2) =
          woken.filterMap (·.waker) ∧
        ∀ entry ∈ session.trail sends, entry.1.reply? entry.2 = some (.sent (.ok ())) := by
  induction rest with
  | nil =>
    intro done session slots spare
    refine ⟨?_, rfl, fun _ listed => absurd listed List.not_mem_nil⟩
    have same : ({ session.bus with slots := done ++ [] } : Bus α) = session.bus := by
      rw [← slots]
    change session = { session with
      bus := ({ session.bus with slots := done ++ [] } : Bus α).note id }
    rw [same, Bus.note_id]
  | cons slot rest ih =>
    intro done session slots spare
    have later : ∀ channel, some channel ∈ rest → channel.isFull = false := fun channel listed =>
      spare channel (List.mem_cons_of_mem slot listed)
    cases slot with
    | none =>
      have following := ih (done ++ [none]) session (by rw [slots, List.append_assoc]; rfl) later
      rw [List.length_append, List.append_assoc] at following
      exact following
    | some channel =>
      have here : session.bus.channel? ⟨done.length⟩ = some channel := by
        simp [Bus.channel?, slots]
      obtain ⟨sent, woke, replied⟩ :=
        step_trySend here (spare channel List.mem_cons_self) value
      have replaced : (session.step (.request (.trySend ⟨done.length⟩ value))).bus.slots =
          (done ++ [some (channel.give value).2]) ++ rest := by
        rw [sent, Bus.slots_note, Bus.setChannel, slots, List.append_assoc]
        exact List.set_append_right _ _ (Nat.le_refl _) |>.trans (by rw [Nat.sub_self]; rfl)
      obtain ⟨reached, rung, answered⟩ := ih _ _ replaced later
      rw [List.length_append, List.append_assoc] at reached
      rw [List.length_append] at rung answered
      refine ⟨?_, ?_, ?_⟩
      · refine reached.trans ?_
        rw [sent]
        simp only [Bus.setChannel, Bus.note_slots, Bus.note_note, Stats.countSent_countSent]
        rw [Bus.openFrom_open, List.flatMap_cons, List.length_append, List.length_cons,
          Nat.add_comm 1]
        rfl
      · simp only [Bus.openFrom_open, List.map_cons, trail, List.flatMap_cons,
          List.filterMap_append]
        rw [woke]
        exact congrArg _ rung
      · intro entry listed
        rcases List.mem_cons.mp listed with rfl | listed
        · exact replied
        · exact answered entry listed

/-- A request to broadcast that succeeds gives every open channel its copy. -/
theorem act_tryBroadcast {value : α}
    (sent : session.reply? (.request (.tryBroadcast value)) = some (.sent (.ok ()))) :
    (∀ handle channel, session.bus.channel? handle = some channel → channel.isFull = false) ∧
      session.act (.request (.tryBroadcast value)) =
        (session.bus.giveAll value).map fun _ => some (.ended (.sent (.ok ()))) := by
  rcases session.bus.tryBroadcast_cases value with ⟨error, failed⟩ | ⟨spare, something, given⟩
  · simp [reply?, act, Bus.perform, failed, Bus.fail, Outcome.map, Except.toOption,
      Answer.status?, Status.reply?] at sent
  · refine ⟨spare, ?_⟩
    simp [act, Bus.perform, given, Outcome.map, Except.toOption, Answer.status?]

/-- A request to broadcast that succeeds does the same as sending to every open channel in turn,
from the lowest handle on. -/
theorem step_tryBroadcast {value : α}
    (sent : session.reply? (.request (.tryBroadcast value)) = some (.sent (.ok ()))) :
    let sends := session.bus.handles.map fun handle => Move.request (.trySend handle value)
    session.step (.request (.tryBroadcast value)) = session.run sends ∧
      session.wakes (.request (.tryBroadcast value)) =
        ((session.trail sends).flatMap fun entry => entry.1.wakes entry.2) ∧
      ∀ entry ∈ session.trail sends, entry.1.reply? entry.2 = some (.sent (.ok ())) := by
  intro sends
  obtain ⟨spare, outcome⟩ := act_tryBroadcast sent
  have room : ∀ channel, some channel ∈ session.bus.slots → channel.isFull = false := by
    intro channel listed
    obtain ⟨index, within, same⟩ := List.getElem_of_mem listed
    refine spare ⟨index⟩ channel (Bus.channel?_eq_some_iff.mpr ?_)
    rw [List.getElem?_eq_getElem within, same]
  obtain ⟨reached, rung, answered⟩ := run_trySends value session.bus.slots [] session rfl room
  have same : sends = (Bus.openFrom 0 session.bus.slots).map fun entry =>
      Move.request (.trySend entry.1 value) := List.map_map
  rw [same]
  refine ⟨?_, ?_, answered⟩
  · rw [List.length_nil] at reached
    rw [reached]
    unfold step
    rw [outcome]
    have still : session.lastError.afterHearing (session.bus.giveAll value).notices =
        session.lastError := by
      unfold ErrorCode.afterHearing Bus.giveAll
      rw [List.foldl_append]
      exact ErrorCode.afterHearing_wokenNotices session.lastError _
    simp only [Outcome.map, still, recording]
    rfl
  · rw [List.length_nil] at rung
    rw [rung, wakes, outcome]
    unfold Bus.giveAll
    simp only [Outcome.map, List.filterMap_append, Bus.wakes?_wokenNotices]
    exact List.append_nil _

/-! ## The turns of one call -/

/-- The moves among some that start, poll or drop a call. -/
def turnsOf (id : Nat) (history : List (Session α × Move α)) : List (Session α × Move α) :=
  history.filter fun entry => entry.1.caller? entry.2 = some id

/-- The calls that a move does not start, poll or drop stay as they are. -/
theorem calls_of_other {move : Move α} {id : Nat} (other : session.caller? move ≠ some id) :
    (session.step move).calls[id]? = session.calls[id]? := by
  have modified : ∀ (polled : Nat) (status : Status α), polled ≠ id →
      (session.calls.modify polled fun record => { record with status })[id]? =
        session.calls[id]? := by
    intro polled status apart
    exact List.getElem?_modify_ne _ _ apart
  have polls : ∀ polled suspended, session.waiting? polled = some suspended →
      (session.waiting? polled).map (fun _ => polled) ≠ some id → polled ≠ id := by
    intro polled suspended waits other same
    apply other
    rw [waits, same]
    rfl
  cases move with
  | request | overwrite => rfl
  | start call waker =>
    have apart : id ≠ session.calls.length := fun same => other (congrArg some same.symm)
    simp only [step, act, recording, Outcome.map]
    rcases Nat.lt_or_gt_of_ne apart with before | beyond
    · exact List.getElem?_append_left before
    · rw [List.getElem?_append_right (Nat.le_of_lt beyond),
        List.getElem?_eq_none (Nat.le_of_lt beyond)]
      exact List.getElem?_eq_none (Nat.sub_pos_of_lt beyond)
  | poll polled waker =>
    cases waits : session.waiting? polled with
    | none => simp [step, act, waits, recording, Bus.unchanged]
    | some suspended =>
      simp only [step, act, waits, recording, Outcome.map]
      exact modified polled _ (polls polled suspended waits other)
  | drop polled =>
    cases waits : session.waiting? polled with
    | none => simp [step, act, waits, recording, Bus.unchanged]
    | some suspended =>
      simp only [step, act, waits, recording, Outcome.map]
      exact modified polled _ (polls polled suspended waits other)

/-- A call whose turn it is was waiting, unless it is only started then. -/
theorem waits_of_turn {move : Move α} {id : Nat} (turn : session.caller? move = some id)
    {prior : Record α} (here : session.calls[id]? = some prior) :
    ∃ suspended, session.waiting? id = some suspended ∧
      ∃ status, (session.step move).calls[id]? = some { prior with status } := by
  have modified : ∀ status : Status α,
      (session.calls.modify id fun record => { record with status })[id]? =
        some { prior with status } := fun status => by simp [here]
  cases move with
  | request | overwrite => contradiction
  | start call waker =>
    obtain rfl := Option.some.inj turn
    rw [List.getElem?_eq_none (Nat.le_refl _)] at here
    contradiction
  | poll polled waker =>
    obtain ⟨suspended, waits, rfl⟩ := Option.map_eq_some_iff.mp turn
    refine ⟨suspended, waits, (session.bus.resume suspended waker).result.status, ?_⟩
    simp only [step, act, waits]
    exact modified _
  | drop polled =>
    obtain ⟨suspended, waits, rfl⟩ := Option.map_eq_some_iff.mp turn
    refine ⟨suspended, waits, .dropped, ?_⟩
    simp only [step, act, waits]
    exact modified _

/-- A call that takes its first turn or another one has a record afterwards. -/
theorem lt_of_turn {move : Move α} {id : Nat} (turn : session.caller? move = some id) :
    id < (session.step move).calls.length := by
  obtain ⟨record, here, _⟩ := record_of_caller turn
  exact (List.getElem?_eq_some_iff.mp here).1

/-- How the bus changes at a turn of a broadcast, by where the call stands afterwards. -/
def Told (before : Session α) (move : Move α) (value : α) (status : Status α) : Prop :=
  (status = .ended (.sent (.ok ())) ∧
    before.bus.Spread (before.step move).bus value true (before.wakes move)) ∨
  (status ≠ .ended (.sent (.ok ())) ∧ before.bus.Untouched (before.step move).bus)

/-- What a poll of a call leads to tells where the call stands. -/
theorem told_of_progress {move : Move α} {value : α} {status : Status α}
    (outcome : Outcome α (Progress α))
    (made : session.act move = outcome.map fun progress => some progress.status)
    (left : (session.act move).result = some status)
    (cases : (outcome.result = .finished (.sent (.ok ())) ∧ session.bus.Spread outcome.bus value
        true (outcome.notices.filterMap Notice.wakes?)) ∨
      (outcome.result ≠ .finished (.sent (.ok ())) ∧ session.bus.Untouched outcome.bus)) :
    session.Told move value status := by
  have after : (session.step move).bus = outcome.bus := by rw [bus_step, made]; rfl
  have woken : session.wakes move = outcome.notices.filterMap Notice.wakes? := by
    rw [wakes, made]
    rfl
  obtain rfl : outcome.result.status = status := by
    rw [made] at left
    exact Option.some.inj left
  rcases cases with ⟨sent, spread⟩ | ⟨unsent, untouched⟩
  · refine .inl ⟨by rw [sent]; rfl, ?_⟩
    rw [after, woken]
    exact spread
  · refine .inr ⟨fun sent => ?_, after ▸ untouched⟩
    cases result : outcome.result with
    | parked suspended =>
      rw [result] at sent
      contradiction
    | finished reply =>
      rw [result] at sent unsent
      exact unsent (congrArg Progress.finished (Status.ended.inj sent))

/-- A broadcast that takes a turn goes ahead on all channels, or it gives nothing to anybody. -/
theorem Lawful.told (lawful : session.Lawful) {move : Move α} {id : Nat}
    (turn : session.caller? move = some id) {record : Record α} {value : α}
    (here : (session.step move).calls[id]? = some record)
    (everywhere : record.call = .broadcast value) : session.Told move value record.status := by
  have sound := lawful.housed.sound
  have left : (session.act move).result = some record.status := by
    obtain ⟨same, sameHere, result⟩ := record_of_caller turn
    obtain rfl : record = same := Option.some.inj (here.symm.trans sameHere)
    exact result
  -- A call that waits keeps the value that it was started with.
  have kept : ∀ suspended, session.waiting? id = some suspended →
      suspended.call = .broadcast value := by
    intro suspended waits
    obtain ⟨prior, priorHere, status⟩ := record_of_waiting? waits
    obtain ⟨_, _, _, now⟩ := waits_of_turn turn priorHere
    obtain rfl := Option.some.inj (now.symm.trans here)
    exact (lawful.recorded id prior suspended priorHere status).call.trans everywhere
  cases move with
  | request | overwrite => contradiction
  | start call waker =>
    obtain rfl := Option.some.inj turn
    have started : call = .broadcast value := by
      simp only [Session.step, act, recording, Outcome.map, List.getElem?_concat_length,
        Option.some.injEq] at here
      rw [← here] at everywhere
      exact everywhere
    subst started
    refine told_of_progress (session.bus.start (.broadcast value) waker) rfl left ?_
    cases enabled : session.bus.config.enables (.broadcast value) with
    | true =>
      rw [Bus.start_broadcast enabled]
      exact sound.spread_broadcastTry value none waker
    | false =>
      rw [Bus.start_of_disabled enabled]
      refine .inr ⟨fun sent => ?_,
        session.bus.untouched_note (·.countError .notImplemented) fun _ => rfl⟩
      cases sent
  | poll polled waker =>
    obtain ⟨suspended, waits, rfl⟩ := Option.map_eq_some_iff.mp turn
    refine told_of_progress (session.bus.resume suspended waker) (by simp only [act, waits]) left ?_
    exact (lawful.housed.houses polled suspended waits).spread_resume sound (kept suspended waits)
      waker
  | drop polled =>
    obtain ⟨suspended, waits, rfl⟩ := Option.map_eq_some_iff.mp turn
    have houses := lawful.housed.houses polled suspended waits
    have dropped : record.status = .dropped := by
      simp only [act, waits, Outcome.map] at left
      exact (Option.some.inj left).symm
    refine .inr ⟨fun sent => ?_, ?_⟩
    · rw [dropped] at sent
      cases sent
    · simp only [bus_step, act, waits, Outcome.map]
      exact houses.untouched_cancel sound (kept suspended waits)

/-- A request to broadcast goes ahead on all channels, or it gives nothing to anybody. -/
theorem Lawful.told_request (lawful : session.Lawful) (value : α) :
    let move := Move.request (.tryBroadcast value)
    (session.reply? move = some (.sent (.ok ())) ∧
      session.bus.Spread (session.step move).bus value false (session.wakes move)) ∨
    (session.reply? move ≠ some (.sent (.ok ())) ∧
      session.bus.Untouched (session.step move).bus) := by
  intro move
  have made : session.act move = (session.bus.tryBroadcast value).map fun result =>
      some (.ended (.sent result)) := rfl
  have after : (session.step move).bus = (session.bus.tryBroadcast value).bus := by
    rw [bus_step, made]
    rfl
  have woken : session.wakes move =
      (session.bus.tryBroadcast value).notices.filterMap Notice.wakes? := by
    rw [wakes, made]
    rfl
  have replies : session.reply? move = some (.sent (session.bus.tryBroadcast value).result) := by
    rw [reply?, made]
    rfl
  rw [after, woken, replies]
  rcases lawful.housed.sound.spread_tryBroadcast value with ⟨sent, spread⟩ | ⟨unsent, untouched⟩
  · exact .inl ⟨by rw [sent], spread⟩
  · exact .inr ⟨fun same => unsent (Reply.sent.inj (Option.some.inj same)), untouched⟩

/-! ## All turns of all broadcasts -/

/-- What the broadcasts of a session have done in its history. -/
structure Copied (session : Session α) (history : List (Session α × Move α)) : Prop where
  /-- The session is lawful. -/
  lawful : session.Lawful
  /-- Only calls that were started took turns. -/
  started : ∀ id, turnsOf id history ≠ [] → id < session.calls.length
  /-- A broadcast that has not succeeded has given nothing to anybody. -/
  unsent : ∀ (id : Nat) (record : Record α) (value : α), session.calls[id]? = some record →
    record.call = .broadcast value → record.status ≠ .ended (.sent (.ok ())) →
    ∀ entry ∈ turnsOf id history, entry.1.bus.Untouched (entry.1.step entry.2).bus
  /-- One that has succeeded went ahead at its last turn and gave nothing to anybody before. -/
  sent : ∀ (id : Nat) (record : Record α) (value : α), session.calls[id]? = some record →
    record.call = .broadcast value → record.status = .ended (.sent (.ok ())) →
    ∃ earlier before move, turnsOf id history = earlier ++ [(before, move)] ∧
      before.bus.Spread (before.step move).bus value true (before.wakes move) ∧
      ∀ entry ∈ earlier, entry.1.bus.Untouched (entry.1.step entry.2).bus

/-- Nothing was broadcast in a new session. -/
theorem copied_new (config : Config) : (new config : Session α).Copied [] := by
  refine ⟨lawful_new config, fun _ turns => absurd rfl turns, fun id record value here => ?_,
    fun id record value here => ?_⟩
  · cases here
  · cases here

section Taking

variable {history : List (Session α × Move α)}

omit [Stored α] in
/-- The turns of a call after one more move. -/
theorem turnsOf_concat (id : Nat) (move : Move α) : turnsOf id (history ++ [(session, move)]) =
    turnsOf id history ++ if session.caller? move = some id then [(session, move)] else [] := by
  unfold turnsOf
  rw [List.filter_append, List.filter_cons, List.filter_nil]
  simp only [decide_eq_true_eq]

/-- Before a turn of a broadcast nobody was given anything. -/
theorem Copied.untouched_before (copied : session.Copied history) {move : Move α} {id : Nat}
    (turn : session.caller? move = some id) {record : Record α} {value : α}
    (here : (session.step move).calls[id]? = some record)
    (everywhere : record.call = .broadcast value) :
    ∀ entry ∈ turnsOf id history, entry.1.bus.Untouched (entry.1.step entry.2).bus := by
  cases before : session.calls[id]? with
  | none =>
    have none : turnsOf id history = [] := by
      by_contra taken
      have within := copied.started id taken
      rw [List.getElem?_eq_getElem within] at before
      contradiction
    rw [none]
    exact fun _ listed => absurd listed List.not_mem_nil
  | some prior =>
    obtain ⟨suspended, waits, status, now⟩ := waits_of_turn turn before
    obtain rfl := Option.some.inj (now.symm.trans here)
    refine copied.unsent id prior value before everywhere fun sent => ?_
    rw [waiting?, before] at waits
    change prior.status.suspended? = some suspended at waits
    rw [sent] at waits
    contradiction

/-- What each move adds to the history. -/
theorem Copied.step (copied : session.Copied history) (move : Move α) :
    (session.step move).Copied (history ++ [(session, move)]) := by
  have lawful := copied.lawful
  refine ⟨lawful.step move, fun id taken => ?_, fun id record value here everywhere unsent => ?_,
    fun id record value here everywhere sent => ?_⟩
  · by_cases turn : session.caller? move = some id
    · exact lt_of_turn turn
    · rw [turnsOf_concat, if_neg turn, List.append_nil] at taken
      have before := List.getElem?_eq_getElem (copied.started id taken)
      rw [← calls_of_other turn] at before
      exact (List.getElem?_eq_some_iff.mp before).1
  · rw [turnsOf_concat]
    by_cases turn : session.caller? move = some id
    · rw [if_pos turn]
      intro entry listed
      rcases List.mem_append.mp listed with earlier | now
      · exact copied.untouched_before turn here everywhere entry earlier
      · obtain rfl := List.mem_singleton.mp now
        rcases lawful.told turn here everywhere with ⟨sent, _⟩ | ⟨_, untouched⟩
        · exact absurd sent unsent
        · exact untouched
    · rw [if_neg turn, List.append_nil]
      rw [calls_of_other turn] at here
      exact copied.unsent id record value here everywhere unsent
  · rw [turnsOf_concat]
    by_cases turn : session.caller? move = some id
    · rw [if_pos turn]
      refine ⟨turnsOf id history, session, move, rfl, ?_,
        copied.untouched_before turn here everywhere⟩
      rcases lawful.told turn here everywhere with ⟨_, spread⟩ | ⟨unsent, _⟩
      · exact spread
      · exact absurd sent unsent
    · rw [if_neg turn, List.append_nil]
      rw [calls_of_other turn] at here
      exact copied.sent id record value here everywhere sent

/-- What a run adds to the history. -/
theorem Copied.run (copied : session.Copied history) (moves : List (Move α)) :
    (session.run moves).Copied (history ++ session.trail moves) := by
  induction moves generalizing session history with
  | nil =>
    rw [trail, List.append_nil]
    exact copied
  | cons move rest ih =>
    have following := ih (copied.step move)
    rw [List.append_assoc] at following
    exact following

end Taking

/-! ## Everything about broadcasts -/

/-- What a session shows of the broadcasts in a run. -/
structure Broadcasts (first : Session α) (moves : List (Move α)) : Prop where
  /-- Each attempt of a broadcast, one that never waits or one by a call, succeeds and goes ahead on
  all open channels, or it does not and gives nothing to anybody. Only calls hand copies to waiting
  receivers of rendezvous channels. -/
  attempts : ∀ (before : Session α) (move : Move α) (value : α) (pin : Option Nat),
    (before, move) ∈ first.trail moves → before.called? move = some (.broadcast value, pin) →
    (before.reply? move = some (.sent (.ok ())) ∧ before.bus.Spread (before.step move).bus value
        move.mayWait (before.wakes move)) ∨
      (before.reply? move ≠ some (.sent (.ok ())) ∧
        before.bus.Untouched (before.step move).bus)
  /-- The open handles ascend. -/
  ascending : (first.run moves).bus.handles.Pairwise (·.id < ·.id)
  /-- A request to broadcast that succeeds leaves what sending to every open channel in turn leaves,
  and wakes the same tasks in the same order; none of those sends fails. -/
  iterated : ∀ value : α,
    (first.run moves).reply? (.request (.tryBroadcast value)) = some (.sent (.ok ())) →
    let sends := (first.run moves).bus.handles.map fun handle =>
      Move.request (.trySend handle value)
    (first.run moves).step (.request (.tryBroadcast value)) = (first.run moves).run sends ∧
      (first.run moves).wakes (.request (.tryBroadcast value)) =
        (((first.run moves).trail sends).flatMap fun entry => entry.1.wakes entry.2) ∧
      ∀ entry ∈ (first.run moves).trail sends,
        entry.1.reply? entry.2 = some (.sent (.ok ()))
  /-- A call that has succeeded went ahead on all channels that were open at its last turn, and at
  no turn before did it give anything to anybody. -/
  sent : ∀ (id : Nat) (record : Record α) (value : α),
    (first.run moves).calls[id]? = some record → record.call = .broadcast value →
    record.status = .ended (.sent (.ok ())) →
    ∃ earlier before move, turnsOf id (first.trail moves) = earlier ++ [(before, move)] ∧
      before.bus.Spread (before.step move).bus value true (before.wakes move) ∧
      ∀ entry ∈ earlier, entry.1.bus.Untouched (entry.1.step entry.2).bus
  /-- A call that has failed, still waits or was dropped has given nothing to anybody. -/
  unsent : ∀ (id : Nat) (record : Record α) (value : α),
    (first.run moves).calls[id]? = some record → record.call = .broadcast value →
    record.status ≠ .ended (.sent (.ok ())) →
    ∀ entry ∈ turnsOf id (first.trail moves), entry.1.bus.Untouched (entry.1.step entry.2).bus
  /-- While a broadcaster waits, nothing lies on its wait for others to take. -/
  bare : ∀ (id : Nat) (suspended : Suspended α) (value : α),
    (first.run moves).waiting? id = some suspended → suspended.call = .broadcast value →
    (first.run moves).bus.parcel? suspended.ticket.address = some .empty
  /-- Closed channels hold no value. -/
  drained : ∀ channel ∈ (first.run moves).bus.retired, channel.buffer = []

/-- An attempt of a broadcast goes ahead on all open channels, or it gives nothing to anybody. -/
theorem Lawful.attempts (lawful : session.Lawful) {move : Move α} {value : α}
    {pin : Option Nat} (called : session.called? move = some (.broadcast value, pin)) :
    (session.reply? move = some (.sent (.ok ())) ∧
      session.bus.Spread (session.step move).bus value move.mayWait (session.wakes move)) ∨
    (session.reply? move ≠ some (.sent (.ok ())) ∧
      session.bus.Untouched (session.step move).bus) := by
  -- A call that takes a turn has a record, and its reply is that of the record.
  have turns : ∀ id, session.caller? move = some id → (∀ record,
      (session.step move).calls[id]? = some record → record.call = .broadcast value) →
      (session.reply? move = some (.sent (.ok ())) ∧
        session.bus.Spread (session.step move).bus value true (session.wakes move)) ∨
      (session.reply? move ≠ some (.sent (.ok ())) ∧
        session.bus.Untouched (session.step move).bus) := by
    intro id turn everywhere
    obtain ⟨record, here, left⟩ := record_of_caller turn
    have replies : session.reply? move = record.status.reply? := by
      rw [reply?, left]
      rfl
    rw [replies]
    rcases lawful.told turn here (everywhere record here) with ⟨sent, spread⟩ | ⟨unsent, untouched⟩
    · exact .inl ⟨by rw [sent]; rfl, spread⟩
    · refine .inr ⟨fun sent => unsent ?_, untouched⟩
      cases status : record.status with
      | waiting | dropped =>
        rw [status] at sent
        contradiction
      | ended reply =>
        rw [status] at sent
        exact congrArg Status.ended (Option.some.inj sent)
  cases move with
  | drop | overwrite => contradiction
  | request request =>
    obtain ⟨call, asked, same⟩ := Option.map_eq_some_iff.mp called
    obtain rfl : call = .broadcast value := congrArg Prod.fst same
    obtain rfl : request = .tryBroadcast value := by
      cases request <;> simp_all [Request.call?]
    exact lawful.told_request value
  | start call waker =>
    obtain rfl : call = .broadcast value := congrArg Prod.fst (Option.some.inj called)
    refine turns session.calls.length rfl fun record here => ?_
    simp only [Session.step, act, recording, Outcome.map, List.getElem?_concat_length,
      Option.some.injEq] at here
    rw [← here]
  | poll id waker =>
    obtain ⟨prior, here, same⟩ := Option.map_eq_some_iff.mp called
    have everywhere : prior.call = .broadcast value := congrArg Prod.fst same
    cases waits : session.waiting? id with
    | none =>
      have idle : session.act (.poll id waker) = session.bus.unchanged none := by
        simp only [act, waits]
      have still : (session.step (.poll id waker)).bus = session.bus := by
        rw [bus_step, idle]
        rfl
      refine .inr ⟨?_, ?_⟩
      · rw [reply?, idle]
        intro sent
        cases sent
      · rw [still]
        exact .refl session.bus
    | some suspended =>
      have turn : session.caller? (.poll id waker) = some id := by
        simp only [caller?, waits, Option.map_some]
      refine turns id turn fun record now => ?_
      obtain ⟨_, _, status, changed⟩ := waits_of_turn turn here
      obtain rfl := Option.some.inj (changed.symm.trans now)
      exact everywhere

/-- A broadcast is atomic and complete: it gives every open channel exactly one copy, in one step,
or nobody is given anything. -/
theorem broadcast_atomic (config : Config) (moves : List (Move α)) :
    (new config : Session α).Broadcasts moves := by
  have lawful : ∀ moves, ((new config : Session α).run moves).Lawful :=
    (lawful_new config).run
  have copied := (copied_new config : (new config : Session α).Copied []).run moves
  rw [List.nil_append] at copied
  refine ⟨fun before move value pin made called => ?_, Bus.handles_ascending _,
    fun value sent => step_tryBroadcast sent, copied.sent, copied.unsent,
    fun id suspended value waits everywhere => ?_, fun channel closed => ?_⟩
  · obtain ⟨earlier, rest, rfl, rfl⟩ := mem_trail _ made
    exact (lawful earlier).attempts called
  · exact ((copied.lawful.housed.houses id suspended waits).bare everywhere).1
  · exact (copied.lawful.housed.sound.drained channel closed).buffer

/-- A broadcaster waits for room in a channel while a receiver waits on a rendezvous, and gives both
their copies when it is polled again; then the rendezvous is closed and another channel opened. -/
def waitingMoves : List (Move UInt32) :=
  [.request (.openChannel 1), .request (.openChannel 0), .request (.trySend ⟨0⟩ 5),
    .start (.receive ⟨1⟩) 1, .start (.broadcast 9) 2, .request (.tryReceive ⟨0⟩), .poll 1 2,
    .request (.tryReceive ⟨0⟩), .request (.close ⟨1⟩), .request (.openChannel 2)]

/-- The broadcaster takes two turns and gives its copies at the second; a later broadcast does the
same as sending to the two channels that are open then. -/
theorem broadcast_atomic_of_waiting :
    let first : Session UInt32 := new {}
    let last := first.run waitingMoves
    (turnsOf 1 (first.trail waitingMoves)).length = 2 ∧
      (∃ earlier before move, turnsOf 1 (first.trail waitingMoves) = earlier ++ [(before, move)] ∧
        before.bus.Spread (before.step move).bus 9 true (before.wakes move) ∧
        ∀ entry ∈ earlier, entry.1.bus.Untouched (entry.1.step entry.2).bus) ∧
      last.step (.request (.tryBroadcast 4)) =
        last.run [.request (.trySend ⟨0⟩ 4), .request (.trySend ⟨1⟩ 4)] := by
  have atomic := broadcast_atomic (α := UInt32) {} waitingMoves
  refine ⟨rfl, ?_, (atomic.iterated 4 rfl).1⟩
  exact atomic.sent 1 ⟨.broadcast 9, none, .ended (.sent (.ok ()))⟩ 9 rfl rfl rfl

/-- Without telemetry a broadcast succeeds and is not counted. -/
theorem broadcast_uncounted :
    let session : Session UInt32 :=
      (new { telemetry := false }).run [.request (.openChannel 1)]
    session.reply? (.request (.tryBroadcast 7)) = some (.sent (.ok ())) ∧
      (session.step (.request (.tryBroadcast 7))).bus.stats.valuesSent ≠
        session.bus.stats.valuesSent + session.bus.channelCount := by
  exact ⟨rfl, by decide⟩

end Session

end ChannelBus
