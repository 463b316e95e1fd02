import ChannelBus.Proofs.Housing

/-!
# Everything that a move can do

`Session.Effect` lists what the moves of a session do to its bus. This is the one place where the
operations of a bus are taken apart: every property of runs is proved by going through the list.
`Session.Lawful` is the invariant that all of them share. The calls that wait are housed on the bus,
and each of them waits on the channel that its record says it is pinned to.
-/

namespace ChannelBus

variable {α : Type}

namespace Bus

/-- What one try of a call does; `pin` is the generation to which it is pinned, and `previous` the
channel on which a broadcaster was woken. -/
inductive Acts (bus : Bus α) (waker : TaskId) (call : Call α) (pin : Option Nat)
    (previous : Option (Handle × Nat)) : Progress α → Bus α → Prop where
  /-- The call fails; if it was woken, then because the channel that it waited on is closed. -/
  | failed (error : BusError) (gone : ∀ handle generation, previous = some (handle, generation) →
      bus.pinned? handle generation = none) :
    Acts bus waker call pin previous (.finished (call.failed error))
      (bus.note (·.countError error))
  /-- The call is tried on the channel to which it is pinned. -/
  | attempted {handle : Handle} {channel : Channel α} {outcome : Outcome α (Progress α)}
    (named : call.handle? = some handle) (here : bus.channel? handle = some channel)
    (pinned : pin = some channel.generation)
    (attempted : bus.Attempted handle channel waker call outcome) :
    Acts bus waker call pin previous outcome.result outcome.bus
  /-- A broadcast is tried on all open channels. -/
  | broadcast {value : α} {progress : Progress α} {after : Bus α}
    (everywhere : call = .broadcast value)
    (tried : bus.BroadcastTried value previous waker progress after) :
    Acts bus waker call pin previous progress after

/-- The first poll of a call is one try, or the call fails. -/
theorem acts_start (bus : Bus α) (call : Call α) (waker : TaskId) :
    bus.Acts waker call ((call.handle?.bind bus.channel?).map (·.generation)) none
      (bus.start call waker).result (bus.start call waker).bus := by
  cases enabled : bus.config.enables call with
  | false =>
    rw [start_of_disabled enabled]
    exact .failed .notImplemented (by simp)
  | true =>
    cases named : call.handle? with
    | none =>
      obtain ⟨value, rfl⟩ := Call.eq_broadcast named
      rw [start_broadcast enabled]
      exact .broadcast rfl (bus.broadcastTried value none waker)
    | some handle =>
      cases here : bus.channel? handle with
      | none =>
        rw [start_of_closed enabled named here]
        exact .failed .noChannel (by simp)
      | some channel =>
        rw [start_of_open enabled named here]
        have pinned := pinned?_eq_some_iff.mpr ⟨here, rfl⟩
        exact .attempted named here (by simp [here]) (attempted_attempt pinned named waker)

/-- A call that was woken without a transfer is tried once, or it fails. -/
theorem acts_wakeUp (bus : Bus α) {suspended : Suspended α} {parcel : Parcel α}
    (finds : suspended.call.Finds parcel) (unsettled : parcel.isSettled = false)
    (houses : ∀ handle, suspended.call.handle? = some handle → suspended.ticket.handle = handle)
    (waker : TaskId) :
    bus.Acts waker suspended.call (some suspended.ticket.generation)
      (some (suspended.ticket.handle, suspended.ticket.generation))
      (bus.wakeUp suspended parcel waker).result (bus.wakeUp suspended parcel waker).bus := by
  cases named : suspended.call.handle? with
  | none =>
    obtain ⟨call, ticket⟩ := suspended
    obtain ⟨value, rfl⟩ := Call.eq_broadcast named
    rw [wakeUp_broadcast]
    exact .broadcast rfl (bus.broadcastTried value _ waker)
  | some handle =>
    obtain ⟨notices, woken, _, _⟩ := wakeUp_of_unsettled finds unsettled named waker
    rw [woken]
    cases pinned : bus.pinned? handle suspended.ticket.generation with
    | none =>
      rw [attempt_gone pinned named]
      refine .failed .noChannel fun target generation same => ?_
      simp only [Option.some.injEq, Prod.mk.injEq] at same
      obtain ⟨rfl, rfl⟩ := same
      rw [houses handle named, pinned]
    | some channel =>
      obtain ⟨here, same⟩ := pinned?_eq_some_iff.mp pinned
      exact .attempted named here (congrArg some same.symm)
        (attempted_attempt pinned named waker)

/-- One try keeps what any try keeps. -/
theorem Acts.tries {bus after : Bus α} {waker : TaskId} {call : Call α} {pin : Option Nat}
    {previous : Option (Handle × Nat)} {progress : Progress α}
    (acts : bus.Acts waker call pin previous progress after) (sound : bus.Sound) :
    bus.Tries after call progress.suspended? := by
  cases acts with
  | failed error gone => exact sound.tries_note _ call
  | attempted named here pinned attempted => exact attempted.tries sound here named
  | broadcast everywhere tried =>
    subst everywhere
    exact tried.tries sound

/-- A call on a handle parks on the channel to which it is pinned. -/
theorem Acts.pinned {bus after : Bus α} {waker : TaskId} {call : Call α} {pin : Option Nat}
    {previous : Option (Handle × Nat)} {suspended : Suspended α}
    (acts : bus.Acts waker call pin previous (.parked suspended) after)
    (named : call.handle?.isSome = true) : pin = some suspended.ticket.generation := by
  generalize parks : Progress.parked suspended = progress at acts
  cases acts with
  | failed error gone => contradiction
  | broadcast everywhere tried => simp [everywhere, Call.handle?] at named
  | attempted named here pinned attempted =>
    obtain ⟨reply?, new, tried, _, result⟩ := attempted
    rw [result] at parks
    cases reply? with
    | some reply => contradiction
    | none =>
      obtain rfl := Progress.parked.inj parks
      exact pinned

end Bus

/-- What the record of a waiting call says about its wait. -/
structure Record.Keeps (record : Record α) (suspended : Suspended α) : Prop where
  /-- The call is the one that was started. -/
  call : suspended.call = record.call
  /-- A call on a handle waits on the channel that was open under the handle at its start. -/
  pinned : record.call.handle?.isSome = true → record.pinned = some suspended.ticket.generation

namespace Session

/-- What holds of a session at any time. -/
structure Lawful (session : Session α) : Prop where
  /-- The waiting calls and the parcels on the bus belong together. -/
  housed : session.bus.Housed session.waiting?
  /-- Waiting calls are those that were started. -/
  recorded : ∀ (id : Nat) (record : Record α) (suspended : Suspended α),
    session.calls[id]? = some record → record.status = .waiting suspended →
    record.Keeps suspended

/-- What a move does to the bus; the status is that of the call or the request of the move
afterwards. -/
inductive Effect (session : Session α) : Move α → Option (Status α) → Bus α → Prop where
  /-- Nothing happens. -/
  | idle {move : Move α} : Effect session move none session.bus
  /-- A channel is opened. -/
  | opened {request : Request α} {after : Bus α} {handle : Handle} {capacity : Nat}
    (opens : session.bus.Opens after handle capacity) :
    Effect session (.request request) none after
  /-- A channel cannot be opened. -/
  | skipped {request : Request α} :
    Effect session (.request request) none
      { session.bus with nextGeneration := session.bus.nextGeneration + 1 }
  /-- Channels are closed. -/
  | shut {request : Request α} {after : Bus α} {handles : List Handle}
    (shuts : session.bus.Shuts after handles) : Effect session (.request request) none after
  /-- A request to move values fails. -/
  | refused {request : Request α} {call : Call α} (asked : request.call? = some call)
    (error : BusError) :
    Effect session (.request request) (some (.ended (call.failed error)))
      (session.bus.note (·.countError error))
  /-- A request moves values through the buffer of a channel. -/
  | moved {request : Request α} {call : Call α} {handle : Handle} {channel new : Channel α}
    {reply : Reply α} {after : Bus α} (asked : request.call? = some call)
    (named : call.handle? = some handle) (here : session.bus.channel? handle = some channel)
    (moves : channel.Moves call reply new) (becomes : session.bus.Becomes after handle new) :
    Effect session (.request request) (some (.ended reply)) after
  /-- A request gives a value to all channels. -/
  | spread {value : α} (spare : ∀ handle channel, session.bus.channel? handle = some channel →
      channel.isFull = false) :
    Effect session (.request (.tryBroadcast value)) (some (.ended (.sent (.ok ()))))
      (session.bus.giveAll value).bus
  /-- A call is tried for the first time. -/
  | started {call : Call α} {waker : TaskId} {progress : Progress α} {after : Bus α}
    (acts : session.bus.Acts waker call (session.pin? call) none progress after) :
    Effect session (.start call waker) (some progress.status) after
  /-- A queued wait gets a new waker. -/
  | refreshed {id : Nat} {waker : TaskId} {suspended : Suspended α}
    (waits : session.waiting? id = some suspended)
    (queued : (session.bus.ticketQueue suspended.ticket).holds suspended.ticket.key = true) :
    Effect session (.poll id waker) (some (.waiting suspended))
      (session.bus.setTicketQueue suspended.ticket
        ((session.bus.ticketQueue suspended.ticket).refresh suspended.ticket.key waker))
  /-- A call ends because a transfer has happened while it was parked. -/
  | settled {id : Nat} {waker : TaskId} {suspended : Suspended α} {parcel : Parcel α}
    {reply : Reply α} (waits : session.waiting? id = some suspended)
    (dequeued : (session.bus.ticketQueue suspended.ticket).holds suspended.ticket.key = false)
    (held : session.bus.parcel? suspended.ticket.address = some parcel)
    (happened : suspended.call.settledReply parcel = some reply) :
    Effect session (.poll id waker) (some (.ended reply))
      (session.bus.setTicketQueue suspended.ticket
        ((session.bus.ticketQueue suspended.ticket).forget suspended.ticket.key))
  /-- A woken call is tried again. -/
  | retried {id : Nat} {waker : TaskId} {suspended : Suspended α} {parcel : Parcel α}
    {progress : Progress α} {after : Bus α} (waits : session.waiting? id = some suspended)
    (dequeued : (session.bus.ticketQueue suspended.ticket).holds suspended.ticket.key = false)
    (held : session.bus.parcel? suspended.ticket.address = some parcel)
    (unsettled : parcel.isSettled = false)
    (acts : (session.bus.setTicketQueue suspended.ticket
        ((session.bus.ticketQueue suspended.ticket).forget suspended.ticket.key)).Acts waker
      suspended.call (some suspended.ticket.generation)
      (some (suspended.ticket.handle, suspended.ticket.generation)) progress after) :
    Effect session (.poll id waker) (some progress.status) after
  /-- A waiting call is dropped. -/
  | dropped {id : Nat} {suspended : Suspended α} (waits : session.waiting? id = some suspended) :
    Effect session (.drop id) (some .dropped)
      (session.bus.setTicketQueue suspended.ticket
        ((session.bus.ticketQueue suspended.ticket).leave suspended.ticket.key))

section Moving

variable {session : Session α}

/-- What a request does. -/
theorem effect_request [Stored α] (lawful : session.Lawful) (request : Request α) :
    session.Effect (.request request) (session.act (.request request)).result
      (session.act (.request request)).bus := by
  have sound := lawful.housed.sound
  cases asked : request.call? with
  | none =>
    cases request with
    | trySend | tryReceive | trySendMany | tryReceiveMany | tryBroadcast => contradiction
    | isOpen | capacity | length | waiting | channelCount | handles | stats => exact .idle
    | openChannel capacity =>
      rcases session.bus.openChannel_cases capacity with
        ⟨_, handle, result, opens⟩ | ⟨_, result, skipped⟩
      · have quiet : (session.act (.request (.openChannel capacity))).result = none := by
          simp [act, Bus.perform, Outcome.map, result, Except.map, Except.toOption, Answer.status?]
        rw [quiet]
        exact .opened opens
      · have quiet : (session.act (.request (.openChannel capacity))).result = none := by
          simp [act, Bus.perform, Outcome.map, result, Except.map, Except.toOption]
        rw [quiet]
        have same : (session.act (.request (.openChannel capacity))).bus = _ := skipped
        rw [same]
        exact .skipped
    | close handle => exact .shut (sound.shuts_close handle)
    | delete => exact .shut sound.shuts_delete
  | some call =>
    cases enabled : session.bus.config.enables call with
    | false =>
      simp only [act, Bus.perform_of_disabled asked enabled, Bus.failing, Outcome.map]
      exact .refused asked .notImplemented
    | true =>
      cases named : call.handle? with
      | none =>
        obtain ⟨value, rfl, rfl⟩ := Request.eq_tryBroadcast asked named
        rcases Bus.perform_tryBroadcast enabled value with
          ⟨_, failed⟩ | ⟨_, failed⟩ | ⟨spare, _, given, result⟩
        · simp only [act, failed, Bus.failing, Outcome.map]
          exact .refused asked .noChannel
        · simp only [act, failed, Bus.failing, Outcome.map]
          exact .refused asked .wouldBlock
        · simp only [act, Outcome.map, given, result]
          exact .spread spare
      | some handle =>
        cases here : session.bus.channel? handle with
        | none =>
          simp only [act, Bus.perform_of_closed asked enabled named here, Bus.failing, Outcome.map]
          exact .refused asked .noChannel
        | some channel =>
          rcases Bus.perform_of_open asked enabled named here with
            ⟨reply, new, moves, billed, result⟩ | ⟨_, failed⟩
          · simp only [act, Outcome.map, result]
            exact .moved asked named here moves billed.becomes
          · simp only [act, failed, Bus.failing, Outcome.map]
            exact .refused asked .wouldBlock

/-- What a poll of a waiting call does. -/
theorem effect_poll (lawful : session.Lawful) {id : Nat} {suspended : Suspended α}
    (waits : session.waiting? id = some suspended) (waker : TaskId) :
    session.Effect (.poll id waker)
      (some (session.bus.resume suspended waker).result.status)
      (session.bus.resume suspended waker).bus := by
  have sound := lawful.housed.sound
  have houses := lawful.housed.houses id suspended waits
  cases queued : (session.bus.ticketQueue suspended.ticket).holds suspended.ticket.key with
  | true =>
    rw [Bus.resume_of_queued queued]
    exact .refreshed waits queued
  | false =>
    obtain ⟨parcel, held, finds⟩ := houses.parcel
    have lies := (houses.parcel?_ticketQueue sound).trans held
    rw [Bus.resume_of_dequeued queued lies]
    cases unsettled : parcel.isSettled with
    | false =>
      exact .retried waits queued held unsettled
        (Bus.acts_wakeUp _ finds unsettled houses.handle waker)
    | true =>
      obtain ⟨reply, happened⟩ : ∃ reply, suspended.call.settledReply parcel = some reply := by
        cases parcel with
        | delivered value => exact ⟨_, rfl⟩
        | taken => exact ⟨_, rfl⟩
        | empty | offered => contradiction
      rw [Bus.wakeUp_of_settled finds happened]
      exact .settled waits queued held happened

/-- Every move does one of the listed things. -/
theorem effect [Stored α] (lawful : session.Lawful) (move : Move α) :
    session.Effect move (session.act move).result (session.act move).bus := by
  cases move with
  | request request => exact effect_request lawful request
  | overwrite code => exact .idle
  | start call waker => exact .started (session.bus.acts_start call waker)
  | poll id waker =>
    cases waits : session.waiting? id with
    | none =>
      simp only [act, waits]
      exact .idle
    | some suspended =>
      simp only [act, waits, Outcome.map]
      exact effect_poll lawful waits waker
  | drop id =>
    cases waits : session.waiting? id with
    | none =>
      simp only [act, waits]
      exact .idle
    | some suspended =>
      simp only [act, waits, Outcome.map]
      exact .dropped waits

end Moving

/-! ## The invariant -/

section Records

variable {session : Session α}

/-- A waiting call has a record. -/
theorem record_of_waiting? {id : Nat} {suspended : Suspended α}
    (waits : session.waiting? id = some suspended) :
    ∃ record, session.calls[id]? = some record ∧ record.status = .waiting suspended := by
  obtain ⟨record, here, found⟩ := Option.bind_eq_some_iff.mp waits
  refine ⟨record, here, ?_⟩
  cases status : record.status with
  | waiting other =>
    rw [status] at found
    rw [Option.some.inj found]
  | ended | dropped =>
    rw [status] at found
    contradiction

/-- A waiting call has a number that was given out. -/
theorem lt_of_waiting? {id : Nat} {suspended : Suspended α}
    (waits : session.waiting? id = some suspended) : id < session.calls.length := by
  obtain ⟨record, here, _⟩ := record_of_waiting? waits
  exact (List.getElem?_eq_some_iff.mp here).1

/-- No call has a number that was not given out yet. -/
theorem waiting?_length (session : Session α) : session.waiting? session.calls.length = none := by
  simp [waiting?]

/-- The waits after a call was added. -/
theorem waiting?_append (session : Session α) (bus : Bus α) (code : ErrorCode)
    (record : Record α) :
    waiting? { bus, lastError := code, calls := session.calls ++ [record] } =
      reassign session.waiting? session.calls.length record.status.suspended? := by
  funext id
  unfold waiting? reassign
  rcases Nat.lt_trichotomy id session.calls.length with before | rfl | beyond
  · rw [if_neg (Nat.ne_of_lt before), List.getElem?_append_left before]
  · simp
  · rw [if_neg (Nat.ne_of_gt beyond)]
    have absent : (session.calls ++ [record])[id]? = none := by
      simp
      omega
    have absentBefore : session.calls[id]? = none := by
      simp
      omega
    simp [absent, absentBefore]

/-- The waits after the status of a call was changed. -/
theorem waiting?_modify (bus : Bus α) (code : ErrorCode) {id : Nat} {record : Record α}
    (here : session.calls[id]? = some record) (status : Status α) :
    waiting? { bus, lastError := code, calls := session.calls.modify id fun record =>
        { record with status } } = reassign session.waiting? id status.suspended? := by
  funext other
  unfold waiting? reassign
  rw [List.getElem?_modify]
  by_cases same : id = other
  · subst same
    simp [here]
  · simp [same, Ne.symm same]

/-- A call stands where it stood after every move, unless it waits and the move is about it. -/
theorem record_step [Stored α] {id : Nat} {record : Record α} {move : Move α}
    (here : session.calls[id]? = some record)
    (idle : move.target? = some id → record.status.suspended? = none) :
    (session.step move).calls[id]? = some record := by
  have modified : ∀ (other : Nat) (suspended : Suspended α) (status : Status α),
      move.target? = some other → session.waiting? other = some suspended →
      (session.calls.modify other fun record => { record with status })[id]? = some record := by
    intro other suspended status targets waits
    have apart : other ≠ id := by
      rintro rfl
      simp [waiting?, here, idle targets] at waits
    simp [apart, here]
  show (session.recording move (session.act move).result)[id]? = some record
  cases move with
  | request | overwrite => exact here
  | start call waker =>
    exact (List.getElem?_append_left (List.getElem?_eq_some_iff.mp here).1).trans here
  | poll other waker =>
    cases waits : session.waiting? other with
    | none =>
      simp only [act, waits]
      exact here
    | some suspended =>
      simp only [act, waits]
      exact modified other suspended _ rfl waits
  | drop other =>
    cases waits : session.waiting? other with
    | none =>
      simp only [act, waits]
      exact here
    | some suspended =>
      simp only [act, waits]
      exact modified other suspended _ rfl waits

/-- A call that does not wait stands where it stood after every run. -/
theorem record_run [Stored α] {id : Nat} {record : Record α}
    (here : session.calls[id]? = some record) (idle : record.status.suspended? = none)
    (moves : List (Move α)) : (session.run moves).calls[id]? = some record := by
  induction moves generalizing session with
  | nil => exact here
  | cons move rest ih => exact ih (record_step here fun _ => idle)

/-- A call waits on while no move is about it. -/
theorem waiting?_step [Stored α] {id : Nat} {suspended : Suspended α} {move : Move α}
    (waits : session.waiting? id = some suspended) (apart : move.target? ≠ some id) :
    (session.step move).waiting? id = some suspended := by
  obtain ⟨record, here, status⟩ := record_of_waiting? waits
  have kept := record_step here fun targets => absurd targets apart
  rw [waiting?, kept, Option.bind_some, status]
  rfl

/-- The call of a move stands where the move leaves it. -/
theorem record_of_caller [Stored α] {move : Move α} {id : Nat}
    (calls : session.caller? move = some id) : ∃ record,
      (session.step move).calls[id]? = some record ∧
      (session.act move).result = some record.status := by
  have modified : ∀ (suspended : Suspended α) (status : Status α),
      session.waiting? id = some suspended → ∃ record,
        (session.calls.modify id fun record => { record with status })[id]? = some record ∧
        some status = some record.status := by
    intro suspended status waits
    obtain ⟨record, here, _⟩ := record_of_waiting? waits
    refine ⟨{ record with status }, ?_, rfl⟩
    simp [here]
  cases move with
  | request | overwrite => contradiction
  | start call waker =>
    obtain rfl := Option.some.inj calls
    refine ⟨⟨call, session.pin? call, (session.bus.start call waker).result.status⟩, ?_, rfl⟩
    exact List.getElem?_concat_length
  | poll other waker =>
    obtain ⟨suspended, waits, rfl⟩ := Option.map_eq_some_iff.mp calls
    simp only [step, act, waits]
    exact modified suspended _ waits
  | drop other =>
    obtain ⟨suspended, waits, rfl⟩ := Option.map_eq_some_iff.mp calls
    simp only [step, act, waits]
    exact modified suspended _ waits

/-- The wait of a call is that of its status. -/
@[simp] theorem suspended?_status (progress : Progress α) :
    progress.status.suspended? = progress.suspended? := by
  cases progress <;> rfl

/-- A session stays lawful when a call is added that parks, if it does, as it should. -/
theorem Lawful.append (lawful : session.Lawful) {bus : Bus α} (code : ErrorCode)
    (record : Record α)
    (housed : bus.Housed (reassign session.waiting? session.calls.length record.status.suspended?))
    (keeps : ∀ suspended, record.status = .waiting suspended → record.Keeps suspended) :
    Lawful { bus, lastError := code, calls := session.calls ++ [record] } := by
  refine ⟨by rwa [waiting?_append], fun id other suspended here waits => ?_⟩
  rcases Nat.lt_or_ge id session.calls.length with before | beyond
  · rw [List.getElem?_append_left before] at here
    exact lawful.recorded id other suspended here waits
  · rw [List.getElem?_append_right beyond] at here
    obtain rfl : other = record := List.mem_singleton.mp (List.mem_of_getElem? here)
    exact keeps suspended waits

/-- A session stays lawful when a call goes on and parks again, if it does, as it should. -/
theorem Lawful.modify (lawful : session.Lawful) {bus : Bus α} (code : ErrorCode) {id : Nat}
    {record : Record α} (here : session.calls[id]? = some record) {status : Status α}
    (housed : bus.Housed (reassign session.waiting? id status.suspended?))
    (keeps : ∀ suspended, status = .waiting suspended → record.Keeps suspended) :
    Lawful { bus, lastError := code, calls := session.calls.modify id fun record =>
      { record with status } } := by
  refine ⟨by rwa [waiting?_modify bus code here], fun other another suspended there waits => ?_⟩
  rw [List.getElem?_modify] at there
  by_cases same : id = other
  · subst same
    simp only [here, if_true, Option.map_eq_map, Option.map_some, Option.some.injEq] at there
    subst there
    obtain ⟨call, pinned⟩ := keeps suspended waits
    exact ⟨call, pinned⟩
  · have kept : session.calls[other]? = some another := by simpa [same] using there
    exact lawful.recorded other another suspended kept waits

/-- Nothing changes the waits of a call that keeps its status. -/
theorem reassign_self {waiting : Nat → Option (Suspended α)} {id : Nat}
    {suspended? : Option (Suspended α)} (same : waiting id = suspended?) :
    reassign waiting id suspended? = waiting := by
  funext other
  unfold reassign
  split
  case isTrue here => rw [here, same]
  case isFalse => rfl

/-- Only the latest change of a call counts. -/
theorem reassign_reassign (waiting : Nat → Option (Suspended α)) (id : Nat)
    (first second : Option (Suspended α)) :
    reassign (reassign waiting id first) id second = reassign waiting id second := by
  funext other
  unfold reassign
  split <;> rfl

end Records

/-- A new session is lawful. -/
theorem lawful_new (config : Config) : (new config : Session α).Lawful :=
  ⟨Bus.housed_new config, by simp [new]⟩

/-- The effect of a move keeps a session lawful. -/
theorem Effect.lawful {session : Session α} {move : Move α} {result : Option (Status α)}
    {after : Bus α} (effect : session.Effect move result after) (lawful : session.Lawful)
    (code : ErrorCode) : Lawful
      { bus := after, lastError := code, calls := session.recording move result } := by
  have sound := lawful.housed.sound
  have requested : ∀ (request : Request α) (status? : Option (Status α)),
      after.Housed session.waiting? → Lawful
        { bus := after, lastError := code
          calls := session.recording (.request request) status? } :=
    fun request status? housed => ⟨housed, lawful.recorded⟩
  have tried : ∀ (request : Request α) (status? : Option (Status α)) (call : Call α),
      session.bus.Tries after call none → Lawful
        { bus := after, lastError := code
          calls := session.recording (.request request) status? } := by
    intro request status? call tries
    refine requested request status? ?_
    have housed := lawful.housed.tries session.waiting?_length tries
    rwa [reassign_self session.waiting?_length] at housed
  cases effect with
  | idle => cases move <;> exact ⟨lawful.housed, lawful.recorded⟩
  | opened opens => exact requested _ _ (lawful.housed.opens opens)
  | skipped => exact requested _ _ lawful.housed.skip
  | shut shuts => exact requested _ _ (lawful.housed.shuts shuts)
  | @refused _ call asked error => exact tried _ _ call (sound.tries_note _ call)
  | @moved _ call _ _ _ _ _ asked named here moves becomes =>
    exact tried _ _ call (becomes.tries_of_moves moves sound here).1
  | @spread value spare =>
    refine tried _ _ (.broadcast value)
      (sound.tries_giveAll (fun handle channel here => ?_) value _)
    simp [Channel.canAccept, spare handle channel here]
  | @started call _ progress _ acts =>
    have tries := acts.tries sound
    refine lawful.append code ⟨call, session.pin? call, progress.status⟩ ?_ ?_
    · rw [suspended?_status]
      exact lawful.housed.tries session.waiting?_length tries
    · intro suspended parks
      cases progress with
      | finished reply => contradiction
      | parked other =>
        obtain rfl := Status.waiting.inj parks
        exact ⟨(tries.parked other rfl).2.1, acts.pinned⟩
  | @refreshed id waker suspended waits queued =>
    obtain ⟨record, here, status⟩ := record_of_waiting? waits
    obtain ⟨afterSound, generations, board⟩ :=
      (lawful.housed.houses id suspended waits).refresh sound waker
    refine lawful.modify code here ?_ fun other parks => ?_
    · have same : session.waiting? id = (Status.waiting suspended).suspended? := waits
      rw [reassign_self same]
      exact lawful.housed.of_board afterSound (fun _ homed _ => homed.of_generations generations)
        board
    · obtain rfl := Status.waiting.inj parks
      exact lawful.recorded id record suspended here status
  | @settled id waker suspended parcel reply waits dequeued held happened =>
    obtain ⟨record, here, status⟩ := record_of_waiting? waits
    have clears := (lawful.housed.houses id suspended waits).clears_forget sound dequeued
    refine lawful.modify code here ?_ fun other parks => by contradiction
    exact lawful.housed.clears waits clears
  | @retried id waker suspended parcel progress _ waits dequeued held unsettled acts =>
    obtain ⟨record, here, status⟩ := record_of_waiting? waits
    have clears := (lawful.housed.houses id suspended waits).clears_forget sound dequeued
    have resumed := lawful.housed.clears waits clears
    have idle : reassign session.waiting? id none id = none := if_pos rfl
    have tries := acts.tries resumed.sound
    refine lawful.modify code here ?_ fun other parks => ?_
    · have housed := resumed.tries idle tries
      rwa [reassign_reassign, ← suspended?_status] at housed
    · cases progress with
      | finished reply => contradiction
      | parked again =>
        obtain rfl := Status.waiting.inj parks
        have keeps := lawful.recorded id record suspended here status
        refine ⟨(tries.parked again rfl).2.1.trans keeps.call, fun named => ?_⟩
        exact (keeps.pinned named).trans (acts.pinned (by rw [keeps.call]; exact named))
  | @dropped id suspended waits =>
    obtain ⟨record, here, status⟩ := record_of_waiting? waits
    have clears := (lawful.housed.houses id suspended waits).clears_leave sound
    refine lawful.modify code here ?_ fun other parks => by contradiction
    exact lawful.housed.clears waits clears

/-- Every move keeps a session lawful. -/
theorem Lawful.step [Stored α] {session : Session α} (lawful : session.Lawful) (move : Move α) :
    (session.step move).Lawful :=
  (effect lawful move).lawful lawful _

/-- Every run is lawful throughout. -/
theorem Lawful.run [Stored α] {session : Session α} (lawful : session.Lawful)
    (moves : List (Move α)) : (session.run moves).Lawful :=
  run_induction lawful (fun _ move kept => kept.step move) moves

end Session

end ChannelBus
