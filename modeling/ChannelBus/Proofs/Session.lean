import ChannelBus.Bus.Request

/-!
# Sessions

A session is one bus with all that is ever asked of it: requests, and calls that are started, polled
and dropped. It leaves everything to its environment that a bus leaves to its users. Calls are
started at any time, any waiting call is polled at any time, woken or not, and any waiting call is
dropped at any time. So what is shown of all sessions holds under every scheduler.

A poll or a drop of a call that does not wait is no move. The error slot is shared with other buses,
which may overwrite it.
-/

namespace ChannelBus

variable {α : Type}

/-- Where a call stands. -/
inductive Status (α : Type) where
  /-- It is parked. -/
  | waiting (suspended : Suspended α)
  /-- It has its reply. -/
  | ended (reply : Reply α)
  /-- It was dropped while it was parked. -/
  | dropped

/-- The wait of a call that is parked. -/
def Status.suspended? : Status α → Option (Suspended α)
  | .waiting suspended => some suspended
  | .ended _ | .dropped => none

/-- The reply that a call has got. -/
def Status.reply? : Status α → Option (Reply α)
  | .ended reply => some reply
  | .waiting _ | .dropped => none

/-- One call of a session. -/
structure Record (α : Type) where
  /-- What was asked for. -/
  call : Call α
  /-- The generation of the channel that was open under the handle of the call at its start. -/
  pinned : Option Nat
  /-- Where the call stands. -/
  status : Status α

/-- A bus, the error slot, and all calls that were started on the bus. -/
structure Session (α : Type) where
  /-- The bus. -/
  bus : Bus α
  /-- The error slot. -/
  lastError : ErrorCode
  /-- The calls, named by their position. -/
  calls : List (Record α)

/-- What the environment does next. -/
inductive Move (α : Type) where
  /-- Ask for something that never waits. -/
  | request (request : Request α)
  /-- Start a call. -/
  | start (call : Call α) (waker : TaskId)
  /-- Poll a call, woken or not. -/
  | poll (id : Nat) (waker : TaskId)
  /-- Drop a call. -/
  | drop (id : Nat)
  /-- Overwrite the error slot. -/
  | overwrite (code : ErrorCode)
deriving DecidableEq

namespace Call

/-- The handle that a call names; a broadcast names none. -/
def handle? : Call α → Option Handle
  | .send handle _ | .receive handle | .sendMany handle _ | .receiveMany handle _ => some handle
  | .broadcast _ => none

end Call

/-- The call that a request to move values amounts to, except that it never waits. -/
def Request.call? : Request α → Option (Call α)
  | .trySend handle value => some (.send handle value)
  | .tryReceive handle => some (.receive handle)
  | .trySendMany handle values => some (.sendMany handle values)
  | .tryReceiveMany handle max => some (.receiveMany handle max)
  | .tryBroadcast value => some (.broadcast value)
  | .openChannel _ | .close _ | .delete | .isOpen _ | .capacity _ | .length _ | .waiting _ _
  | .channelCount | .handles | .stats => none

/-- Only a request to broadcast amounts to a call that names no handle. -/
theorem Request.eq_tryBroadcast {request : Request α} {call : Call α}
    (asked : request.call? = some call) (everywhere : call.handle? = none) :
    ∃ value, request = .tryBroadcast value ∧ call = .broadcast value := by
  cases request with
  | tryBroadcast value => exact ⟨value, rfl, (Option.some.inj asked).symm⟩
  | trySend | tryReceive | trySendMany | tryReceiveMany =>
    obtain rfl := Option.some.inj asked
    contradiction
  | openChannel | close | delete | isOpen | capacity | length | waiting | channelCount | handles
  | stats => contradiction

/-- The call that a move polls or drops, if it waits. -/
def Move.target? : Move α → Option Nat
  | .poll id _ | .drop id => some id
  | .request _ | .start _ _ | .overwrite _ => none

/-- Where its first or latest poll leaves a call. -/
def Progress.status : Progress α → Status α
  | .finished reply => .ended reply
  | .parked suspended => .waiting suspended

/-- Where a request to move values stands: it has ended, whatever its reply. -/
def Answer.status? : Answer α → Option (Status α)
  | .reply transfer => some (.ended transfer)
  | .done | .opened _ | .flag _ | .number _ | .handles _ | .stats _ | .code _ | .raised _ => none

/-- The error slot after some notices. -/
def ErrorCode.afterHearing (code : ErrorCode) (notices : List Notice) : ErrorCode :=
  notices.foldl (fun code notice => notice.raises?.elim code (·.code)) code

namespace Session

/-- A session on a new bus. -/
def new (config : Config) : Session α :=
  { bus := .new config, lastError := .clear, calls := [] }

/-- The wait of a call, if it is parked. -/
def waiting? (session : Session α) (id : Nat) : Option (Suspended α) :=
  (session.calls[id]?).bind (·.status.suspended?)

/-- The generation of the channel that a call would be pinned to now. -/
def pin? (session : Session α) (call : Call α) : Option Nat :=
  (call.handle?.bind session.bus.channel?).map (·.generation)

/-- What a move does to the bus; the result tells where the call or the request of the move stands
afterwards. -/
def act [Stored α] (session : Session α) : Move α → Outcome α (Option (Status α))
  | .request request =>
    (session.bus.perform request).map fun answered => answered.toOption.bind (·.status?)
  | .start call waker => (session.bus.start call waker).map fun progress => some progress.status
  | .poll id waker =>
    match session.waiting? id with
    | none => session.bus.unchanged none
    | some suspended =>
      (session.bus.resume suspended waker).map fun progress => some progress.status
  | .drop id =>
    match session.waiting? id with
    | none => session.bus.unchanged none
    | some suspended => (session.bus.cancel suspended).map fun _ => some .dropped
  | .overwrite _ => session.bus.unchanged none

/-- The calls after a move that left its call with the given status. -/
def recording (session : Session α) : Move α → Option (Status α) → List (Record α)
  | .start call _, some status =>
    session.calls ++ [{ call, pinned := session.pin? call, status }]
  | .poll id _, some status | .drop id, some status =>
    session.calls.modify id fun record => { record with status }
  | _, _ => session.calls

/-- The session after a move. -/
def step [Stored α] (session : Session α) (move : Move α) : Session α :=
  let outcome := session.act move
  { bus := outcome.bus
    lastError := match move with
      | .overwrite code => code
      | _ => session.lastError.afterHearing outcome.notices
    calls := session.recording move outcome.result }

/-- The session after several moves. -/
def run [Stored α] (session : Session α) (moves : List (Move α)) : Session α :=
  moves.foldl step session

/-- The moves of a run, each with the session that it was made in. -/
def trail [Stored α] (session : Session α) : List (Move α) → List (Session α × Move α)
  | [] => []
  | move :: rest => (session, move) :: (session.step move).trail rest

/-- The call that a move starts, polls or drops. -/
def caller? (session : Session α) : Move α → Option Nat
  | .start _ _ => some session.calls.length
  | .poll id _ | .drop id => (session.waiting? id).map fun _ => id
  | .request _ | .overwrite _ => none

/-- The reply that ends a transfer at a move. -/
def reply? [Stored α] (session : Session α) (move : Move α) : Option (Reply α) :=
  (session.act move).result.bind (·.reply?)

/-! ## Runs -/

section Running

variable [Stored α] (session : Session α)

/-- The bus after a move. -/
theorem bus_step (move : Move α) : (session.step move).bus = (session.act move).bus := rfl

/-- The error slot after a poll. -/
theorem lastError_poll (id : Nat) (waker : TaskId) : (session.step (.poll id waker)).lastError =
    session.lastError.afterHearing (session.act (.poll id waker)).notices := rfl

/-- A run without moves. -/
@[simp] theorem run_nil : session.run [] = session := rfl

/-- A run from its first move on. -/
@[simp] theorem run_cons (move : Move α) (rest : List (Move α)) :
    session.run (move :: rest) = (session.step move).run rest := rfl

/-- A run in two parts. -/
theorem run_append (first second : List (Move α)) :
    session.run (first ++ second) = (session.run first).run second :=
  List.foldl_append

/-- Every entry of a trail is a move of the run, with the session that the moves before led to. -/
theorem mem_trail {moves : List (Move α)} {before : Session α} {move : Move α}
    (made : (before, move) ∈ session.trail moves) :
    ∃ first rest, moves = first ++ move :: rest ∧ before = session.run first := by
  induction moves generalizing session with
  | nil => contradiction
  | cons next moves ih =>
    rcases List.mem_cons.mp made with here | later
    · obtain ⟨rfl, rfl⟩ := Prod.mk.inj here
      exact ⟨[], moves, rfl, rfl⟩
    · obtain ⟨first, rest, rfl, rfl⟩ := ih (session.step next) later
      exact ⟨next :: first, rest, rfl, rfl⟩

/-- What holds at first and is kept by every move holds after every run. -/
theorem run_induction {holds : Session α → Prop} {session : Session α} (first : holds session)
    (kept : ∀ session move, holds session → holds (session.step move)) (moves : List (Move α)) :
    holds (session.run moves) := by
  induction moves generalizing session with
  | nil => exact first
  | cons move rest ih => exact ih (kept session move first)

end Running

end Session

end ChannelBus
