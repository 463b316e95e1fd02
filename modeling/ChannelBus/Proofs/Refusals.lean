import ChannelBus.Proofs.Batching
import ChannelBus.Proofs.Scheduling

/-!
# Failures are precise

`Bus.refusal?` says why a request that never waits fails, if it does: the checks in the order in
which they are made. `Bus.Answers` says what such a request leaves. A failure is counted and raised
and touches nothing else; a success touches neither the error slot nor the counters of failures.

A call that waits raises more than it returns: an attempt that would have blocked is counted and
raised although the call goes on. But an error that ends a call is the last one that it raised, and
never that it would block (`Outcome.RaisesLast`).
-/

namespace ChannelBus

variable {σ α β γ : Type}

/-- The counter of one kind of failure. -/
def Stats.failures (stats : Stats) : BusError → Nat
  | .noChannel => stats.noChannel
  | .wouldBlock => stats.wouldBlock
  | .notImplemented => stats.notImplemented

/-- A failure adds one to its own counter. -/
theorem Stats.failures_countError (stats : Stats) (error other : BusError) :
    (stats.countError error).failures other =
      stats.failures other + if other = error then 1 else 0 := by
  cases error <;> cases other <;> rfl

/-- Whether a channel holds up calls on one side: a full buffer for senders, an empty one for
receivers. -/
def Channel.holdsUp (channel : Channel α) : Side → Bool
  | .senders => channel.isFull
  | .receivers => channel.isEmpty

namespace Bus

/-! ## Requests that never wait -/

/-- The open channels that a call is about: the one of its handle, or all. -/
def reach (bus : Bus α) (call : Call α) : List (Channel α) :=
  match call.handle? with
  | some handle => (bus.channel? handle).toList
  | none => bus.openChannels.map (·.2)

/-- Why a request for a call fails, if it does. -/
def refusal? (bus : Bus α) (call : Call α) : Option BusError :=
  if bus.config.enables call = false then some .notImplemented
  else if bus.reach call = [] then some .noChannel
  else if call.isIdle then none
  else if (bus.reach call).any (·.holdsUp call.side) then some .wouldBlock
  else none

/-- What a request for a call leaves. -/
structure Answers (bus : Bus α) (call : Call α) (outcome : Outcome α (Answered α)) : Prop where
  /-- It is answered with a reply, which fails just for the reason given. -/
  answered : ∃ reply, outcome.result = .ok (.reply reply) ∧ reply.error? = bus.refusal? call
  /-- A failure is counted and raised, and that is all. -/
  failed : ∀ error, bus.refusal? call = some error →
    outcome.bus = bus.note (·.countError error) ∧ outcome.notices = [.raised error]
  /-- A success raises nothing and counts no failure. -/
  succeeded : bus.refusal? call = none → outcome.notices.filterMap Notice.raises? = [] ∧
    ∀ error, outcome.bus.stats.failures error = bus.stats.failures error
  /-- A call with nothing to move does nothing. -/
  idle : bus.refusal? call = none → call.isIdle = true →
    outcome.bus = bus ∧ outcome.notices = []

section Answering

variable {bus : Bus α} {call : Call α} {handle : Handle} {channel : Channel α}

/-- A disabled call is not implemented. -/
theorem refusal?_of_disabled (disabled : bus.config.enables call = false) :
    bus.refusal? call = some .notImplemented :=
  if_pos disabled

/-- A call on a handle without a channel is refused. -/
theorem refusal?_of_closed (enabled : bus.config.enables call = true)
    (named : call.handle? = some handle) (closed : bus.channel? handle = none) :
    bus.refusal? call = some .noChannel := by
  simp [refusal?, enabled, reach, named, closed]

/-- On an open channel a call is refused only if it is held up. -/
theorem refusal?_of_open (enabled : bus.config.enables call = true)
    (named : call.handle? = some handle) (here : bus.channel? handle = some channel) :
    bus.refusal? call = if call.isIdle then none
      else if channel.holdsUp call.side then some .wouldBlock else none := by
  simp [refusal?, enabled, reach, named, here]

/-- A broadcast is about every open channel. -/
theorem mem_reach_broadcast {value : α} :
    channel ∈ bus.reach (.broadcast value) ↔ ∃ handle, bus.channel? handle = some channel := by
  simp only [reach, Call.handle?, List.mem_map, Prod.exists, mem_openChannels, exists_eq_right]

/-- If channels are open, a broadcast is refused only if one of them is full. -/
theorem refusal?_broadcast {value : α} (enabled : bus.config.broadcast = true)
    (here : bus.channel? handle = some channel) : bus.refusal? (.broadcast value) =
      if (bus.reach (.broadcast value)).any (·.isFull) then some .wouldBlock else none := by
  have enables : ¬ bus.config.enables (.broadcast value) = false :=
    (Bool.not_eq_false _).mpr enabled
  have reaches : bus.reach (.broadcast value) ≠ [] :=
    List.ne_nil_of_mem (mem_reach_broadcast.mpr ⟨handle, here⟩)
  unfold refusal?
  rw [if_neg enables, if_neg reaches]
  rfl

/-- A request that is refused fails. -/
theorem answers_failing {error : BusError} {reply : Reply α}
    (refused : bus.refusal? call = some error) (fails : reply.error? = some error) :
    bus.Answers call (bus.failing error (.ok (.reply reply))) where
  answered := ⟨reply, rfl, fails.trans refused.symm⟩
  failed other same := by
    obtain rfl := Option.some.inj (refused.symm.trans same)
    exact ⟨rfl, rfl⟩
  succeeded passes := absurd (refused.symm.trans passes) (Option.some_ne_none _)
  idle passes := absurd (refused.symm.trans passes) (Option.some_ne_none _)

/-- A request that moves values succeeds. -/
theorem answers_of_moved {outcome : Outcome α (Answered α)} {reply : Reply α}
    (passes : bus.refusal? call = none) (busy : call.isIdle = false)
    (answered : outcome.result = .ok (.reply reply)) (succeeds : reply.error? = none)
    (quiet : outcome.notices.filterMap Notice.raises? = [])
    (counted : ∀ error, outcome.bus.stats.failures error = bus.stats.failures error) :
    bus.Answers call outcome where
  answered := ⟨reply, answered, succeeds.trans passes.symm⟩
  failed _ refused := absurd (refused.symm.trans passes) (Option.some_ne_none _)
  succeeded _ := ⟨quiet, counted⟩
  idle _ idle := absurd (busy.symm.trans idle) Bool.false_ne_true

/-- A request with nothing to move succeeds. -/
theorem answers_unchanged {reply : Reply α} (passes : bus.refusal? call = none)
    (succeeds : reply.error? = none) :
    bus.Answers call (bus.unchanged (.ok (.reply reply))) where
  answered := ⟨reply, rfl, succeeds.trans passes.symm⟩
  failed _ refused := absurd (refused.symm.trans passes) (Option.some_ne_none _)
  succeeded _ := ⟨rfl, fun _ => rfl⟩
  idle _ _ := ⟨rfl, rfl⟩

/-- What counts no failure leaves the counters of failures alone. -/
theorem failures_note (bus : Bus α) {update : Stats → Stats} {error : BusError}
    (spares : ∀ stats, (update stats).failures error = stats.failures error) :
    (bus.note update).stats.failures error = bus.stats.failures error := by
  unfold note
  split
  · exact spares bus.stats
  · rfl

/-- Values that go into a buffer count no failure. -/
theorem failures_accepting (values : List α) (result : β) (error : BusError) :
    (bus.accepting handle channel values result).bus.stats.failures error =
      bus.stats.failures error :=
  failures_note (bus.setChannel handle _) fun _ => by cases error <;> rfl

/-- Values that come out of a buffer count no failure. -/
theorem failures_releasing (max : Nat) (result : β) (error : BusError) :
    (bus.releasing handle channel max result).bus.stats.failures error =
      bus.stats.failures error :=
  failures_note (bus.setChannel handle _) fun _ => by cases error <;> rfl

end Answering

section Performing

variable [Stored α] {bus : Bus α} {handle : Handle} {channel : Channel α}

/-- A request to send answers as it should. -/
theorem answers_trySend (here : bus.channel? handle = some channel) (value : α) :
    bus.Answers (.send handle value) (bus.perform (.trySend handle value)) := by
  have found : bus.lookup handle none = some channel := here
  have refusal : bus.refusal? (.send handle value) = _ := refusal?_of_open rfl rfl here
  have sent : bus.trySend handle value = _ := push_eq found value
  rw [perform, sent]
  cases full : channel.isFull with
  | true =>
    have held : bus.refusal? (.send handle value) = some .wouldBlock :=
      refusal.trans (if_pos full)
    exact answers_failing held rfl
  | false =>
    have passes : bus.refusal? (.send handle value) = none :=
      refusal.trans (if_neg (Bool.eq_false_iff.mp full))
    exact answers_of_moved passes rfl rfl rfl (raises?_wokenNotices _)
      (failures_accepting [value] (.ok () : Result Unit))

/-- A request to send a batch answers as it should. -/
theorem answers_trySendMany (here : bus.channel? handle = some channel)
    (enabled : bus.config.batch = true) (values : List α) :
    bus.Answers (.sendMany handle values) (bus.perform (.trySendMany handle values)) := by
  have found : bus.lookup handle none = some channel := here
  have refusal : bus.refusal? (.sendMany handle values) = _ := refusal?_of_open enabled rfl here
  have batch : bus.trySendMany handle values = bus.pushMany handle none values := if_pos enabled
  rw [perform, batch]
  by_cases given : values = []
  · subst given
    have nothing : bus.pushMany handle none [] = bus.unchanged (.ok 0) := by
      simp only [pushMany, found, List.isEmpty_nil, if_true]
    rw [nothing]
    exact answers_unchanged (refusal.trans rfl) rfl
  · have busy : (Call.sendMany handle values).isIdle = false := List.isEmpty_eq_false_iff.mpr given
    rw [busy] at refusal
    rw [pushMany_eq found given]
    cases full : channel.isFull with
    | true =>
      rw [if_pos (Channel.fitting_of_full full values)]
      exact answers_failing (refusal.trans (if_pos full)) rfl
    | false =>
      rw [if_neg (Channel.fitting_ne_nil given full)]
      exact answers_of_moved (refusal.trans (if_neg (Bool.eq_false_iff.mp full))) busy rfl rfl
        (raises?_wokenNotices _) (failures_accepting values (.ok 0 : Result Nat))

/-- A request to receive answers as it should. -/
theorem answers_tryReceive (here : bus.channel? handle = some channel) :
    bus.Answers (.receive handle) (bus.perform (.tryReceive handle)) := by
  have found : bus.lookup handle none = some channel := here
  have refusal : bus.refusal? (.receive handle) = _ := refusal?_of_open rfl rfl here
  have received : bus.tryReceive handle = _ := pop_eq found
  rw [perform, received]
  cases held : channel.buffer with
  | nil =>
    have empty : channel.isEmpty = true := List.isEmpty_iff.mpr held
    have nothing : channel.oldest 1 = [] := by rw [Channel.oldest, held, List.take_nil]
    rw [nothing]
    exact answers_failing (refusal.trans (if_pos empty)) rfl
  | cons value rest =>
    have filled : ¬ channel.isEmpty = true := by simp [Channel.isEmpty, held]
    have first : channel.oldest 1 = [value] := by rw [Channel.oldest, held, List.take_one]; rfl
    rw [first]
    exact answers_of_moved (refusal.trans (if_neg filled)) rfl rfl rfl (raises?_wokenNotices _)
      (failures_releasing 1 (.ok value : Result α))

/-- A request to receive a batch answers as it should. -/
theorem answers_tryReceiveMany (here : bus.channel? handle = some channel)
    (enabled : bus.config.batch = true) (max : Nat) :
    bus.Answers (.receiveMany handle max) (bus.perform (.tryReceiveMany handle max)) := by
  have found : bus.lookup handle none = some channel := here
  have refusal : bus.refusal? (.receiveMany handle max) = _ := refusal?_of_open enabled rfl here
  have batch : bus.tryReceiveMany handle max = bus.popMany handle none max := if_pos enabled
  rw [perform, batch]
  by_cases wanted : max = 0
  · subst wanted
    have nothing : bus.popMany handle none 0 = bus.unchanged (.ok []) := by
      simp only [popMany, found, if_true]
    rw [nothing]
    exact answers_unchanged (refusal.trans rfl) rfl
  · have busy : (Call.receiveMany handle max : Call α).isIdle = false := beq_false_of_ne wanted
    rw [busy] at refusal
    rw [popMany_eq found wanted]
    by_cases held : channel.buffer = []
    · have empty : channel.isEmpty = true := List.isEmpty_iff.mpr held
      have nothing : channel.oldest max = [] := by rw [Channel.oldest, held, List.take_nil]
      rw [if_pos nothing]
      exact answers_failing (refusal.trans (if_pos empty)) rfl
    · have filled : ¬ channel.isEmpty = true := fun empty => held (List.isEmpty_iff.mp empty)
      have some : channel.oldest max ≠ [] := fun nothing =>
        (List.take_eq_nil_iff.mp nothing).elim wanted held
      rw [if_neg some]
      exact answers_of_moved (refusal.trans (if_neg filled)) busy rfl rfl
        (raises?_wokenNotices _) (failures_releasing max (.ok [] : Result (List α)))

/-- A request to broadcast answers as it should. -/
theorem answers_tryBroadcast (enabled : bus.config.broadcast = true) (value : α) :
    bus.Answers (.broadcast value) (bus.perform (.tryBroadcast value)) := by
  have enables : bus.config.enables (.broadcast value) = true := enabled
  have tried : bus.tryBroadcast value = _ := if_pos enabled
  rw [perform, tried]
  rcases bus.broadcastOnce_cases (fun channel => !channel.isFull) value with
    ⟨nothing, once⟩ | ⟨handle, channel, here, unready, once⟩ | ⟨ready, something, once⟩
  · have refused : bus.refusal? (.broadcast value) = some .noChannel := by
      simp [refusal?, enables, reach, Call.handle?, openChannels_eq_nil_iff.mpr nothing]
    rw [once]
    exact answers_failing refused rfl
  · have full : channel.isFull = true := by simpa using unready
    have held : (bus.reach (.broadcast value)).any (·.isFull) = true :=
      List.any_eq_true.mpr ⟨channel, mem_reach_broadcast.mpr ⟨handle, here⟩, full⟩
    rw [once]
    exact answers_failing ((refusal?_broadcast enabled here).trans (if_pos held)) rfl
  · obtain ⟨handle, channel, here⟩ := something
    have free : ¬ (bus.reach (.broadcast value)).any (·.isFull) = true := by
      intro held
      obtain ⟨channel, reached, full⟩ := List.any_eq_true.mp held
      obtain ⟨handle, here⟩ := mem_reach_broadcast.mp reached
      have spare := ready handle channel here
      rw [full] at spare
      contradiction
    rw [once]
    refine answers_of_moved ((refusal?_broadcast enabled here).trans (if_neg free)) rfl rfl rfl
      ?_ fun error => ?_
    · change ((bus.giveAll value).notices ++ []).filterMap Notice.raises? = []
      rw [List.append_nil, giveAll, List.filterMap_append, raises?_wokenNotices]
      rfl
    · exact failures_note (bus.overOpen _) fun _ => by cases error <;> rfl

/-- Every request for a call answers as it should. -/
theorem answers_perform (bus : Bus α) {request : Request α} {call : Call α}
    (asked : request.call? = some call) : bus.Answers call (bus.perform request) := by
  by_cases enabled : bus.config.enables call = true
  case neg =>
    have disabled := Bool.eq_false_iff.mpr enabled
    rw [perform_of_disabled asked disabled]
    exact answers_failing (refusal?_of_disabled disabled) (call.error?_failed _)
  case pos =>
    cases named : call.handle? with
    | none =>
      obtain ⟨value, rfl, rfl⟩ := Request.eq_tryBroadcast asked named
      exact answers_tryBroadcast enabled value
    | some handle =>
      cases here : bus.channel? handle with
      | none =>
        rw [perform_of_closed asked enabled named here]
        exact answers_failing (refusal?_of_closed enabled named here) (call.error?_failed _)
      | some channel =>
        cases request with
        | openChannel | close | delete | isOpen | capacity | length | waiting | channelCount
        | handles | stats => contradiction
        | tryBroadcast value =>
          obtain rfl := Option.some.inj asked
          contradiction
        | trySend target value =>
          obtain rfl := Option.some.inj asked
          obtain rfl := Option.some.inj named
          exact answers_trySend here value
        | tryReceive target =>
          obtain rfl := Option.some.inj asked
          obtain rfl := Option.some.inj named
          exact answers_tryReceive here
        | trySendMany target values =>
          obtain rfl := Option.some.inj asked
          obtain rfl := Option.some.inj named
          exact answers_trySendMany here enabled values
        | tryReceiveMany target max =>
          obtain rfl := Option.some.inj asked
          obtain rfl := Option.some.inj named
          exact answers_tryReceiveMany here enabled max

end Performing

end Bus

/-! ## Calls that wait -/

/-- An error that ends a call is the last one that it raises, and it is not that the call would
block. -/
def Outcome.RaisesLast (outcome : Outcome α (Progress α)) : Prop :=
  ∀ reply error, outcome.result = .finished reply → reply.error? = some error →
    error ≠ .wouldBlock ∧ ∃ earlier, outcome.notices = earlier ++ [.raised error]

namespace Outcome.RaisesLast

/-- What was raised before the last step does not matter. -/
theorem andThen {first : Outcome α β} {next : β → Bus α → Outcome α (Progress α)}
    (last : (next first.result first.bus).RaisesLast) : (first.andThen next).RaisesLast := by
  intro reply error ends fails
  obtain ⟨moves, earlier, notices⟩ := last reply error ends fails
  refine ⟨moves, first.notices ++ earlier, ?_⟩
  change first.notices ++ (next first.result first.bus).notices = _
  rw [notices, List.append_assoc]

/-- Notices before those of a call do not matter. -/
theorem after {outcome : Outcome α (Progress α)} (last : outcome.RaisesLast)
    (notices : List Notice) : (outcome.after notices).RaisesLast := by
  intro reply error ends fails
  obtain ⟨moves, earlier, same⟩ := last reply error ends fails
  refine ⟨moves, notices ++ earlier, ?_⟩
  change notices ++ outcome.notices = _
  rw [same, List.append_assoc]

end Outcome.RaisesLast

namespace Bus

section Waiting

variable {bus : Bus α}

/-- A call that parks is not over. -/
theorem raisesLast_of_parked {outcome : Outcome α (Progress α)} {suspended : Suspended α}
    (parked : outcome.result = .parked suspended) : outcome.RaisesLast := by
  intro reply error ends
  rw [parked] at ends
  contradiction

/-- A call that succeeds ends with no error. -/
theorem raisesLast_of_succeeded {outcome : Outcome α (Progress α)} {reply : Reply α}
    (ends : outcome.result = .finished reply) (succeeds : reply.error? = none) :
    outcome.RaisesLast := by
  intro other error same fails
  obtain rfl := Progress.finished.inj (ends.symm.trans same)
  exact absurd (fails.symm.trans succeeds) (Option.some_ne_none _)

/-- A call that fails at once raises its error. -/
theorem raisesLast_failing {error : BusError} {reply : Reply α}
    (fails : reply.error? = some error) (moves : error ≠ .wouldBlock) :
    (bus.failing error (.finished reply)).RaisesLast := by
  intro other error' same fails'
  obtain rfl := Progress.finished.inj same
  obtain rfl := Option.some.inj (fails.symm.trans fails')
  exact ⟨moves, [], rfl⟩

/-- A call that is tried on an open channel does not fail. -/
theorem error?_of_tried {channel after : Channel α} {waker : TaskId} {call : Call α}
    {reply : Reply α} (tried : channel.Tried waker call (some reply) after) :
    reply.error? = none := by
  cases tried with
  | moved moves =>
    cases moves with
    | sentNothing | accepted | released => cases call <;> rfl
    | tookNothing => rfl
  | handedOff | tookOffer => cases call <;> rfl

/-- An attempt on a handle fails only if its channel is closed. -/
theorem raisesLast_attempt (bus : Bus α) (generation : Nat) (waker : TaskId) {call : Call α}
    {handle : Handle} (named : call.handle? = some handle) :
    (bus.attempt generation waker call).RaisesLast := by
  cases pinned : bus.pinned? handle generation with
  | none =>
    rw [attempt_gone pinned named]
    exact raisesLast_failing (call.error?_failed _) (by decide)
  | some channel =>
    obtain ⟨reply?, after, tried, _, result⟩ := attempted_attempt pinned named waker
    cases reply? with
    | none => exact raisesLast_of_parked result
    | some reply => exact raisesLast_of_succeeded result (error?_of_tried tried)

/-- A try of a broadcast fails only if no channel is open. -/
theorem raisesLast_broadcastTry (bus : Bus α) (value : α) (previous : Option (Handle × Nat))
    (waker : TaskId) : (bus.broadcastTry value previous waker).RaisesLast := by
  have missing : ∀ bus : Bus α, ((bus.fail .noChannel).map fun result =>
      Progress.finished (.sent result)).RaisesLast := fun bus =>
    raisesLast_failing rfl (by decide)
  unfold broadcastTry
  apply Outcome.RaisesLast.andThen
  apply Outcome.RaisesLast.andThen
  split
  case h_1 => exact raisesLast_of_succeeded rfl rfl
  case h_2 => exact missing _
  case h_3 handle generation _ =>
    unfold standBy
    split
    case h_1 => exact missing _
    case h_2 => exact raisesLast_of_parked rfl

/-- The first poll of a call fails precisely. -/
theorem raisesLast_start (bus : Bus α) (call : Call α) (waker : TaskId) :
    (bus.start call waker).RaisesLast := by
  cases enabled : bus.config.enables call with
  | false =>
    rw [start_of_disabled enabled]
    exact raisesLast_failing (call.error?_failed _) (by decide)
  | true =>
    cases named : call.handle? with
    | none =>
      obtain ⟨value, rfl⟩ := Call.eq_broadcast named
      rw [start_broadcast enabled]
      exact bus.raisesLast_broadcastTry value none waker
    | some handle =>
      cases here : bus.channel? handle with
      | none =>
        rw [start_of_closed enabled named here]
        exact raisesLast_failing (call.error?_failed _) (by decide)
      | some channel =>
        rw [start_of_open enabled named here]
        exact bus.raisesLast_attempt channel.generation waker named

/-- A call that goes on fails precisely, whatever it finds on its wait. -/
theorem raisesLast_wakeUp (bus : Bus α) (suspended : Suspended α) (parcel : Parcel α)
    (waker : TaskId) : (bus.wakeUp suspended parcel waker).RaisesLast := by
  obtain ⟨call, ticket⟩ := suspended
  cases call with
  | send handle value =>
    have again : ∀ returned, (bus.attempt ticket.generation waker
        (.send handle returned)).RaisesLast := fun _ => bus.raisesLast_attempt _ waker rfl
    cases parcel with
    | taken => exact raisesLast_of_succeeded rfl rfl
    | empty | delivered => exact (again value).after _
    | offered returned => exact (again returned).after _
  | receive handle =>
    have again : (bus.attempt ticket.generation waker (.receive handle)).RaisesLast :=
      bus.raisesLast_attempt _ waker rfl
    cases parcel with
    | delivered value => exact raisesLast_of_succeeded rfl rfl
    | empty | taken | offered => exact again.after _
  | sendMany handle values =>
    have again : (bus.attempt ticket.generation waker (.sendMany handle values)).RaisesLast :=
      bus.raisesLast_attempt _ waker rfl
    cases parcel with
    | taken => exact raisesLast_of_succeeded rfl rfl
    | empty | delivered | offered => exact again
  | receiveMany handle max =>
    have again : (bus.attempt ticket.generation waker (.receiveMany handle max)).RaisesLast :=
      bus.raisesLast_attempt _ waker rfl
    cases parcel with
    | delivered value => exact raisesLast_of_succeeded rfl rfl
    | empty | taken | offered => exact again
  | broadcast value =>
    rw [wakeUp_broadcast]
    exact bus.raisesLast_broadcastTry value _ waker

/-- A later poll of a call fails precisely. -/
theorem raisesLast_resume (bus : Bus α) (suspended : Suspended α) (waker : TaskId) :
    (bus.resume suspended waker).RaisesLast := by
  unfold resume
  simp only
  split
  case h_1 => exact raisesLast_of_parked rfl
  case h_2 parcel _ => exact raisesLast_wakeUp _ suspended parcel waker

end Waiting

end Bus

/-! ## The error slot -/

namespace ErrorCode

/-- Notices that raise nothing leave the error slot alone. -/
theorem afterHearing_of_quiet {notices : List Notice}
    (quiet : notices.filterMap Notice.raises? = []) (code : ErrorCode) :
    code.afterHearing notices = code := by
  induction notices with
  | nil => rfl
  | cons notice rest ih =>
    have silent : notice.raises? = none := by
      cases raised : notice.raises? with
      | none => rfl
      | some error => simp [raised] at quiet
    rw [List.filterMap_cons_none silent] at quiet
    have here : code.afterHearing (notice :: rest) =
        (notice.raises?.elim code (·.code)).afterHearing rest := rfl
    rw [here, silent]
    exact ih quiet

/-- The error slot holds what was raised last. -/
theorem afterHearing_raised (code : ErrorCode) (earlier : List Notice) (error : BusError) :
    code.afterHearing (earlier ++ [.raised error]) = error.code := by
  rw [afterHearing, List.foldl_append]
  rfl

end ErrorCode

namespace Scheduler

/-- Hearing notices writes their errors into the error slot. -/
theorem lastError_hearAll (scheduler : Scheduler σ α) (notices : List Notice) :
    (scheduler.hearAll notices).lastError = scheduler.lastError.afterHearing notices := by
  have rings : ∀ (scheduler : Scheduler σ α) (task : TaskId),
      (scheduler.ring task).lastError = scheduler.lastError := by
    intro scheduler task
    unfold ring
    split <;> rfl
  have heard : ∀ (scheduler : Scheduler σ α) (notice : Notice),
      (scheduler.hear notice).lastError = notice.raises?.elim scheduler.lastError (·.code) := by
    intro scheduler notice
    unfold hear
    cases notice.wakes? with
    | none => cases notice.raises? <;> rfl
    | some task => cases notice.raises? <;> first | rfl | exact rings scheduler task
  induction notices generalizing scheduler with
  | nil => rfl
  | cons notice rest ih =>
    have here := ih (scheduler.hear notice)
    rw [heard] at here
    exact here

/-- What a request that never waits does in a scheduler. -/
structure Precise [Stored α] (scheduler : Scheduler σ α) (index : Nat) (bus : Bus α)
    (request : Request α) (call : Call α) : Prop where
  /-- It is answered with a reply, which fails just for the reason given. -/
  answered : ∃ reply, (scheduler.act (.onBus index request)).result = .ok (.reply reply) ∧
    reply.error? = bus.refusal? call
  /-- A failure is counted, takes the error slot, and is all that is heard of. -/
  failed : ∀ error, bus.refusal? call = some error →
    (scheduler.act (.onBus index request)).scheduler = { scheduler with
      buses := scheduler.buses.set index (bus.note (·.countError error))
      lastError := error.code } ∧
    (scheduler.act (.onBus index request)).events = [.noticed (.raised error)]
  /-- Counting a failure adds one to its own counter, if anything is counted. -/
  counted : ∀ error other, (bus.note (·.countError error)).stats.failures other =
    bus.stats.failures other + if bus.config.telemetry = true ∧ other = error then 1 else 0
  /-- A success leaves the error slot and the counters of failures alone. -/
  succeeded : bus.refusal? call = none →
    (scheduler.act (.onBus index request)).scheduler.lastError = scheduler.lastError ∧
    ∃ after, (scheduler.act (.onBus index request)).scheduler.buses =
        scheduler.buses.set index after ∧
      ∀ error, after.stats.failures error = bus.stats.failures error
  /-- A request with nothing to move does nothing. -/
  idle : bus.refusal? call = none → call.isIdle = true →
    (scheduler.act (.onBus index request)).scheduler = scheduler ∧
    (scheduler.act (.onBus index request)).events = []

/-- An error that a poll of a call returns is not that the call would block, and it stands in the
error slot. -/
def Turn.Raised (turn : Turn σ α (Except Fault (Progress α))) : Prop :=
  ∀ reply error, turn.result = .ok (.finished reply) → reply.error? = some error →
    error ≠ .wouldBlock ∧ turn.scheduler.lastError = error.code

section Acting

variable {scheduler : Scheduler σ α} {index : Nat} {bus : Bus α}

/-- What an operation on a bus leaves of the scheduler. -/
theorem onBus_eq (known : scheduler.buses[index]? = some bus)
    (operation : Bus α → Outcome α β) : scheduler.onBus index operation =
      { result := .ok (operation bus).result
        scheduler := { scheduler with
          buses := scheduler.buses.set index (operation bus).bus }.hearAll (operation bus).notices
        events := (operation bus).notices.map .noticed } := by
  simp only [onBus, known]

/-- A poll of a call that fails precisely leaves its error in the error slot. -/
theorem raised_of_raisesLast (known : scheduler.buses[index]? = some bus)
    {operation : Bus α → Outcome α (Progress α)} (last : (operation bus).RaisesLast) :
    (scheduler.onBus index operation).Raised := by
  rw [onBus_eq known]
  intro reply error ends fails
  obtain ⟨moves, earlier, notices⟩ := last reply error (Except.ok.inj ends) fails
  refine ⟨moves, ?_⟩
  rw [lastError_hearAll, notices]
  exact ErrorCode.afterHearing_raised _ earlier error

/-- A request that answers as it should does so in a scheduler. -/
theorem precise_of_answers [Stored α] (known : scheduler.buses[index]? = some bus)
    {request : Request α} {call : Call α} (answers : bus.Answers call (bus.perform request)) :
    scheduler.Precise index bus request call := by
  have turn : scheduler.act (.onBus index request) =
      { result := (bus.perform request).result
        scheduler := { scheduler with
          buses := scheduler.buses.set index (bus.perform request).bus }.hearAll
            (bus.perform request).notices
        events := (bus.perform request).notices.map .noticed } := by
    simp only [act, onBus_eq known]
    rfl
  constructor
  case answered =>
    rw [turn]
    exact answers.answered
  case failed =>
    intro error refused
    obtain ⟨counted, raised⟩ := answers.failed error refused
    rw [turn, counted, raised]
    exact ⟨rfl, rfl⟩
  case counted =>
    intro error other
    unfold Bus.note
    cases telemetry : bus.config.telemetry with
    | true => simp [Stats.failures_countError]
    | false => simp
  case succeeded =>
    intro passes
    obtain ⟨quiet, counted⟩ := answers.succeeded passes
    rw [turn]
    refine ⟨?_, (bus.perform request).bus, buses_hearAll _ _, counted⟩
    rw [lastError_hearAll]
    exact ErrorCode.afterHearing_of_quiet quiet _
  case idle =>
    intro passes idle
    obtain ⟨same, silent⟩ := answers.idle passes idle
    have kept : scheduler.buses.set index bus = scheduler.buses := by
      obtain ⟨inside, there⟩ := List.getElem?_eq_some_iff.mp known
      rw [← there, List.set_getElem_self]
    rw [turn, same, silent, kept]
    exact ⟨rfl, rfl⟩

end Acting

/-- Failures are precise. Asked for something that never waits, a bus fails exactly for the first of
three reasons that holds: the settings disable it, no channel is open for it, or, unless it has
nothing to move, a channel holds it up. A failure leaves nothing behind but its count and its code
in the error slot, and a success touches neither. A call that waits never ends because it would
block, and when it fails the error slot holds its error. -/
theorem failures_precise [Stored α] (scheduler : Scheduler σ α) {index : Nat} {bus : Bus α}
    (known : scheduler.buses[index]? = some bus) :
    (∀ request call, request.call? = some call → scheduler.Precise index bus request call) ∧
    (∀ call waker, (scheduler.onBus index (·.start call waker)).Raised) ∧
    ∀ suspended waker, (scheduler.onBus index (·.resume suspended waker)).Raised := by
  refine ⟨fun request call asked => ?_, fun call waker => ?_, fun suspended waker => ?_⟩
  · exact precise_of_answers known (bus.answers_perform asked)
  · exact raised_of_raisesLast known (bus.raisesLast_start call waker)
  · exact raised_of_raisesLast known (bus.raisesLast_resume suspended waker)

/-- A sender waits for room in a full channel. Another that does not wait leaves nothing but its
failure, and a batch of no values nothing at all. -/
theorem failures_precise_of_full :
    let bus : Bus UInt32 := ((Session.new {}).run [.request (.openChannel 1),
      .request (.trySend ⟨0⟩ 5), .start (.send ⟨0⟩ 6) 4]).bus
    let scheduler : Scheduler Unit UInt32 := .new [bus]
    let refused := scheduler.act (.onBus 0 (.trySend ⟨0⟩ 7))
    let idle := scheduler.act (.onBus 0 (.trySendMany ⟨0⟩ []))
    bus.stats.wouldBlock = 1 ∧
      refused.scheduler = { scheduler with
        buses := [bus.note (·.countError .wouldBlock)], lastError := .wouldBlock } ∧
      (bus.note (·.countError .wouldBlock)).stats.wouldBlock = 2 ∧
      idle.scheduler = scheduler := by
  intro bus scheduler refused idle
  have known : scheduler.buses[0]? = some bus := rfl
  obtain ⟨precise, _, _⟩ := failures_precise scheduler known
  have full := (precise (.trySend ⟨0⟩ 7) (.send ⟨0⟩ 7) rfl).failed .wouldBlock (by decide)
  have nothing := (precise (.trySendMany ⟨0⟩ []) (.sendMany ⟨0⟩ []) rfl).idle (by decide) rfl
  exact ⟨by decide, full.1, by decide, nothing.1⟩

end Scheduler

end ChannelBus
