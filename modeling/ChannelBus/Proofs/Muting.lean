import ChannelBus.Proofs.Likeness

/-!
# Operations do not look at the counters

`Bus.muted` is a bus without telemetry: its counters are off and at zero, and all the rest is as it
was. An operation is `Bus.Blind` if it does the same to a muted bus as to the bus itself, with the
same answer and the same notices. A bus and itself, muted, are alike in all that an operation looks
at, so every operation of a bus is blind except the one that tells the counters.
-/

namespace ChannelBus

variable {α β γ : Type}

/-- A bus with its counters off and at zero. -/
def Bus.muted (bus : Bus α) : Bus α :=
  { bus with config := bus.config.withTelemetry false, stats := {} }

/-- An outcome with the counters of its bus off and at zero. -/
def Outcome.muted (outcome : Outcome α β) : Outcome α β :=
  { outcome with bus := outcome.bus.muted }

namespace Bus

/-- An operation does the same to a muted bus as to the bus itself. -/
def Blind (operation : Bus α → Outcome α β) : Prop :=
  ∀ bus, operation bus.muted = (operation bus).muted

/-! ## A bus and itself, muted -/

section Views

variable (bus : Bus α)

/-- A muted bus does not count. -/
@[simp] theorem note_muted (update : Stats → Stats) : bus.muted.note update = bus.muted := rfl

/-- Counting makes no difference to a muted bus. -/
@[simp] theorem muted_note (update : Stats → Stats) : (bus.note update).muted = bus.muted := by
  unfold note
  split <;> rfl

/-- The queue of a ticket can be replaced on a muted bus. -/
theorem setTicketQueue_muted (ticket : Ticket) (queue : WaitQueue α) :
    bus.muted.setTicketQueue ticket queue = (bus.setTicketQueue ticket queue).muted := by
  have same : bus.muted.pinned? ticket.handle ticket.generation =
      bus.pinned? ticket.handle ticket.generation := rfl
  simp only [setTicketQueue, same]
  cases bus.pinned? ticket.handle ticket.generation <;> rfl

end Views

/-- One bus is the other, muted. -/
def Mutes (bus other : Bus α) : Prop :=
  other = bus.muted

/-- A muted bus is like the bus itself. -/
theorem likeness_mutes : Likeness (Mutes (α := α)) where
  batch := by
    rintro bus _ rfl
    rfl
  broadcast := by
    rintro bus _ rfl
    rfl
  channel? := by
    rintro bus _ rfl handle
    rfl
  note := by
    rintro bus _ rfl update
    simp only [Mutes, note_muted, muted_note]
  setChannel := by
    rintro bus _ rfl handle old here channel
    rfl
  overOpen := by
    rintro bus _ rfl change
    rfl
  freed := by
    rintro bus _ rfl handle old here closed
    rfl

/-- A muted bus shows every ticket. -/
theorem shows_mutes (ticket : Ticket) : Shows (Mutes (α := α)) ticket where
  ticketQueue := by
    rintro bus _ rfl
    rfl
  setTicketQueue := by
    rintro bus _ rfl queue
    exact setTicketQueue_muted bus ticket queue

/-- An operation that does the same to a bus and to itself, muted, is blind. -/
theorem Respects.blind {operation : Bus α → Outcome α β}
    (respects : Respects Mutes operation) : Blind operation := by
  intro bus
  obtain ⟨result, notices, left⟩ := respects (rfl : Mutes bus bus.muted)
  calc
    operation bus.muted = ⟨(operation bus).result, (operation bus).bus.muted,
        (operation bus).notices⟩ := by rw [← result, ← notices, ← left]
    _ = (operation bus).muted := rfl

/-- Opening a channel respects muting. -/
theorem mutes_openChannel [Stored α] (capacity : Nat) :
    Respects (Mutes (α := α)) (·.openChannel capacity) := by
  rintro bus _ rfl
  cases fits : bufferFits α capacity with
  | true =>
    simp only [openChannel, fits, if_true]
    exact ⟨rfl, rfl, by simp only [Mutes, muted_note]; rfl⟩
  | false =>
    simp only [openChannel, fits]
    exact ⟨rfl, rfl, rfl⟩

/-- Closing everything respects muting. -/
theorem mutes_delete : Respects (Mutes (α := α)) (·.delete) := by
  intro bus other alike
  have slots : other.slots.length = bus.slots.length := by rw [alike]; rfl
  simp only [delete, slots]
  refine (likeness_mutes.closeAll _ alike).andThen fun _ => ?_
  rintro after _ rfl
  exact ⟨rfl, rfl, rfl⟩

/-! ## Calls -/

section Calling

variable (waker : TaskId)

/-- Starting a call is blind. -/
theorem blind_start (call : Call α) : Blind (·.start call waker) :=
  (likeness_mutes.start waker call).blind

/-- Resuming a call is blind. -/
theorem blind_resume (suspended : Suspended α) : Blind (·.resume suspended waker) :=
  (likeness_mutes.resume (shows_mutes suspended.ticket) waker).blind

/-- Dropping a call is blind. -/
theorem blind_cancel (suspended : Suspended α) : Blind (·.cancel suspended) :=
  (shows_mutes suspended.ticket).cancel.blind

end Calling

end Bus

/-! ## Requests -/

/-- An answer without the counters that it tells, if it tells them. -/
def Answer.muted : Answer α → Answer α
  | .stats _ => .stats {}
  | answer => answer

/-- Only the counters go from an answer. -/
theorem Answer.muted_eq_self {answer : Answer α} (plain : ∀ stats, answer ≠ .stats stats) :
    answer.muted = answer := by
  cases answer with
  | stats stats => exact absurd rfl (plain stats)
  | done | opened | flag | number | handles | code | raised | reply => rfl

namespace Bus

section Performing

variable [Stored α]

/-- No request but the one for the counters is told them. -/
theorem perform_plain (bus : Bus α) {request : Request α} (other : request ≠ .stats) :
    (bus.perform request).result.map Answer.muted = (bus.perform request).result := by
  cases request with
  | stats => exact absurd rfl other
  | openChannel capacity =>
    show ((bus.openChannel capacity).result.map Answer.opened).map Answer.muted =
      (bus.openChannel capacity).result.map Answer.opened
    cases (bus.openChannel capacity).result <;> rfl
  | close | delete | isOpen | capacity | length | waiting | channelCount | handles | trySend
  | tryReceive | trySendMany | tryReceiveMany | tryBroadcast => rfl

/-- Every request but the one for the counters is blind. -/
theorem blind_perform {request : Request α} (other : request ≠ .stats) :
    Blind (·.perform request) := by
  by_cases opening : ∃ capacity, request = .openChannel capacity
  · obtain ⟨capacity, rfl⟩ := opening
    simp only [perform]
    exact ((mutes_openChannel capacity).map _).blind
  · by_cases deleting : request = .delete
    · subst deleting
      simp only [perform]
      exact (mutes_delete.map _).blind
    · have opens : ∀ capacity, request ≠ .openChannel capacity := not_exists.mp opening
      exact (likeness_mutes.perform opens deleting other).blind

/-- A muted bus answers every request as the bus does, except that its counters are at zero. -/
theorem perform_muted (bus : Bus α) (request : Request α) :
    bus.muted.perform request =
      ((bus.perform request).map fun answered => answered.map Answer.muted).muted := by
  by_cases counters : request = .stats
  · subst counters
    rfl
  · refine (blind_perform counters bus).trans ?_
    simp only [Outcome.map, Outcome.muted, bus.perform_plain counters]

end Performing

end Bus

end ChannelBus
