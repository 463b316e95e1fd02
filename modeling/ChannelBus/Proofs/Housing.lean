import ChannelBus.Proofs.Tickets

/-!
# Every parcel belongs to a waiting call

`Bus.Housed` relates a bus to the calls that wait on it: every waiting call finds its parcel where
its ticket says, no two share one, and every parcel on the board belongs to a call that still waits.
Each thing that can happen to a bus keeps that relation.

`Session.Effect` lists all that a move of a session can do. It is the one place where the operations
of a bus are taken apart; every property of runs is proved by going through that list.
-/

namespace ChannelBus

variable {α : Type}

/-- A value that went through its parcel is what a call may find there. -/
theorem Call.Finds.of_passed? {call : Call α} {before now : Parcel α} {value : α}
    (finds : call.Finds before) (passed : before.passed? now = some value)
    (allowed : call.side.mayWake now = true) : call.Finds now := by
  cases before with
  | delivered | taken => cases now <;> contradiction
  | offered offer =>
    cases now with
    | taken =>
      cases finds with
      | offered offers => exact .taken offers
    | empty | offered | delivered => contradiction
  | empty =>
    cases now with
    | delivered given =>
      cases finds with
      | empty wants => exact .delivered given wants
      | unpinned everywhere =>
        cases call with
        | broadcast => contradiction
        | send | receive | sendMany | receiveMany => contradiction
    | empty | offered | taken => contradiction

/-- The waits of some calls after those of one call were replaced. -/
def reassign (waiting : Nat → Option (Suspended α)) (id : Nat)
    (suspended? : Option (Suspended α)) (other : Nat) : Option (Suspended α) :=
  if other = id then suspended? else waiting other

namespace Bus

/-- Every waiting call has its parcel, and every parcel its waiting call. -/
structure Housed (bus : Bus α) (waiting : Nat → Option (Suspended α)) : Prop where
  /-- The registry is sound. -/
  sound : bus.Sound
  /-- Every waiting call finds its parcel. -/
  houses : ∀ id suspended, waiting id = some suspended → bus.Houses suspended
  /-- No two calls wait at the same place. -/
  apart : ∀ id other suspended another, waiting id = some suspended →
    waiting other = some another → suspended.ticket.address = another.ticket.address → id = other
  /-- Every parcel belongs to a waiting call. -/
  owned : ∀ address parcel, bus.parcel? address = some parcel →
    ∃ id suspended, waiting id = some suspended ∧ suspended.ticket.address = address

/-- On a new bus nobody waits. -/
theorem housed_new (config : Config) : (new config : Bus α).Housed fun _ => none :=
  ⟨⟨by simp [known, new], by simp [known, new], by simp [known, new], by simp [new]⟩, by simp,
    by simp, by simp [Bus.parcel?, identity?, known, new]⟩

/-- A parked call keeps its place while other calls are tried. -/
theorem Houses.tries {bus after : Bus α} {suspended : Suspended α} {call : Call α}
    {suspended? : Option (Suspended α)} (houses : bus.Houses suspended)
    (tries : bus.Tries after call suspended?) : after.Houses suspended := by
  obtain ⟨parcel, held, finds⟩ := houses.parcel
  refine ⟨houses.homes.of_generations tries.generations, houses.side, ?_, houses.handle⟩
  cases passed : bus.passed? after suspended.ticket.address with
  | none =>
    have apart : ∀ parked, suspended? = some parked →
        parked.ticket.address ≠ suspended.ticket.address := by
      intro parked parks same
      have absent := (tries.parked parked parks).2.2
      rw [same, held] at absent
      contradiction
    exact ⟨parcel, (tries.kept _ passed apart).trans held, finds⟩
  | some value =>
    obtain ⟨before, now, heldBefore, heldNow, through⟩ := passed?_eq_some_iff.mp passed
    obtain rfl : parcel = before := Option.some.inj (held.symm.trans heldBefore)
    have allowed := tries.sound.mayWake_of_parcel? heldNow
    have side : suspended.ticket.address.side = suspended.call.side := houses.side
    rw [side] at allowed
    exact ⟨now, heldNow, finds.of_passed? through allowed⟩

/-- A try of a call that does not wait yet. -/
theorem Housed.tries {bus after : Bus α} {waiting : Nat → Option (Suspended α)} {id : Nat}
    {call : Call α} {suspended? : Option (Suspended α)} (housed : bus.Housed waiting)
    (idle : waiting id = none) (tries : bus.Tries after call suspended?) :
    after.Housed (reassign waiting id suspended?) := by
  have occupied : ∀ other suspended, waiting other = some suspended → ∀ parked,
      suspended? = some parked → parked.ticket.address ≠ suspended.ticket.address := by
    intro other suspended waits parked parks same
    obtain ⟨parcel, held, _⟩ := (housed.houses other suspended waits).parcel
    have absent := (tries.parked parked parks).2.2
    rw [same, held] at absent
    contradiction
  refine ⟨tries.sound, fun other suspended waits => ?_,
    fun first second suspended another waits waitsToo same => ?_, fun address parcel held => ?_⟩
  · unfold reassign at waits
    split at waits
    · exact (tries.parked suspended waits).1
    · exact (housed.houses other suspended waits).tries tries
  · unfold reassign at waits waitsToo
    split at waits
    case isTrue here =>
      split at waitsToo
      case isTrue there => exact here.trans there.symm
      case isFalse => exact absurd same (occupied second another waitsToo suspended waits)
    case isFalse =>
      split at waitsToo
      case isTrue => exact absurd same.symm (occupied first suspended waits another waitsToo)
      case isFalse => exact housed.apart first second suspended another waits waitsToo same
  · by_cases new : ∃ parked, suspended? = some parked ∧ parked.ticket.address = address
    · obtain ⟨parked, parks, same⟩ := new
      exact ⟨id, parked, by simp [reassign, parks], same⟩
    · have before : ∃ former, bus.parcel? address = some former := by
        cases passed : bus.passed? after address with
        | none =>
          have kept := tries.kept address passed fun parked parks same =>
            new ⟨parked, parks, same⟩
          exact ⟨parcel, kept.symm.trans held⟩
        | some value =>
          obtain ⟨former, _, heldBefore, _⟩ := passed?_eq_some_iff.mp passed
          exact ⟨former, heldBefore⟩
      obtain ⟨former, heldBefore⟩ := before
      obtain ⟨owner, suspended, waits, same⟩ := housed.owned address former heldBefore
      have other : owner ≠ id := by
        rintro rfl
        rw [idle] at waits
        contradiction
      exact ⟨owner, suspended, by rw [reassign, if_neg other, waits], same⟩

/-- A poll or a drop that takes the parcel of a waiting call away. -/
theorem Housed.clears {bus after : Bus α} {waiting : Nat → Option (Suspended α)} {id : Nat}
    {suspended : Suspended α} (housed : bus.Housed waiting) (waits : waiting id = some suspended)
    (clears : bus.Clears after suspended.ticket.address) :
    after.Housed (reassign waiting id none) := by
  have others : ∀ other another, reassign waiting id none other = some another →
      waiting other = some another ∧ another.ticket.address ≠ suspended.ticket.address := by
    intro other another waitsToo
    unfold reassign at waitsToo
    split at waitsToo
    case isTrue => contradiction
    case isFalse apart =>
      exact ⟨waitsToo, fun same =>
        apart (housed.apart other id another suspended waitsToo waits same)⟩
  refine ⟨clears.sound, fun other another waitsToo => ?_,
    fun first second one two waitsOne waitsTwo same => ?_, fun address parcel held => ?_⟩
  · obtain ⟨before, apart⟩ := others other another waitsToo
    have houses := housed.houses other another before
    obtain ⟨parcel, held, finds⟩ := houses.parcel
    refine ⟨houses.homes.of_generations clears.generations, houses.side, ⟨parcel, ?_, finds⟩,
      houses.handle⟩
    rw [clears.parcel?, if_neg apart, held]
  · exact housed.apart first second one two (others first one waitsOne).1
      (others second two waitsTwo).1 same
  · rw [clears.parcel?] at held
    split at held
    case isTrue => contradiction
    case isFalse apart =>
      obtain ⟨owner, another, waitsToo, same⟩ := housed.owned address parcel held
      have other : owner ≠ id := by
        rintro rfl
        rw [waits] at waitsToo
        obtain rfl := Option.some.inj waitsToo
        exact apart same.symm
      exact ⟨owner, another, by rw [reassign, if_neg other, waitsToo], same⟩

/-- A change that keeps the board and leaves every ticket at home. -/
theorem Housed.of_board {bus after : Bus α} {waiting : Nat → Option (Suspended α)}
    (housed : bus.Housed waiting) (sound : after.Sound)
    (homes : ∀ ticket, bus.Homes ticket → ticket.generation < bus.nextGeneration →
      after.Homes ticket)
    (board : ∀ address, after.parcel? address = bus.parcel? address) : after.Housed waiting := by
  refine ⟨sound, fun id suspended waits => ?_, housed.apart, fun address parcel held => ?_⟩
  · have houses := housed.houses id suspended waits
    obtain ⟨parcel, held, finds⟩ := houses.parcel
    obtain ⟨channel, _, named, _⟩ := houses.ticketed housed.sound
    obtain ⟨member, same⟩ := housed.sound.identity?_eq_some_iff.mp named
    have given := housed.sound.fresh channel member
    rw [same] at given
    exact ⟨homes _ houses.homes given, houses.side, ⟨parcel, (board _).trans held, finds⟩,
      houses.handle⟩
  · rw [board] at held
    exact housed.owned address parcel held

/-- Opening a channel. -/
theorem Housed.opens {bus after : Bus α} {waiting : Nat → Option (Suspended α)} {handle : Handle}
    {capacity : Nat} (housed : bus.Housed waiting) (opens : bus.Opens after handle capacity) :
    after.Housed waiting := by
  refine housed.of_board (opens.sound housed.sound) (fun ticket homed given => ?_)
    (opens.parcel? housed.sound)
  intro other channel here same
  rw [opens.channel?] at here
  split at here
  case isTrue =>
    obtain rfl := Option.some.inj here
    exact absurd (same.symm.trans rfl) (Nat.ne_of_lt given)
  case isFalse => exact homed other channel here same

/-- Using up a generation. -/
theorem Housed.skip {bus : Bus α} {waiting : Nat → Option (Suspended α)}
    (housed : bus.Housed waiting) :
    ({ bus with nextGeneration := bus.nextGeneration + 1 } : Bus α).Housed waiting :=
  housed.of_board housed.sound.skip (fun _ homed _ => homed) fun _ => rfl

/-- Closing channels. -/
theorem Housed.shuts {bus after : Bus α} {waiting : Nat → Option (Suspended α)}
    {handles : List Handle} (housed : bus.Housed waiting) (shuts : bus.Shuts after handles) :
    after.Housed waiting := by
  refine housed.of_board shuts.sound (fun ticket homed _ => ?_) (shuts.parcel? housed.sound)
  intro other channel here same
  rw [shuts.channel?] at here
  split at here
  case isTrue => contradiction
  case isFalse => exact homed other channel here same

end Bus

end ChannelBus
