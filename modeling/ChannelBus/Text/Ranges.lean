/-!
# Tables of ranges

A table lists ranges of code points, each by its first and its last one. If a table ascends, no two
of its ranges meet, and a code point lies in one of them at most.
-/

namespace ChannelBus.Text

/-- Whether a code point lies in one of the ranges. -/
def covers (ranges : List (Nat × Nat)) (code : Nat) : Bool :=
  ranges.any fun (first, last) => first ≤ code && code ≤ last

/-- Whether the ranges begin at `lowest` or later and each begins after the one before has ended. -/
def ascendsFrom (lowest : Nat) : List (Nat × Nat) → Bool
  | [] => true
  | (first, last) :: rest =>
    Nat.ble lowest first && Nat.ble first last && ascendsFrom (last + 1) rest

variable {lowest code : Nat} {ranges : List (Nat × Nat)}

/-- A table that ascends begins with its lowest range and goes on after it. -/
theorem ascendsFrom_cons {range : Nat × Nat} {rest : List (Nat × Nat)} :
    ascendsFrom lowest (range :: rest) = true ↔
      lowest ≤ range.1 ∧ range.1 ≤ range.2 ∧ ascendsFrom (range.2 + 1) rest = true := by
  simp only [ascendsFrom, Bool.and_eq_true, Nat.ble_eq, and_assoc]

/-- The ranges of a table that ascends are not empty, and none begins too early. -/
theorem le_of_ascendsFrom (ascends : ascendsFrom lowest ranges = true) :
    ∀ range ∈ ranges, lowest ≤ range.1 ∧ range.1 ≤ range.2 := by
  induction ranges generalizing lowest with
  | nil => exact fun _ listed => absurd listed List.not_mem_nil
  | cons first rest ih =>
    obtain ⟨begins, proper, later⟩ := ascendsFrom_cons.mp ascends
    intro range listed
    rcases List.mem_cons.mp listed with rfl | inside
    · exact ⟨begins, proper⟩
    · have above := ih later range inside
      exact ⟨by omega, above.2⟩

/-- Of two ranges of a table that ascends, the first ends before the second begins. -/
theorem pairwise_of_ascendsFrom (ascends : ascendsFrom lowest ranges = true) :
    ranges.Pairwise (·.2 < ·.1) := by
  induction ranges generalizing lowest with
  | nil => exact .nil
  | cons first rest ih =>
    obtain ⟨_, _, later⟩ := ascendsFrom_cons.mp ascends
    exact .cons (fun range inside => (le_of_ascendsFrom later range inside).1) (ih later)

/-- No code point lies in two ranges of a table that ascends. -/
theorem eq_of_pairwise {range other : Nat × Nat} (apart : ranges.Pairwise (·.2 < ·.1))
    (inside : range ∈ ranges) (begins : range.1 ≤ code) (ends : code ≤ range.2)
    (member : other ∈ ranges) (early : other.1 ≤ code) (late : code ≤ other.2) :
    other = range := by
  induction apart with
  | nil => exact absurd inside List.not_mem_nil
  | cons before _ ih =>
    rcases List.mem_cons.mp inside with here | inside <;>
      rcases List.mem_cons.mp member with there | member
    · exact there.trans here.symm
    · have later := before other member
      rw [here] at ends
      omega
    · have later := before range inside
      rw [there] at late
      omega
    · exact ih inside member

/-- A code point lies in one range of a table that ascends, or in none. -/
theorem covers_iff (ascends : ascendsFrom lowest ranges = true) :
    covers ranges code = true ↔ ∃ range ∈ ranges, (range.1 ≤ code ∧ code ≤ range.2) ∧
      ∀ other ∈ ranges, other.1 ≤ code → code ≤ other.2 → other = range := by
  have listed : covers ranges code = true ↔
      ∃ range ∈ ranges, range.1 ≤ code ∧ code ≤ range.2 := by
    simp [covers]
  rw [listed]
  constructor
  · rintro ⟨range, inside, begins, ends⟩
    exact ⟨range, inside, ⟨begins, ends⟩, fun _ =>
      eq_of_pairwise (pairwise_of_ascendsFrom ascends) inside begins ends⟩
  · rintro ⟨range, inside, both, _⟩
    exact ⟨range, inside, both⟩

end ChannelBus.Text
