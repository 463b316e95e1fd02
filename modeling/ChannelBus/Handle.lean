/-!
# Channel handles

A handle is a small number naming a slot of the registry. It says nothing about which channel sits
in the slot now: a slot is used again after its channel was closed.
-/

namespace ChannelBus

/-- The name of a registry slot. -/
structure Handle where
  /-- Position of the slot in the registry. -/
  id : Nat
deriving DecidableEq

/-- Handles print as their number after a hash sign. -/
def Handle.display (handle : Handle) : String :=
  "#" ++ toString handle.id

/-- Handles are ordered by their number. -/
def Handle.compare (left right : Handle) : Ordering :=
  compareOfLessAndEq left.id right.id

end ChannelBus
