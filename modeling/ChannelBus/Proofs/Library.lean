import ChannelBus.Proofs.Layouts

/-!
# Libraries for documents

What writes documents and reads records from them is a `Library`, and `Library.Lawful` is what its
users rely on. A text that is written shows the value it was made from. An object is read to the
record in which each field that is given has replaced the one before, in whatever order the members
come; a member that belongs to no field is passed over, and a field may be left out unless the
format wants all of them.

`library` is made of both layouts and of the reader of records, and it is lawful.
-/

namespace ChannelBus.Json

/-- What writes documents and reads records from them. -/
structure Library where
  /-- Writes a value without space between its tokens. -/
  compact : Value → String
  /-- Writes a value over several lines. -/
  spread : Value → String
  /-- Reads a record that is written in this format. -/
  read {ρ : Type} (format : Format ρ) (document : String) : Except Failure ρ

/-- What a library promises. -/
structure Library.Lawful (library : Library) : Prop where
  /-- A value is shown by its compact text. -/
  compact (value : Value) : Shows (library.compact value).toList (.value value)
  /-- A value is shown by its text over several lines. -/
  spread (value : Value) : Shows (library.spread value).toList (.value value)
  /-- A record is read from an object that gives each field at most once, and every field if the
  format wants all of them. -/
  read {ρ : Type} {format : Format ρ} {document : String} {entries : List (String × (ρ → ρ))}
    (written : IsDocument format.Says document.toList entries) (once : (entries.map (·.1)).Nodup)
    (all : format.complete = true → ∀ field ∈ format.fields, field.name ∈ entries.map (·.1)) :
    library.read format document = .ok (changed format.blank entries)

/-- Both layouts and the reader of records. -/
def library : Library where
  compact := Value.compact
  spread := Value.spread
  read := fun format => readAll format.read

/-- A record is read by its format. -/
theorem library_read {ρ : Type} (format : Format ρ) :
    library.read format = readAll format.read :=
  rfl

/-- A value is written in the compact layout. -/
theorem library_compact : library.compact = Value.compact :=
  rfl

/-- A value is written over several lines in the spread layout. -/
theorem library_spread : library.spread = Value.spread :=
  rfl

/-- The layouts and the reader do what a library promises. -/
theorem library_lawful : library.Lawful where
  compact := Value.shows_compact
  spread := fun value => value.shows_spreadAt 0
  read := IsDocument.readAll

end ChannelBus.Json
