import ChannelBus.Text.Quoted

/-!
# Why a document was refused

A document is refused because it ended too early, because it is malformed, or because it is well
formed so far but does not say what was wanted. Documents are read from front to back, and the first
problem decides.
-/

namespace ChannelBus.Json

/-- What a document holds where something else was wanted. -/
inductive Found where
  /-- The null value. -/
  | null
  /-- A truth value. -/
  | boolean (value : Bool)
  /-- A whole number that a machine word can hold. -/
  | integer (value : Int)
  /-- Any other number, by its text. -/
  | decimal (digits : String)
  /-- A text. -/
  | text (value : String)
  /-- An array. -/
  | sequence
  /-- An object. -/
  | map
deriving DecidableEq

/-- How a finding is named in a message. -/
def Found.description : Found → String
  | .null => "null"
  | .boolean value => s!"boolean `{value}`"
  | .integer value => s!"integer `{value}`"
  | .decimal digits => s!"floating point `{digits}`"
  | .text value => "string " ++ Text.quoted value
  | .sequence => "sequence"
  | .map => "map"

/-- How a document can fail to say what was wanted. -/
inductive Mismatch where
  /-- A value of the wrong type. -/
  | wrongType (found : Found) (wanted : String)
  /-- A whole number outside the range of its field. -/
  | outOfRange (value : Int) (wanted : String)
  /-- A field given twice. -/
  | duplicateField (name : String)
  /-- A field that is required and absent. -/
  | missingField (name : String)
  /-- An array with too few elements. -/
  | tooShort (length : Nat) (wanted : String)
  /-- A name that is none of those known. -/
  | unknownVariant (name : String) (known : List String)
deriving DecidableEq

/-- The sentence for a mismatch. -/
def Mismatch.message : Mismatch → String
  | .wrongType found wanted => s!"invalid type: {found.description}, expected {wanted}"
  | .outOfRange value wanted => s!"invalid value: integer `{value}`, expected {wanted}"
  | .duplicateField name => s!"duplicate field `{name}`"
  | .missingField name => s!"missing field `{name}`"
  | .tooShort length wanted => s!"invalid length {length}, expected {wanted}"
  | .unknownVariant name known =>
    let names := ", ".intercalate (known.map fun known => s!"`{known}`")
    s!"unknown variant `{name}`, expected one of {names}"

/-- Why a document was refused. -/
inductive Failure where
  /-- The document ended too early. -/
  | ended
  /-- The document is malformed. -/
  | malformed
  /-- The document does not say what was wanted. -/
  | mismatch (reason : Mismatch)
deriving DecidableEq

end ChannelBus.Json
