import ChannelBus.Json.Scalar
import ChannelBus.Json.Skip

/-!
# Records

A record is written as an object that names its fields, in any order and possibly among members that
belong to nobody, or as an array of its fields in their order. A field may be given once. Whether
all of them must be given depends on the record.
-/

namespace ChannelBus.Json

/-- What the value of a field of a record `ρ` must be, and the change that it makes to a record. -/
inductive Kind (ρ : Type) where
  /-- A whole number that fits a word; `wanted` is its name in messages. -/
  | natural (wanted : String) (set : Nat → ρ → ρ)
  /-- A truth value. -/
  | boolean (set : Bool → ρ → ρ)

/-- Reads the value of a field and answers with the change that it makes. -/
def Kind.read {ρ : Type} : Kind ρ → Reader (ρ → ρ)
  | .natural wanted set, input => (readNatural wanted input).mapValue set
  | .boolean set, input => (readBoolean input).mapValue set

/-- A field of a record `ρ`. -/
structure Field (ρ : Type) where
  /-- The key of the field. -/
  name : String
  /-- What its value is. -/
  kind : Kind ρ

/-- How a record is written. -/
structure Format (ρ : Type) where
  /-- The name of the record in messages. -/
  title : String
  /-- The fields in their order. -/
  fields : List (Field ρ)
  /-- The record without any field given. -/
  blank : ρ
  /-- Whether every field must be given. -/
  complete : Bool

variable {ρ : Type}

namespace Format

/-- The record in a message about its type. -/
def wanted (format : Format ρ) : String :=
  "struct " ++ format.title

/-- The record in a message about its length. -/
def wantedLength (format : Format ρ) : String :=
  let count := format.fields.length
  format.wanted ++ s!" with {count} element" ++ if count = 1 then "" else "s"

/-- The field with this key. -/
def field? (format : Format ρ) (name : String) : Option (Field ρ) :=
  format.fields.find? (·.name == name)

/-- The first field that must be given and is not among those given. -/
def missing? (format : Format ρ) (given : List String) : Option String :=
  if format.complete then (format.fields.map (·.name)).find? (!given.contains ·) else none

/-- Reads the start of a member: the opening quote of its key, or the bracket that closes the
object. Members after the first need a comma. Answers whether a key follows. -/
def readMemberStart (first : Bool) : Reader Bool := fun input =>
  match skipSpace input with
  | [] => .error .ended
  | '\x7d' :: rest => .ok (false, rest)
  | '"' :: rest => if first then .ok (true, rest) else .error .malformed
  | ',' :: rest =>
    if first then .error .malformed else (readToken '"' rest).mapValue fun _ => true
  | _ => .error .malformed

/-- Reads the value of the member with this key into the record; `given` lists the fields so far. -/
def readMember (format : Format ρ) (name : String) (given : List String) (record : ρ) :
    Reader (List String × ρ) := fun input =>
  match format.field? name with
  | none =>
    match readToken ':' input with
    | .error failure => .error failure
    | .ok (_, rest) => (skipValue rest).map fun rest => ((given, record), rest)
  | some field =>
    if name ∈ given then .error (.mismatch (.duplicateField name))
    else
      match readToken ':' input with
      | .error failure => .error failure
      | .ok (_, rest) =>
        (field.kind.read rest).mapValue fun change => (name :: given, change record)

/-- Reads the members of an object up to the closing bracket, at most as many as the fuel says. -/
def readMembers (format : Format ρ) : Nat → Bool → List String → ρ → Reader ρ
  | 0, _, _, _, _ => .error .malformed
  | fuel + 1, first, given, record, input =>
    match readMemberStart first input with
    | .error failure => .error failure
    | .ok (false, rest) =>
      match format.missing? given with
      | some name => .error (.mismatch (.missingField name))
      | none => .ok (record, rest)
    | .ok (true, rest) =>
      match readText rest with
      | .error failure => .error failure
      | .ok (name, rest) =>
        match format.readMember name given record rest with
        | .error failure => .error failure
        | .ok ((given, record), rest) => format.readMembers fuel false given record rest

/-- Looks for another element of an array. Elements after the first need a comma. Answers whether
there is one; the bracket that closes the array is left unread. -/
def readElementStart (first : Bool) : Reader Bool := fun input =>
  match skipSpace input with
  | [] => .error .ended
  | ']' :: rest => .ok (false, ']' :: rest)
  | c :: rest =>
    if first then .ok (true, c :: rest)
    else if c = ',' then
      match skipSpace rest with
      | [] => .error .ended
      | ']' :: _ => .error .malformed
      | rest => .ok (true, rest)
    else .error .malformed

/-- Reads the fields that are left from the elements of an array; `index` counts those read. -/
def readElements (format : Format ρ) : List (Field ρ) → Nat → ρ → Reader ρ
  | [], _, record, input => .ok (record, input)
  | field :: fields, index, record, input =>
    match readElementStart (index == 0) input with
    | .error failure => .error failure
    | .ok (false, rest) =>
      if format.complete then .error (.mismatch (.tooShort index format.wantedLength))
      else .ok (record, rest)
    | .ok (true, rest) =>
      match field.kind.read rest with
      | .error failure => .error failure
      | .ok (change, rest) => format.readElements fields (index + 1) (change record) rest

/-- Reads a record. -/
def read (format : Format ρ) : Reader ρ := fun input =>
  match skipSpace input with
  | [] => .error .ended
  | '[' :: rest =>
    match format.readElements format.fields 0 format.blank rest with
    | .error failure => .error failure
    | .ok (record, rest) => (readToken ']' rest).mapValue fun _ => record
  | '\x7b' :: rest => format.readMembers (rest.length + 1) true [] format.blank rest
  | input => refuseValue format.wanted input

end Format

end ChannelBus.Json
