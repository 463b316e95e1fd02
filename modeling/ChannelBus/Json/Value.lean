import ChannelBus.Text.Quoted

/-!
# Documents and their two layouts

The compact layout has no space between tokens. The spread layout puts every element and member on a
line of its own, two spaces deeper than the brackets around it; empty brackets stay together.
-/

namespace ChannelBus.Json

/-- A document. -/
inductive Value where
  /-- Null. -/
  | null
  /-- A truth value. -/
  | boolean (value : Bool)
  /-- A whole number. -/
  | number (value : Nat)
  /-- A text. -/
  | text (value : String)
  /-- An array. -/
  | array (items : List Value)
  /-- An object; its members keep their order. -/
  | object (members : List (String × Value))

/-- A character as it is written in a text. -/
def writtenCharacter (c : Char) : String :=
  match c with
  | '"' => "\\\""
  | '\\' => "\\\\"
  | '\x08' => "\\b"
  | '\x0c' => "\\f"
  | '\n' => "\\n"
  | '\r' => "\\r"
  | '\t' => "\\t"
  | _ =>
    if c < ' ' then
      let digits := Text.hexadecimal c.toNat
      "\\u" ++ String.ofList (List.replicate (4 - digits.length) '0') ++ digits
    else c.toString

/-- A text as it is written, between quotes. -/
def writtenText (text : String) : String :=
  "\"" ++ String.join (text.toList.map writtenCharacter) ++ "\""

namespace Value

/-- The word for a truth value. -/
def boolText (value : Bool) : String :=
  if value then "true" else "false"

mutual

/-- The compact layout. -/
def compact : Value → String
  | .null => "null"
  | .boolean value => boolText value
  | .number value => toString value
  | .text value => writtenText value
  | .array items => "[" ++ ",".intercalate (compactItems items) ++ "]"
  | .object members => "\x7b" ++ ",".intercalate (compactMembers members) ++ "\x7d"

/-- The elements of an array in the compact layout. -/
def compactItems : List Value → List String
  | [] => []
  | item :: items => item.compact :: compactItems items

/-- The members of an object in the compact layout. -/
def compactMembers : List (String × Value) → List String
  | [] => []
  | (key, value) :: members =>
    (writtenText key ++ ":" ++ value.compact) :: compactMembers members

end

/-- A line break and the space that indents the next line. -/
def lineBreak (depth : Nat) : String :=
  "\n" ++ String.ofList (List.replicate (2 * depth) ' ')

/-- Parts between brackets in the spread layout; the brackets are indented to `depth`. -/
def bracketed (opening closing : String) (depth : Nat) (parts : List String) : String :=
  if parts.isEmpty then opening ++ closing
  else
    opening ++ lineBreak (depth + 1) ++ ("," ++ lineBreak (depth + 1)).intercalate parts ++
      lineBreak depth ++ closing

mutual

/-- The spread layout of a value whose brackets are indented to `depth`. -/
def spreadAt (depth : Nat) : Value → String
  | .null => "null"
  | .boolean value => boolText value
  | .number value => toString value
  | .text value => writtenText value
  | .array items => bracketed "[" "]" depth (spreadItems (depth + 1) items)
  | .object members => bracketed "\x7b" "\x7d" depth (spreadMembers (depth + 1) members)

/-- The elements of an array in the spread layout. -/
def spreadItems (depth : Nat) : List Value → List String
  | [] => []
  | item :: items => spreadAt depth item :: spreadItems depth items

/-- The members of an object in the spread layout. -/
def spreadMembers (depth : Nat) : List (String × Value) → List String
  | [] => []
  | (key, value) :: members =>
    (writtenText key ++ ": " ++ spreadAt depth value) :: spreadMembers depth members

end

/-- The spread layout. -/
def spread (value : Value) : String :=
  value.spreadAt 0

end Value

end ChannelBus.Json
