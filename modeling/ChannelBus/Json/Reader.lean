import ChannelBus.Json.Failure

/-!
# Reading from the front

A reader takes the characters of a document that are still unread and answers with what it has read
and with the rest.
-/

namespace ChannelBus.Json

/-- What reading leads to. -/
abbrev Reading (β : Type) := Except Failure (β × List Char)

/-- A reader of `β`. -/
abbrev Reader (β : Type) := List Char → Reading β

/-- Whether a character may stand between tokens. -/
def isSpace (c : Char) : Bool :=
  c == ' ' || c == '\n' || c == '\t' || c == '\r'

/-- Drops the space before the next token. -/
def skipSpace (input : List Char) : List Char :=
  input.dropWhile isSpace

/-- Reads the rest of a word letter by letter. -/
def readWord : List Char → Reader Unit
  | [], input => .ok ((), input)
  | _ :: _, [] => .error .ended
  | wanted :: word, c :: input =>
    if c = wanted then readWord word input else .error .malformed

/-- Reads a token of one character. -/
def readToken (wanted : Char) : Reader Unit := fun input =>
  match skipSpace input with
  | [] => .error .ended
  | c :: rest => if c = wanted then .ok ((), rest) else .error .malformed

/-- Changes what was read. -/
def Reading.mapValue {β γ : Type} (reading : Reading β) (change : β → γ) : Reading γ :=
  reading.map fun (value, rest) => (change value, rest)

/-- Reads a whole document: nothing but space may follow. -/
def readAll {β : Type} (read : Reader β) (document : String) : Except Failure β :=
  match read document.toList with
  | .error failure => .error failure
  | .ok (value, rest) => if (skipSpace rest).isEmpty then .ok value else .error .malformed

/-- The value of a hexadecimal digit. -/
def hexDigit? (c : Char) : Option Nat :=
  if '0' ≤ c ∧ c ≤ '9' then some (c.toNat - '0'.toNat)
  else if 'a' ≤ c ∧ c ≤ 'f' then some (c.toNat - 'a'.toNat + 10)
  else if 'A' ≤ c ∧ c ≤ 'F' then some (c.toNat - 'A'.toNat + 10)
  else none

/-- How many bytes the characters take when stored. -/
def storedBytes (input : List Char) : Nat :=
  input.foldr (fun c bytes => c.utf8Size + bytes) 0

/-- The failure of a code escape of which `missing` digits are not read yet: the document ended if
fewer bytes than digits remain. -/
def escapeFailure (missing : Nat) (input : List Char) : Failure :=
  if storedBytes (input.take missing) < missing then .ended else .malformed

end ChannelBus.Json
