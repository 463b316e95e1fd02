import ChannelBus.Decimal.Layout
import ChannelBus.Json.Number
import ChannelBus.Json.Text

/-!
# Wanted values

A reader that wants a value of one type and meets a value of another one says what it met. Of an
array or an object it names only the kind; anything else it reads to the end first, so a value that
is malformed is reported as malformed.
-/

namespace ChannelBus.Json

/-- What a number is called in a message. -/
def Number.found : Number → Found
  | .natural value => .integer value
  | .negative magnitude => .integer (-magnitude)
  | .real value => .decimal (Decimal.ofFloat value)

/-- Whether a number starts with this character. -/
def startsNumber (c : Char) : Bool :=
  c == '-' || (decimalDigit? c).isSome

/-- Names the value at the front of the input. -/
def findValue : List Char → Except Failure Found
  | [] => .error .ended
  | c :: input =>
    if c = 'n' then (readWord ['u', 'l', 'l'] input).map fun _ => .null
    else if c = 't' then (readWord ['r', 'u', 'e'] input).map fun _ => .boolean true
    else if c = 'f' then (readWord ['a', 'l', 's', 'e'] input).map fun _ => .boolean false
    else if startsNumber c then (readNumber (c :: input)).map fun (number, _) => number.found
    else if c = '"' then (readText input).map fun (text, _) => .text text
    else if c = '[' then .ok .sequence
    else if c = '\x7b' then .ok .map
    else .error .malformed

/-- Refuses the value at the front of the input because something else was wanted. -/
def refuseValue {β : Type} (wanted : String) : Reader β := fun input =>
  match findValue input with
  | .ok found => .error (.mismatch (.wrongType found wanted))
  | .error failure => .error failure

/-- Reads a whole number that fits a word; `wanted` is its name in messages. -/
def readNatural (wanted : String) : Reader Nat := fun input =>
  match skipSpace input with
  | [] => .error .ended
  | c :: rest =>
    if startsNumber c then
      match readNumber (c :: rest) with
      | .error failure => .error failure
      | .ok (.natural value, rest) => .ok (value, rest)
      | .ok (.negative magnitude, _) =>
        .error (.mismatch (.outOfRange (-magnitude) wanted))
      | .ok (.real value, _) =>
        .error (.mismatch (.wrongType (Number.real value).found wanted))
    else refuseValue wanted (c :: rest)

/-- Reads a truth value. -/
def readBoolean : Reader Bool := fun input =>
  match skipSpace input with
  | [] => .error .ended
  | 't' :: rest => (readWord ['r', 'u', 'e'] rest).mapValue fun _ => true
  | 'f' :: rest => (readWord ['a', 'l', 's', 'e'] rest).mapValue fun _ => false
  | input => refuseValue "a boolean" input

/-- Reads a null. -/
def readNull : Reader Unit := fun input =>
  match skipSpace input with
  | [] => .error .ended
  | 'n' :: rest => readWord ['u', 'l', 'l'] rest
  | input => refuseValue "unit" input

end ChannelBus.Json
