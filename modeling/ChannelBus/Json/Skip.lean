import ChannelBus.Json.Number
import ChannelBus.Json.Text

/-!
# Skipping a value

A value that nobody wants is still checked: it must be well formed, at any depth of nesting. Its
numbers have no range, and its texts may escape half of a pair of code units. The check looks at one
character at a time and remembers the arrays and objects that are open, so that the depth of nesting
costs nothing.
-/

namespace ChannelBus.Json

/-- An open array or object. -/
inductive Frame where
  /-- An array. -/
  | array
  /-- An object. -/
  | object
deriving DecidableEq

/-- Where the check stands. -/
inductive SkipPlace where
  /-- Before a value. -/
  | value
  /-- After the bracket that opens an array or object. -/
  | opened (frame : Frame)
  /-- After a value. -/
  | after
  /-- Before the key of a member. -/
  | key
  /-- Within a text, which is the key of a member or a value. -/
  | text (isKey : Bool)
  /-- After a backslash in a text. -/
  | escape (isKey : Bool)
  /-- Within a code escape of which some digits are missing. -/
  | code (isKey : Bool) (missing : Nat)
  /-- Between a key and its colon. -/
  | colon
  /-- Within a word of which these letters are missing. -/
  | word (missing : List Char)
  /-- After a minus sign. -/
  | minus
  /-- After a leading zero. -/
  | zero
  /-- Within the digits of a whole number. -/
  | whole
  /-- After a decimal point. -/
  | point
  /-- Within the digits of a fraction. -/
  | fraction
  /-- After the mark of an exponent. -/
  | exponentMark
  /-- After the sign of an exponent. -/
  | exponentSign
  /-- Within the digits of an exponent. -/
  | exponent
deriving DecidableEq

/-- What a character means for the check. -/
inductive SkipMove where
  /-- Go on from another place. -/
  | go (place : SkipPlace) (frames : List Frame)
  /-- The value ended before this character. -/
  | stop
  /-- The character may not stand here. -/
  | refuse
deriving DecidableEq

/-- The move at the start of a value. -/
def moveAtValue (frames : List Frame) (c : Char) : SkipMove :=
  if isSpace c then .go .value frames
  else if c = 'n' then .go (.word ['u', 'l', 'l']) frames
  else if c = 't' then .go (.word ['r', 'u', 'e']) frames
  else if c = 'f' then .go (.word ['a', 'l', 's', 'e']) frames
  else if c = '-' then .go .minus frames
  else if c = '0' then .go .zero frames
  else if (decimalDigit? c).isSome then .go .whole frames
  else if c = '"' then .go (.text false) frames
  else if c = '[' then .go (.opened .array) (.array :: frames)
  else if c = '\x7b' then .go (.opened .object) (.object :: frames)
  else .refuse

/-- The move after a value: a comma goes on with the innermost open array or object, its closing
bracket ends it. -/
def moveAfter (frames : List Frame) (c : Char) : SkipMove :=
  match frames with
  | [] => .stop
  | frame :: outer =>
    if isSpace c then .go .after frames
    else
      match frame with
      | .array =>
        if c = ',' then .go .value frames else if c = ']' then .go .after outer else .refuse
      | .object =>
        if c = ',' then .go .key frames else if c = '\x7d' then .go .after outer else .refuse

/-- The move before a key. -/
def moveAtKey (frames : List Frame) (c : Char) : SkipMove :=
  if isSpace c then .go .key frames
  else if c = '"' then .go (.text true) frames
  else .refuse

/-- The move after an opening bracket. -/
def moveAtOpened (frame : Frame) (frames : List Frame) (c : Char) : SkipMove :=
  if isSpace c then .go (.opened frame) frames
  else
    match frame with
    | .array => if c = ']' then .go .after frames.tail else moveAtValue frames c
    | .object => if c = '\x7d' then .go .after frames.tail else moveAtKey frames c

/-- The move within a text. -/
def moveInText (isKey : Bool) (frames : List Frame) (c : Char) : SkipMove :=
  if c = '"' then .go (if isKey then .colon else .after) frames
  else if c = '\\' then .go (.escape isKey) frames
  else if c < ' ' then .refuse
  else .go (.text isKey) frames

/-- The move after a digit of a number that may be over: another digit stays in the same place. -/
def moveAfterDigit (place : SkipPlace) (digits point mark : Bool) (frames : List Frame) (c : Char) :
    SkipMove :=
  if (decimalDigit? c).isSome then if digits then .go place frames else .refuse
  else if c = '.' ∧ point then .go .point frames
  else if (c = 'e' ∨ c = 'E') ∧ mark then .go .exponentMark frames
  else moveAfter frames c

/-- The move where a digit must come. -/
def moveAtDigit (next : SkipPlace) (frames : List Frame) (c : Char) : SkipMove :=
  if (decimalDigit? c).isSome then .go next frames else .refuse

/-- What the next character means. -/
def SkipPlace.move (place : SkipPlace) (frames : List Frame) (c : Char) : SkipMove :=
  match place with
  | .value => moveAtValue frames c
  | .opened frame => moveAtOpened frame frames c
  | .after => moveAfter frames c
  | .key => moveAtKey frames c
  | .text isKey => moveInText isKey frames c
  | .escape isKey =>
    if c = 'u' then .go (.code isKey 4) frames
    else if (shortEscape? c).isSome then .go (.text isKey) frames
    else .refuse
  | .code isKey missing =>
    if (hexDigit? c).isSome then
      .go (if 1 < missing then .code isKey (missing - 1) else .text isKey) frames
    else .refuse
  | .colon =>
    if isSpace c then .go .colon frames else if c = ':' then .go .value frames else .refuse
  | .word [] => moveAfter frames c
  | .word (letter :: missing) =>
    if c = letter then .go (if missing.isEmpty then .after else .word missing) frames else .refuse
  | .minus =>
    if c = '0' then .go .zero frames else moveAtDigit .whole frames c
  | .zero => moveAfterDigit .zero false true true frames c
  | .whole => moveAfterDigit .whole true true true frames c
  | .point => moveAtDigit .fraction frames c
  | .fraction => moveAfterDigit .fraction true false true frames c
  | .exponentMark =>
    if c = '+' ∨ c = '-' then .go .exponentSign frames else moveAtDigit .exponent frames c
  | .exponentSign => moveAtDigit .exponent frames c
  | .exponent => moveAfterDigit .exponent true false false frames c

/-- Whether a value is over if the document ends in this place. -/
def SkipPlace.mayEnd : SkipPlace → Bool
  | .after | .word [] | .zero | .whole | .fraction | .exponent => true
  | .value | .opened _ | .key | .text _ | .escape _ | .code _ _ | .colon | .word (_ :: _) | .minus
  | .point | .exponentMark | .exponentSign => false

/-- The failure if the document ends in this place: a number that lacks a digit is malformed. -/
def SkipPlace.failureAtEnd : SkipPlace → Failure
  | .minus | .point | .exponentMark | .exponentSign => .malformed
  | .value | .opened _ | .after | .key | .text _ | .escape _ | .code _ _ | .colon | .word _ | .zero
  | .whole | .fraction | .exponent => .ended

/-- The failure at a character that may not stand here. -/
def SkipPlace.failureAt (place : SkipPlace) (input : List Char) : Failure :=
  match place with
  | .code _ missing => escapeFailure missing input
  | _ => .malformed

/-- Skips the rest of a value of which `frames` are open. Answers with the unread characters. -/
def skipFrom (place : SkipPlace) (frames : List Frame) : List Char → Except Failure (List Char)
  | [] => if place.mayEnd && frames.isEmpty then .ok [] else .error place.failureAtEnd
  | c :: input =>
    match place.move frames c with
    | .go next frames => skipFrom next frames input
    | .stop => .ok (c :: input)
    | .refuse => .error (place.failureAt (c :: input))

/-- Skips a value. -/
def skipValue (input : List Char) : Except Failure (List Char) :=
  skipFrom .value [] input

end ChannelBus.Json
