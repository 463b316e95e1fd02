import ChannelBus.Json.Reader

/-!
# Texts in a document

A text stands between quotes. A backslash starts an escape: a short one for a quote, a backslash, a
slash and five controls, or `u` with four hexadecimal digits for a code unit. A character beyond the
first plane takes two code units, a high and a low surrogate, in two escapes in a row. A control
character must be escaped.
-/

namespace ChannelBus.Json

/-- The character that a short escape stands for. -/
def shortEscape? : Char → Option Char
  | '"' => some '"'
  | '\\' => some '\\'
  | '/' => some '/'
  | 'b' => some '\x08'
  | 'f' => some '\x0c'
  | 'n' => some '\n'
  | 'r' => some '\r'
  | 't' => some '\t'
  | _ => none

/-- Whether a code unit is the first of a pair. -/
def isHighSurrogate (unit : Nat) : Bool :=
  0xD800 ≤ unit && unit ≤ 0xDBFF

/-- Whether a code unit is the second of a pair. -/
def isLowSurrogate (unit : Nat) : Bool :=
  0xDC00 ≤ unit && unit ≤ 0xDFFF

/-- The character of a pair of code units. -/
def pairedCharacter (high low : Nat) : Char :=
  Char.ofNat (0x10000 + (high - 0xD800) * 0x400 + (low - 0xDC00))

/-- Where the reader of a text stands. -/
inductive TextPlace where
  /-- Between characters. -/
  | plain
  /-- After a backslash. -/
  | escape
  /-- Within a code escape: the digits still missing, the value of those read, and the high
  surrogate that this escape has to complete. -/
  | code (missing value : Nat) (high : Option Nat)
  /-- After a high surrogate: a backslash must come. -/
  | pairBackslash (high : Nat)
  /-- After a high surrogate and a backslash: a `u` must come. -/
  | pairMark (high : Nat)
deriving DecidableEq

/-- Ends a code escape: what follows a complete code unit. Nothing, if the unit may not stand here;
otherwise the next place and the character that is complete. -/
def endOfCode? (unit : Nat) : Option Nat → Option (TextPlace × Option Char)
  | some high =>
    if isLowSurrogate unit then some (.plain, some (pairedCharacter high unit)) else none
  | none =>
    if isLowSurrogate unit then none
    else if isHighSurrogate unit then some (.pairBackslash unit, none)
    else some (.plain, some (Char.ofNat unit))

/-- Reads a text up to its closing quote; `read` holds the characters so far, latest first. -/
def readTextFrom (place : TextPlace) (read : List Char) : Reader String
  | [] => .error .ended
  | c :: input =>
    match place with
    | .plain =>
      if c = '"' then .ok (String.ofList read.reverse, input)
      else if c = '\\' then readTextFrom .escape read input
      else if c < ' ' then .error .malformed
      else readTextFrom .plain (c :: read) input
    | .escape =>
      if c = 'u' then readTextFrom (.code 4 0 none) read input
      else
        match shortEscape? c with
        | some character => readTextFrom .plain (character :: read) input
        | none => .error .malformed
    | .code missing value high =>
      match hexDigit? c with
      | none => .error (escapeFailure missing (c :: input))
      | some digit =>
        let value := value * 16 + digit
        if 1 < missing then readTextFrom (.code (missing - 1) value high) read input
        else
          match endOfCode? value high with
          | some (next, character) => readTextFrom next (character.toList ++ read) input
          | none => .error .malformed
    | .pairBackslash high =>
      if c = '\\' then readTextFrom (.pairMark high) read input else .error .malformed
    | .pairMark high =>
      if c = 'u' then readTextFrom (.code 4 0 (some high)) read input else .error .malformed

/-- Reads a text whose opening quote was read before. -/
def readText : Reader String :=
  readTextFrom .plain []

end ChannelBus.Json
