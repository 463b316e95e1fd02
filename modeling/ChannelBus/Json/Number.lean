import ChannelBus.Json.Reader

/-!
# Numbers in a document

A whole number without fraction and exponent is exact as long as a machine word can hold it. Every
other number is a double: its leading digits, as many as fit a word, are scaled by a power of ten. A
number beyond the largest double is malformed.
-/

namespace ChannelBus.Json

/-- A number that was read. -/
inductive Number where
  /-- A whole number below `2 ^ 64`. -/
  | natural (value : Nat)
  /-- A negative whole number, by its magnitude, at most `2 ^ 63`. -/
  | negative (magnitude : Nat)
  /-- Any other number. -/
  | real (value : Float)

/-- The first number that does not fit a word, `2 ^ 64`. -/
def wordLimit : Nat := 0x10000000000000000

/-- The largest magnitude of a negative whole number, `2 ^ 63`. -/
def negativeLimit : Nat := 0x8000000000000000

/-- The first exponent that is too large to be told from any larger one, `2 ^ 31`. -/
def exponentLimit : Nat := 0x80000000

/-- The largest power of ten that is a double. -/
def largestPower : Nat := 308

/-- A power of ten as a double. -/
def powerOfTen (exponent : Nat) : Float :=
  Float.ofScientific 1 false exponent

/-- The digit that a character stands for. -/
def decimalDigit? (c : Char) : Option Nat :=
  if '0' ≤ c ∧ c ≤ '9' then some (c.toNat - '0'.toNat) else none

/-- Whether a digit comes next. -/
def startsWithDigit : List Char → Bool
  | [] => false
  | c :: _ => (decimalDigit? c).isSome

/-- Reads digits into a number as long as the result stays below `limit`. Answers with the number,
the count of digits read, and the rest, which starts with a digit only if that digit is too much. -/
def readDigitsBelow (limit : Nat) (value count : Nat) : List Char → Nat × Nat × List Char
  | [] => (value, count, [])
  | c :: input =>
    match decimalDigit? c with
    | none => (value, count, c :: input)
    | some digit =>
      if value * 10 + digit < limit then
        readDigitsBelow limit (value * 10 + digit) (count + 1) input
      else (value, count, c :: input)

/-- Reads over digits. Answers with their count and the rest. -/
def countDigits (input : List Char) : Nat × List Char :=
  let isDigit := fun c => (decimalDigit? c).isSome
  ((input.takeWhile isDigit).length, input.dropWhile isDigit)

/-- Divides by a power of ten that may be too large for a double, in several divisions. -/
def scaleDown (value : Float) (exponent : Nat) : Float :=
  if largestPower < exponent then
    if value == 0 then value
    else scaleDown (value / powerOfTen largestPower) (exponent - largestPower)
  else value / powerOfTen exponent
termination_by exponent
decreasing_by simp only [largestPower] at *; omega

/-- The double `significand * 10 ^ exponent`, unless it is too large. -/
def assemble? (significand : Nat) (exponent : Int) : Option Float :=
  let value := (UInt64.ofNat significand).toFloat
  if exponent < 0 then some (scaleDown value exponent.natAbs)
  else if exponent.natAbs ≤ largestPower then
    let scaled := value * powerOfTen exponent.natAbs
    if scaled.isInf then none else some scaled
  else if significand = 0 then some value
  else none

/-- Gives a double its sign. -/
def signed (negative : Bool) (value : Float) : Number :=
  .real (if negative then -value else value)

/-- Reads nothing more: the number is `significand * 10 ^ exponent`. -/
def finishReal (negative : Bool) (significand : Nat) (exponent : Int) : Reader Number :=
  fun input =>
  match assemble? significand exponent with
  | some value => .ok (signed negative value, input)
  | none => .error .malformed

/-- Reads the digits of an exponent. -/
def readExponentDigits (negative negativeExponent : Bool) (significand : Nat) (exponent : Int) :
    Reader Number := fun input =>
  match input with
  | [] => .error .ended
  | _ =>
    if startsWithDigit input then
      let (value, _, rest) := readDigitsBelow exponentLimit 0 0 input
      if startsWithDigit rest then
        if significand ≠ 0 ∧ !negativeExponent then .error .malformed
        else .ok (signed negative 0, (countDigits rest).2)
      else
        let shift : Int := if negativeExponent then -value else value
        finishReal negative significand (exponent + shift) rest
    else .error .malformed

/-- Reads an exponent after its mark. -/
def readExponent (negative : Bool) (significand : Nat) (exponent : Int) : Reader Number :=
  fun input =>
  match input with
  | '+' :: rest => readExponentDigits negative false significand exponent rest
  | '-' :: rest => readExponentDigits negative true significand exponent rest
  | _ => readExponentDigits negative false significand exponent input

/-- Reads an exponent if there is one. -/
def readScale (negative : Bool) (significand : Nat) (exponent : Int) : Reader Number :=
  fun input =>
  match input with
  | 'e' :: rest | 'E' :: rest => readExponent negative significand exponent rest
  | _ => finishReal negative significand exponent input

/-- Reads a fraction after its point. Digits beyond those that fit a word are dropped. -/
def readFraction (negative : Bool) (significand : Nat) (exponent : Int) : Reader Number :=
  fun input =>
  match input with
  | [] => .error .ended
  | _ =>
    if startsWithDigit input then
      let (value, count, rest) := readDigitsBelow wordLimit significand 0 input
      readScale negative value (exponent - count) (countDigits rest).2
    else .error .malformed

/-- Reads what may follow the digits of a whole number. -/
def readAfterWhole (negative : Bool) (value : Nat) : Reader Number := fun input =>
  match input with
  | '.' :: rest => readFraction negative value 0 rest
  | 'e' :: rest | 'E' :: rest => readExponent negative value 0 rest
  | _ =>
    if !negative then .ok (.natural value, input)
    else if 0 < value ∧ value ≤ negativeLimit then .ok (.negative value, input)
    else .ok (signed true (UInt64.ofNat value).toFloat, input)

/-- Reads what may follow the leading digits of a whole number of which `dropped` more digits were
read over. -/
def readAfterLong (negative : Bool) (value dropped : Nat) : Reader Number := fun input =>
  match input with
  | '.' :: rest => readFraction negative value dropped rest
  | _ => readScale negative value dropped input

/-- Reads a number after its sign. -/
def readMagnitude (negative : Bool) : Reader Number := fun input =>
  match input with
  | [] => .error .ended
  | '0' :: rest =>
    if startsWithDigit rest then .error .malformed else readAfterWhole negative 0 rest
  | _ =>
    if startsWithDigit input then
      let (value, _, rest) := readDigitsBelow wordLimit 0 0 input
      if startsWithDigit rest then
        let (dropped, rest) := countDigits rest
        readAfterLong negative value dropped rest
      else readAfterWhole negative value rest
    else .error .malformed

/-- Reads a number. -/
def readNumber : Reader Number := fun input =>
  match input with
  | '-' :: rest => readMagnitude true rest
  | _ => readMagnitude false input

end ChannelBus.Json
