import ChannelBus.Decimal.Shortest

/-!
# How floating point numbers are written

A number shows the fewest digits that read back. From `0.00001` up to but not including `10 ^ 16` it
is written in positional notation with at least one digit on either side of the point, and otherwise
in scientific notation with one digit before the point and a signed exponent.
-/

namespace ChannelBus.Decimal

/-- The smallest power of ten that is written positionally. -/
def lowestPositional : Int := -5

/-- The largest power of ten that is written positionally. -/
def highestPositional : Int := 15

/-- A run of zeros. -/
def zeros (count : Nat) : List Char :=
  List.replicate count '0'

/-- Positional notation of digits whose first stands for `10 ^ magnitude`. -/
def positional (digits : List Char) (magnitude : Int) : List Char :=
  if magnitude < 0 then '0' :: '.' :: (zeros (-magnitude - 1).toNat ++ digits)
  else
    let whole := magnitude.toNat + 1
    let fraction := digits.drop whole
    digits.take whole ++ zeros (whole - digits.length) ++ '.' ::
      (if fraction.isEmpty then ['0'] else fraction)

/-- Scientific notation of digits whose first stands for `10 ^ magnitude`. -/
def scientific (digits : List Char) (magnitude : Int) : List Char :=
  let fraction := digits.drop 1
  digits.take 1 ++ (if fraction.isEmpty then [] else '.' :: fraction) ++
    'e' :: (if magnitude < 0 then '-' else '+') :: Nat.toDigits 10 magnitude.natAbs

/-- The text of a positive decimal. -/
def text (decimal : Decimal) : List Char :=
  let digits := Nat.toDigits 10 decimal.digits
  let magnitude := decimal.exponent + digits.length - 1
  if lowestPositional ≤ magnitude ∧ magnitude ≤ highestPositional then
    positional digits magnitude
  else scientific digits magnitude

example : text ⟨1, -5⟩ = ['0', '.', '0', '0', '0', '0', '1'] := by decide +kernel
example : text ⟨15, -1⟩ = ['1', '.', '5'] := by decide +kernel
example : text ⟨12, 2⟩ = ['1', '2', '0', '0', '.', '0'] := by decide +kernel
example : text ⟨1, -7⟩ = ['1', 'e', '-', '7'] := by decide +kernel
example : text ⟨12, 20⟩ = ['1', '.', '2', 'e', '+', '2', '1'] := by decide +kernel

/-- The number of fractions that a double can have, `2 ^ 52`. -/
def fractions : Nat := 0x10000000000000

/-- The number of values of the exponent field of a double, `2 ^ 11`. -/
def exponentFields : Nat := 0x800

/-- The positive finite double with these exponent and fraction fields; nothing for zero. -/
def ofFields? (exponentField fraction : Nat) : Option Binary :=
  if exponentField = 0 then
    if fraction = 0 then none
    else some { significand := fraction, exponent := -1074, closeBelow := false }
  else
    some {
      significand := fractions + fraction
      exponent := (exponentField : Int) - 1075
      closeBelow := fraction == 0 && exponentField != 1 }

/-- The text of a finite double. -/
def ofFloat (number : Float) : String :=
  let bits := number.toBits.toNat
  let fraction := bits % fractions
  let exponentField := bits / fractions % exponentFields
  let sign := if bits / fractions / exponentFields = 1 then ['-'] else []
  let magnitude := match (ofFields? exponentField fraction).bind Binary.shortest? with
    | some decimal => decimal.text
    | none => ['0', '.', '0']
  String.ofList (sign ++ magnitude)

end ChannelBus.Decimal
