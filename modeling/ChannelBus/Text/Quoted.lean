import ChannelBus.Text.Extending
import ChannelBus.Text.Unprintable

/-!
# Text shown between quotes

A text in a message stands between double quotes. Quotes and backslashes in it are escaped, the
common controls have short names, and a character that would not show, or a mark that would join
onto the character before it, is shown as its number.
-/

namespace ChannelBus.Text

/-- The lower-case hexadecimal digits of a number. -/
def hexadecimal (n : Nat) : String :=
  String.ofList (Nat.toDigits 16 n)

/-- A character as it is shown between quotes. -/
def shown (c : Char) : String :=
  match c with
  | '\x00' => "\\0"
  | '\t' => "\\t"
  | '\r' => "\\r"
  | '\n' => "\\n"
  | '\\' => "\\\\"
  | '"' => "\\\""
  | _ =>
    if isExtending c || isUnprintable c then "\\u\x7b" ++ hexadecimal c.toNat ++ "\x7d"
    else c.toString

/-- A text between quotes. -/
def quoted (text : String) : String :=
  "\"" ++ String.join (text.toList.map shown) ++ "\""

end ChannelBus.Text
