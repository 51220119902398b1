import Fieldwise.Text.Extending
import Fieldwise.Text.Hidden

/-!
# Quoted texts

Texts between double quotes, as they appear inside diagnostics. Quotes, backslashes and common
controls are spelled by a letter; characters that show no mark of their own are spelled by number.
-/

namespace Fieldwise.Text

/-- A letter that only fills the place of one and leaves it blank. -/
def isFiller (c : Char) : Bool :=
  c == '\u115f' || c == '\u1160' || c == '\u3164' || c == '\uffa0'

/-- A halfwidth sound mark. It extends the character before it but has a place and shape of its
own. -/
def isSoundMark (c : Char) : Bool := c == '\uff9e' || c == '\uff9f'

/-- Whether a character is not to be seen by itself. -/
def isUnseen (c : Char) : Bool := (isExtending c && !isSoundMark c) || isHidden c || isFiller c

/-- The spelling of one character between quotes. -/
def quoteChar (c : Char) : String :=
  match c with
  | '\x00' => "\\0"
  | '\t' => "\\t"
  | '\r' => "\\r"
  | '\n' => "\\n"
  | '\\' => "\\\\"
  | '"' => "\\\""
  | c =>
    if isUnseen c then
      "\\u\x7b" ++ String.ofList (Nat.toDigits 16 c.toNat) ++ "\x7d"
    else c.toString

/-- The text between double quotes. -/
def quoted (s : String) : String := "\"" ++ String.join (s.toList.map quoteChar) ++ "\""

/-- Quoted texts between square brackets. -/
def quotedList (items : List String) : String :=
  "[" ++ String.intercalate ", " (items.map quoted) ++ "]"

end Fieldwise.Text
