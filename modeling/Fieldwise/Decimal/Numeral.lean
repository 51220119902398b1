import Fieldwise.Decimal
import Fieldwise.Text.Digit

/-!
# Numerals

Reading a decimal from text. The grammar is: an optional sign; then digits with an optional point
among, before or after them, and an optional exponent; or a name of an infinity or of the
undefined result, in any case. Nothing else may surround it.
-/

namespace Fieldwise

namespace Decimal

open Text (isDigit digitsValue lowerAscii)

/-- A sign and what follows it; no sign is positive. -/
def splitSign : List Char → Bool × List Char
  | '-' :: rest => (true, rest)
  | '+' :: rest => (false, rest)
  | rest => (false, rest)

/-- The exponent part of a numeral, which must end the text; no exponent part is zero. -/
private def exponent? : List Char → Option Int
  | [] => some 0
  | mark :: rest =>
    let (negative, digits) := splitSign rest
    if lowerAscii mark ≠ 'e' ∨ digits.isEmpty ∨ !digits.all isDigit then none
    else some (if negative then -(digitsValue digits : Int) else digitsValue digits)

/-- Digits with an optional point, then an optional exponent. -/
private def ofDigits? (negative : Bool) (text : List Char) : Option Decimal :=
  let whole := text.takeWhile isDigit
  let (fraction, rest) := match text.dropWhile isDigit with
    | '.' :: rest => (rest.takeWhile isDigit, rest.dropWhile isDigit)
    | rest => ([], rest)
  if whole.isEmpty ∧ fraction.isEmpty then none
  else (exponent? rest).map fun e ↦
    ofScaled negative (digitsValue (whole ++ fraction)) (e - fraction.length)

/-- The decimal nearest to a numeral; too large is infinite and too small is zero. -/
def ofNumeral? (text : String) : Option Decimal :=
  let (negative, body) := splitSign text.toList
  let word := String.ofList (body.map lowerAscii)
  if word = "inf" ∨ word = "infinity" then some (infinity negative)
  else if word = "nan" then some undefined
  else ofDigits? negative body

end Decimal

end Fieldwise
