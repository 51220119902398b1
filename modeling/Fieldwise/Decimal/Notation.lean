import Fieldwise.Decimal.Shortest

/-!
# Written decimals

Two written forms, both with the fewest digits that read back. Plain text never uses an exponent
and drops a fraction of zero; document text keeps one fraction digit and turns to an exponent for
magnitudes outside `10⁻⁵ … 10¹⁶`.
-/

namespace Fieldwise.Decimal

/-- A run of zeros. -/
private def zeros (count : Nat) : String := String.ofList (List.replicate count '0')

/-- Digits with a point after the first `count` of them, filled with zeros on either side. -/
private def pointed (digits : List Char) (count : Int) : String :=
  if count ≤ 0 then "0." ++ zeros (-count).toNat ++ String.ofList digits
  else if count.toNat < digits.length then
    String.ofList (digits.take count.toNat) ++ "." ++ String.ofList (digits.drop count.toNat)
  else String.ofList digits ++ zeros (count.toNat - digits.length)

/-- The sign of a number, as it stands before its digits. -/
private def sign (negative : Bool) : String := if negative then "-" else ""

/-- Plain text: no exponent, no fraction of zero, and names for what is not finite. Of two equally
near shortest forms the greater is written. -/
def plainText (d : Decimal) : String :=
  if d.isNaN then "NaN"
  else if !d.isFinite then sign d.isNegative ++ "inf"
  else
    let s := d.shortest .upward
    let digits := Nat.toDigits 10 s.digits
    sign d.isNegative ++ pointed digits (digits.length + s.exponent)

/-- Document text of a finite decimal: at least one fraction digit, an exponent with its sign for
large and small magnitudes. Of two equally near shortest forms the even one is written. -/
def documentText (d : Decimal) : String :=
  let s := d.shortest .toEven
  let digits := Nat.toDigits 10 s.digits
  let order : Int := digits.length + s.exponent - 1
  sign d.isNegative ++
    if d.isZero then "0.0"
    else if -5 ≤ order ∧ order < 16 then
      let text := pointed digits (order + 1)
      if s.exponent < 0 then text else text ++ ".0"
    else
      let mantissa := match digits with
        | [digit] => String.ofList [digit]
        | digits => pointed digits 1
      mantissa ++ "e" ++ (if order < 0 then "-" else "+") ++ Nat.repr order.natAbs

end Fieldwise.Decimal
