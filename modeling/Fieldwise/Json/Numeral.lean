import Fieldwise.Json
import Fieldwise.Decimal.Numeral

/-!
# Numbers of documents

The value of a number as it is spelled in a document. Digits are gathered into 64 bits as far as
they fit; further whole digits only raise the exponent and further fraction digits are dropped.
The gathered number is then scaled by machine powers of ten, so that the last digit of a long
spelling may differ from the nearest decimal. A magnitude that is too large has no value.
-/

namespace Fieldwise.Json

open Text (digitsValue)

/-- The parts of a spelled number. A part that is absent is `none`. -/
structure Spelling where
  negative : Bool
  whole : List Char
  fraction : Option (List Char)
  exponent : Option (Bool × List Char)
  deriving DecidableEq, Repr

/-- Append digits to a number while it fits 64 bits; what did not fit is left over. -/
private def gather (number : Nat) : List Char → Nat × List Char
  | [] => (number, [])
  | c :: rest =>
    let next := 10 * number + digitsValue [c]
    if next < UInt64.size then gather next rest else (number, c :: rest)

/-- The machine number `d · 10 ^ exponent`, by one multiplication or repeated division. -/
private def scaled? (d : Decimal) (exponent : Int) : Option Decimal :=
  if 308 < exponent then if d.isZero then some d else none
  else if 0 ≤ exponent then
    let product := d.mul (.ofScaled false 1 exponent)
    if product.isFinite then some product else none
  else if -308 ≤ exponent then some (d.div (.ofScaled false 1 (-exponent)))
  else if d.isZero then some d
  else scaled? (d.div (.ofScaled false 1 308)) (exponent + 308)
termination_by (-exponent).toNat
decreasing_by omega

/-- The decimal of a spelling with a given sign, gathered digits and exponent. -/
private def decimal? (negative : Bool) (digits : Nat) (exponent : Int) : Option Number :=
  (scaled? (.ofInt digits) exponent).map fun d ↦
    .decimal (if negative then ⟨d.bits ^^^ 0x8000000000000000⟩ else d)

/-- The greatest exponent that is calculated with. -/
private def exponentLimit : Nat := 0x7FFFFFFF

/-- A whole number without fraction and exponent. Minus zero is a decimal. -/
private def wholeNumber (negative : Bool) (digits : Nat) : Number :=
  if negative then
    if digits = 0 then .decimal (.zero true)
    else if digits ≤ Nat.pow 2 63 then .integer (Int64.ofInt (-digits))
    else .decimal (.ofInt (-digits))
  else if digits < Nat.pow 2 63 then .integer (Int64.ofInt digits)
  else .large (UInt64.ofNat digits)

/-- The value of a spelling, if its magnitude is not too large. -/
def Spelling.value? (s : Spelling) : Option Number :=
  let (digits, beyond) := gather 0 s.whole
  if s.fraction.isNone && s.exponent.isNone && beyond.isEmpty then
    some (wholeNumber s.negative digits)
  else
    let fraction := s.fraction.getD []
    let (digits, dropped) := gather digits fraction
    let shift : Int := (beyond.length : Int) - (fraction.length - dropped.length : Nat)
    match s.exponent with
    | none => decimal? s.negative digits shift
    | some (down, exponentDigits) =>
      let size := digitsValue exponentDigits
      if exponentLimit < size then
        if digits ≠ 0 ∧ !down then none else some (.decimal (.zero s.negative))
      else decimal? s.negative digits (if down then shift - size else shift + size)

end Fieldwise.Json
