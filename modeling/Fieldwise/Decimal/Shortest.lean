import Fieldwise.Decimal

/-!
# Shortest digits

Every finite decimal owns the interval of reals that round to it. Among the decimal grids `10 ^ e`,
the coarsest one with a point in that interval gives the fewest digits that read back; the point
nearest to the number itself is chosen.
-/

namespace Fieldwise.Decimal

/-- The value `digits · 10 ^ exponent`. -/
structure Scaled where
  digits : Nat
  exponent : Int
  deriving DecidableEq, Repr

/-- Which of two equally near grid points is taken. -/
inductive Tie where
  | upward
  | toEven
  deriving DecidableEq, Repr

/-- An interval around a value; its ends belong to it when it is closed. -/
structure Interval where
  low : Nat
  value : Nat
  high : Nat
  closed : Bool

namespace Interval

/-- Membership of a point. -/
def holds (i : Interval) (point : Nat) : Bool :=
  if i.closed then i.low ≤ point && point ≤ i.high else i.low < point && point < i.high

/-- All magnitudes enlarged by one factor. -/
def scale (i : Interval) (factor : Nat) : Interval :=
  { i with low := i.low * factor, value := i.value * factor, high := i.high * factor }

/-- The multiple of `unit` nearest to the value, if a neighbouring multiple lies in the interval. -/
def gridPoint? (i : Interval) (unit : Nat) (tie : Tie) : Option Nat :=
  let below := i.value / unit
  let above := below + 1
  let rest := 2 * (i.value % unit)
  let nearer :=
    if rest < unit then below
    else if unit < rest then above
    else match tie with
      | .upward => above
      | .toEven => below + below % 2
  match i.holds (below * unit), i.holds (above * unit) with
  | true, true => some nearer
  | true, false => some below
  | false, true => some above
  | false, false => none

end Interval

/-- The significand and binary exponent of a finite decimal's magnitude. -/
def significand (d : Decimal) : Nat × Int :=
  if d.exponentBits = 0 then (d.fractionBits, -1074)
  else (d.fractionBits + Nat.pow 2 52, (d.exponentBits : Int) - 1075)

/-- The interval that rounds to a finite decimal, in quarters of its last binary place. Below a
power of two the places are half as wide. -/
def ownInterval (d : Decimal) : Interval :=
  let m := d.significand.1
  let belowGap := if d.fractionBits = 0 ∧ 1 < d.exponentBits then 1 else 2
  { low := 4 * m - belowGap, value := 4 * m, high := 4 * m + 2, closed := m % 2 = 0 }

/-- The first grid with a hit, from `10 ^ exponent` downward through at most `steps` finer ones. -/
private def coarsest (i : Interval) (unit : Nat) (tie : Tie) : Nat → Int → Scaled
  | 0, exponent => ⟨0, exponent⟩
  | steps + 1, exponent =>
    match (i.scale (Nat.pow 10 (-exponent).toNat)).gridPoint?
        (unit * Nat.pow 10 exponent.toNat) tie with
    | some digits => ⟨digits, exponent⟩
    | none => coarsest i unit tie steps (exponent - 1)

/-- The shortest digits of a finite decimal's magnitude. The search starts above the number's own
order of magnitude and ends within twenty grids, since seventeen digits always suffice. -/
def shortest (d : Decimal) (tie : Tie) : Scaled :=
  let (m, q) := d.significand
  if m = 0 then ⟨0, 0⟩
  else
    let i := d.ownInterval
    let order : Int := ((m.log2 : Int) + q + 1) * 30103 / 100000 + 1
    coarsest (i.scale (Nat.pow 2 (q - 2).toNat)) (Nat.pow 2 (2 - q).toNat) tie 24 order

end Fieldwise.Decimal
