/-!
# Runs of case mappings

Neighbouring letters mostly lie at one distance from their counterparts of the other case. A run
states that distance once for every letter, or every other letter, between two code points.
-/

namespace Fieldwise.Text

/-- The letters `first`, `first + step`, … up to `last`, each `shift` away from its counterpart. -/
structure CaseRun where
  first : Nat
  last : Nat
  step : Nat
  shift : Int
  deriving DecidableEq, Repr

namespace CaseRun

/-- Membership of a code point in a run. -/
def holds (run : CaseRun) (code : Nat) : Bool :=
  run.first ≤ code && code ≤ run.last && (code - run.first) % run.step == 0

/-- The counterpart of a character: an expansion if it has one, else by its run, else itself. -/
def mapping (runs : List CaseRun) (expansions : List (Nat × List Nat)) (c : Char) : List Char :=
  match expansions.lookup c.toNat with
  | some codes => codes.map Char.ofNat
  | none =>
    match runs.find? (·.holds c.toNat) with
    | some run => [Char.ofNat (c.toNat + run.shift).toNat]
    | none => [c]

end CaseRun

end Fieldwise.Text
