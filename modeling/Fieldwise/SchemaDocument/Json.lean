import Fieldwise.Json.Source
import Fieldwise.SchemaDocument.Reading

/-!
# Schema documents in JSON

Structures are objects, or arrays of their members by position. `null` omits an optional member and
nothing else.
-/

namespace Fieldwise.Json.Source

/-- The exact value of a whole number that is not negative. -/
private def count? : Source → Option Nat
  | .number (some (.integer i)) => if 0 ≤ i.toInt then some i.toInt.toNat else none
  | .number (some (.large n)) => some n.toNat
  | _ => none

/-- The construction that a node names; only the last of the three takes an argument. -/
private def construction? : Source → Option Construction
  | .string (some "default") => some .blank
  | .string (some "private") => some .inaccessible
  | .object [(some "default", .null)] => some .blank
  | .object [(some "private", .null)] => some .inaccessible
  | .object [(some "requires_args", arity)] => (count? arity).map .requires
  | _ => none

/-- How the nodes of a written document are read. It has no aliases. -/
def reading : NodeReading Source where
  follow := pure
  text?
    | .string s => s
    | _ => none
  flag?
    | .boolean b => some b
    | _ => none
  items?
    | .array items => some items
    | _ => none
  entries?
    | .object entries => some (entries.map fun entry ↦ (.string entry.1, entry.2))
    | _ => none
  positional?
    | .array items => some items
    | _ => none
  absent?
    | .null => some true
    | _ => some false
  construction? := construction?

/-- The schema document of a text. -/
def schemaDocument? (text : String) : Option SchemaDocument := do
  (reading.document (← ofText? text)).run' 0

end Fieldwise.Json.Source
