import Fieldwise.Json.Source

/-!
# Reading documents

A written document becomes a tree of values when all of its parts have one and it nests no deeper
than the limit. Of several entries under one key the last one counts.
-/

namespace Fieldwise.Json

/-- The number of arrays and objects that may enclose one another. -/
def nestingLimit : Nat := 127

mutual

/-- The value of a written document with at most `room` levels of nesting. -/
def ofSource? (room : Nat) : Source → Option Json
  | .null => some .null
  | .boolean b => some (.boolean b)
  | .number n => n.map .number
  | .string s => s.map .string
  | .array items => if room = 0 then none else (itemsOf? (room - 1) items).map .array
  | .object entries =>
    if room = 0 then none
    else (entriesOf? (room - 1) entries).map fun entries ↦ .object (Table.sorted entries)

/-- The values of array items. -/
def itemsOf? (room : Nat) : List Source → Option (List Json)
  | [] => some []
  | item :: rest => do
    let item ← ofSource? room item
    let rest ← itemsOf? room rest
    some (item :: rest)

/-- The values of object entries, repeated keys included. -/
def entriesOf? (room : Nat) : List (Option String × Source) → Option (List (String × Json))
  | [] => some []
  | (key, value) :: rest => do
    let key ← key
    let value ← ofSource? room value
    let rest ← entriesOf? room rest
    some ((key, value) :: rest)

end

/-- The document of a text. -/
def parse? (text : String) : Option Json := (Source.ofText? text).bind (ofSource? nestingLimit)

end Fieldwise.Json
