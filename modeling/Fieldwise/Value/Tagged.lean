import Fieldwise.Value
import Fieldwise.Json.Reading

/-!
# Tagged documents

A second written form of values, which keeps their kinds apart: every value stands under the name
of its kind, and the absent value is that name alone. A record is an object or an array of its
schema and its fields; further keys of the object are skipped unread.
-/

namespace Fieldwise.Value

mutual

/-- The tagged document of a value. -/
def toTagged : Value → Json
  | null => .string "Null"
  | boolean b => .object [("Boolean", .boolean b)]
  | integer i => .object [("Integer", .number (.integer i))]
  | decimal d => .object [("Decimal", .number (.decimal d))]
  | string s => .object [("String", .string s)]
  | list items => .object [("List", .array (toTaggedItems items))]
  | map entries => .object [("Map", .object (toTaggedEntries entries))]
  | record schema fields => .object [("Record", .object [
      ("schema", .string schema), ("fields", .object (toTaggedEntries fields))])]

/-- The tagged documents of list items. -/
def toTaggedItems : List Value → List Json
  | [] => []
  | item :: rest => toTagged item :: toTaggedItems rest

/-- The tagged documents of entries. -/
def toTaggedEntries : List (String × Value) → List (String × Json)
  | [] => []
  | (key, value) :: rest => (key, toTagged value) :: toTaggedEntries rest

end

/-- The exact whole number of a number token within the signed range. -/
private def integer? : Option Json.Number → Option Value
  | some (.integer i) => some (.integer i)
  | _ => none

/-- Any number token as a decimal. -/
private def decimal? : Option Json.Number → Option Value
  | some (.integer i) => some (.decimal (.ofInt i.toInt))
  | some (.large n) => some (.decimal (.ofInt n.toNat))
  | some (.decimal d) => some (.decimal d)
  | none => none

/-- The members of a record in its object form, if each is given exactly once and every key is a
text. -/
private def recordMembers {α : Type} (entries : List (Option String × α)) : Option (α × α) :=
  let under (name : String) := entries.filter fun entry ↦ entry.1 == some name
  if entries.any (·.1.isNone) then none
  else match under "schema", under "fields" with
    | [(_, schema)], [(_, fields)] => some (schema, fields)
    | _, _ => none

/-- A member of a record as it is written, with its readings as a text and as fields. -/
private structure Member where
  text : Option String
  fields : Option (Table Value)

/-- A record from its two members. -/
private def ofMembers? (members : Member × Member) : Option Value := do
  some (.record (← members.1.text) (← members.2.fields))

mutual

/-- The value of a tagged document with at most `room` levels of nesting. -/
def ofTagged? (room : Nat) : Json.Source → Option Value
  | .string (some "Null") => some .null
  | .object [(some kind, body)] => if room = 0 then none else ofKind? (room - 1) kind body
  | _ => none

/-- The value of a kind with a given body. -/
def ofKind? (room : Nat) (kind : String) : Json.Source → Option Value
  | .null => if kind = "Null" then some .null else none
  | .boolean b => if kind = "Boolean" then some (.boolean b) else none
  | .number n =>
    if kind = "Integer" then integer? n else if kind = "Decimal" then decimal? n else none
  | .string s => if kind = "String" then s.map .string else none
  | .array items =>
    if room = 0 then none
    else if kind = "List" then (ofTaggedItems? (room - 1) items).map .list
    else if kind = "Record" then
      match recordItems (room - 1) items with
      | [schema, fields] => ofMembers? (schema, fields)
      | _ => none
    else none
  | .object entries =>
    if room = 0 then none
    else if kind = "Map" then
      (ofTaggedEntries? (room - 1) entries).map fun entries ↦ .map (Table.sorted entries)
    else if kind = "Record" then
      (recordMembers (recordEntries (room - 1) entries)).bind ofMembers?
    else none

/-- The values of list items. -/
def ofTaggedItems? (room : Nat) : List Json.Source → Option (List Value)
  | [] => some []
  | item :: rest => do
    let item ← ofTagged? room item
    let rest ← ofTaggedItems? room rest
    some (item :: rest)

/-- The values of entries, repeated keys included. -/
def ofTaggedEntries? (room : Nat) : List (Option String × Json.Source) → Option (Table Value)
  | [] => some []
  | (key, value) :: rest => do
    let key ← key
    let value ← ofTagged? room value
    let rest ← ofTaggedEntries? room rest
    some ((key, value) :: rest)

/-- The readings of a record's member. -/
def recordMember (room : Nat) : Json.Source → Member
  | .string s => ⟨s, none⟩
  | .object entries =>
    ⟨none, if room = 0 then none
      else (ofTaggedEntries? (room - 1) entries).map (·.foldl (fun t e ↦ t.put e.1 e.2) [])⟩
  | _ => ⟨none, none⟩

/-- The readings of a record's members in array form. -/
def recordItems (room : Nat) : List Json.Source → List Member
  | [] => []
  | item :: rest => recordMember room item :: recordItems room rest

/-- The readings of a record's members in object form. -/
def recordEntries (room : Nat) : List (Option String × Json.Source) → List (Option String × Member)
  | [] => []
  | (key, value) :: rest => (key, recordMember room value) :: recordEntries room rest

end

/-- The value of a text that holds a tagged document. -/
def parseTagged? (text : String) : Option Value :=
  (Json.Source.ofText? text).bind (ofTagged? Json.nestingLimit)

end Fieldwise.Value
