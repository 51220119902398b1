import Fieldwise.Value
import Fieldwise.Json

/-!
# Values as documents

Every value has a document: records become objects of their fields with ascending keys, and
decimals that are not finite become `null`. Every document has a value: objects become maps.
-/

namespace Fieldwise

/-- The value of a number; a whole number beyond the signed range becomes a decimal. -/
def Json.Number.toValue : Json.Number → Value
  | .integer value => .integer value
  | .large value => .decimal (.ofInt value.toNat)
  | .decimal value => .decimal value

namespace Value

mutual

/-- The value of a document. -/
def ofJson : Json → Value
  | .null => .null
  | .boolean b => .boolean b
  | .number n => n.toValue
  | .string s => .string s
  | .array items => .list (ofJsonItems items)
  | .object entries => .map (ofJsonEntries entries)

/-- The values of array items. -/
def ofJsonItems : List Json → List Value
  | [] => []
  | item :: rest => ofJson item :: ofJsonItems rest

/-- The values of object entries. -/
def ofJsonEntries : List (String × Json) → List (String × Value)
  | [] => []
  | (key, value) :: rest => (key, ofJson value) :: ofJsonEntries rest

end

mutual

/-- The document of a value. -/
def toJson : Value → Json
  | null => .null
  | boolean b => .boolean b
  | integer i => .number (.integer i)
  | decimal d => if d.isFinite then .number (.decimal d) else .null
  | string s => .string s
  | list items => .array (toJsonItems items)
  | map entries => .object (toJsonEntries entries)
  | record _ fields => .object (Table.sorted (toJsonEntries fields))

/-- The documents of list items. -/
def toJsonItems : List Value → List Json
  | [] => []
  | item :: rest => toJson item :: toJsonItems rest

/-- The documents of entries. -/
def toJsonEntries : List (String × Value) → List (String × Json)
  | [] => []
  | (key, value) :: rest => (key, toJson value) :: toJsonEntries rest

end

/-- Lists are converted item by item. -/
theorem ofJsonItems_eq_map (items : List Json) : ofJsonItems items = items.map ofJson := by
  induction items with
  | nil => rfl
  | cons item rest ih => simp [ofJsonItems, ih]

/-- Objects are converted entry by entry. -/
theorem ofJsonEntries_eq_mapEntries (entries : List (String × Json)) :
    ofJsonEntries entries = Table.mapEntries ofJson entries := by
  induction entries with
  | nil => rfl
  | cons entry rest ih => simp [ofJsonEntries, Table.mapEntries, ih]

/-- Lists are turned into documents item by item. -/
theorem toJsonItems_eq_map (items : List Value) : toJsonItems items = items.map toJson := by
  induction items with
  | nil => rfl
  | cons item rest ih => simp [toJsonItems, ih]

/-- Maps are turned into documents entry by entry. -/
theorem toJsonEntries_eq_mapEntries (entries : List (String × Value)) :
    toJsonEntries entries = Table.mapEntries toJson entries := by
  induction entries with
  | nil => rfl
  | cons entry rest ih => simp [toJsonEntries, Table.mapEntries, ih]

end Value

end Fieldwise
