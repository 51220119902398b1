import Fieldwise.Decimal.Notation
import Fieldwise.Table

/-!
# Values

The values that record fields hold and accessors exchange. A record value carries the name of its
schema and its fields in order of declaration; the entries of a map are kept with ascending names.
Equality compares records without regard to the order of their fields.
-/

namespace Fieldwise

/-- A value of a field, an argument or a result. -/
inductive Value where
  | null
  | boolean (value : Bool)
  | integer (value : Int64)
  | decimal (value : Decimal)
  | string (value : String)
  | list (items : List Value)
  | map (entries : List (String × Value))
  | record (schema : String) (fields : List (String × Value))
  deriving Inhabited

/-- An instance of a record type: the name of its schema and its fields in order. -/
structure Record where
  schema : String
  fields : Table Value
  deriving Inhabited

namespace Record

/-- A record without fields. -/
def empty (schema : String) : Record := ⟨schema, []⟩

/-- The value of a field. -/
def get? (r : Record) (name : String) : Option Value := r.fields.find? name

/-- Presence of a field. -/
def has (r : Record) (name : String) : Bool := r.fields.has name

/-- Set a field, in its present position or after all others. -/
def set (r : Record) (name : String) (value : Value) : Record :=
  { r with fields := r.fields.put name value }

/-- The names of the fields in order. -/
def names (r : Record) : List String := r.fields.names

/-- The record as a value. -/
def toValue (r : Record) : Value := .record r.schema r.fields

/-- Setting a field changes what is held in that field only. -/
@[simp] theorem get?_set (r : Record) (name : String) (value : Value) (other : String) :
    (r.set name value).get? other = if name = other then some value else r.get? other := by
  simp [set, get?]

/-- Setting a present field keeps the names; a new field comes last. -/
theorem names_set (r : Record) (name : String) (value : Value) :
    (r.set name value).names = if name ∈ r.names then r.names else r.names ++ [name] :=
  Table.names_put r.fields name value

end Record

namespace Value

/-- The absent value. -/
def isNull : Value → Bool
  | null => true
  | _ => false

/-- The record that a value holds. -/
def record? : Value → Option Record
  | record schema fields => some ⟨schema, fields⟩
  | _ => none

/-- The entries of a map. -/
def map? : Value → Option (Table Value)
  | map entries => some entries
  | _ => none

/-- The text of a scalar; absent and composite values have none. -/
def text? : Value → Option String
  | string value => some value
  | integer value => some (toString value.toInt)
  | decimal value => some value.plainText
  | boolean value => some (if value then "true" else "false")
  | null | list _ | map _ | record _ _ => none

/-- The text of a scalar, and nothing for other values. -/
def textOrEmpty (v : Value) : String := v.text?.getD ""

/-- The kind of a value in diagnostics; a record is named by its schema. -/
def kind : Value → String
  | null => "null"
  | boolean _ => "boolean"
  | integer _ => "integer"
  | decimal _ => "decimal"
  | string _ => "string"
  | list _ => "list"
  | map _ => "map"
  | record schema _ => schema

mutual

/-- Equality of values. Kinds never mix, decimals compare as numbers, and records agree when they
have one schema, as many fields, and agreeing values under each name. -/
def agrees : Value → Value → Bool
  | null, null => true
  | boolean a, boolean b => a == b
  | integer a, integer b => a == b
  | decimal a, decimal b => a.agrees b
  | string a, string b => a == b
  | list as, list bs => agreesItems as bs
  | map as, map bs => agreesEntries as bs
  | record s as, record t bs => s == t && as.length == bs.length && agreesFields as bs
  | _, _ => false

/-- Equality of lists, item by item. -/
def agreesItems : List Value → List Value → Bool
  | [], [] => true
  | a :: as, b :: bs => agrees a b && agreesItems as bs
  | _, _ => false

/-- Equality of maps, entry by entry in ascending order. -/
def agreesEntries : List (String × Value) → List (String × Value) → Bool
  | [], [] => true
  | (j, a) :: as, (k, b) :: bs => j == k && agrees a b && agreesEntries as bs
  | _, _ => false

/-- Every field on the left has an agreeing field of its name on the right. -/
def agreesFields : List (String × Value) → List (String × Value) → Bool
  | [], _ => true
  | (name, a) :: as, bs =>
    (match Table.find? bs name with
      | some b => agrees a b
      | none => false) && agreesFields as bs

end

instance : BEq Value := ⟨agrees⟩

/-- The record that the value of a record holds is that record. -/
@[simp] theorem record?_toValue (r : Record) : r.toValue.record? = some r := rfl

/-- A value holds a record exactly when it is that record's value. -/
theorem record?_eq_some_iff {v : Value} {r : Record} : v.record? = some r ↔ v = r.toValue := by
  cases v <;> simp [record?, Record.toValue]
  case record schema fields =>
    constructor
    · rintro rfl
      exact ⟨rfl, rfl⟩
    · rintro ⟨rfl, rfl⟩
      rfl

end Value

end Fieldwise
