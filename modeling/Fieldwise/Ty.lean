import Fieldwise.Value
import Fieldwise.Text.Alphabetic
import Fieldwise.Text.Numeric
import Fieldwise.Text.Trim

/-!
# Declared types

The types of fields, parameters and results: how they are spelled, which values they accept, and
which of them may be stored where another is declared.
-/

namespace Fieldwise

/-- A declared type. -/
inductive Ty where
  | any
  | boolean
  | integer
  | decimal
  | string
  | list
  | map
  | record (name : String)
  deriving DecidableEq, Repr, Inhabited

namespace Ty

/-- The written form of a type; a record type is written by its name. -/
def text : Ty → String
  | any => "any"
  | boolean => "boolean"
  | integer => "integer"
  | decimal => "decimal"
  | string => "string"
  | list => "list"
  | map => "map"
  | record name => name

/-- The spellings that name a built-in type, some of which have two. -/
def reserved : Table Ty := [
  ("any", any), ("bool", boolean), ("boolean", boolean), ("int", integer), ("integer", integer),
  ("decimal", decimal), ("float", decimal), ("string", string), ("list", list), ("map", map)]

/-- A name of a record type: a letter, then letters, digits, underscores and points. -/
def isRecordName (name : String) : Bool :=
  match name.toList with
  | [] => false
  | c :: rest =>
    Text.isAlphabetic c &&
      rest.all fun c ↦ Text.isAlphabetic c || Text.isNumeric c || c == '_' || c == '.'

/-- A text that names no type, without the blanks around it. -/
structure UnknownType where
  name : String
  deriving DecidableEq, Repr

/-- The complaint about a text that names no type. -/
def UnknownType.message (e : UnknownType) : String := "Unknown type '" ++ e.name ++ "'"

/-- The type with a given spelling; blanks around it are dropped. -/
def parse (text : String) : Except UnknownType Ty :=
  let name := Text.trim text
  match reserved.find? name with
  | some type => .ok type
  | none => if isRecordName name then .ok (record name) else .error ⟨name⟩

/-- The record type's name. -/
def recordName? : Ty → Option String
  | record name => some name
  | _ => none

/-- Whether a value declared as `source` may be stored where `target` is declared. -/
def isAssignableFrom (target source : Ty) : Bool :=
  target == source || target == any || (target == decimal && source == integer)

/-- Whether a slot of this type takes a value. Every slot takes the absent value. -/
def accepts : Ty → Value → Bool
  | _, .null => true
  | any, _ => true
  | boolean, .boolean _ => true
  | integer, .integer _ => true
  | decimal, .decimal _ => true
  | decimal, .integer _ => true
  | string, .string _ => true
  | list, .list _ => true
  | map, .map _ => true
  | record name, .record schema _ => schema == name
  | _, _ => false

end Ty

end Fieldwise
