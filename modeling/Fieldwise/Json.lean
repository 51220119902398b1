import Fieldwise.Decimal
import Fieldwise.Table

/-!
# Documents

The tree of a JSON document. Whole numbers keep their exact value within 64 bits. Objects that are
read have ascending keys; objects that are written keep the order they were built in.
-/

namespace Fieldwise

/-- A number of a document. `large` holds whole numbers beyond the signed range. -/
inductive Json.Number where
  | integer (value : Int64)
  | large (value : UInt64)
  | decimal (value : Decimal)
  deriving DecidableEq, Repr, Inhabited

/-- A JSON document. -/
inductive Json where
  | null
  | boolean (value : Bool)
  | number (value : Json.Number)
  | string (value : String)
  | array (items : List Json)
  | object (entries : List (String × Json))
  deriving Inhabited

namespace Json

/-- An array of texts. -/
def ofStrings (items : List String) : Json := .array (items.map .string)

end Json

end Fieldwise
