import Fieldwise.SchemaDocument.Json
import Fieldwise.SchemaDocument.Yaml

/-!
# Loading schema documents

The text of a schema document in either written form becomes its schemas. The whole document is
read before any of its declarations is resolved.
-/

namespace Fieldwise

/-- The schema document that a text of a given form holds. -/
def SchemaDocument.parse (format : DocumentFormat) (text : String) :
    Except SchemaError SchemaDocument :=
  let document? := match format with
    | .json => Json.Source.schemaDocument? text
    | .yaml => Yaml.Node.schemaDocument? text
  match document? with
  | some document => .ok document
  | none => .error (.malformed format)

/-- The schemas that a text of a given form declares. -/
def loadSchemas (cs : Combinators) (format : DocumentFormat) (text : String) :
    Except SchemaError (List Schema) := do
  (← SchemaDocument.parse format text).toSchemas cs

end Fieldwise
