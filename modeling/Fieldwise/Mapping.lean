import Fieldwise.Mapping.Filter
import Fieldwise.Schema

/-!
# Mappings

A mapping tells for each field of a target schema how its value comes from a source record: read
directly, read and mapped by a nested mapping, or computed from several source fields. Fields are
filled in the order of the table.
-/

namespace Fieldwise

mutual

/-- How one target field is produced. Without a writer the value is stored directly. -/
inductive Binding where
  | direct (field : String) (reader : Method) (writer : Option Method)
  | chained (field : String) (reader : Method) (writer : Option Method) (nested : Mapping)
  | synthetic (field : String) (combinator : Method) (readers : List Method)
      (writer : Option Method)

/-- The bindings of a target schema, by target field, and the filter that applies by default. -/
inductive Mapping where
  | mk (target : Schema) (source : String) (defaults : FieldFilter)
      (bindings : List (String × Binding))

end

namespace Binding

/-- The three ways of producing a field. -/
inductive Kind where
  | direct
  | chained
  | synthetic
  deriving DecidableEq, Repr

/-- The label of a kind. -/
def Kind.label : Kind → String
  | direct => "direct"
  | chained => "chained"
  | synthetic => "synthetic"

/-- The target field that is produced. -/
def field : Binding → String
  | direct field _ _ => field
  | chained field _ _ _ => field
  | synthetic field _ _ _ => field

/-- The way in which the field is produced. -/
def kind : Binding → Kind
  | direct _ _ _ => .direct
  | chained _ _ _ _ => .chained
  | synthetic _ _ _ _ => .synthetic

/-- The readers of the source, in the order of the arguments they supply. -/
def readers : Binding → List Method
  | direct _ reader _ => [reader]
  | chained _ reader _ _ => [reader]
  | synthetic _ _ readers _ => readers

/-- The method that assigns the value into the target. -/
def writer? : Binding → Option Method
  | direct _ _ writer => writer
  | chained _ _ writer _ => writer
  | synthetic _ _ _ writer => writer

/-- The method that computes the value. -/
def combinator? : Binding → Option Method
  | synthetic _ combinator _ _ => some combinator
  | _ => none

/-- The mapping of the value that was read. -/
def nested? : Binding → Option Mapping
  | chained _ _ _ nested => some nested
  | _ => none

end Binding

namespace Mapping

/-- The schema whose instances are produced. -/
def target : Mapping → Schema
  | mk target _ _ _ => target

/-- The schema whose instances are read. -/
def source : Mapping → String
  | mk _ source _ _ => source

/-- The filter that applies where none is given. -/
def defaults : Mapping → FieldFilter
  | mk _ _ defaults _ => defaults

/-- The bindings by target field. -/
def bindings : Mapping → Table Binding
  | mk _ _ _ bindings => bindings

end Mapping

end Fieldwise
