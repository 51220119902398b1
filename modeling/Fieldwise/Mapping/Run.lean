import Fieldwise.Catalog
import Fieldwise.Mapping
import Fieldwise.Mapping.Fault

/-!
# Carrying out mappings

A mapping turns a source record into a new target instance or into a table of target fields. An
absent source gives no instance and an empty table. In instances every value is assigned into the
target as it comes; tables only collect the values, and computing methods see the target as it was
constructed. Nested mappings apply their own default filters.
-/

namespace Fieldwise

namespace Mapping

/-- The source record; nothing if the source is absent. -/
def sourceRecord? (target : Schema) (source : String) (value : Value) :
    Except Fault (Option Record) :=
  match value with
  | .null => .ok none
  | .record schema fields =>
    if schema = source then .ok (some ⟨schema, fields⟩)
    else .error (.sourceMismatch target.name source schema)
  | other => .error (.sourceMismatch target.name source other.kind)

/-- A new instance of the target. -/
def construct (c : Catalog) (target : Schema) : Except Fault Record :=
  (c.construct target.name).mapError (.construction target.name)

/-- The value that a reader returns. -/
def readSource (source : Record) (reader : Method) : Except Fault Value :=
  (reader.call source []).mapError (.invocation reader.name source.schema)

/-- The value that a computing method returns for what the readers return. -/
def combine (target : Schema) (source receiver : Record) (combinator : Method)
    (readers : List Method) : Except Fault Value := do
  let args ← readers.mapM (readSource source)
  (combinator.call receiver args).mapError (.invocation combinator.name target.name)

/-- Assign the value of a field into an instance, by its writer or by a direct store. -/
def assignField (c : Catalog) (target : Schema) (instance_ : Record) (field : String)
    (writer : Option Method) (value : Value) : Except Fault Record :=
  match writer with
  | some writer =>
    match writer.assign instance_ [value] with
    | (after, .ok ()) => .ok after
    | (_, .error cause) => .error (.assignment writer.name target.name cause)
  | none => (c.store instance_ field value).mapError (.store field target.name)

mutual

/-- The instance that a mapping produces from a source value. -/
def toInstance (c : Catalog) : Mapping → Value → FieldFilter → Except Fault (Option Record)
  | .mk target source defaults bindings, value, filter => do
    match ← sourceRecord? target source value with
    | none => .ok none
    | some record =>
      let fresh ← construct c target
      let filled ← fillBindings c target (filter.effective defaults) record bindings fresh
      .ok (some filled)

/-- An instance after the wanted bindings have been applied to it in order. -/
def fillBindings (c : Catalog) (target : Schema) (filter : FieldFilter) (source : Record) :
    List (String × Binding) → Record → Except Fault Record
  | [], instance_ => .ok instance_
  | (field, binding) :: rest, instance_ =>
    if filter.allows field then do
      let value ← instanceValue c target source instance_ binding
      let after ← assignField c target instance_ field binding.writer? value
      fillBindings c target filter source rest after
    else fillBindings c target filter source rest instance_

/-- The value that a binding assigns; a nested mapping gives an instance or the absent value. -/
def instanceValue (c : Catalog) (target : Schema) (source instance_ : Record) :
    Binding → Except Fault Value
  | .direct _ reader _ => readSource source reader
  | .chained _ reader _ nested => do
    let value ← readSource source reader
    match ← toInstance c nested value .all with
    | some record => .ok record.toValue
    | none => .ok .null
  | .synthetic _ combinator readers _ => combine target source instance_ combinator readers

end

mutual

/-- The table of target fields that a mapping produces from a source value, names ascending. -/
def toTable (c : Catalog) : Mapping → Value → FieldFilter → Except Fault (Table Value)
  | .mk target source defaults bindings, value, filter => do
    match ← sourceRecord? target source value with
    | none => .ok []
    | some record =>
      let fresh ← construct c target
      collectBindings c target (filter.effective defaults) record fresh bindings []

/-- A table after the values of the wanted bindings have been added to it. -/
def collectBindings (c : Catalog) (target : Schema) (filter : FieldFilter)
    (source receiver : Record) :
    List (String × Binding) → Table Value → Except Fault (Table Value)
  | [], table => .ok table
  | (field, binding) :: rest, table =>
    if filter.allows field then do
      let value ← tableValue c target source receiver binding
      collectBindings c target filter source receiver rest (table.place field value)
    else collectBindings c target filter source receiver rest table

/-- The value that a binding contributes; a nested mapping gives a map. -/
def tableValue (c : Catalog) (target : Schema) (source receiver : Record) :
    Binding → Except Fault Value
  | .direct _ reader _ => readSource source reader
  | .chained _ reader _ nested => do
    let value ← readSource source reader
    let table ← toTable c nested value .all
    .ok (.map table)
  | .synthetic _ combinator readers _ => combine target source receiver combinator readers

end

end Mapping

end Fieldwise
