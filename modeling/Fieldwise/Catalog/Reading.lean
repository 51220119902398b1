import Fieldwise.Catalog
import Fieldwise.Schema.Error
import Fieldwise.Value.Document

/-!
# Reading records

A record is read from an object by its schema: every declared field is present, in order of
declaration, and absent in value where the object has no entry for it. A field of record type
reads an object by that type's schema. Entries without a declared field are passed over.
-/

namespace Fieldwise

/-- An entry of an object as it is offered to a field: its plain value and, if it is an object,
its reading by any schema. -/
structure Offer where
  value : Value
  asRecord : Option (String → Except SchemaError Record)

namespace Offer

/-- The value that a field of a given type receives. -/
def valueFor (offer : Offer) (type : Ty) : Except SchemaError Value :=
  match type, offer.asRecord with
  | .record name, some read => (read name).map Record.toValue
  | _, _ => .ok offer.value

end Offer

namespace Schema

/-- Give a field of a record what is offered to it, if anything is. -/
def fillField (s : Schema) (offers : Table Offer) (record : Record) (field : FieldDef) :
    Except SchemaError Record :=
  match offers.find? field.name with
  | none => .ok record
  | some offer => do
    let value ← offer.valueFor field.type
    if field.type.accepts value then .ok (record.set field.name value)
    else .error (.fieldValue field.name s.name field.type.text value.kind)

/-- An instance whose fields take what is offered to them. -/
def fill (s : Schema) (offers : Table Offer) : Except SchemaError Record :=
  s.fields.foldlM (s.fillField offers) s.blank

end Schema

namespace Catalog

mutual

/-- The record of a registered schema that a document describes. -/
def read (c : Catalog) : Json → String → Except SchemaError Record
  | .object entries, name =>
    match c.find? name with
    | none => .error (.unknownSchema name)
    | some schema => schema.fill (offers c entries)
  | _, name => .error (if c.has name then .notAnObject name else .unknownSchema name)

/-- The entries of an object, each ready to be read as a record. -/
def offers (c : Catalog) : List (String × Json) → Table Offer
  | [] => []
  | (key, document) :: rest =>
    let asRecord := match document with
      | .object entries => some (read c (.object entries))
      | _ => none
    (key, ⟨Value.ofJson document, asRecord⟩) :: offers c rest

end

end Catalog

end Fieldwise
