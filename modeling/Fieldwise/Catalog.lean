import Fieldwise.Schema.Access

/-!
# Catalogs

A catalog holds schemas under distinct names, in the order in which the names were first
registered. Registering a name again replaces its schema and keeps its position.
-/

namespace Fieldwise

/-- Schemas with distinct names, in order of first registration. -/
structure Catalog where
  schemas : List Schema
  distinct : (schemas.map Schema.name).Nodup

namespace Catalog

/-- Replace the schema of the same name, or append a new one. -/
def replaceOrAppend (schema : Schema) : List Schema → List Schema
  | [] => [schema]
  | other :: rest =>
    if other.name = schema.name then schema :: rest else other :: replaceOrAppend schema rest

/-- A schema that replaces another keeps its position; a new one comes last. -/
theorem map_name_replaceOrAppend (schema : Schema) (schemas : List Schema) :
    (replaceOrAppend schema schemas).map Schema.name =
      if schema.name ∈ schemas.map Schema.name then schemas.map Schema.name
      else schemas.map Schema.name ++ [schema.name] := by
  induction schemas with
  | nil => rfl
  | cons other rest ih =>
    by_cases h : other.name = schema.name
    · simp [replaceOrAppend, h]
    · have h' : ¬ schema.name = other.name := fun e ↦ h e.symm
      simp only [replaceOrAppend, h, ↓reduceIte, List.map_cons, ih, List.mem_cons, h', false_or]
      split <;> rfl

/-- The catalog without schemas. -/
def empty : Catalog := ⟨[], List.nodup_nil⟩

instance : Inhabited Catalog := ⟨empty⟩

/-- Register a schema under its name. -/
def register (c : Catalog) (schema : Schema) : Catalog where
  schemas := replaceOrAppend schema c.schemas
  distinct := by
    rw [map_name_replaceOrAppend]
    split
    · exact c.distinct
    · next h =>
      refine List.nodup_append.2 ⟨c.distinct, by simp, fun a ha b hb ↦ ?_⟩
      rintro rfl
      simp only [List.mem_singleton] at hb
      exact h (hb ▸ ha)

/-- Register schemas one after the other. -/
def registerAll (c : Catalog) (schemas : List Schema) : Catalog := schemas.foldl register c

/-- The schema of a name. -/
def find? (c : Catalog) (name : String) : Option Schema := c.schemas.find? (·.name == name)

/-- The names in order of first registration. -/
def names (c : Catalog) : List String := c.schemas.map Schema.name

/-- Presence of a name. -/
def has (c : Catalog) (name : String) : Bool := (c.find? name).isSome

/-- A field of a registered schema. -/
def findField? (c : Catalog) (schema field : String) : Option FieldDef :=
  (c.find? schema).bind (·.findField? field)

/-- A method of a registered schema. -/
def findMethod? (c : Catalog) (schema name : String) (params : List Ty) : Option Method :=
  (c.find? schema).bind (·.findMethod? name params)

/-- A new instance of a registered schema. -/
def construct (c : Catalog) (schema : String) : Except AccessError Record :=
  match c.find? schema with
  | none => .error (.unknownSchema schema)
  | some definition => definition.instantiate

/-- Store a value into a public field, by the rules of the record's own schema: the record
afterwards, and whether the store succeeded. -/
def storeField (c : Catalog) (record : Record) (field : String) (value : Value) :
    Record × Except AccessError Unit :=
  match c.find? record.schema with
  | none => (record, .error (.unknownSchema record.schema))
  | some definition => definition.store record field value

/-- The record that a store leaves, if it succeeds. -/
def store (c : Catalog) (record : Record) (field : String) (value : Value) :
    Except AccessError Record :=
  match c.storeField record field value with
  | (after, .ok ()) => .ok after
  | (_, .error cause) => .error cause

/-- A schema is found under its own name. -/
theorem name_of_find? {c : Catalog} {name : String} {schema : Schema}
    (h : c.find? name = some schema) : schema.name = name := by
  simpa using List.find?_some h

/-- A name with a schema is one of the names. -/
theorem mem_names_of_find? {c : Catalog} {name : String} {schema : Schema}
    (h : c.find? name = some schema) : name ∈ c.names :=
  name_of_find? h ▸ List.mem_map_of_mem (List.mem_of_find?_eq_some h)

/-- Registering adds a name at the end, unless it is there already. -/
@[simp] theorem names_register (c : Catalog) (schema : Schema) :
    (c.register schema).names =
      if schema.name ∈ c.names then c.names else c.names ++ [schema.name] :=
  map_name_replaceOrAppend schema c.schemas

/-- Registering changes what is found under one name only. -/
@[simp] theorem find?_register (c : Catalog) (schema : Schema) (name : String) :
    (c.register schema).find? name = if schema.name = name then some schema else c.find? name := by
  obtain ⟨schemas, distinct⟩ := c
  simp only [register, find?]
  clear distinct
  induction schemas with
  | nil => by_cases h : schema.name = name <;> simp [replaceOrAppend, h]
  | cons other rest ih =>
    by_cases ho : other.name = schema.name
    · by_cases h : schema.name = name <;> simp [replaceOrAppend, ho, h]
    · by_cases hn : other.name = name
      · subst hn
        have h : ¬ schema.name = other.name := fun e ↦ ho e.symm
        simp [replaceOrAppend, ho, h]
      · simp [replaceOrAppend, ho, hn, ih]

end Catalog

end Fieldwise
