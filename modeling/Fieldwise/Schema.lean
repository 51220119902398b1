import Fieldwise.Accessor
import Fieldwise.Ty

/-!
# Schemas

A schema describes one record type: its fields, its methods, how instances come into being, and
the annotations that tie it to the schema its instances are mapped from. Computations supplied by
users are functions that may refuse with a reason.
-/

namespace Fieldwise

/-- Marks a field or writer as filled through another schema. -/
structure Chaining where
  /-- The schema to map with; the declared type names it when absent. -/
  serializer : Option String
  /-- The fields to include; all of them when empty. -/
  fields : List String
  deriving DecidableEq, Repr, Inhabited

/-- Marks a method as computing a target field from source fields, in order. -/
structure Synthesis where
  target : String
  sources : List String
  deriving DecidableEq, Repr, Inhabited

/-- A declared field. -/
structure FieldDef where
  name : String
  type : Ty
  /-- Open to direct stores. -/
  isPublic : Bool := false
  /-- Left out of mappings. -/
  isTransient : Bool := false
  /-- The source field to read, when it has another name. -/
  fromField : Option String := none
  chaining : Option Chaining := none
  deriving DecidableEq, Repr, Inhabited

/-- How a method computes its result or changes its receiver. -/
inductive Body where
  | getter (field : String)
  | setter (field : String)
  | format (template : String)
  | native (run : Record → List Value → Except String Value)
  /-- Changes made before a refusal remain. -/
  | mutator (run : Record → List Value → Record × Except String Unit)

/-- Whether a body can assign into its receiver. -/
def Body.writes : Body → Bool
  | .setter _ | .mutator _ => true
  | .getter _ | .format _ | .native _ => false

/-- A declared method. Without a result type it returns nothing. -/
structure Method where
  name : String
  params : List Ty
  returns : Option Ty
  body : Body
  /-- The source field to read, when it has another name. -/
  fromField : Option String := none
  chaining : Option Chaining := none
  synthesis : Option Synthesis := none

namespace Method

/-- The number of parameters. -/
def arity (m : Method) : Nat := m.params.length

/-- The conventional reader of a field. -/
def readerOf (field : String) (type : Ty) : Method :=
  { name := Accessor.reader field, params := [], returns := some type, body := .getter field }

/-- The conventional writer of a field. -/
def writerOf (field : String) (type : Ty) : Method :=
  { name := Accessor.writer field, params := [type], returns := none, body := .setter field }

end Method

/-- How instances come into being. -/
inductive Construction where
  /-- Every declared field is present and absent in value. -/
  | blank
  | inaccessible
  | requires (arity : Nat)
  | native (build : Except String Record)

/-- A record type. -/
structure Schema where
  name : String
  /-- The schema whose instances this one is mapped from. -/
  serializedFrom : Option String := none
  construction : Construction := .blank
  fields : List FieldDef := []
  methods : List Method := []

namespace Schema

/-- Add a field after the others. -/
def addField (s : Schema) (field : FieldDef) : Schema := { s with fields := s.fields ++ [field] }

/-- Add a method after the others. -/
def addMethod (s : Schema) (method : Method) : Schema :=
  { s with methods := s.methods ++ [method] }

/-- Add a private field and its conventional reader. -/
def addProperty (s : Schema) (name : String) (type : Ty) : Schema :=
  (s.addField { name, type }).addMethod (.readerOf name type)

/-- The first field of a name. -/
def findField? (s : Schema) (name : String) : Option FieldDef :=
  s.fields.find? (·.name == name)

/-- The first method of a name that takes exactly these parameters. -/
def findMethod? (s : Schema) (name : String) (params : List Ty) : Option Method :=
  s.methods.find? fun m ↦ m.name == name && m.params == params

/-- An instance that has every declared field, all absent in value. -/
def blank (s : Schema) : Record :=
  s.fields.foldl (fun record field ↦ record.set field.name .null) (.empty s.name)

end Schema

end Fieldwise
