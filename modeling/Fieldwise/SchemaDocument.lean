import Fieldwise.Combinator
import Fieldwise.Schema.Error

/-!
# Schema documents

A schema document declares schemas as data. Properties stand for a private field with its reader.
Each method declares exactly one body, and a body in code is the name of a combinator.
-/

namespace Fieldwise

/-- A method as a document declares it, with the four bodies it may choose from. -/
structure MethodDeclaration where
  name : String
  params : List Ty := []
  returns : Option Ty := none
  getter : Option String := none
  setter : Option String := none
  format : Option String := none
  native : Option String := none
  fromField : Option String := none
  chaining : Option Chaining := none
  synthesis : Option Synthesis := none
  deriving DecidableEq, Repr

/-- A schema as a document declares it. -/
structure SchemaDeclaration where
  name : String
  serializedFrom : Option String := none
  construction : Construction := .blank
  properties : Table Ty := []
  fields : List FieldDef := []
  methods : List MethodDeclaration := []

/-- A document of schemas. -/
structure SchemaDocument where
  schemas : List SchemaDeclaration

namespace MethodDeclaration

/-- The body that a combinator of a given name provides, if the method names one. -/
def nativeBody? (m : MethodDeclaration) (cs : Combinators) (schema : String) :
    Except SchemaError (Option Body) :=
  match m.native with
  | none => .ok none
  | some name =>
    match cs.body? name with
    | some body => .ok (some body)
    | none => .error (.unknownCombinator schema m.name name)

/-- Whether the method would be bound as a writer: by its name, with one parameter, and not as the
computation of a field. -/
def isPlainWriter (m : MethodDeclaration) : Bool :=
  Accessor.isWriter m.name && m.params.length == 1 && m.synthesis.isNone

/-- The one body that the method declares. A format gives text, and a writer cannot be native. -/
def body (m : MethodDeclaration) (cs : Combinators) (schema : String) :
    Except SchemaError Body := do
  let native ← m.nativeBody? cs schema
  let bodies := [m.getter.map .getter, m.setter.map .setter, m.format.map .format, native]
  match bodies.filterMap id with
  | [.format template] =>
    if m.returns = some .string ∨ m.returns = some .any then .ok (.format template)
    else .error (.formatResult m.name schema)
  | [.native run] =>
    if m.isPlainWriter then .error (.nativeWriter m.name schema) else .ok (.native run)
  | [body] => .ok body
  | _ => .error (.bodyCount m.name schema)

/-- The method, with its body resolved. -/
def toMethod (m : MethodDeclaration) (cs : Combinators) (schema : String) :
    Except SchemaError Method := do
  let body ← m.body cs schema
  .ok { name := m.name, params := m.params, returns := m.returns, body
        fromField := m.fromField, chaining := m.chaining, synthesis := m.synthesis }

end MethodDeclaration

namespace SchemaDeclaration

/-- The schema: properties come before the declared fields and methods. -/
def toSchema (s : SchemaDeclaration) (cs : Combinators) : Except SchemaError Schema := do
  let methods ← s.methods.mapM (·.toMethod cs s.name)
  .ok {
    name := s.name
    serializedFrom := s.serializedFrom
    construction := s.construction
    fields := s.properties.map (fun p ↦ { name := p.1, type := p.2 }) ++ s.fields
    methods := s.properties.map (fun p ↦ .readerOf p.1 p.2) ++ methods }

end SchemaDeclaration

/-- The schemas of a document in order. -/
def SchemaDocument.toSchemas (d : SchemaDocument) (cs : Combinators) :
    Except SchemaError (List Schema) :=
  d.schemas.mapM (·.toSchema cs)

end Fieldwise
