import Fieldwise.Catalog
import Fieldwise.Mapping
import Fieldwise.Mapping.Fault

/-!
# Compiling mappings

The mapping of a target schema is compiled from its declarations: its methods first, then its
public fields that no method has bound. Everything is looked up here, so that carrying out a
mapping only invokes what was found. A chain of serializers may not return to a schema that is
still being compiled; since every nested schema is therefore a new registered name, compiling ends.
-/

namespace Fieldwise

namespace Catalog

/-- The reader of a source field: its conventional name, no parameters, and a result. -/
def reader (c : Catalog) (source field : String) : Except Fault Method :=
  let name := Accessor.reader field
  match c.findMethod? source name [] with
  | none => .error (.missingReader name source)
  | some reader =>
    if reader.returns.isNone then .error (.silentReader name source) else .ok reader

end Catalog

/-- The schema that a chained element is mapped with. A named one must be the declared type. -/
def Chaining.serializerFor (chaining : Chaining) (target element : String) (declared : Ty) :
    Except Fault String :=
  match chaining.serializer with
  | some serializer =>
    if Ty.record serializer = declared then .ok serializer
    else .error (.serializerType serializer element target declared)
  | none =>
    match declared.recordName? with
    | some serializer => .ok serializer
    | none => .error (.notASerializer declared element target)

/-- What the declarations of one target schema are compiled against: its source, the targets that
are being compiled, itself included, and the mappings of all others. -/
structure Scope where
  catalog : Catalog
  target : Schema
  source : String
  chain : List String
  nested : (name : String) → name ∉ chain → FieldFilter → Except Fault Mapping

namespace Scope

/-- The nested mapping of a chained element. -/
def chained (s : Scope) (element : String) (chaining : Chaining) (declared : Ty) :
    Except Fault Mapping := do
  let serializer ← chaining.serializerFor s.target.name element declared
  if h : serializer ∈ s.chain then .error (.cycle serializer element s.target.name)
  else s.nested serializer h ⟨chaining.fields⟩

/-- The first parameter, counted from `index`, whose type is not its reader's result type. -/
def parameterFault? (s : Scope) (combinator : Method) (index : Nat) :
    List Ty → List Method → Option Fault
  | param :: params, reader :: readers =>
    if reader.returns = some param then s.parameterFault? combinator (index + 1) params readers
    else some (.parameterType index combinator.name s.target.name param reader.name s.source
      reader.returns)
  | _, _ => none

/-- The writer of a target field that takes exactly the field's declared type. -/
def writerFor? (s : Scope) (field : String) : Option Method := do
  let declared ← s.target.findField? field
  s.target.findMethod? (Accessor.writer field) [declared.type]

/-- The binding of a method that computes a target field. -/
def synthetic (s : Scope) (combinator : Method) (synthesis : Synthesis) :
    Except Fault Binding := do
  let readers ← synthesis.sources.mapM (s.catalog.reader s.source)
  if combinator.arity ≠ readers.length then
    .error (.argumentCount combinator.name s.target.name combinator.arity readers.length)
  else match s.parameterFault? combinator 0 combinator.params readers with
    | some fault => .error fault
    | none =>
      .ok (.synthetic synthesis.target combinator readers (s.writerFor? synthesis.target))

/-- The binding of a writer that takes one parameter, by the target field and the source field. -/
def written (s : Scope) (writer : Method) (param : Ty) (field sourceField : String) :
    Except Fault Binding :=
  match writer.chaining with
  | some chaining => do
    let nested ← s.chained writer.name chaining param
    let reader ← s.catalog.reader s.source sourceField
    .ok (.chained field reader (some writer) nested)
  | none => do
    let reader ← s.catalog.reader s.source sourceField
    if reader.returns.any param.isAssignableFrom then .ok (.direct field reader (some writer))
    else .error (.writerType writer.name s.target.name param reader.returns reader.name)

/-- The field that a method fills and its binding, if it fills one. -/
def methodBinding? (s : Scope) (method : Method) : Except Fault (Option (String × Binding)) :=
  match method.synthesis with
  | some synthesis => do
    let binding ← s.synthetic method synthesis
    .ok (some (synthesis.target, binding))
  | none =>
    match method.params with
    | [param] =>
      if Accessor.isWriter method.name then do
        let field := Accessor.field method.name
        let binding ← s.written method param field (method.fromField.getD field)
        .ok (some (field, binding))
      else .ok none
    | _ => .ok none

/-- The binding of a public field. -/
def fieldBinding (s : Scope) (field : FieldDef) : Except Fault Binding :=
  let sourceField := field.fromField.getD field.name
  match field.chaining with
  | some chaining => do
    let nested ← s.chained field.name chaining field.type
    let reader ← s.catalog.reader s.source sourceField
    .ok (.chained field.name reader none nested)
  | none => do
    let reader ← s.catalog.reader s.source sourceField
    .ok (.direct field.name reader none)

/-- Add the binding of a method; a later method replaces an earlier one of the same field. -/
def addMethod (s : Scope) (bound : Table Binding) (method : Method) :
    Except Fault (Table Binding) := do
  match ← s.methodBinding? method with
  | some (field, binding) => .ok (bound.put field binding)
  | none => .ok bound

/-- Add the binding of a field that is public, takes part, and is not bound yet. -/
def addField (s : Scope) (bound : Table Binding) (field : FieldDef) :
    Except Fault (Table Binding) :=
  if !field.isPublic || field.isTransient || bound.has field.name then .ok bound
  else do
    let binding ← s.fieldBinding field
    .ok (bound.put field.name binding)

/-- The bindings of the target schema, methods first. -/
def bindings (s : Scope) : Except Fault (Table Binding) := do
  let bound ← s.target.methods.foldlM s.addMethod []
  s.target.fields.foldlM s.addField bound

end Scope

namespace Catalog

/-- The registered names outside a chain become fewer when a registered name joins the chain. -/
theorem length_filter_lt {names chain : List String} {name : String} (hn : name ∈ names)
    (hc : name ∉ chain) :
    (names.filter (· ∉ name :: chain)).length < (names.filter (· ∉ chain)).length := by
  have hsub : names.filter (· ∉ name :: chain) =
      (names.filter (· ∉ chain)).filter (· ≠ name) := by
    rw [List.filter_filter]
    refine List.filter_congr fun x _ ↦ ?_
    simp [List.mem_cons, not_or]
  rw [hsub]
  refine List.length_filter_lt_length_iff_exists.2 ⟨name, ?_, by simp⟩
  simp [hn, hc]

/-- The mapping of a target while the targets of `chain` are being compiled. -/
def compileWithin (c : Catalog) (chain : List String) (target : String) (fresh : target ∉ chain)
    (defaults : FieldFilter) : Except Fault Mapping :=
  match h : c.find? target with
  | none => .error (.unknownSerializer target)
  | some schema =>
    match schema.serializedFrom with
    | none => .error (.undeclaredSource target)
    | some source =>
      if !c.has source then .error (.unknownSource target source)
      else do
        have := length_filter_lt (mem_names_of_find? h) fresh
        let bindings ← Scope.bindings {
          catalog := c, target := schema, source, chain := target :: chain
          nested := fun name outside filter ↦
            c.compileWithin (target :: chain) name outside filter }
        .ok (.mk schema source defaults bindings)
termination_by (c.names.filter (· ∉ chain)).length
decreasing_by assumption

/-- The mapping of a target schema, with the filter that applies where none is given. -/
def compile (c : Catalog) (target : String) (defaults : FieldFilter) : Except Fault Mapping :=
  c.compileWithin [] target List.not_mem_nil defaults

end Catalog

end Fieldwise
