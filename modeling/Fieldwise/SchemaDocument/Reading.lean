import Fieldwise.SchemaDocument

/-!
# Reading schema documents

Schema documents have one shape and several written forms. A written form says how its nodes are
read as texts, flags, lists and entries, and which node an alias stands for; the shape is read
through that. Only the nodes that the shape asks for are followed, each of them once.
-/

namespace Fieldwise

/-- A reading of nodes. Its state is the number of aliases that it may still follow. -/
abbrev Reading := StateT Nat Option

/-- How the nodes of a written form are read. Each reading but the first is of a node that has been
followed, and fails on nodes of another kind. -/
structure NodeReading (ν : Type) where
  /-- The node that a node stands for. -/
  follow : ν → Reading ν
  text? : ν → Option String
  flag? : ν → Option Bool
  items? : ν → Option (List ν)
  entries? : ν → Option (List (ν × ν))
  /-- The members of a structure given by position, where the form allows that. -/
  positional? : ν → Option (List ν)
  /-- Whether the node stands for an omitted optional member; some nodes may not stand there. -/
  absent? : ν → Option Bool
  construction? : ν → Option Construction

namespace NodeReading

variable {ν α : Type}

/-- The text of a node. -/
def text (r : NodeReading ν) (node : ν) : Reading String := do r.text? node

/-- The flag of a node. -/
def flag (r : NodeReading ν) (node : ν) : Reading Bool := do r.flag? node

/-- The construction that a node describes. -/
def construction (r : NodeReading ν) (node : ν) : Reading Construction := do r.construction? node

/-- The items of a list, all read alike. -/
def listOf (r : NodeReading ν) (read : ν → Reading α) (node : ν) : Reading (List α) := do
  (← r.items? node).mapM fun item ↦ do read (← r.follow item)

/-- The entries of a node by their names. Their values are not followed. -/
def entries (r : NodeReading ν) (node : ν) : Reading (List (String × ν)) := do
  (← r.entries? node).mapM fun entry ↦ do return (← r.text (← r.follow entry.1), entry.2)

/-- The members of a structure with the given member names. None may occur twice; names that do
not belong to a strict structure are refused, and otherwise passed over. -/
def members (r : NodeReading ν) (names : List String) (strict : Bool) (node : ν) :
    Reading (Table ν) :=
  match r.positional? node with
  | some items => if items.length ≤ names.length then pure (names.zip items) else failure
  | none => do
    let entries ← r.entries node
    let known := entries.filter fun entry ↦ names.contains entry.1
    if (strict && known.length != entries.length) || !(Table.names known).Nodup then failure
    else return known

/-- A member that must be given. -/
def required (r : NodeReading ν) (read : ν → Reading α) (members : Table ν) (name : String) :
    Reading α := do
  read (← r.follow (← members.find? name))

/-- A member with a value of its own when it is not given. -/
def defaulted (r : NodeReading ν) (fallback : α) (read : ν → Reading α) (members : Table ν)
    (name : String) : Reading α :=
  match members.find? name with
  | some node => do read (← r.follow node)
  | none => pure fallback

/-- A member that may be omitted, or given as absent. -/
def optional (r : NodeReading ν) (read : ν → Reading α) (members : Table ν) (name : String) :
    Reading (Option α) :=
  match members.find? name with
  | some node => do
    let node ← r.follow node
    if ← r.absent? node then return none else return some (← read node)
  | none => pure none

/-- A type by its spelling. -/
def type (r : NodeReading ν) (node : ν) : Reading Ty := do
  (Ty.parse (← r.text node)).toOption

/-- The annotation that chains an element. -/
def chaining (r : NodeReading ν) (node : ν) : Reading Chaining := do
  let members ← r.members ["serializer", "fields"] false node
  return {
    serializer := ← r.optional r.text members "serializer"
    fields := ← r.defaulted [] (r.listOf r.text) members "fields" }

/-- The annotation that computes a field. -/
def synthesis (r : NodeReading ν) (node : ν) : Reading Synthesis := do
  let members ← r.members ["target", "from"] false node
  return {
    target := ← r.required r.text members "target"
    sources := ← r.defaulted [] (r.listOf r.text) members "from" }

/-- A declared field. -/
def field (r : NodeReading ν) (node : ν) : Reading FieldDef := do
  let members ← r.members
    ["name", "type", "public", "transient", "from_field", "with_serializer"] true node
  return {
    name := ← r.required r.text members "name"
    type := ← r.required r.type members "type"
    isPublic := ← r.defaulted false r.flag members "public"
    isTransient := ← r.defaulted false r.flag members "transient"
    fromField := ← r.optional r.text members "from_field"
    chaining := ← r.optional r.chaining members "with_serializer" }

/-- A declared method. -/
def method (r : NodeReading ν) (node : ν) : Reading MethodDeclaration := do
  let members ← r.members
    ["name", "params", "returns", "getter", "setter", "format", "native", "from_field",
      "with_serializer", "synthesized"] true node
  return {
    name := ← r.required r.text members "name"
    params := ← r.defaulted [] (r.listOf r.type) members "params"
    returns := ← r.optional r.type members "returns"
    getter := ← r.optional r.text members "getter"
    setter := ← r.optional r.text members "setter"
    format := ← r.optional r.text members "format"
    native := ← r.optional r.text members "native"
    fromField := ← r.optional r.text members "from_field"
    chaining := ← r.optional r.chaining members "with_serializer"
    synthesis := ← r.optional r.synthesis members "synthesized" }

/-- Properties by name; a name that is repeated keeps its position and takes its last type. -/
def properties (r : NodeReading ν) (node : ν) : Reading (Table Ty) := do
  let typed ← (← r.entries node).mapM fun entry ↦ do
    return (entry.1, ← r.type (← r.follow entry.2))
  return typed.foldl (fun table entry ↦ table.put entry.1 entry.2) []

/-- A declared schema. -/
def schema (r : NodeReading ν) (node : ν) : Reading SchemaDeclaration := do
  let members ← r.members
    ["name", "serialized_from", "constructor", "properties", "fields", "methods"] true node
  return {
    name := ← r.required r.text members "name"
    serializedFrom := ← r.optional r.text members "serialized_from"
    construction := ← r.defaulted .blank r.construction members "constructor"
    properties := ← r.defaulted [] r.properties members "properties"
    fields := ← r.defaulted [] (r.listOf r.field) members "fields"
    methods := ← r.defaulted [] (r.listOf r.method) members "methods" }

/-- A document of schemas. -/
def document (r : NodeReading ν) (node : ν) : Reading SchemaDocument := do
  let members ← r.members ["schemas"] true node
  return { schemas := ← r.defaulted [] (r.listOf r.schema) members "schemas" }

end NodeReading

end Fieldwise
