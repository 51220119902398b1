import Fieldwise.Catalog.Loading
import Fieldwise.Catalog.Reading
import Fieldwise.CommandLine.Arguments
import Fieldwise.CommandLine.Config
import Fieldwise.Json.Printing
import Fieldwise.Json.Reading
import Fieldwise.Mapping.Compile
import Fieldwise.Mapping.Plan
import Fieldwise.Mapping.Run

/-!
# The command line

The program loads schema documents, compiles a target schema, and prints the plan of its mapping or
maps the records of a file. Running it is a function of the arguments and the file tree, which gives
the exit code, the printed text, and the file tree afterwards.
-/

namespace Fieldwise.CommandLine

/-- Why a run failed. -/
inductive RunError where
  | unreadableConfig (path : String)
  | invalidConfig (path : String)
  | noDocuments
  | documents (cause : SchemaError)
  | mapping (fault : Fault)
  | unreadableInput (path : String)
  | invalidInput (path : String)
  | invalidRecord (schema : String) (cause : SchemaError)
  | unwritableOutput (path : String)
  deriving DecidableEq, Repr

/-- The texts of an error, from the failed undertaking down to its innermost cause. -/
def RunError.chain : RunError → List String
  | unreadableConfig path => [s!"failed to read config file {path}"]
  | invalidConfig path => [s!"invalid config file {path}"]
  | noDocuments =>
    ["no schema documents given; pass --schema or set schema_paths in the config file"]
  | documents cause => ["failed to load schema documents", cause.message]
  | mapping fault =>
    fault.display :: match fault.cause? with
      | none => []
      | some cause => cause.message :: cause.reason?.toList
  | unreadableInput path => [s!"failed to read input file {path}"]
  | invalidInput path => [s!"invalid JSON in {path}"]
  | invalidRecord schema cause => [s!"input is not a valid '{schema}' record", cause.message]
  | unwritableOutput path => [s!"failed to write output file {path}"]

/-- What a run leaves behind. -/
structure Outcome where
  code : Nat
  output : String := ""
  errors : List String := []
  files : FileTree

/-- The settings of an invocation: those of its configuration file, with the schema paths of the
command line after the others. -/
def Invocation.settings (i : Invocation) (t : FileTree) : Except RunError Config := do
  let config ← match i.config with
    | none => .ok {}
    | some path =>
      match t.read? path with
      | none => .error (.unreadableConfig path)
      | some text =>
        match Config.ofText? text with
        | none => .error (.invalidConfig path)
        | some config => .ok (config.relativeTo path)
  .ok { config with schemaPaths := config.schemaPaths ++ i.schemas }

/-- The catalog of the given paths, of which there must be one at least. -/
def catalogOf (t : FileTree) (paths : List String) : Except RunError Catalog :=
  if paths.isEmpty then .error .noDocuments
  else (Catalog.load .builtin t paths).mapError .documents

/-- The source value that a document describes; `null` is the absent source. -/
def sourceOf (c : Catalog) (schema : String) (document : Json) : Except RunError Value :=
  match document with
  | .null => .ok .null
  | document => ((c.read document schema).map Record.toValue).mapError (.invalidRecord schema)

/-- The document of what a mapping makes of a source value. -/
def mapOne (c : Catalog) (m : Mapping) (filter : FieldFilter) (asInstance : Bool) (source : Value) :
    Except RunError Json :=
  if asInstance then
    match m.toInstance c source filter with
    | .ok (some record) => .ok record.toValue.toJson
    | .ok none => .ok .null
    | .error fault => .error (.mapping fault)
  else
    match m.toTable c source filter with
    | .ok table => .ok (Value.toJson (.map table))
    | .error fault => .error (.mapping fault)

/-- The document of what a mapping makes of an input document, item by item if that is an array.
All sources are read before the first is mapped. -/
def mapDocument (c : Catalog) (m : Mapping) (filter : FieldFilter) (asInstance : Bool)
    (document : Json) : Except RunError Json := do
  match document with
  | .array items =>
    let sources ← items.mapM (sourceOf c m.source)
    let mapped ← sources.mapM (mapOne c m filter asInstance)
    .ok (.array mapped)
  | document =>
    let source ← sourceOf c m.source document
    mapOne c m filter asInstance source

/-- Carry out a command: the printed text and the files afterwards. -/
def Command.run (t : FileTree) (c : Catalog) : Command → Except RunError (String × FileTree)
  | .plan target fields => do
    let m ← (c.compile target ⟨fields⟩).mapError .mapping
    .ok (m.plan.toJson.pretty ++ "\n", t)
  | .map target input fields asInstance output => do
    let m ← (c.compile target .all).mapError .mapping
    match t.read? input with
    | none => .error (.unreadableInput input)
    | some text =>
      match Json.parse? text with
      | none => .error (.invalidInput input)
      | some document =>
        let mapped ← mapDocument c m ⟨fields⟩ asInstance document
        let text := mapped.pretty ++ "\n"
        match output with
        | none => .ok (text, t)
        | some path =>
          match t.write? path text with
          | some t => .ok ("", t)
          | none => .error (.unwritableOutput path)

/-- Carry out an invocation. -/
def Invocation.run (i : Invocation) (t : FileTree) : Except RunError (String × FileTree) := do
  let settings ← i.settings t
  let catalog ← catalogOf t settings.schemaPaths
  i.command.run t catalog

/-- The name and version of the program. -/
def versionLine : String := "serbind 0.1.0\n"

/-- Run the program on its arguments. -/
def run (arguments : List String) (t : FileTree) : Outcome :=
  match parse arguments with
  | .error .version => { code := 0, output := versionLine, files := t }
  | .error .help => { code := 0, files := t }
  | .error .misuse => { code := 2, files := t }
  | .ok invocation =>
    match invocation.run t with
    | .ok (output, files) => { code := 0, output, files }
    | .error e => { code := 1, errors := e.chain, files := t }

end Fieldwise.CommandLine
