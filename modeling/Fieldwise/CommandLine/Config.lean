import Fieldwise.FileTree
import Fieldwise.SchemaDocument.Yaml

/-!
# Configuration files

A configuration file lists paths of schema documents, which are seen from its own directory, and may
set a level of logging. Both settings may be left out.
-/

namespace Fieldwise.CommandLine

/-- The settings of a configuration file. -/
structure Config where
  schemaPaths : List String := []
  logLevel : Option String := none
  deriving DecidableEq, Repr

/-- The settings that a node holds. -/
private def Config.read {ν : Type} (r : NodeReading ν) (node : ν) : Reading Config := do
  let members ← r.members ["schema_paths", "log_level"] true node
  return {
    schemaPaths := ← r.defaulted [] (r.listOf r.text) members "schema_paths"
    logLevel := ← r.optional r.text members "log_level" }

/-- The settings in the text of a configuration file. -/
def Config.ofText? (text : String) : Option Config := Yaml.Node.readText? Config.read text

/-- The settings with their paths seen from the directory of the file at a given path. -/
def Config.relativeTo (c : Config) (path : String) : Config :=
  { c with schemaPaths := c.schemaPaths.map (FileTree.join (FileTree.parentOf path)) }

end Fieldwise.CommandLine
