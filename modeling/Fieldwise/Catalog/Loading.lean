import Fieldwise.Catalog
import Fieldwise.FileTree
import Fieldwise.SchemaDocument.Loading

/-!
# Loading catalogs

A catalog is loaded from paths of schema documents. A directory contributes its documents in
ascending order of their names, whatever the order of its listing; a file that is named outright is
read whatever its name. The first path or document at fault ends the loading.
-/

namespace Fieldwise

/-- The form of a document by its file name, if the name marks it as one. -/
def DocumentFormat.ofName? (name : String) : Option DocumentFormat :=
  match FileTree.extension? name with
  | some "yaml" | some "yml" => some .yaml
  | some "json" => some .json
  | _ => none

/-- A file that is read as a document of schemas: its form, and its text if it can be read. -/
structure DocumentFile where
  format : DocumentFormat
  text? : Option String

/-- The schemas that the document in a file declares. -/
def DocumentFile.schemas (cs : Combinators) (file : DocumentFile) :
    Except SchemaError (List Schema) :=
  match file.text? with
  | none => .error .unreadable
  | some text => loadSchemas cs file.format text

namespace FileTree

/-- The documents inside a directory that is reached by a path, names ascending. Files that are out
of reach, because their own paths are too long, are passed over. -/
def documentsIn (t : FileTree) (path : String) (location : List String) : Table DocumentFile :=
  ((t.filesIn location).filter fun file ↦ fits (join path file.1)).filterMap fun file ↦
    (DocumentFormat.ofName? file.1).map fun format ↦ (file.1, ⟨format, file.2⟩)

/-- The documents that a path contributes. -/
def documents (t : FileTree) (path : String) : Except SchemaError (List DocumentFile) :=
  match t.resolve? path with
  | none => .error (.missingPath path)
  | some location =>
    if t.isDirectoryAt location then .ok ((t.documentsIn path location).map Prod.snd)
    else
      let format := (DocumentFormat.ofName? (nameOf path)).getD .json
      .ok [⟨format, (t.fileAt? location).join⟩]

end FileTree

namespace Catalog

/-- The catalog after the schemas of a document have been registered. -/
def addDocument (cs : Combinators) (c : Catalog) (file : DocumentFile) :
    Except SchemaError Catalog := do
  let schemas ← file.schemas cs
  .ok (c.registerAll schemas)

/-- The catalog after the documents of a path have been registered. -/
def addPath (cs : Combinators) (t : FileTree) (c : Catalog) (path : String) :
    Except SchemaError Catalog := do
  let documents ← t.documents path
  documents.foldlM (addDocument cs) c

/-- The catalog of all documents on the paths. -/
def load (cs : Combinators) (t : FileTree) (paths : List String) : Except SchemaError Catalog :=
  paths.foldlM (addPath cs t) .empty

end Catalog

end Fieldwise
