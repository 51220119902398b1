import Mathlib
import Fieldwise.Proofs.Listing

/-!
# Catalogs from paths

Loading goes through the paths in order, and at each path through its documents in order, and
registers what they declare. It ends at the first path that leads nowhere or document that cannot be
read or resolved; otherwise the catalog is that of all declared schemas, one after the other: each
name stands where it occurs first and has the schema that it is given last.
-/

namespace Fieldwise

open Outcome

namespace Catalog

/-- The schema at the end is registered after the others. -/
theorem registerAll_concat (c : Catalog) (schemas : List Schema) (s : Schema) :
    c.registerAll (schemas ++ [s]) = (c.registerAll schemas).register s := by
  rw [registerAll, List.foldl_append]
  rfl

/-- Of several schemas of a name the one that is registered last is found. -/
theorem find?_registerAll (schemas : List Schema) (name : String) :
    (empty.registerAll schemas).find? name = lastOf Schema.name schemas name := by
  induction schemas using List.reverseRecOn with
  | nil => rfl
  | append_singleton rest s ih => rw [registerAll_concat, find?_register, ih, lastOf_concat]

/-- The names of registered schemas stand in the order in which they occur first. -/
theorem names_registerAll (schemas : List Schema) :
    (empty.registerAll schemas).names = (schemas.map Schema.name).eraseDups := by
  -- from the end of the list, since registering appends a name that is new
  induction schemas using List.reverseRecOn with
  | nil => rfl
  | append_singleton rest s ih =>
    rw [registerAll_concat, names_register, ih, List.map_append, List.map_singleton,
      eraseDups_concat]
    simp only [List.mem_eraseDups]

/-- A catalog holds under each of its names the schema that is found there, and nothing else. -/
theorem schemas_eq_filterMap (c : Catalog) : c.schemas = c.names.filterMap c.find? := by
  have found : ∀ s ∈ c.schemas, (c.find? ∘ Schema.name) s = some s := fun s member ↦
    find?_key_of_mem c.distinct member
  rw [names, List.filterMap_map, List.filterMap_congr found, List.filterMap_some]

/-- Catalogs with the same schemas are the same. -/
theorem eq_of_schemas_eq {c c' : Catalog} (same : c.schemas = c'.schemas) : c = c' := by
  cases c
  cases c'
  cases same
  rfl

end Catalog

namespace FileTree

variable {t u : FileTree} {cs : Combinators} {path : String}

/-- The schemas that the documents of a path declare. -/
def schemasAt (cs : Combinators) (t : FileTree) (path : String) :
    Except SchemaError (List Schema) := do
  let files ← t.documents path
  let groups ← files.mapM (·.schemas cs)
  .ok groups.flatten

/-- The documents that a path contributes declare these schemas, one document after the other. -/
def DeclaresAt (cs : Combinators) (t : FileTree) (path : String) (schemas : List Schema) : Prop :=
  ∃ files groups, t.Contributes path files ∧
    List.Forall₂ (fun file group ↦ DocumentFile.schemas cs file = .ok group) files groups ∧
    schemas = groups.flatten

/-- The paths declare these schemas, one path after the other. -/
def Declares (cs : Combinators) (t : FileTree) (paths : List String) (schemas : List Schema) :
    Prop :=
  ∃ groups, List.Forall₂ (t.DeclaresAt cs) paths groups ∧ schemas = groups.flatten

/-- Why a path is turned down: it leads nowhere, or a document of it cannot be read or resolved,
after others that can. -/
inductive OffendsAt (cs : Combinators) (t : FileTree) (path : String) : SchemaError → Prop
  | missing (nowhere : t.resolve? path = none) : t.OffendsAt cs path (.missingPath path)
  | document {files : List DocumentFile} {e : SchemaError} (contributes : t.Contributes path files)
      (first : FirstAt (fun file ↦ ∃ group, DocumentFile.schemas cs file = .ok group)
        (fun file ↦ file.schemas cs = .error e) files) :
      t.OffendsAt cs path e

/-- A path has the schemas that its documents declare. -/
theorem schemasAt_eq_ok_iff {schemas : List Schema} :
    t.schemasAt cs path = .ok schemas ↔ t.DeclaresAt cs path schemas := by
  simp only [schemasAt, bind_eq_ok, documents_eq_ok_iff, mapM_eq_ok, Except.ok.injEq, DeclaresAt]
  constructor
  · rintro ⟨files, contributes, groups, declared, rfl⟩
    exact ⟨files, groups, contributes, declared, rfl⟩
  · rintro ⟨files, groups, contributes, declared, rfl⟩
    exact ⟨files, contributes, groups, declared, rfl⟩

/-- A path fails for the reason for which it is turned down. -/
theorem schemasAt_eq_error_iff {e : SchemaError} :
    t.schemasAt cs path = .error e ↔ t.OffendsAt cs path e := by
  simp only [schemasAt, bind_eq_error, documents_eq_ok_iff, documents_eq_error_iff,
    mapM_eq_error_iff, reduceCtorEq, and_false, exists_false, or_false]
  constructor
  · rintro (⟨nowhere, rfl⟩ | ⟨files, contributes, first⟩)
    · exact .missing nowhere
    · exact .document contributes first
  · intro h
    cases h with
    | missing nowhere => exact .inl ⟨nowhere, rfl⟩
    | document contributes first => exact .inr ⟨_, contributes, first⟩

/-- A tree that lists its entries in another order has the same schemas at a path. -/
theorem Relisted.schemasAt_eq (h : t.Relisted u) (path : String) :
    t.schemasAt cs path = u.schemasAt cs path := by
  have same : t.documents path = u.documents path := by
    cases documented : t.documents path with
    | ok files =>
      rw [documents_eq_ok_iff, h.contributes_iff, ← documents_eq_ok_iff] at documented
      exact documented.symm
    | error e =>
      rw [documents_eq_error_iff, h.resolve?_eq, ← documents_eq_error_iff] at documented
      exact documented.symm
  rw [schemasAt, schemasAt, same]

end FileTree

namespace Catalog

variable {cs : Combinators} {t u : FileTree} {paths : List String}

/-- A path adds its schemas to a catalog. -/
theorem addPath_eq (c : Catalog) (path : String) :
    addPath cs t c path = (do
      let schemas ← t.schemasAt cs path
      .ok (c.registerAll schemas)) := by
  have run (files : List DocumentFile) : files.foldlM (addDocument cs) c =
      (files.mapM (DocumentFile.schemas cs)).map (·.foldl registerAll c) :=
    foldlM_eq_map_mapM files c
  rw [addPath, FileTree.schemasAt]
  cases t.documents path with
  | error e => rfl
  | ok files =>
    simp only [bind, Except.bind, run]
    cases files.mapM (DocumentFile.schemas cs) with
    | error e => rfl
    | ok groups =>
      simp only [Except.map, registerAll, List.foldl_flatten]
      rfl

/-- Loading registers the schemas of all paths in a catalog that starts empty. -/
theorem load_eq : load cs t paths =
    (paths.mapM (t.schemasAt cs)).map fun groups ↦ empty.registerAll groups.flatten := by
  have step : addPath cs t = fun c path ↦ (do
      let schemas ← t.schemasAt cs path
      .ok (c.registerAll schemas)) := by
    funext c path
    exact addPath_eq c path
  rw [load, step, foldlM_eq_map_mapM]
  simp only [registerAll, List.foldl_flatten]
  rfl

/-- Loading gives the catalog of what the paths declare. -/
theorem load_eq_ok_iff {c : Catalog} :
    load cs t paths = .ok c ↔
      ∃ schemas, t.Declares cs paths schemas ∧ c = empty.registerAll schemas := by
  rw [load_eq, map_eq_ok]
  simp only [mapM_eq_ok, FileTree.schemasAt_eq_ok_iff, FileTree.Declares]
  constructor
  · rintro ⟨groups, declared, rfl⟩
    exact ⟨groups.flatten, ⟨groups, declared, rfl⟩, rfl⟩
  · rintro ⟨_, ⟨groups, declared, rfl⟩, rfl⟩
    exact ⟨groups, declared, rfl⟩

/-- Loading fails at the first path that is turned down. -/
theorem load_eq_error_iff {e : SchemaError} :
    load cs t paths = .error e ↔
      FirstAt (fun path ↦ ∃ schemas, t.DeclaresAt cs path schemas)
        (fun path ↦ t.OffendsAt cs path e) paths := by
  rw [load_eq, map_eq_error, mapM_eq_error_iff]
  simp only [FileTree.schemasAt_eq_ok_iff, FileTree.schemasAt_eq_error_iff]

/-- A catalog of registered schemas is known by its names and by the schema of each name. -/
theorem eq_registerAll_iff {c : Catalog} {schemas : List Schema} :
    c = empty.registerAll schemas ↔
      c.names = (schemas.map Schema.name).eraseDups ∧
        ∀ name, c.find? name = lastOf Schema.name schemas name := by
  constructor
  · rintro rfl
    exact ⟨names_registerAll schemas, find?_registerAll schemas⟩
  · rintro ⟨named, found⟩
    apply eq_of_schemas_eq
    rw [schemas_eq_filterMap, schemas_eq_filterMap (empty.registerAll schemas), named,
      names_registerAll, funext found, funext (find?_registerAll schemas)]

/-- Loading does not depend on the order in which a tree lists its entries. It succeeds exactly with
the catalog of all schemas that the paths declare, path after path and document after document: each
name stands where it is declared first, and has the schema that is declared for it last. It fails
exactly with the error of the first path or document that is turned down. -/
theorem load_keeps_last_declared (cs : Combinators) (t : FileTree) (paths : List String) :
    (∀ u, t.Relisted u → load cs u paths = load cs t paths) ∧
    (∀ c, load cs t paths = .ok c ↔
      ∃ schemas, t.Declares cs paths schemas ∧
        c.names = (schemas.map Schema.name).eraseDups ∧
        (∀ name, c.find? name = lastOf Schema.name schemas name) ∧
        c.schemas = c.names.filterMap (lastOf Schema.name schemas)) ∧
    (∀ e, load cs t paths = .error e ↔
      FirstAt (fun path ↦ ∃ schemas, t.DeclaresAt cs path schemas)
        (fun path ↦ t.OffendsAt cs path e) paths) := by
  refine ⟨?_, ?_, fun e ↦ load_eq_error_iff⟩
  · intro u relisted
    have same : t.schemasAt cs = u.schemasAt cs := funext relisted.schemasAt_eq
    rw [load_eq, load_eq, same]
  · intro c
    simp only [load_eq_ok_iff, eq_registerAll_iff]
    constructor
    · rintro ⟨schemas, declared, named, found⟩
      exact ⟨schemas, declared, named, found, funext found ▸ schemas_eq_filterMap c⟩
    · rintro ⟨schemas, declared, named, found, -⟩
      exact ⟨schemas, declared, named, found⟩

end Catalog

namespace Office

/-- A desk and a lamp. -/
def furniture : String :=
  "\x7b\"schemas\": [\x7b\"name\": \"Desk\"\x7d, \x7b\"name\": \"Lamp\"\x7d]\x7d"

/-- Another desk. -/
def replacement : String :=
  "\x7b\"schemas\": [\x7b\"name\": \"Desk\", \"serialized_from\": \"Lamp\"\x7d]\x7d"

/-- A directory that lists its documents against the order of their names, and a file between them
that is none. -/
def tree : FileTree where
  entries := [(["b.json"], .file (some replacement)), (["plan.png"], .file none),
    (["a.json"], .file (some furniture))]
  distinct := by decide

/-- The same directory, listed by name. -/
def treeByName : FileTree where
  entries := [(["a.json"], .file (some furniture)), (["b.json"], .file (some replacement)),
    (["plan.png"], .file none)]
  distinct := by decide

/-- However the office is listed, the desk stands first and is the one that is declared last. -/
theorem load_keeps_last_declared_office :
    tree.Relisted treeByName ∧
      Catalog.load .builtin treeByName ["."] = Catalog.load .builtin tree ["."] ∧
      (Catalog.load .builtin tree ["."]).map (·.schemas.map fun s ↦ (s.name, s.serializedFrom)) =
        .ok [("Desk", some "Lamp"), ("Lamp", none)] := by
  have relisted : tree.Relisted treeByName := by
    rw [FileTree.Relisted]
    decide
  obtain ⟨same, -⟩ := Catalog.load_keeps_last_declared .builtin tree ["."]
  refine ⟨relisted, same treeByName relisted, ?_⟩
  cbv

end Office

end Fieldwise
