import Mathlib
import Fieldwise.Catalog.Loading
import Fieldwise.Proofs.Filling
import Fieldwise.Proofs.Wiring

/-!
# Writers that were loaded

A document gives bodies to its methods by name, and a method of the shape of a writer is not to
be given code that leaves its receiver alone. The screening of bodies sees code in plain writers
only. What it lets through are getters and formats, and code that computes a field and is found
again as the writer of that field. No other bound writer of a loaded catalog fails to write.
-/

namespace Fieldwise

open Outcome

/-- A method of the shape of a writer that leaves its receiver alone, and that a document may
declare. -/
inductive Method.Escapes (m : Method) : Prop
  | getter {param : Ty} {field : String} (shape : m.IsWriterOf param)
      (reads : m.body = .getter field)
  | format {param : Ty} {template : String} (shape : m.IsWriterOf param)
      (renders : m.body = .format template)
  | computing {param : Ty} {run : Record → List Value → Except String Value}
      {synthesis : Synthesis} (shape : m.IsWriterOf param) (computes : m.body = .native run)
      (field : m.synthesis = some synthesis)

/-- A method whose code, if it is code, is not that of a plain writer. -/
def Method.Screened (m : Method) : Prop :=
  ∀ param run, m.IsWriterOf param → m.body = .native run → m.synthesis.isSome

/-- A screened method of the shape of a writer writes or escapes. -/
theorem Method.Screened.writes_or_escapes {m : Method} {param : Ty} (h : m.Screened)
    (shape : m.IsWriterOf param) : m.body.writes = true ∨ m.Escapes := by
  cases body : m.body with
  | setter field => exact .inl rfl
  | mutator run => exact .inl rfl
  | getter field => exact .inr (.getter shape body)
  | format template => exact .inr (.format shape body)
  | native run =>
    obtain ⟨synthesis, computes⟩ := Option.isSome_iff_exists.mp (h param run shape body)
    exact .inr (.computing shape body computes)

/-- A document gives code only to methods that are not plain writers. -/
theorem MethodDeclaration.isPlainWriter_of_body {m : MethodDeclaration} {cs : Combinators}
    {schema : String} {run : Record → List Value → Except String Value}
    (h : m.body cs schema = .ok (.native run)) : m.isPlainWriter = false := by
  obtain ⟨native, -, h⟩ := bind_eq_ok.mp h
  dsimp only at h
  split at h
  · split at h <;> cases h
  · split at h
    · cases h
    · next plain => simpa using plain
  · next body _ apart _ =>
    cases h
    exact absurd rfl (apart run)
  · cases h

/-- A declared method is screened. -/
theorem MethodDeclaration.screened_of_toMethod {m : MethodDeclaration} {cs : Combinators}
    {schema : String} {method : Method} (h : m.toMethod cs schema = .ok method) :
    method.Screened := by
  obtain ⟨body, given, h⟩ := bind_eq_ok.mp h
  cases h
  rintro param run ⟨named, params⟩ rfl
  have plain := isPlainWriter_of_body given
  simp only at named params
  simpa [isPlainWriter, named, params] using plain

/-- Every method of a declared schema is screened. -/
theorem SchemaDeclaration.screened_of_toSchema {d : SchemaDeclaration} {cs : Combinators}
    {s : Schema} (h : d.toSchema cs = .ok s) : ∀ w ∈ s.methods, w.Screened := by
  obtain ⟨methods, given, h⟩ := bind_eq_ok.mp h
  cases h
  intro w member
  rcases List.mem_append.mp member with member | member
  · obtain ⟨p, -, rfl⟩ := List.mem_map.mp member
    intro param run shape body
    cases body
  · obtain ⟨m, -, resolved⟩ := exists_mem_of_forall₂ (mapM_eq_ok.mp given) member
    exact m.screened_of_toMethod resolved

/-- A file gives the schemas of its text, if it has one. -/
theorem DocumentFile.schemas_eq_ok_iff {file : DocumentFile} {cs : Combinators}
    {schemas : List Schema} :
    file.schemas cs = .ok schemas ↔
      ∃ text, file.text? = some text ∧ loadSchemas cs file.format text = .ok schemas := by
  rw [DocumentFile.schemas]
  cases file.text? <;> simp

namespace Catalog

/-- A catalog of schemas from documents that were accepted. -/
inductive LoadedFrom (cs : Combinators) : Catalog → Prop
  | empty : LoadedFrom cs .empty
  | register {c : Catalog} {d : SchemaDocument} {schemas : List Schema} {s : Schema}
      (earlier : LoadedFrom cs c) (accepted : d.toSchemas cs = .ok schemas)
      (member : s ∈ schemas) : LoadedFrom cs (c.register s)

variable {cs : Combinators} {c : Catalog}

/-- The schemas of an accepted document may be registered together. -/
theorem LoadedFrom.registerAll (h : c.LoadedFrom cs) {d : SchemaDocument} {schemas : List Schema}
    (accepted : d.toSchemas cs = .ok schemas) {part : List Schema} (sub : part ⊆ schemas) :
    (c.registerAll part).LoadedFrom cs := by
  induction part generalizing c with
  | nil => exact h
  | cons s rest ih =>
    obtain ⟨member, sub⟩ := List.cons_subset.mp sub
    exact ih (h.register accepted member) sub

/-- What is loaded from paths is a catalog of schemas from accepted documents. -/
theorem loadedFrom_of_load {t : FileTree} {paths : List String} (h : load cs t paths = .ok c) :
    c.LoadedFrom cs := by
  apply foldlM_keeps (P := LoadedFrom cs) _ .empty h
  intro path _ before after loaded run
  obtain ⟨documents, -, run⟩ := bind_eq_ok.mp run
  apply foldlM_keeps (P := LoadedFrom cs) _ loaded run
  intro document _ before after loaded run
  obtain ⟨schemas, accepted, run⟩ := bind_eq_ok.mp run
  obtain ⟨text, -, accepted⟩ := DocumentFile.schemas_eq_ok_iff.mp accepted
  obtain ⟨d, -, accepted⟩ := bind_eq_ok.mp accepted
  cases run
  exact loaded.registerAll accepted (List.Subset.refl schemas)

/-- Every method of a loaded catalog is screened. -/
theorem LoadedFrom.screened (h : c.LoadedFrom cs) {name : String} {s : Schema}
    (found : c.find? name = some s) : ∀ w ∈ s.methods, w.Screened := by
  induction h with
  | empty => cases found
  | @register c d schemas s' _ accepted member ih =>
    rw [find?_register] at found
    split at found
    · cases found
      obtain ⟨declaration, -, resolved⟩ := exists_mem_of_forall₂ (mapM_eq_ok.mp accepted) member
      exact declaration.screened_of_toSchema resolved
    · exact ih found

end Catalog

namespace Mapping

variable {cs : Combinators} {c : Catalog} {m n : Mapping} {key : String} {b : Binding} {w : Method}

private theorem writer_of_contains (compiled : c.Compiled m) (contained : m.Contains n)
    (member : (key, b) ∈ n.bindings) (bound : b.writer? = some w) :
    w ∈ n.target.methods ∧ ∃ param, w.IsWriterOf param :=
  ((compiled.contained contained).wired_of_mem member).writer bound

private theorem writes_or_escapes_of_contains (loaded : c.LoadedFrom cs) (compiled : c.Compiled m)
    (contained : m.Contains n) (member : (key, b) ∈ n.bindings) (bound : b.writer? = some w) :
    w.body.writes = true ∨ w.Escapes := by
  obtain ⟨declared, param, shape⟩ := writer_of_contains compiled contained member bound
  have screened : w.Screened :=
    loaded.screened (compiled.contained contained).registered.1 w declared
  exact screened.writes_or_escapes shape

private theorem exists_escape_of_error (loaded : c.LoadedFrom cs) (compiled : c.Compiled m)
    {value : Value} {filter : FieldFilter} {fault : Fault} {accessor : String}
    (h : m.toInstance c value filter = .error fault)
    (cause : fault.cause? = some (.notAWriter accessor)) :
    ∃ n, m.Contains n ∧ ∃ key b w, (key, b) ∈ n.bindings ∧ b.writer? = some w ∧
      w.name = accessor ∧ w.Escapes := by
  rcases precedes_or_stopsAt h with precedes | ⟨source, -, -, n, key, b, stops⟩
  · cases precedes.isOfChange cause
  · cases stops with
    | intro runs comes made refused =>
      obtain ⟨w, bound, named, reads⟩ := exists_writer_of_assignField refused cause
      refine ⟨n, runs.contains, key, b, w, comes.mem, bound, named, ?_⟩
      rcases writes_or_escapes_of_contains loaded compiled runs.contains comes.mem bound with
        writes | escapes
      · rw [reads] at writes
        cases writes
      · exact escapes

/-- In a compiled mapping of a loaded catalog, at every depth, a bound writer that does not write
escapes the screening, and an instance fails for want of a writer only at such a one. If no method
of the targets escapes, every bound writer writes and no instance fails for want of one. -/
theorem writes_or_escapes_of_loaded (loaded : c.LoadedFrom cs) {target : String}
    {defaults : FieldFilter} (compiled : c.compile target defaults = .ok m) :
    (∀ n, m.Contains n → ∀ key b, (key, b) ∈ n.bindings → ∀ w, b.writer? = some w →
        w.body.writes = true ∨ w.Escapes) ∧
      (∀ value filter fault accessor, m.toInstance c value filter = .error fault →
        fault.cause? = some (.notAWriter accessor) →
          ∃ n, m.Contains n ∧ ∃ key b w, (key, b) ∈ n.bindings ∧ b.writer? = some w ∧
            w.name = accessor ∧ w.Escapes) ∧
      ((∀ n, m.Contains n → ∀ w ∈ n.target.methods, ¬ w.Escapes) →
        (∀ n, m.Contains n → ∀ key b, (key, b) ∈ n.bindings → ∀ w, b.writer? = some w →
          w.body.writes = true) ∧
        ∀ value filter fault accessor, m.toInstance c value filter = .error fault →
          fault.cause? ≠ some (.notAWriter accessor)) := by
  have compiled : c.Compiled m := (Catalog.compiled_of_compile compiled).1
  refine ⟨?_, ?_, fun screened ↦ ⟨?_, ?_⟩⟩
  · intro n contained key b member w bound
    exact writes_or_escapes_of_contains loaded compiled contained member bound
  · intro value filter fault accessor failed cause
    exact exists_escape_of_error loaded compiled failed cause
  · intro n contained key b member w bound
    have declared := (writer_of_contains compiled contained member bound).1
    exact (writes_or_escapes_of_contains loaded compiled contained member bound).resolve_right
      (screened n contained w declared)
  · intro value filter fault accessor failed cause
    obtain ⟨n, contained, key, b, w, member, bound, -, escapes⟩ :=
      exists_escape_of_error loaded compiled failed cause
    have declared := (writer_of_contains compiled contained member bound).1
    exact screened n contained w declared escapes

end Mapping

namespace Shop

/-- A person has a name and an age. -/
def person : SchemaDeclaration where
  name := "Person"
  properties := [("name", .string), ("age", .integer)]

/-- A tag takes the name of a person by a setter. -/
def tag : SchemaDeclaration where
  name := "Tag"
  serializedFrom := some "Person"
  fields := [{ name := "name", type := .string }]
  methods := [{ name := "setName", params := [.string], setter := some "name" }]

/-- A stamp is given the name of a person, but only renders it. -/
def stamp : SchemaDeclaration where
  name := "Stamp"
  serializedFrom := some "Person"
  fields := [{ name := "name", type := .string }]
  methods := [{
    name := "setName", params := [.string], returns := some .string, format := some "\x7b0\x7d" }]

/-- A tally computes its total from the age of a person, by code that is also found as the writer
of the total. -/
def tally : SchemaDeclaration where
  name := "Tally"
  serializedFrom := some "Person"
  fields := [{ name := "total", type := .integer }]
  methods := [{
    name := "setTotal", params := [.integer], returns := some .integer, native := some "add"
    synthesis := some ⟨"total", ["age"]⟩ }]

/-- Persons, and what is shown of them. -/
def document : SchemaDocument := ⟨[person, tag, stamp, tally]⟩

/-- Sets the name of a tag. -/
def setName : Method :=
  { name := "setName", params := [.string], returns := none, body := .setter "name" }

/-- Renders a name and sets nothing. -/
def renderName : Method :=
  { name := "setName", params := [.string], returns := some .string, body := .format "\x7b0\x7d" }

/-- Computes a total and sets nothing. -/
def addTotal : Method where
  name := "setTotal"
  params := [.integer]
  returns := some .integer
  body := .native fun _ args ↦ Combinator.Arithmetic.sum.combinator args
  synthesis := some ⟨"total", ["age"]⟩

/-- The schema of a target that is mapped from persons and has one field and one method. -/
def shown (name : String) (field : String) (type : Ty) (method : Method) : Schema where
  name := name
  serializedFrom := some "Person"
  fields := [{ name := field, type := type }]
  methods := [method]

/-- The schema of persons. -/
def personSchema : Schema :=
  (({ name := "Person" } : Schema).addProperty "name" .string).addProperty "age" .integer

/-- The schemas of the document. -/
def schemas : List Schema :=
  [personSchema, shown "Tag" "name" .string setName, shown "Stamp" "name" .string renderName,
    shown "Tally" "total" .integer addTotal]

/-- The catalog of the document. -/
def catalog : Catalog := Catalog.empty.registerAll schemas

/-- What tags are compiled to. -/
def toTag : Mapping :=
  .mk (shown "Tag" "name" .string setName) "Person" .all
    [("name", .direct "name" (.readerOf "name" .string) (some setName))]

/-- What stamps are compiled to. -/
def toStamp : Mapping :=
  .mk (shown "Stamp" "name" .string renderName) "Person" .all
    [("name", .direct "name" (.readerOf "name" .string) (some renderName))]

/-- What tallies are compiled to. -/
def toTally : Mapping :=
  .mk (shown "Tally" "total" .integer addTotal) "Person" .all
    [("total", .synthetic "total" addTotal [.readerOf "age" .integer] (some addTotal))]

/-- A person. -/
def lin : Record := ⟨"Person", [("name", .string "Lin"), ("age", .integer 30)]⟩

private theorem loaded : catalog.LoadedFrom .builtin := by
  have accepted : document.toSchemas .builtin = .ok schemas := rfl
  exact Catalog.LoadedFrom.empty.registerAll accepted (List.Subset.refl schemas)

end Shop

namespace Mapping

/-- The writer of a tag writes, and a tally fails at a writer that escapes. -/
theorem writes_or_escapes_of_loaded_tally :
    Shop.catalog.LoadedFrom .builtin ∧ Shop.catalog.compile "Tag" .all = .ok Shop.toTag ∧
      (∀ n, Shop.toTag.Contains n → ∀ w ∈ n.target.methods, ¬ w.Escapes) ∧
      (∀ n, Shop.toTag.Contains n → ∀ key b, (key, b) ∈ n.bindings → ∀ w, b.writer? = some w →
        w.body.writes = true) ∧
      Shop.catalog.compile "Tally" .all = .ok Shop.toTally ∧
      Shop.toTally.toInstance Shop.catalog Shop.lin.toValue .all =
        .error (.assignment "setTotal" "Tally" (.notAWriter "setTotal")) ∧
      ∃ n, Shop.toTally.Contains n ∧ ∃ key b w, (key, b) ∈ n.bindings ∧ b.writer? = some w ∧
        w.name = "setTotal" ∧ w.Escapes := by
  have tags : Shop.catalog.compile "Tag" .all = .ok Shop.toTag := by
    cbv
  have tallies : Shop.catalog.compile "Tally" .all = .ok Shop.toTally := by
    cbv
  have failed : Shop.toTally.toInstance Shop.catalog Shop.lin.toValue .all =
      .error (.assignment "setTotal" "Tally" (.notAWriter "setTotal")) := by
    cbv
  have screened : ∀ n, Shop.toTag.Contains n → ∀ w ∈ n.target.methods, ¬ w.Escapes := by
    intro n contained w member
    rcases contains_iff.mp contained with rfl | ⟨key, field, reader, writer, k, nested, -⟩
    · obtain rfl := List.mem_singleton.mp member
      rintro (⟨-, reads⟩ | ⟨-, renders⟩ | ⟨-, computes, -⟩)
      · cases reads
      · cases renders
      · cases computes
    · simp [Shop.toTag, bindings] at nested
  obtain ⟨-, -, writes⟩ := writes_or_escapes_of_loaded Shop.loaded tags
  obtain ⟨-, fails, -⟩ := writes_or_escapes_of_loaded Shop.loaded tallies
  exact ⟨Shop.loaded, tags, screened, (writes screened).1, tallies, failed,
    fails Shop.lin.toValue .all _ "setTotal" failed rfl⟩

/-- Loading lets writers through that do not write: the document of stamps is accepted and stamps
compile, with a writer that only renders, and for want of a writer no stamp is made. -/
theorem not_writes_of_loaded_stamp :
    Shop.document.toSchemas .builtin = .ok Shop.schemas ∧
      Shop.catalog.LoadedFrom .builtin ∧ Shop.catalog.compile "Stamp" .all = .ok Shop.toStamp ∧
      ("name", .direct "name" (.readerOf "name" .string) (some Shop.renderName)) ∈
        Shop.toStamp.bindings ∧
      Shop.renderName.body.writes = false ∧
      Shop.toStamp.toInstance Shop.catalog Shop.lin.toValue .all =
        .error (.assignment "setName" "Stamp" (.notAWriter "setName")) := by
  have stamps : Shop.catalog.compile "Stamp" .all = .ok Shop.toStamp := by
    cbv
  have failed : Shop.toStamp.toInstance Shop.catalog Shop.lin.toValue .all =
      .error (.assignment "setName" "Stamp" (.notAWriter "setName")) := by
    cbv
  exact ⟨rfl, Shop.loaded, stamps, List.mem_cons_self, rfl, failed⟩

end Mapping

end Fieldwise
