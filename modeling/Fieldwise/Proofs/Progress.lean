import Fieldwise.Proofs.Filling
import Fieldwise.Proofs.Readiness

/-!
# What can still fail

A compiled mapping whose sources are made of properties, carried out on a record that was read, is
ready at every depth. What can still fail is building a target, a nested mapping whose reader is
declared to return something else, a computing method on its own account, and assigning into an
instance. Tables and instances are made level by level in the same way, so that the causes are
collected once for both.
-/

namespace Fieldwise

open Outcome

namespace Mapping

variable {c : Catalog}

/-- What can still fail at one level, except for assignments: building the target, a nested mapping
whose reader is declared to return something other than a record of its source, and a computing
method that accepts its arguments. -/
inductive Residual (c : Catalog) (m : Mapping) (source : Record) : Fault → Prop
  | construction {cause : AccessError} (refused : c.construct m.target.name = .error cause) :
      m.Residual c source (.construction m.target.name cause)
  | mismatch {key field : String} {reader : Method} {writer : Option Method} {n : Mapping}
      {type : Ty} {value : Value}
      (member : (key, .chained field reader writer n) ∈ m.bindings)
      (returns : reader.returns = some type)
      (other : type ≠ .record n.source)
      (read : reader.call source [] = .ok value)
      (refused : sourceRecord? n.target n.source value =
        .error (.sourceMismatch n.target.name n.source value.kind)) :
      m.Residual c source (.sourceMismatch n.target.name n.source value.kind)
  | computation {key field : String} {combinator : Method} {readers : List Method}
      {writer : Option Method} {args : List Value} {receiver : Record} {cause : AccessError}
      (member : (key, .synthetic field combinator readers writer) ∈ m.bindings)
      (values : List.Forall₂ (fun reader arg ↦ reader.call source [] = .ok arg) readers args)
      (accepted : combinator.checkArgs args = .ok ())
      (refused : combinator.call receiver args = .error cause)
      (own : cause.rejectsArguments = false) :
      m.Residual c source (.invocation combinator.name m.target.name cause)

/-- A fault of assigning a value of some binding into an instance. -/
def RefusesAssignment (c : Catalog) (m : Mapping) (fault : Fault) : Prop :=
  ∃ key b, (key, b) ∈ m.bindings ∧ ∃ before value,
    assignField c m.target before key b.writer? value = .error fault

section Running

variable {α : Type} (run : Mapping → Value → Except Fault α) (wrap : α → Value)

/-- What a binding makes, given how a nested mapping is carried out and how its result is held. -/
def valueWith (target : Schema) (source receiver : Record) : Binding → Except Fault Value
  | .direct _ reader _ => readSource source reader
  | .chained _ reader _ n => do
    let value ← readSource source reader
    let made ← run n value
    .ok (wrap made)
  | .synthetic _ combinator readers _ => combine target source receiver combinator readers

/-- Why a binding does not make its value: a reader refuses, or a computing method does, or the
nested mapping fails on what was read. -/
inductive Unmade (target : Schema) (source receiver : Record) : Binding → Fault → Prop
  | reader {b : Binding} {reader : Method} {cause : AccessError} (reads : reader ∈ b.readers)
      (refused : reader.call source [] = .error cause) :
      Unmade target source receiver b (.invocation reader.name source.schema cause)
  | computation {field : String} {combinator : Method} {readers : List Method}
      {writer : Option Method} {args : List Value} {cause : AccessError}
      (values : List.Forall₂ (fun reader arg ↦ reader.call source [] = .ok arg) readers args)
      (refused : combinator.call receiver args = .error cause) :
      Unmade target source receiver (.synthetic field combinator readers writer)
        (.invocation combinator.name target.name cause)
  | nested {field : String} {reader : Method} {writer : Option Method} {n : Mapping}
      {value : Value} {fault : Fault}
      (read : reader.call source [] = .ok value) (failed : run n value = .error fault) :
      Unmade target source receiver (.chained field reader writer n) fault

variable {run wrap}

/-- A binding that does not make its value fails in one of these ways. -/
theorem unmade_of_valueWith {target : Schema} {source receiver : Record} {b : Binding}
    {fault : Fault} (h : valueWith run wrap target source receiver b = .error fault) :
    Unmade run target source receiver b fault := by
  cases b with
  | direct field reader writer =>
    obtain ⟨cause, refused, rfl⟩ := mapError_eq_error.mp h
    exact .reader List.mem_cons_self refused
  | chained field reader writer n =>
    rcases bind_eq_error.mp h with unread | ⟨value, given, h⟩
    · obtain ⟨cause, refused, rfl⟩ := mapError_eq_error.mp unread
      exact .reader List.mem_cons_self refused
    · rcases bind_eq_error.mp h with failed | ⟨made, -, h⟩
      · exact .nested (mapError_eq_ok.mp given) failed
      · cases h
  | synthetic field combinator readers writer =>
    rw [valueWith, combine, bind_eq_error] at h
    rcases h with unread | ⟨args, values, h⟩
    · obtain ⟨reader, reads, unread⟩ := exists_error_of_mapM unread
      obtain ⟨cause, refused, rfl⟩ := mapError_eq_error.mp unread
      exact .reader reads refused
    · obtain ⟨cause, refused, rfl⟩ := mapError_eq_error.mp h
      have values : List.Forall₂ (fun reader arg ↦ reader.call source [] = .ok arg) readers args :=
        (mapM_eq_ok.mp values).imp fun _ _ read ↦ mapError_eq_ok.mp read
      exact .computation values refused

/-- When a binding of a ready mapping fails to make its value, it does so in one of the remaining
ways, or its nested mapping fails on a record of its source. -/
theorem residual_of_valueWith {m : Mapping} {source receiver : Record} (ready : m.Ready source)
    (starts : ∀ n value fault, run n value = .error fault →
      sourceRecord? n.target n.source value = .error fault ∨
        ∃ inner : Record, value = inner.toValue ∧ inner.schema = n.source)
    {key : String} {b : Binding} (member : (key, b) ∈ m.bindings) {fault : Fault}
    (h : valueWith run wrap m.target source receiver b = .error fault) :
    m.Residual c source fault ∨ ∃ field reader writer n, ∃ inner : Record,
      b = .chained field reader writer n ∧ reader.call source [] = .ok inner.toValue ∧
        inner.schema = n.source ∧ run n inner.toValue = .error fault := by
  cases unmade_of_valueWith h with
  | reader reads refused =>
    obtain ⟨type, value, -, read, -⟩ := ready.reads key b member _ reads
    cases read.symm.trans refused
  | @nested field reader writer n value fault read failed =>
    obtain ⟨type, value', returns, read', accepted⟩ :=
      ready.reads key _ member reader List.mem_cons_self
    cases read.symm.trans read'
    rcases starts n value fault failed with refused | ⟨inner, rfl, fits⟩
    · obtain ⟨present, other, rfl⟩ := sourceRecord?_eq_error_iff.mp refused
      refine .inl (.mismatch member returns ?_ read refused)
      rintro rfl
      rcases Ty.accepts_record_iff.mp accepted with rfl | ⟨record, rfl, fits⟩
      · exact present rfl
      · exact other record rfl fits
    · exact .inr ⟨field, reader, writer, n, inner, rfl, read, fits, failed⟩
  | @computation field combinator readers writer args cause values refused =>
    obtain ⟨accepted, own⟩ := ready.accepts key field combinator readers writer member args values
    exact .inl (.computation member values accepted refused (own receiver cause refused))

end Running

/-- What a binding contributes to a table is made with the tables of nested mappings. -/
theorem tableValue_eq_valueWith (target : Schema) (source receiver : Record) (b : Binding) :
    tableValue c target source receiver b =
      valueWith (fun n value ↦ toTable c n value .all) .map target source receiver b := by
  cases b <;> rfl

/-- The instance of a nested mapping as a value, absent if there is none. -/
def heldValue : Option Record → Value
  | some record => record.toValue
  | none => .null

/-- What a binding assigns is made with the instances of nested mappings. -/
theorem instanceValue_eq_valueWith (target : Schema) (source receiver : Record) (b : Binding) :
    instanceValue c target source receiver b =
      valueWith (fun n value ↦ toInstance c n value .all) heldValue target source receiver b := by
  cases b with
  | chained field reader writer n =>
    rw [instanceValue, valueWith]
    apply bind_congr
    intro value
    apply bind_congr
    intro made
    cases made <;> rfl
  | _ => rfl

/-- What begins with the source record, and makes something of an absent one, fails at the source or
has a source. -/
theorem mismatch_or_source {α : Type} {n : Mapping} {value : Value} {fault : Fault} {result : α}
    {f : Option Record → Except Fault α} (nothing : f none = .ok result)
    (h : (sourceRecord? n.target n.source value >>= f) = .error fault) :
    sourceRecord? n.target n.source value = .error fault ∨
      ∃ inner : Record, value = inner.toValue ∧ inner.schema = n.source := by
  rcases bind_eq_error.mp h with h | ⟨source?, read, h⟩
  · exact .inl h
  · cases source? with
    | none =>
      rw [nothing] at h
      cases h
    | some inner => exact .inr ⟨inner, sourceRecord?_eq_ok_some_iff.mp read⟩

/-- A target that cannot be built is a remaining failure. -/
theorem residual_of_construct {m : Mapping} {source : Record} {fault : Fault}
    (h : construct c m.target = .error fault) : m.Residual c source fault := by
  obtain ⟨cause, refused, rfl⟩ := mapError_eq_error.mp h
  exact .construction refused

/-- Making a table of a record of the source fails at the target, or at a binding. -/
theorem level_of_toTable {m : Mapping} {source : Record} {filter : FieldFilter} {fault : Fault}
    (same : source.schema = m.source) (h : toTable c m source.toValue filter = .error fault) :
    m.Residual c source fault ∨ ∃ receiver key b, (key, b) ∈ m.bindings ∧
      valueWith (toTable c · · .all) .map m.target source receiver b = .error fault := by
  rw [toTable_toValue same] at h
  rcases bind_eq_error.mp h with h | ⟨receiver, -, h⟩
  · exact .inl (residual_of_construct h)
  · rw [collectBindings_eq_gather] at h
    obtain ⟨⟨key, b⟩, member, h⟩ := exists_error_of_gather h
    rw [tableValue_eq_valueWith] at h
    exact .inr ⟨receiver, key, b, (List.mem_filter.mp member).1, h⟩

/-- Making an instance of a record of the source fails at the target, when a value is assigned, or
at a binding. -/
theorem level_of_toInstance {m : Mapping} {source : Record} {filter : FieldFilter} {fault : Fault}
    (same : source.schema = m.source) (h : toInstance c m source.toValue filter = .error fault) :
    (m.Residual c source fault ∨ m.RefusesAssignment c fault) ∨
      ∃ state key b, (key, b) ∈ m.bindings ∧
        valueWith (toInstance c · · .all) heldValue m.target source state b = .error fault := by
  rcases (toInstance_toValue_eq_error_iff same).mp h with
    unbuilt | ⟨key, b, state, comes, unmade | ⟨value, -, refused⟩⟩
  · exact .inl (.inl (residual_of_construct unbuilt))
  · rw [instanceValue_eq_valueWith] at unmade
    exact .inr ⟨state, key, b, comes.mem, unmade⟩
  · exact .inl (.inr ⟨key, b, comes.mem, state, value, refused⟩)

/-- If every mapping that is reached is ready, and a level fails on its own account or at one of its
bindings, then a run fails on account of one of the levels that it reaches. -/
theorem exists_level_of_error {α : Type} (run : Mapping → Value → FieldFilter → Except Fault α)
    (wrap : α → Value) (Own : Mapping → Record → Fault → Prop)
    (remains : ∀ n inner fault, n.Residual c inner fault → Own n inner fault)
    (starts : ∀ n value fault, run n value .all = .error fault →
      sourceRecord? n.target n.source value = .error fault ∨
        ∃ inner : Record, value = inner.toValue ∧ inner.schema = n.source)
    (level : ∀ n (inner : Record) filter fault, inner.schema = n.source →
      run n inner.toValue filter = .error fault →
        Own n inner fault ∨ ∃ receiver key b, (key, b) ∈ n.bindings ∧
          valueWith (run · · .all) wrap n.target inner receiver b = .error fault)
    {m : Mapping} {source : Record} {filter : FieldFilter} {fault : Fault}
    (ready : ∀ n inner, m.Reaches source n inner → n.Ready inner)
    (same : source.schema = m.source) (h : run m source.toValue filter = .error fault) :
    ∃ n inner, m.Reaches source n inner ∧ Own n inner fault := by
  induction m using nested_induction generalizing source filter with
  | step m ih =>
    rcases level m source filter fault same h with own | ⟨receiver, key, b, member, h⟩
    · exact ⟨m, source, .self m source, own⟩
    · rcases residual_of_valueWith (ready m source (.self m source)) starts member h with
        residual | ⟨field, reader, writer, n, inner, rfl, read, fits, h⟩
      · exact ⟨m, source, .self m source, remains m source fault residual⟩
      · have later : ∀ k last, n.Reaches inner k last → k.Ready last :=
          fun k last reached ↦ ready k last (.nested member read fits reached)
        obtain ⟨k, last, reached, own⟩ := ih key field reader writer n member later fits h
        exact ⟨k, last, .nested member read fits reached, own⟩

section Runs

variable {m : Mapping} {source : Record} {filter : FieldFilter} {fault : Fault}

/-- If every mapping that is reached is ready, a table fails in one of the remaining ways. -/
theorem exists_residual_of_toTable (ready : ∀ n inner, m.Reaches source n inner → n.Ready inner)
    (same : source.schema = m.source) (h : toTable c m source.toValue filter = .error fault) :
    ∃ n inner, m.Reaches source n inner ∧ n.Residual c inner fault := by
  apply exists_level_of_error (toTable c) .map (fun n inner fault ↦ n.Residual c inner fault)
    (fun _ _ _ residual ↦ residual) _ _ ready same h
  · intro n value fault h
    rw [toTable_eq] at h
    exact mismatch_or_source (by rfl) h
  · intro n inner filter fault
    exact level_of_toTable

/-- If every mapping that is reached is ready, an instance fails in one of the remaining ways or
when a value is assigned. -/
theorem exists_residual_of_toInstance
    (ready : ∀ n inner, m.Reaches source n inner → n.Ready inner)
    (same : source.schema = m.source) (h : toInstance c m source.toValue filter = .error fault) :
    ∃ n inner, m.Reaches source n inner ∧
      (n.Residual c inner fault ∨ n.RefusesAssignment c fault) := by
  apply exists_level_of_error (toInstance c) heldValue
    (fun n inner fault ↦ n.Residual c inner fault ∨ n.RefusesAssignment c fault)
    (fun _ _ _ ↦ .inl) _ _ ready same h
  · intro n value fault h
    rw [toInstance_eq] at h
    exact mismatch_or_source (by rfl) h
  · intro n inner filter fault
    exact level_of_toInstance

end Runs

/-- Carried out on a record that was read, a compiled mapping whose sources are made of properties
reads every value that it needs, and gives its computing methods arguments that they accept; its
tables fail in the remaining ways only, and its instances in these or when a value is assigned. -/
theorem ready_and_residual_of_read {target : String} {defaults : FieldFilter} {m : Mapping}
    (compiled : c.compile target defaults = .ok m)
    (made : ∀ n, m.Contains n → c.MadeOfProperties n.source) {document : Json} {source : Record}
    (read : c.read document m.source = .ok source) (filter : FieldFilter) :
    (∀ n inner, m.Reaches source n inner → n.Ready inner) ∧
      (∀ fault, m.toTable c source.toValue filter = .error fault →
        ∃ n inner, m.Reaches source n inner ∧ n.Residual c inner fault) ∧
      ∀ fault, m.toInstance c source.toValue filter = .error fault →
        ∃ n inner, m.Reaches source n inner ∧
          (n.Residual c inner fault ∨ n.RefusesAssignment c fault) := by
  have compiled : c.Compiled m := (Catalog.compiled_of_compile compiled).1
  obtain ⟨same, ready⟩ := ready_of_read compiled made read
  exact ⟨ready, fun _ ↦ exists_residual_of_toTable ready same,
    fun _ ↦ exists_residual_of_toInstance ready same⟩

/-- The document of a person of unknown age. -/
private def ageless : Json := .object [("name", .string "Joan")]

/-- A person of unknown age. -/
private def joan : Record :=
  ⟨"Person", [("name", .string "Joan"), ("age", .null), ("boss", .null)]⟩

/-- The age of a person of unknown age cannot be doubled. -/
private def undoubled : Fault :=
  .invocation "twice" "Card" (.failed "twice" "Invalid argument 0 type for add")

private theorem toTable_joan :
    Staff.toCard.toTable Staff.catalog joan.toValue .all = .error undoubled := by
  cbv

private theorem toInstance_joan :
    Staff.toCard.toInstance Staff.catalog joan.toValue .all = .error undoubled := by
  cbv

/-- The document of a person of unknown age is read, and what fails is the doubling of the age, in
both modes. -/
theorem ready_and_residual_of_read_card :
    Staff.catalog.compile "Card" .all = .ok Staff.toCard ∧
      (∀ n, Staff.toCard.Contains n → Staff.catalog.MadeOfProperties n.source) ∧
      Staff.catalog.read ageless "Person" = .ok joan ∧
      (∀ n inner, Staff.toCard.Reaches joan n inner → n.Ready inner) ∧
      (∃ n inner, Staff.toCard.Reaches joan n inner ∧
        n.Residual Staff.catalog inner undoubled) ∧
      ∃ n inner, Staff.toCard.Reaches joan n inner ∧
        (n.Residual Staff.catalog inner undoubled ∨
          n.RefusesAssignment Staff.catalog undoubled) := by
  have read : Staff.catalog.read ageless "Person" = .ok joan := by
    cbv
  have made := Staff.madeOfProperties_of_contains
  obtain ⟨ready, tables, instances⟩ :=
    ready_and_residual_of_read Staff.compile_card made read .all
  exact ⟨Staff.compile_card, made, read, ready, tables undoubled toTable_joan,
    instances undoubled toInstance_joan⟩

end Mapping

end Fieldwise
