import Fieldwise.Proofs.Progress

/-!
# The contract of faults

Which kinds of faults compiling and carrying out a mapping may end with, and which causes each kind
may have. What is raised at one level goes up unchanged through all levels above it, so that the
contract of a level is the contract of a run, at any depth. Two causes are out of reach for what has
been compiled: its targets are registered, and its readers take no arguments.
-/

namespace Fieldwise

open Outcome

namespace AccessError

/-- The refusals of a registered schema to build an instance. -/
def isOfConstruction : AccessError → Bool
  | inaccessibleConstructor _ | noDefaultConstructor _ _ | constructorFailed _ _ => true
  | _ => false

/-- The refusals of a method that leaves its receiver alone. -/
def isOfCall : AccessError → Bool
  | noSuchField _ _ | argumentCount _ _ _ | argumentType _ _ _ _ | readOnlyReceiver _
  | failed _ _ => true
  | _ => false

/-- The refusals of a writer or a store on account of what is assigned. -/
def isOfAssignment : AccessError → Bool
  | notAWriter _ | noSuchField _ _ | fieldType _ _ _ _ | argumentCount _ _ _
  | argumentType _ _ _ _ | unknownSchema _ => true
  | _ => false

end AccessError

namespace Fault

/-- The kinds of faults that compiling may end with. -/
def Kind.isOfCompiling : Kind → Bool
  | notASerializer | missingAccessor | typeMismatch | argCountMismatch => true
  | _ => false

variable {fault : Fault}

/-- How compiling may end: by what is declared, without a cause behind it. -/
structure EndsCompiling (fault : Fault) : Prop where
  kind : fault.kind.isOfCompiling = true
  causeless : fault.cause? = none

/-- How making a table may end: by a source of another schema, by a target that cannot be built, or
by a reader or computing method. -/
inductive EndsTable (fault : Fault) : Prop
  | mismatch (kind : fault.kind = .sourceMismatch) (causeless : fault.cause? = none)
  | construction {cause : AccessError} (kind : fault.kind = .constructionFailure)
      (causes : fault.cause? = some cause) (own : cause.isOfConstruction = true)
  | invocation {cause : AccessError} (kind : fault.kind = .invocationFailure)
      (causes : fault.cause? = some cause) (own : cause.isOfCall = true)

/-- How making an instance may end: as for a table, by a closed field, or by a value that cannot be
assigned. User code of a writer that refuses counts as an invocation. -/
inductive EndsInstance (fault : Fault) : Prop
  | asTable (ends : fault.EndsTable)
  | denied {schema field : String} (kind : fault.kind = .accessDenied)
      (causes : fault.cause? = some (.fieldNotAccessible schema field))
  | assignment {cause : AccessError} (kind : fault.kind = .assignmentFailure)
      (causes : fault.cause? = some cause) (own : cause.isOfAssignment = true)

/-- Access is denied for closed fields and for nothing else. -/
theorem EndsInstance.kind_eq_accessDenied_iff (h : fault.EndsInstance) :
    fault.kind = .accessDenied ↔
      ∃ schema field, fault.cause? = some (.fieldNotAccessible schema field) := by
  constructor
  · intro denied
    cases h with
    | asTable ends =>
      cases ends with
      | mismatch kind | construction kind | invocation kind => cases kind.symm.trans denied
    | denied _ causes => exact ⟨_, _, causes⟩
    | assignment kind => cases kind.symm.trans denied
  · rintro ⟨schema, field, causes⟩
    cases h with
    | asTable ends =>
      cases ends with
      | mismatch _ causeless => cases causeless.symm.trans causes
      | construction _ causes' own | invocation _ causes' own =>
        cases causes'.symm.trans causes
        cases own
    | denied kind => exact kind
    | assignment _ causes' own =>
      cases causes'.symm.trans causes
      cases own

/-- User code that refuses is always a failed invocation. -/
theorem EndsInstance.kind_of_failed (h : fault.EndsInstance) {accessor reason : String}
    (causes : fault.cause? = some (.failed accessor reason)) :
    fault.kind = .invocationFailure := by
  cases h with
  | asTable ends =>
    cases ends with
    | mismatch _ causeless => cases causeless.symm.trans causes
    | construction _ causes' own =>
      cases causes'.symm.trans causes
      cases own
    | invocation kind => exact kind
  | denied _ causes' => cases causes'.symm.trans causes
  | assignment _ causes' own =>
    cases causes'.symm.trans causes
    cases own

end Fault

namespace Catalog

variable {c : Catalog} {fault : Fault}

private theorem endsCompiling_of_reader {source field : String}
    (h : c.reader source field = .error fault) : fault.EndsCompiling := by
  rw [Catalog.reader] at h
  split at h
  · cases h
    exact ⟨rfl, rfl⟩
  · split at h
    · cases h
      exact ⟨rfl, rfl⟩
    · cases h

end Catalog

namespace Scope

variable {s : Scope} {fault : Fault}

private theorem endsCompiling_of_parameterFault? {combinator : Method} {index : Nat}
    {params : List Ty} {readers : List Method}
    (h : s.parameterFault? combinator index params readers = some fault) :
    fault.EndsCompiling := by
  induction params generalizing index readers with
  | nil => cases h
  | cons param params ih =>
    cases readers with
    | nil => cases h
    | cons reader readers =>
      rw [parameterFault?] at h
      split at h
      · exact ih h
      · cases h
        exact ⟨rfl, rfl⟩

private theorem endsCompiling_of_synthetic {combinator : Method} {synthesis : Synthesis}
    (h : s.synthetic combinator synthesis = .error fault) : fault.EndsCompiling := by
  rw [synthetic, bind_eq_error] at h
  rcases h with h | ⟨readers, -, h⟩
  · obtain ⟨field, -, missing⟩ := exists_error_of_mapM h
    exact Catalog.endsCompiling_of_reader missing
  · split at h
    · cases h
      exact ⟨rfl, rfl⟩
    · split at h
      · next found =>
        cases h
        exact endsCompiling_of_parameterFault? found
      · cases h

private theorem endsCompiling_of_chained
    (nested : ∀ name outside filter fault, s.nested name outside filter = .error fault →
      fault.EndsCompiling)
    {element : String} {chaining : Chaining} {declared : Ty}
    (h : s.chained element chaining declared = .error fault) : fault.EndsCompiling := by
  rw [chained, bind_eq_error] at h
  rcases h with h | ⟨serializer, -, h⟩
  · rw [Chaining.serializerFor] at h
    split at h
    · split at h
      · cases h
      · cases h
        exact ⟨rfl, rfl⟩
    · split at h
      · cases h
      · cases h
        exact ⟨rfl, rfl⟩
  · split at h
    · cases h
      exact ⟨rfl, rfl⟩
    · exact nested _ _ _ _ h

/-- A declaration without a binding ends compiling, if nested mappings that are missing do. -/
theorem endsCompiling_of_binding
    (nested : ∀ name outside filter fault, s.nested name outside filter = .error fault →
      fault.EndsCompiling)
    {d : Declaration} (h : s.binding d = .error fault) : fault.EndsCompiling := by
  cases d with
  | computed combinator synthesis => exact endsCompiling_of_synthetic h
  | slot slot =>
    rw [binding, slotBinding] at h
    split at h
    · rcases bind_eq_error.mp h with h | ⟨n, -, h⟩
      · exact endsCompiling_of_chained nested h
      · rcases bind_eq_error.mp h with missing | ⟨reader, -, h⟩
        · exact Catalog.endsCompiling_of_reader missing
        · cases h
    · rcases bind_eq_error.mp h with missing | ⟨reader, -, h⟩
      · exact Catalog.endsCompiling_of_reader missing
      · split at h
        · split at h
          · cases h
          · cases h
            exact ⟨rfl, rfl⟩
        · cases h

end Scope

namespace Catalog

variable {c : Catalog}

/-- A target that does not compile, at any depth of a chain, ends compiling in one of the ways. -/
theorem endsCompiling_of_compileWithin {chain : List String} {target : String}
    {fresh : target ∉ chain} {defaults : FieldFilter} {fault : Fault}
    (h : c.compileWithin chain target fresh defaults = .error fault) : fault.EndsCompiling := by
  rw [compileWithin_eq] at h
  -- on the registered names outside the chain, which are fewer for each nested target
  cases found : c.find? target with
  | none =>
    simp only [found] at h
    cases h
    exact ⟨rfl, rfl⟩
  | some schema =>
    cases declared : schema.serializedFrom with
    | none =>
      simp only [found, declared] at h
      cases h
      exact ⟨rfl, rfl⟩
    | some source =>
      simp only [found, declared] at h
      split at h
      · cases h
        exact ⟨rfl, rfl⟩
      · cases bindings : (c.scope (target :: chain) schema source).bindings with
        | ok bound =>
          rw [bindings] at h
          cases h
        | error e =>
          rw [bindings] at h
          cases h
          rw [Scope.bindings_eq_gather] at bindings
          obtain ⟨d, -, missing⟩ := exists_error_of_gather bindings
          apply Scope.endsCompiling_of_binding _ missing
          intro name outside filter fault missing
          exact endsCompiling_of_compileWithin missing
termination_by (c.names.filter (· ∉ chain)).length
decreasing_by exact length_filter_lt (mem_names_of_find? found) fresh

end Catalog

namespace Method

variable {m : Method} {receiver : Record} {args : List Value} {cause : AccessError}

private theorem isOf_of_checkArgs (h : m.checkArgs args = .error cause) :
    cause.isOfCall = true ∧ cause.isOfAssignment = true := by
  rw [checkArgs] at h
  split at h
  · cases h
    exact ⟨rfl, rfl⟩
  · split at h
    · cases h
      exact ⟨rfl, rfl⟩
    · cases h

/-- A method that is called refuses on the accounts of a call. -/
theorem isOfCall_of_call (h : m.call receiver args = .error cause) : cause.isOfCall = true := by
  cases refusesToRun_of_call h with
  | arguments rejected => exact (isOf_of_checkArgs rejected).1
  | _ => rfl

end Method

namespace Mapping

variable {c : Catalog} {m : Mapping} {value : Value} {filter : FieldFilter} {fault : Fault}

private theorem endsTable_of_sourceRecord? {target : Schema} {source : String}
    (h : sourceRecord? target source value = .error fault) : fault.EndsTable := by
  obtain ⟨-, -, rfl⟩ := sourceRecord?_eq_error_iff.mp h
  exact .mismatch rfl rfl

private theorem endsTable_of_construct (compiled : c.Compiled m)
    (h : construct c m.target = .error fault) : fault.EndsTable := by
  obtain ⟨cause, refused, rfl⟩ := mapError_eq_error.mp h
  refine .construction rfl rfl ?_
  rw [Catalog.construct, compiled.registered.1] at refused
  simp only [Schema.instantiate] at refused
  split at refused
  · cases refused
  · cases refused
    rfl
  · cases refused
    rfl
  · split at refused
    · cases refused
    · cases refused
      rfl

private theorem endsTable_or_nested {α : Type} {run : Mapping → Value → Except Fault α}
    {target : Schema} {source receiver : Record} {b : Binding}
    (h : Unmade run target source receiver b fault) :
    fault.EndsTable ∨
      ∃ field reader writer n given,
        b = .chained field reader writer n ∧ run n given = .error fault := by
  cases h with
  | reader _ refused => exact .inl (.invocation rfl rfl (Method.isOfCall_of_call refused))
  | computation _ refused => exact .inl (.invocation rfl rfl (Method.isOfCall_of_call refused))
  | nested _ failed => exact .inr ⟨_, _, _, _, _, rfl, failed⟩

/-- Making a table by a compiled mapping keeps to the contract of tables, at every depth. -/
theorem endsTable_of_toTable (compiled : c.Compiled m)
    (h : m.toTable c value filter = .error fault) : fault.EndsTable := by
  induction m using nested_induction generalizing value filter with
  | step m ih =>
    rw [toTable_eq, bind_eq_error] at h
    rcases h with other | ⟨source?, -, h⟩
    · exact endsTable_of_sourceRecord? other
    · cases source? with
      | none => cases h
      | some source =>
        rcases bind_eq_error.mp h with unbuilt | ⟨receiver, -, h⟩
        · exact endsTable_of_construct compiled unbuilt
        · rw [collectBindings_eq_gather] at h
          obtain ⟨⟨key, b⟩, wanted, unmade⟩ := exists_error_of_gather h
          have member : (key, b) ∈ m.bindings := (List.mem_filter.mp wanted).1
          rw [tableValue_eq_valueWith] at unmade
          rcases endsTable_or_nested (unmade_of_valueWith unmade) with
            ends | ⟨field, reader, writer, n, given, rfl, failed⟩
          · exact ends
          · exact ih key field reader writer n member (compiled.nested member) failed

private theorem changeKind_of_isOfAssignment {cause : AccessError}
    (own : cause.isOfAssignment = true) : Fault.changeKind cause = .assignmentFailure := by
  cases cause with
  | fieldNotAccessible | failed => cases own
  | _ => rfl

/-- A value that is not assigned ends the run of an instance. -/
theorem endsInstance_of_assignField {target : Schema} {before : Record} {key : String}
    {writer : Option Method} (h : assignField c target before key writer value = .error fault) :
    fault.EndsInstance := by
  cases writer with
  | some w =>
    obtain ⟨after, cause, run, rfl⟩ := assignField_writer_eq_error_iff.mp h
    cases Method.refusesToAssign_of_assign run with
    | body => exact .assignment rfl rfl rfl
    | arguments rejected =>
      have own := (Method.isOf_of_checkArgs rejected).2
      exact .assignment (changeKind_of_isOfAssignment own) rfl own
    | field => exact .assignment rfl rfl rfl
    | code => exact .asTable (.invocation rfl rfl rfl)
  | none =>
    obtain ⟨cause, stores, rfl⟩ := assignField_none_eq_error_iff.mp h
    rcases Catalog.unknown_or_refusesToStore stores with rfl | ⟨s, -, refuses⟩
    · exact .assignment rfl rfl rfl
    · cases refuses with
      | unknown => exact .assignment rfl rfl rfl
      | closed => exact .denied rfl rfl
      | type => exact .assignment rfl rfl rfl

/-- Making an instance by a compiled mapping keeps to the contract of instances, at every depth. -/
theorem endsInstance_of_toInstance (compiled : c.Compiled m)
    (h : m.toInstance c value filter = .error fault) : fault.EndsInstance := by
  induction m using nested_induction generalizing value filter with
  | step m ih =>
    cases given : sourceRecord? m.target m.source value with
    | error e =>
      rw [toInstance_eq, given] at h
      cases h
      exact .asTable (endsTable_of_sourceRecord? given)
    | ok source? =>
      cases source? with
      | none =>
        rw [toInstance_eq, given] at h
        cases h
      | some source =>
        obtain ⟨rfl, same⟩ := sourceRecord?_eq_ok_some_iff.mp given
        rcases (toInstance_toValue_eq_error_iff same).mp h with
          unbuilt | ⟨key, b, state, comes, unmade | ⟨value, -, refused⟩⟩
        · exact .asTable (endsTable_of_construct compiled unbuilt)
        · rw [instanceValue_eq_valueWith] at unmade
          rcases endsTable_or_nested (unmade_of_valueWith unmade) with
            ends | ⟨field, reader, writer, n, given, rfl, failed⟩
          · exact .asTable ends
          · exact ih key field reader writer n comes.mem (compiled.nested comes.mem) failed
        · exact endsInstance_of_assignField refused

/-- The readers of a compiled mapping take no arguments. -/
theorem params_of_reader (compiled : c.Compiled m) {key : String} {b : Binding}
    (member : (key, b) ∈ m.bindings) {reader : Method} (reads : reader ∈ b.readers) :
    reader.params = [] := by
  obtain ⟨field, found⟩ := compiled.exists_reader member reads
  obtain ⟨hit, -⟩ := Catalog.reader_eq_ok_iff.mp found
  obtain ⟨schema, -, hit⟩ := Option.bind_eq_some_iff.mp hit
  have named := List.find?_some hit
  simp only [Bool.and_eq_true, beq_iff_eq] at named
  exact named.2

end Mapping

/-- The contract of faults. Compiling fails with four kinds of faults, none of which has a cause.
Carrying out what has been compiled, on any value and under any filter, fails in the ways of tables
and in the ways of instances; access is denied exactly for closed fields, and user code that refuses
is a failed invocation. No reader, at any depth, is ever rejected for its arguments. -/
theorem Catalog.faults_keep_contract (c : Catalog) (target : String) (defaults : FieldFilter) :
    (∀ fault, c.compile target defaults = .error fault → fault.EndsCompiling) ∧
    ∀ m, c.compile target defaults = .ok m →
      (∀ value filter fault, m.toTable c value filter = .error fault → fault.EndsTable) ∧
      (∀ value filter fault, m.toInstance c value filter = .error fault →
        fault.EndsInstance ∧
          (fault.kind = .accessDenied ↔
            ∃ schema field, fault.cause? = some (.fieldNotAccessible schema field)) ∧
          ∀ accessor reason, fault.cause? = some (.failed accessor reason) →
            fault.kind = .invocationFailure) ∧
      ∀ n key b reader, m.Contains n → (key, b) ∈ n.bindings → reader ∈ b.readers →
        ∀ receiver cause, reader.call receiver [] = .error cause →
          cause.rejectsArguments = false := by
  refine ⟨fun fault ↦ endsCompiling_of_compileWithin, fun m result ↦ ?_⟩
  have compiled : c.Compiled m := (compiled_of_compile result).1
  refine ⟨fun value filter fault ↦ Mapping.endsTable_of_toTable compiled,
    fun value filter fault h ↦ ?_, ?_⟩
  · have ends := Mapping.endsInstance_of_toInstance compiled h
    exact ⟨ends, ends.kind_eq_accessDenied_iff, fun _ _ ↦ ends.kind_of_failed⟩
  · intro n key b reader inner member reads receiver cause
    have params := Mapping.params_of_reader (compiled.contained inner) member reads
    exact Method.rejectsArguments_of_call (Method.checkArgs_eq_ok (params ▸ .nil))

namespace Staff

/-- Writes the name of a person. -/
def engraving : Method where
  name := "engraving"
  params := [.string]
  returns := some .string
  body := .format "\x7b0\x7d"
  synthesis := some ⟨"mark", ["name"]⟩

/-- A medal bears a person's name, in a field that is closed and has no writer. -/
def medal : Schema where
  name := "Medal"
  serializedFrom := some "Person"
  fields := [{ name := "mark", type := .string }]
  methods := [engraving]

/-- On a desk lies the medal of a person's boss. -/
def desk : Schema where
  name := "Desk"
  serializedFrom := some "Person"
  fields := [
    { name := "boss", type := .record "Medal", isPublic := true, chaining := some ⟨none, []⟩ }]

/-- Persons, medals and desks. -/
def desks : Catalog := ((Catalog.empty.register person).register medal).register desk

/-- What medals are compiled to. -/
def toMedal : Mapping :=
  .mk medal "Person" .all [("mark", .synthetic "mark" engraving [.readerOf "name" .string] none)]

/-- What desks are compiled to. -/
def toDesk : Mapping :=
  .mk desk "Person" .all [
    ("boss", .chained "boss" (.readerOf "boss" (.record "Person")) none toMedal)]

private theorem compile_desk : desks.compile "Desk" .all = .ok toDesk := by
  cbv

/-- The medal of a person's boss cannot be engraved, and the desk is not made: access is denied. Of
what is no person no table of a desk is made. A person is not made from anything. And the reader of
the bosses does not reject its arguments, even on what has no boss. -/
theorem faults_keep_contract_desk :
    desks.compile "Desk" .all = .ok toDesk ∧
      (∃ fault, toDesk.toInstance desks ada.toValue .all = .error fault ∧
        fault.kind = .accessDenied) ∧
      (∃ fault, toDesk.toTable desks (.string "Ada") .all = .error fault ∧ fault.EndsTable) ∧
      (∃ fault, desks.compile "Person" .all = .error fault ∧ fault.EndsCompiling) ∧
      ∃ cause, (Method.readerOf "boss" (.record "Person")).call (.empty "Person") [] =
        .error cause ∧ cause.rejectsArguments = false := by
  have denied : toDesk.toInstance desks ada.toValue .all =
      .error (.store "mark" "Medal" (.fieldNotAccessible "Medal" "mark")) := by cbv
  have mismatch : toDesk.toTable desks (.string "Ada") .all =
      .error (.sourceMismatch "Desk" "Person" "string") := by cbv
  have undeclared : desks.compile "Person" .all = .error (.undeclaredSource "Person") := by cbv
  obtain ⟨tables, instances, readers⟩ :=
    (Catalog.faults_keep_contract desks "Desk" .all).2 toDesk compile_desk
  obtain ⟨-, access, -⟩ := instances _ _ _ denied
  refine ⟨compile_desk, ⟨_, denied, access.mpr ⟨_, _, rfl⟩⟩, ⟨_, mismatch, tables _ _ _ mismatch⟩,
    ⟨_, undeclared, (Catalog.faults_keep_contract desks "Person" .all).1 _ undeclared⟩, ?_⟩
  refine ⟨.noSuchField "Person" "boss", rfl, ?_⟩
  exact readers toDesk "boss" _ _ (.self toDesk) List.mem_cons_self List.mem_cons_self
    (.empty "Person") _ rfl

end Staff

end Fieldwise
