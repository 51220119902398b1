import Fieldwise.Mapping.Run
import Fieldwise.Proofs.Outcome

/-!
# Assigning a value

A value is assigned into an instance by a writer or by a store. Either sets one field, to a value
that was accepted, or refuses on one of a few accounts, which are listed here once. User code is
the exception: a mutator may leave anything behind, even an instance of another schema.
-/

namespace Fieldwise

open Outcome

/-- Where a value of one type may be stored, every value of a type that it may be assigned from is
accepted. -/
theorem Ty.accepts_of_isAssignableFrom {target source : Ty} {value : Value}
    (assignable : target.isAssignableFrom source = true) (accepted : source.accepts value = true) :
    target.accepts value = true := by
  simp only [isAssignableFrom, Bool.or_eq_true, Bool.and_eq_true, beq_iff_eq] at assignable
  rcases assignable with (rfl | rfl) | ⟨rfl, rfl⟩
  · exact accepted
  · cases value <;> rfl
  · cases value <;> simp_all [accepts]

/-- Whether an access was refused on an account that only changes of an instance have. -/
def AccessError.isOfChange : AccessError → Bool
  | notAWriter _ | fieldNotAccessible _ _ | fieldType _ _ _ _ => true
  | _ => false

namespace Method

variable {m : Method} {receiver after : Record} {args : List Value} {cause : AccessError}

/-- Arguments are rejected for their number or for the type of one of them. -/
theorem isOfChange_of_checkArgs (h : m.checkArgs args = .error cause) :
    cause.isOfChange = false := by
  rw [checkArgs] at h
  split at h
  · cases h
    rfl
  · split at h <;> cases h
    rfl

/-- With a single parameter only the type of a single argument is in question. -/
theorem checkArgs_singleton {param : Ty} (params : m.params = [param]) (value : Value) :
    m.checkArgs [value] =
      if param.accepts value then .ok ()
      else .error (.argumentType m.name 0 param value.kind) := by
  rw [checkArgs, if_neg (by simp [arity, params]), params, firstMismatch?]
  by_cases accepted : param.accepts value = true <;> simp [accepted, firstMismatch?]

/-- A single argument is accepted by a single parameter. -/
theorem exists_param_of_checkArgs {value : Value} (h : m.checkArgs [value] = .ok ()) :
    ∃ param, m.params = [param] ∧ param.accepts value = true := by
  have count : m.params.length = 1 := by
    rw [checkArgs] at h
    split at h
    · cases h
    · next count => simpa [arity, eq_comm] using count
  obtain ⟨param, params⟩ := List.length_eq_one_iff.mp count
  rw [checkArgs_singleton params] at h
  split at h
  · next accepted => exact ⟨param, params, accepted⟩
  · cases h

/-- Why a method refuses to run and leave its receiver alone. -/
inductive RefusesToRun (m : Method) (receiver : Record) (args : List Value) : AccessError → Prop
  | arguments {cause : AccessError} (rejected : m.checkArgs args = .error cause) :
      m.RefusesToRun receiver args cause
  | field {field : String} (reads : m.body = .getter field)
      (absent : receiver.get? field = none) :
      m.RefusesToRun receiver args (.noSuchField receiver.schema field)
  | code (reason : String) : m.RefusesToRun receiver args (.failed m.name reason)
  | body (writes : m.body.writes = true) :
      m.RefusesToRun receiver args (.readOnlyReceiver m.name)

/-- A method refuses to run on one of these accounts. -/
theorem refusesToRun_of_call (h : m.call receiver args = .error cause) :
    m.RefusesToRun receiver args cause := by
  rw [call, bind_eq_error] at h
  rcases h with rejected | ⟨-, -, h⟩
  · exact .arguments rejected
  · split at h
    · next field reads =>
      split at h <;> cases h
      next absent => exact .field reads absent
    · cases h
    · split at h <;> cases h
      exact .code _
    · next field sets =>
      cases h
      exact .body (by rw [sets]; rfl)
    · next run changes =>
      cases h
      exact .body (by rw [changes]; rfl)

/-- A method that is called refuses on other accounts than a change. -/
theorem isOfChange_of_call (h : m.call receiver args = .error cause) :
    cause.isOfChange = false := by
  cases refusesToRun_of_call h with
  | arguments rejected => exact isOfChange_of_checkArgs rejected
  | _ => rfl

/-- Why a writer refuses to assign its arguments. -/
inductive RefusesToAssign (m : Method) (receiver : Record) (args : List Value) :
    AccessError → Prop
  | body (reads : m.body.writes = false) : m.RefusesToAssign receiver args (.notAWriter m.name)
  | arguments {cause : AccessError} (rejected : m.checkArgs args = .error cause) :
      m.RefusesToAssign receiver args cause
  | field {field : String} (sets : m.body = .setter field) (absent : receiver.has field = false) :
      m.RefusesToAssign receiver args (.noSuchField receiver.schema field)
  | code (reason : String) : m.RefusesToAssign receiver args (.failed m.name reason)

/-- A writer refuses on one of these accounts. -/
theorem refusesToAssign_of_assign (h : m.assign receiver args = (after, .error cause)) :
    m.RefusesToAssign receiver args cause := by
  rw [assign] at h
  split at h
  · next field sets =>
    split at h
    · next e rejected =>
      cases h
      exact .arguments rejected
    · split at h
      · split at h <;> cases h
      · next absent =>
        cases h
        exact .field sets (by simpa using absent)
  · split at h
    · next e rejected =>
      cases h
      exact .arguments rejected
    · split at h
      · cases h
      · cases h
        exact .code _
  · next reads =>
    cases h
    exact .body (by rw [reads]; rfl)
  · next reads =>
    cases h
    exact .body (by rw [reads]; rfl)
  · next reads =>
    cases h
    exact .body (by rw [reads]; rfl)

/-- A setter takes one value, which its parameter accepts, into a field that is there. -/
theorem assign_setter_eq_ok_iff {field : String} (sets : m.body = .setter field) {value : Value} :
    m.assign receiver [value] = (after, .ok ()) ↔
      m.checkArgs [value] = .ok () ∧ receiver.has field = true ∧
        after = receiver.set field value := by
  simp only [assign, sets]
  cases m.checkArgs [value] with
  | error e => simp
  | ok _ => by_cases present : receiver.has field = true <;> simp [present, @eq_comm _ after]

/-- A writer that leaves its receiver an instance of the schema that it was of. Code supplied by
users may do as it likes with a receiver, so that this has to be asked of it where it matters. -/
def KeepsSchema (m : Method) : Prop :=
  ∀ receiver args after, m.assign receiver args = (after, .ok ()) →
    after.schema = receiver.schema

/-- Only a mutator can fail to keep the schema. -/
theorem keepsSchema_of_body (h : ∀ run, m.body ≠ .mutator run) : m.KeepsSchema := by
  intro receiver args after run
  rw [assign] at run
  split at run
  · split at run
    · cases run
    · split at run
      · split at run <;> cases run <;> rfl
      · cases run
  · next code body => exact absurd body (h code)
  · cases run
  · cases run
  · cases run

end Method

namespace Schema

variable {s : Schema} {before after : Record} {field : String} {value : Value}
  {cause : AccessError}

/-- Why a store into a field of a record is refused. -/
inductive RefusesToStore (s : Schema) (field : String) (value : Value) : AccessError → Prop
  | unknown (absent : s.findField? field = none) :
      s.RefusesToStore field value (.noSuchField s.name field)
  | closed {f : FieldDef} (found : s.findField? field = some f) (closed : f.isPublic = false) :
      s.RefusesToStore field value (.fieldNotAccessible s.name field)
  | type {f : FieldDef} (found : s.findField? field = some f) (isOpen : f.isPublic = true)
      (rejected : f.type.accepts value = false) :
      s.RefusesToStore field value (.fieldType s.name field f.type value.kind)

/-- A store is refused on one of these accounts. -/
theorem refusesToStore_of_store (h : s.store before field value = (after, .error cause)) :
    s.RefusesToStore field value cause := by
  rw [store] at h
  split at h
  · next absent =>
    cases h
    exact .unknown absent
  · next f found =>
    split at h
    · next closed =>
      cases h
      exact .closed found (by simpa using closed)
    · next isOpen =>
      split at h
      · next rejected =>
        cases h
        exact .type found (by simpa using isOpen) (by simpa using rejected)
      · cases h

/-- A store that is refused leaves the record as it was. -/
theorem eq_of_store_error (h : s.store before field value = (after, .error cause)) :
    after = before := by
  rw [store] at h
  split at h
  · exact (congrArg Prod.fst h).symm
  · split at h
    · exact (congrArg Prod.fst h).symm
    · split at h
      · exact (congrArg Prod.fst h).symm
      · cases h

/-- A value is stored into a public field that accepts it. -/
theorem store_eq_ok_iff :
    s.store before field value = (after, .ok ()) ↔
      ∃ f, s.findField? field = some f ∧ f.isPublic = true ∧ f.type.accepts value = true ∧
        after = before.set field value := by
  rw [store]
  cases s.findField? field with
  | none => simp
  | some f =>
    by_cases isOpen : f.isPublic = true
    · by_cases accepted : f.type.accepts value = true
      · simp [isOpen, accepted, @eq_comm _ after]
      · simp [isOpen, accepted]
    · simp [isOpen]

end Schema

namespace Catalog

variable {c : Catalog} {record after : Record} {s : Schema} {field : String} {value : Value}
  {cause : AccessError}

/-- A store that is refused leaves the record as it was, whichever schema the record is of. -/
theorem eq_of_storeField_error (h : c.storeField record field value = (after, .error cause)) :
    after = record := by
  rw [storeField] at h
  split at h
  · exact (congrArg Prod.fst h).symm
  · exact Schema.eq_of_store_error h

/-- A value is stored into a public field of the record's schema that accepts it. -/
theorem store_eq_ok_iff :
    c.store record field value = .ok after ↔
      ∃ s f, c.find? record.schema = some s ∧ s.findField? field = some f ∧ f.isPublic = true ∧
        f.type.accepts value = true ∧ after = record.set field value := by
  have stored : c.store record field value = .ok after ↔
      c.storeField record field value = (after, .ok ()) := by
    rw [store]
    split
    · next run => simp [run]
    · next run => simp [run]
  rw [stored, storeField]
  cases c.find? record.schema with
  | none => simp
  | some s => simp [Schema.store_eq_ok_iff]

/-- A store is refused for want of the record's schema, or by the rules of that schema. -/
theorem unknown_or_refusesToStore (h : c.store record field value = .error cause) :
    cause = .unknownSchema record.schema ∨
      ∃ s, c.find? record.schema = some s ∧ s.RefusesToStore field value cause := by
  have refused : c.storeField record field value = (record, .error cause) := by
    rw [store] at h
    split at h
    · cases h
    · next run =>
      cases h
      cases eq_of_storeField_error run
      exact run
  rw [storeField] at refused
  split at refused
  · cases refused
    exact .inl rfl
  · next s found => exact .inr ⟨s, found, Schema.refusesToStore_of_store refused⟩

/-- A store is not refused for want of a writer. -/
theorem store_ne_notAWriter {accessor : String} :
    c.store record field value ≠ .error (.notAWriter accessor) := by
  intro h
  rcases unknown_or_refusesToStore h with unknown | ⟨s, -, refuses⟩
  · cases unknown
  · cases refuses

/-- A new instance is refused on other accounts than a change. -/
theorem isOfChange_of_construct {schema : String}
    (h : c.construct schema = .error cause) : cause.isOfChange = false := by
  rw [construct] at h
  split at h
  · cases h
    rfl
  · rw [Schema.instantiate] at h
    split at h <;> (try split at h) <;> cases h <;> rfl

end Catalog

/-- A binding whose writer, if it has one, is not code of users. -/
def Binding.WritesPlainly (b : Binding) : Prop :=
  ∀ writer, b.writer? = some writer → ∀ run, writer.body ≠ .mutator run

/-- The field that a binding assigns: that of its setter, or else its own. -/
def Binding.assigns (key : String) (b : Binding) : String :=
  match b.writer?.map Method.body with
  | some (.setter field) => field
  | _ => key

/-- Without a writer a binding assigns its own field. -/
theorem Binding.assigns_of_none {key : String} {b : Binding} (h : b.writer? = none) :
    b.assigns key = key := by
  rw [assigns, h]
  rfl

/-- With a setter a binding assigns the setter's field. -/
theorem Binding.assigns_of_setter {key field : String} {b : Binding} {w : Method}
    (h : b.writer? = some w) (sets : w.body = .setter field) : b.assigns key = field := by
  rw [assigns, h, Option.map_some, sets]

namespace Mapping

variable {c : Catalog} {target : Schema} {before after : Record} {key : String} {value : Value}

/-- With a writer a value is assigned when the writer assigns it. -/
theorem assignField_writer_eq_ok_iff {writer : Method} :
    assignField c target before key (some writer) value = .ok after ↔
      writer.assign before [value] = (after, .ok ()) := by
  rw [assignField]
  split
  · next run => simp [run]
  · next run => simp [run]

/-- With a writer an assignment is refused when the writer refuses. -/
theorem assignField_writer_eq_error_iff {writer : Method} {fault : Fault} :
    assignField c target before key (some writer) value = .error fault ↔
      ∃ after cause, writer.assign before [value] = (after, .error cause) ∧
        fault = .assignment writer.name target.name cause := by
  rw [assignField]
  split
  · next run => simp [run]
  · next cause run =>
    constructor
    · intro h
      exact ⟨_, cause, run, (Except.error.inj h).symm⟩
    · rintro ⟨after, cause, run', rfl⟩
      cases run.symm.trans run'
      rfl

/-- Without a writer a value is assigned when it is stored. -/
theorem assignField_none_eq_ok_iff :
    assignField c target before key none value = .ok after ↔
      c.store before key value = .ok after :=
  mapError_eq_ok

/-- Without a writer an assignment is refused when the store is. -/
theorem assignField_none_eq_error_iff {fault : Fault} :
    assignField c target before key none value = .error fault ↔
      ∃ cause, c.store before key value = .error cause ∧
        fault = .store key target.name cause := by
  rw [assignField, mapError_eq_error]
  refine exists_congr fun cause ↦ and_congr_right fun _ ↦ ⟨Eq.symm, Eq.symm⟩

/-- What is refused for want of a writer was to be assigned by a method that does not write. -/
theorem exists_writer_of_assignField {writer : Option Method} {fault : Fault} {accessor : String}
    (h : assignField c target before key writer value = .error fault)
    (cause : fault.cause? = some (.notAWriter accessor)) :
    ∃ w, writer = some w ∧ w.name = accessor ∧ w.body.writes = false := by
  cases writer with
  | none =>
    obtain ⟨refusal, stores, rfl⟩ := assignField_none_eq_error_iff.mp h
    cases cause
    exact absurd stores Catalog.store_ne_notAWriter
  | some w =>
    obtain ⟨after, refusal, run, rfl⟩ := assignField_writer_eq_error_iff.mp h
    cases cause
    cases Method.refusesToAssign_of_assign run with
    | body reads => exact ⟨w, rfl, rfl, reads⟩
    | arguments rejected => cases Method.isOfChange_of_checkArgs rejected

/-- How a value has been assigned into an instance: by a store, by a setter, or by user code. -/
inductive Assigned (c : Catalog) (before : Record) (key : String) (value : Value)
    (after : Record) : Option Method → Prop
  | stored (h : c.store before key value = .ok after) : Assigned c before key value after none
  | set {writer : Method} {field : String} (sets : writer.body = .setter field)
      (accepted : writer.checkArgs [value] = .ok ()) (present : before.has field = true)
      (same : after = before.set field value) : Assigned c before key value after (some writer)
  | changed {writer : Method} {run : Record → List Value → Record × Except String Unit}
      (changes : writer.body = .mutator run) : Assigned c before key value after (some writer)

/-- A value that is assigned has been assigned in one of these ways. -/
theorem assigned_of_assignField {writer : Option Method}
    (h : assignField c target before key writer value = .ok after) :
    Assigned c before key value after writer := by
  cases writer with
  | none => exact .stored (assignField_none_eq_ok_iff.mp h)
  | some w =>
    have run := assignField_writer_eq_ok_iff.mp h
    cases body : w.body with
    | setter field =>
      obtain ⟨accepted, present, same⟩ := (Method.assign_setter_eq_ok_iff body).mp run
      exact .set body accepted present same
    | mutator _ => exact .changed body
    | _ => simp [Method.assign, body] at run

/-- Without user code, one field is set to the value that is assigned. -/
theorem eq_set_of_assignField {b : Binding} (plain : b.WritesPlainly)
    (h : assignField c target before key b.writer? value = .ok after) :
    after = before.set (b.assigns key) value := by
  have assigned := assigned_of_assignField h
  cases bound : b.writer? with
  | none =>
    rw [bound] at assigned
    cases assigned with
    | stored stores =>
      obtain ⟨-, -, -, -, -, -, rfl⟩ := Catalog.store_eq_ok_iff.mp stores
      rw [Binding.assigns_of_none bound]
  | some w =>
    rw [bound] at assigned
    cases assigned with
    | set sets _ _ same => rw [Binding.assigns_of_setter bound sets, same]
    | changed changes => exact absurd changes (plain w bound _)

/-- An assignment keeps the schema of the instance if its writer does. -/
theorem schema_of_assignField {writer : Option Method}
    (keeps : ∀ w, writer = some w → w.KeepsSchema)
    (h : assignField c target before key writer value = .ok after) :
    after.schema = before.schema := by
  cases writer with
  | some w => exact keeps w rfl before [value] after (assignField_writer_eq_ok_iff.mp h)
  | none =>
    rw [assignField_none_eq_ok_iff, Catalog.store_eq_ok_iff] at h
    obtain ⟨-, -, -, -, -, -, rfl⟩ := h
    rfl

end Mapping

end Fieldwise
