import Fieldwise.Proofs.Filling
import Fieldwise.Proofs.Readiness
import Fieldwise.Proofs.Wiring

/-!
# What is refused for its type

Compiling compares the types on the way from a reader to a writer, so that carrying out a mapping
refuses few values for their types. Instances of the targets have the schema that the way in asks
for, and a value of a reader's type is accepted where that type may be assigned. What remains is
what compiling does not compare: the results of computing methods, and public fields that are read
directly. User code may still get in the way: a store goes by the schema of the instance as it is,
and a mutator that has turned the instance into one of another schema has changed what it takes.
-/

namespace Fieldwise

open Outcome

/-- The writers of a mapping keep the schema of an instance. -/
def Mapping.KeepsSchema (m : Mapping) : Prop :=
  ∀ key b, (key, b) ∈ m.bindings → ∀ w, b.writer? = some w → w.KeepsSchema

namespace Mapping

variable {c : Catalog} {m n : Mapping} {source : Record} {filter : FieldFilter} {key : String}
  {b : Binding}

private theorem schema_of_filled (compiled : c.Compiled m) (blank : m.target.StartsBlank)
    (keeps : m.KeepsSchema) {bound : Table Binding} (sub : ∀ entry ∈ bound, entry ∈ m.bindings)
    {fresh filled : Record} (built : construct c m.target = .ok fresh)
    (run : fillBindings c m.target filter source bound fresh = .ok filled) :
    filled.schema = m.target.name := by
  apply fillBindings_keeps (P := fun r ↦ r.schema = m.target.name) _ _ run
  · intro key b member _ before value after same _ assigned
    exact (schema_of_assignField (keeps key b (sub _ member)) assigned).trans same
  · rw [compiled.construct_eq blank] at built
    cases built
    exact m.target.schema_blank

/-- In every state that a run comes to, the instance is one of the target. -/
theorem schema_of_comesTo (compiled : c.Compiled m) (blank : m.target.StartsBlank)
    (keeps : m.KeepsSchema) {state : Record} (comes : m.ComesTo c source filter key b state) :
    state.schema = m.target.name := by
  cases comes with
  | @intro earlier later _ _ _ _ order _ built filled =>
    apply schema_of_filled compiled blank keeps _ built filled
    intro entry member
    rw [order]
    exact List.mem_append_left _ member

/-- What a mapping makes is an instance of its target. -/
theorem schema_of_toInstance (compiled : c.Compiled m) (blank : m.target.StartsBlank)
    (keeps : m.KeepsSchema) {value : Value} {made : Record}
    (h : m.toInstance c value filter = .ok (some made)) : made.schema = m.target.name := by
  obtain ⟨source, -, -, fresh, built, run⟩ := toInstance_eq_ok_some_iff.mp h
  exact schema_of_filled compiled blank keeps (fun _ ↦ id) built run

/-- What a chained binding makes is accepted wherever instances of the nested target are. -/
theorem accepts_of_chained (compiled : c.Compiled n) (blank : n.target.StartsBlank)
    (keeps : n.KeepsSchema) {target : Schema} {state : Record} {field : String} {reader : Method}
    {writer : Option Method} {value : Value}
    (h : instanceValue c target source state (.chained field reader writer n) = .ok value) :
    (Ty.record n.target.name).accepts value = true := by
  rw [Ty.accepts_record_iff]
  rcases eq_null_or_made_of_chained h with rfl | ⟨given, made, rfl, run⟩
  · exact .inl rfl
  · exact .inr ⟨made, rfl, schema_of_toInstance compiled blank keeps run⟩

/-- Of a ready mapping, what a direct binding makes is accepted by its reader's type. -/
theorem accepts_of_direct (ready : m.Ready source) {field : String} {reader : Method}
    {writer : Option Method} (member : (key, .direct field reader writer) ∈ m.bindings) {type : Ty}
    (returns : reader.returns = some type) {target : Schema} {state : Record} {value : Value}
    (h : instanceValue c target source state (.direct field reader writer) = .ok value) :
    type.accepts value = true := by
  obtain ⟨type', value', returns', read, accepted⟩ :=
    ready.reads key _ member reader List.mem_cons_self
  cases returns.symm.trans returns'
  have made : reader.call source [] = .ok value := mapError_eq_ok.mp h
  cases made.symm.trans read
  exact accepted

/-- What a run makes an instance of is reached. -/
theorem RunsInto.reaches {inner : Record} {own : FieldFilter}
    (h : RunsInto c m source filter n inner own) : m.Reaches source n inner := by
  induction h with
  | self m source _ => exact .self m source
  | nested comes read same _ ih => exact .nested comes.mem read same ih

end Mapping

/-- The fault of a value that was refused for its type, by the writer that was to assign it or by
the field that it was to be stored into. -/
def Fault.refusesType : Fault → Bool
  | .assignment _ _ (.argumentType _ _ _ _) => true
  | fault =>
    match fault.cause? with
    | some (.fieldType _ _ _ _) => true
    | _ => false

/-- The fault of a writer that was given the wrong number of arguments. -/
def Fault.miscountsArguments : Fault → Bool
  | .assignment _ _ (.argumentCount _ _ _) => true
  | _ => false

/-- A binding whose value is not compared with the types of the target before it is made: it is
computed, or stored as it was read into a public field whose type is not assignable from the
reader's. -/
inductive Binding.Unchecked (target : Schema) (key : String) : Binding → Prop
  | computed {combinator : Method} {readers : List Method} {writer : Option Method} :
      Unchecked target key (.synthetic key combinator readers writer)
  | stored {reader : Method} {f : FieldDef} {type : Ty}
      (declared : target.findField? key = some f) (isOpen : f.isPublic = true)
      (returns : reader.returns = some type) (apart : f.type.isAssignableFrom type = false) :
      Unchecked target key (.direct key reader none)

/-- A binding of a mapping that no change of a schema can disturb: where it stores into an instance,
the writers of the mapping keep the instance's schema, and where a nested mapping makes what it
assigns, so do the writers of that mapping. -/
structure Binding.Undisturbed (m : Mapping) (b : Binding) : Prop where
  receiver : b.writer? = none → m.KeepsSchema
  nested : ∀ n, b.nested? = some n → n.KeepsSchema

namespace Fault

variable {c : Catalog} {fault : Fault}

/-- A fault that precedes assignments neither refuses a value for its type nor miscounts the
arguments of a writer. -/
theorem Precedes.refusesType (h : fault.Precedes c) :
    fault.refusesType = false ∧ fault.miscountsArguments = false := by
  cases h with
  | mismatch => exact ⟨rfl, rfl⟩
  | @construction _ cause refused =>
    have other := Catalog.isOfChange_of_construct refused
    cases cause with
    | fieldType => cases other
    | _ => exact ⟨rfl, rfl⟩
  | @invocation _ _ _ _ cause refused =>
    have other := Method.isOfChange_of_call refused
    cases cause with
    | fieldType => cases other
    | _ => exact ⟨rfl, rfl⟩

end Fault

namespace Mapping

variable {c : Catalog} {target : Schema} {state : Record} {key : String} {value : Value}
  {fault : Fault}

private theorem refusesType_of_writer {writer : Method} {param : Ty}
    (params : writer.params = [param]) (accepted : param.accepts value = true)
    (h : assignField c target state key (some writer) value = .error fault) :
    fault.refusesType = false := by
  obtain ⟨after, cause, run, rfl⟩ := assignField_writer_eq_error_iff.mp h
  cases Method.refusesToAssign_of_assign run with
  | arguments rejected =>
    rw [Method.checkArgs_singleton params, if_pos accepted] at rejected
    cases rejected
  | _ => rfl

private theorem miscountsArguments_of_wired {b : Binding} (wired : b.Wired target key)
    (h : assignField c target state key b.writer? value = .error fault) :
    fault.miscountsArguments = false := by
  cases bound : b.writer? with
  | none =>
    rw [bound] at h
    obtain ⟨cause, -, rfl⟩ := assignField_none_eq_error_iff.mp h
    rfl
  | some w =>
    rw [bound] at h
    obtain ⟨-, param, -, params⟩ := wired.writer bound
    obtain ⟨after, cause, run, rfl⟩ := assignField_writer_eq_error_iff.mp h
    cases Method.refusesToAssign_of_assign run with
    | arguments rejected =>
      rw [Method.checkArgs_singleton params] at rejected
      split at rejected <;> cases rejected
      rfl
    | _ => rfl

private theorem refusesType_of_store (found : c.find? state.schema = some target) {f : FieldDef}
    (declared : target.findField? key = some f) (accepted : f.type.accepts value = true)
    (h : assignField c target state key none value = .error fault) :
    fault.refusesType = false := by
  obtain ⟨cause, refused, rfl⟩ := assignField_none_eq_error_iff.mp h
  rcases Catalog.unknown_or_refusesToStore refused with rfl | ⟨s, found', refuses⟩
  · rfl
  · cases found.symm.trans found'
    cases refuses with
    | type declared' isOpen rejected =>
      cases declared.symm.trans declared'
      rw [accepted] at rejected
      cases rejected
    | _ => rfl

/-- Where a run stops, no writer has been given the wrong number of arguments, and a value that was
refused for its type is that of an unchecked binding, unless the binding was disturbed. -/
theorem unchecked_of_stopsAt {m n : Mapping} {source : Record} {filter : FieldFilter} {b : Binding}
    (compiled : c.Compiled m) (blank : ∀ k, m.Contains k → k.target.StartsBlank)
    (ready : ∀ k inner, m.Reaches source k inner → k.Ready inner)
    (h : m.StopsAt c source filter n key b fault) :
    fault.miscountsArguments = false ∧
      (fault.refusesType = true → b.Undisturbed n → b.Unchecked n.target key) := by
  cases h with
  | @intro inner state own value runs comes made refused =>
    have contained : m.Contains n := runs.contains
    have compiled : c.Compiled n := compiled.contained contained
    have blankHere : n.target.StartsBlank := blank n contained
    have wired : b.Wired n.target key := compiled.wired_of_mem comes.mem
    refine ⟨miscountsArguments_of_wired wired refused, fun refuses undisturbed ↦ ?_⟩
    have found (bare : b.writer? = none) : c.find? state.schema = some n.target := by
      rw [schema_of_comesTo compiled blankHere (undisturbed.receiver bare) comes]
      exact compiled.registered.1
    -- of what a nested mapping makes, the schema is known; of what is read, the reader's type
    have acceptsNested {reader : Method} {writer : Option Method} {k : Mapping}
        (heq : b = .chained key reader writer k) :
        (Ty.record k.target.name).accepts value = true := by
      subst heq
      have inner : m.Contains k := contained.trans (.nested comes.mem (.self k))
      exact accepts_of_chained (compiled.nested comes.mem) (blank k inner)
        (undisturbed.nested k rfl) made
    have acceptsRead {reader : Method} {writer : Option Method} {type : Ty}
        (heq : b = .direct key reader writer) (returns : reader.returns = some type) :
        type.accepts value = true := by
      subst heq
      exact accepts_of_direct (ready n inner runs.reaches) comes.mem returns made
    have contradiction (accepted : fault.refusesType = false) : b.Unchecked n.target key := by
      rw [accepted] at refuses
      cases refuses
    cases wired with
    | written _ shape _ returns fits =>
      have accepted := Ty.accepts_of_isAssignableFrom fits (acceptsRead rfl returns)
      exact contradiction (refusesType_of_writer shape.params accepted refused)
    | writtenThrough _ shape _ =>
      exact contradiction (refusesType_of_writer shape.params (acceptsNested rfl) refused)
    | @stored reader f type exposed returns =>
      obtain ⟨declared, isOpen⟩ := n.target.findField?_of_exposedField? blankHere.distinct exposed
      cases assignable : f.type.isAssignableFrom type with
      | false => exact .stored declared isOpen returns assignable
      | true =>
        have accepted := Ty.accepts_of_isAssignableFrom assignable (acceptsRead rfl returns)
        exact contradiction (refusesType_of_store (found rfl) declared accepted refused)
    | @storedThrough reader f k exposed type =>
      obtain ⟨declared, -⟩ := n.target.findField?_of_exposedField? blankHere.distinct exposed
      have accepted : f.type.accepts value = true := type ▸ acceptsNested rfl
      exact contradiction (refusesType_of_store (found rfl) declared accepted refused)
    | computed _ => exact .computed

/-- Where no writer changes the schema of an instance, no binding that a run stops at was
disturbed. -/
theorem StopsAt.undisturbed {m n : Mapping} {source : Record} {filter : FieldFilter} {b : Binding}
    (h : m.StopsAt c source filter n key b fault) (keeps : ∀ k, m.Contains k → k.KeepsSchema) :
    b.Undisturbed n := by
  cases h with
  | intro runs comes made refused =>
    refine ⟨fun _ ↦ keeps n runs.contains, fun k maps ↦ ?_⟩
    cases b with
    | chained field reader writer inner =>
      cases maps
      exact keeps k (runs.contains.trans (.nested comes.mem (.self k)))
    | _ => cases maps

/-- Carried out on a record that was read, a compiled mapping whose sources are made of properties
and whose targets start blank fails with the fault of any binding that it stops at. No writer is
ever given the wrong number of arguments. Whatever is refused for its type is the value of an
unchecked binding, of the mapping or of a nested one, unless the binding was disturbed: a direct
binding with a writer never refuses one, a store may where a writer of the same mapping changes the
schema of the instance, and what a nested mapping makes may be refused where a writer of that
mapping does so. -/
theorem unchecked_of_refused {target : String} {defaults : FieldFilter} {m : Mapping}
    (compiled : c.compile target defaults = .ok m)
    (made : ∀ n, m.Contains n → c.MadeOfProperties n.source)
    (blank : ∀ n, m.Contains n → n.target.StartsBlank) {document : Json} {source : Record}
    (read : c.read document m.source = .ok source) (filter : FieldFilter) :
    (∀ n key b fault, m.StopsAt c source filter n key b fault →
        m.toInstance c source.toValue filter = .error fault ∧
          fault.miscountsArguments = false ∧
          (fault.refusesType = true → b.Undisturbed n → b.Unchecked n.target key)) ∧
      ∀ fault, m.toInstance c source.toValue filter = .error fault →
        fault.miscountsArguments = false ∧
          (fault.refusesType = true → ∃ n key b, m.StopsAt c source filter n key b fault ∧
            (b.Undisturbed n → b.Unchecked n.target key)) := by
  have compiled : c.Compiled m := (Catalog.compiled_of_compile compiled).1
  obtain ⟨same, ready⟩ := ready_of_read compiled made read
  constructor
  · intro n key b fault stops
    exact ⟨toInstance_eq_error_of_stopsAt same stops,
      unchecked_of_stopsAt compiled blank ready stops⟩
  · intro fault failed
    rcases precedes_or_stopsAt failed with precedes | ⟨given, heq, -, n, key, b, stops⟩
    · obtain ⟨noType, noCount⟩ := precedes.refusesType
      refine ⟨noCount, fun refuses ↦ ?_⟩
      rw [noType] at refuses
      cases refuses
    · obtain rfl : source = given := by simpa using congrArg Value.record? heq
      obtain ⟨noCount, unchecked⟩ := unchecked_of_stopsAt compiled blank ready stops
      exact ⟨noCount, fun refuses ↦ ⟨n, key, b, stops, unchecked refuses⟩⟩

end Mapping

namespace Staff

/-- Writes the name of a badge by code of its own. -/
def setName : Method where
  name := "setName"
  params := [.string]
  returns := none
  body := .mutator fun receiver args ↦ (receiver.set "name" (args.headD .null), .ok ())

/-- A badge shows a name, and years into which an age is stored without being compared. -/
def badge : Schema where
  name := "Badge"
  serializedFrom := some "Person"
  fields := [
    { name := "name", type := .string },
    { name := "years", type := .string, isPublic := true, fromField := some "age" }]
  methods := [setName]

/-- Pins a badge to a pass. -/
def setBoss : Method where
  name := "setBoss"
  params := [.record "Badge"]
  returns := none
  body := .setter "boss"
  chaining := some ⟨none, []⟩

/-- A pass shows the badge of the boss. -/
def pass : Schema where
  name := "Pass"
  serializedFrom := some "Person"
  fields := [{ name := "boss", type := .record "Badge" }]
  methods := [setBoss]

/-- Persons, their badges and their passes. -/
def gate : Catalog := (catalog.register badge).register pass

/-- What badges are compiled to. -/
def toBadge : Mapping :=
  .mk badge "Person" .all [
    ("name", .direct "name" (.readerOf "name" .string) (some setName)),
    ("years", .direct "years" (.readerOf "age" .integer) none)]

/-- What passes are compiled to. -/
def toPass : Mapping :=
  .mk pass "Person" .all [
    ("boss", .chained "boss" (.readerOf "boss" (.record "Person")) (some setBoss) toBadge)]

/-- Years are not an age. -/
def noYears : Fault := .store "years" "Badge" (.fieldType "Badge" "years" .string "integer")

private theorem eq_of_contains_pass {n : Mapping} (h : toPass.Contains n) :
    n = toPass ∨ n = toBadge := by
  rcases Mapping.contains_iff.mp h with rfl | ⟨key, field, reader, writer, k, member, inner⟩
  · exact .inl rfl
  · simp only [toPass, Mapping.bindings, List.mem_singleton, Prod.mk.injEq,
      Binding.chained.injEq] at member
    obtain ⟨-, -, -, -, rfl⟩ := member
    rcases Mapping.contains_iff.mp inner with rfl | ⟨key, field, reader, writer, k, member, -⟩
    · exact .inr rfl
    · simp [toBadge, Mapping.bindings] at member

private theorem keepsSchema_setName : setName.KeepsSchema := by
  intro receiver args after run
  simp only [Method.assign, setName] at run
  split at run
  · cases run
  · cases run
    rfl

end Staff

namespace Mapping

/-- The age of the boss is refused for its type when it is stored into the badge on a pass. -/
theorem unchecked_of_refused_pass :
    Staff.gate.compile "Pass" .all = .ok Staff.toPass ∧
      (∀ n, Staff.toPass.Contains n → Staff.gate.MadeOfProperties n.source) ∧
      (∀ n, Staff.toPass.Contains n → n.target.StartsBlank) ∧
      (∀ n, Staff.toPass.Contains n → n.KeepsSchema) ∧
      Staff.gate.read Staff.documentOfAda "Person" = .ok Staff.ada ∧
      Staff.toPass.toInstance Staff.gate Staff.ada.toValue .all = .error Staff.noYears ∧
      Staff.noYears.refusesType = true ∧
      ∃ n key b, Staff.toPass.StopsAt Staff.gate Staff.ada .all n key b Staff.noYears ∧
        b.Unchecked n.target key := by
  have compiled : Staff.gate.compile "Pass" .all = .ok Staff.toPass := by
    cbv
  have made : ∀ n, Staff.toPass.Contains n → Staff.gate.MadeOfProperties n.source := by
    have found : Staff.gate.find? "Person" = some Staff.person := by
      cbv
    intro n contained
    have source : n.source = "Person" := by
      rcases Staff.eq_of_contains_pass contained with rfl | rfl <;> rfl
    rw [source]
    exact Staff.madeOfProperties_of_find? found
  have blank : ∀ n, Staff.toPass.Contains n → n.target.StartsBlank := by
    intro n contained
    rcases Staff.eq_of_contains_pass contained with rfl | rfl
    · exact ⟨rfl, by decide⟩
    · exact ⟨rfl, by decide⟩
  have keeps : ∀ n, Staff.toPass.Contains n → n.KeepsSchema := by
    intro n contained key b member w bound
    rcases Staff.eq_of_contains_pass contained with rfl | rfl
    · simp only [Staff.toPass, bindings, List.mem_singleton, Prod.mk.injEq] at member
      obtain ⟨rfl, rfl⟩ := member
      cases bound
      exact Method.keepsSchema_of_body fun run ↦ Body.noConfusion
    · simp only [Staff.toBadge, bindings, List.mem_cons, List.not_mem_nil, or_false,
        Prod.mk.injEq] at member
      rcases member with ⟨rfl, rfl⟩ | ⟨rfl, rfl⟩ <;> cases bound
      exact Staff.keepsSchema_setName
  have read : Staff.gate.read Staff.documentOfAda "Person" = .ok Staff.ada := by
    cbv
  have failed :
      Staff.toPass.toInstance Staff.gate Staff.ada.toValue .all = .error Staff.noYears := by
    cbv
  obtain ⟨-, refused⟩ := unchecked_of_refused compiled made blank read .all
  obtain ⟨-, unchecked⟩ := refused Staff.noYears failed
  obtain ⟨n, key, b, stops, unchecked⟩ := unchecked rfl
  exact ⟨compiled, made, blank, keeps, read, failed, rfl, n, key, b, stops,
    unchecked (stops.undisturbed keeps)⟩

end Mapping

namespace Staff

/-- Lets a visitor in, under a name and as a guest. -/
def letIn : Method where
  name := "setName"
  params := [.string]
  returns := none
  body := .mutator fun receiver args ↦
    ({ receiver.set "name" (args.headD .null) with schema := "Guest" }, .ok ())

/-- A visitor has a name, and an age that is stored as it is. -/
def visitor : Schema where
  name := "Visitor"
  serializedFrom := some "Person"
  fields := [
    { name := "name", type := .string },
    { name := "age", type := .integer, isPublic := true }]
  methods := [letIn]

/-- The age of a guest is only spoken of. -/
def guest : Schema where
  name := "Guest"
  fields := [
    { name := "name", type := .string },
    { name := "age", type := .string, isPublic := true }]

/-- Persons, visitors and guests. -/
def lobby : Catalog := (catalog.register visitor).register guest

/-- How the age of a visitor is filled in. -/
def ageOfVisitor : Binding := .direct "age" (.readerOf "age" .integer) none

/-- What visitors are compiled to. -/
def toVisitor : Mapping :=
  .mk visitor "Person" .all [
    ("name", .direct "name" (.readerOf "name" .string) (some letIn)), ("age", ageOfVisitor)]

/-- The age of a guest is no number. -/
def noNumber : Fault := .store "age" "Visitor" (.fieldType "Guest" "age" .string "integer")

private theorem eq_of_contains_visitor {n : Mapping} (h : toVisitor.Contains n) :
    n = toVisitor := by
  rcases Mapping.contains_iff.mp h with rfl | ⟨key, field, reader, writer, k, member, -⟩
  · rfl
  · simp [toVisitor, ageOfVisitor, Mapping.bindings] at member

/-- A visitor who has been let in. -/
def adaLetIn : Record := ⟨"Guest", [("name", .string "Ada"), ("age", .null)]⟩

private theorem stopsAt_age :
    toVisitor.StopsAt lobby ada .all toVisitor "age" ageOfVisitor noNumber := by
  have order : toVisitor.bindings =
      [("name", .direct "name" (.readerOf "name" .string) (some letIn))] ++
        ("age", ageOfVisitor) :: [] := rfl
  have built : Mapping.construct lobby visitor = .ok visitor.blank := by
    cbv
  have filled : Mapping.fillBindings lobby visitor .all ada
      [("name", .direct "name" (.readerOf "name" .string) (some letIn))] visitor.blank =
        .ok adaLetIn := by
    cbv
  have read : Mapping.instanceValue lobby visitor ada adaLetIn ageOfVisitor =
      .ok (.integer 36) := by
    cbv
  have refused : Mapping.assignField lobby visitor adaLetIn "age" none (.integer 36) =
      .error noNumber := by
    cbv
  exact .intro (.self _ _ _) (.intro order rfl built filled) read refused

private theorem not_unchecked_age : ¬ ageOfVisitor.Unchecked visitor "age" := by
  rintro (_ | ⟨declared, -, returns, apart⟩)
  cases declared
  cases returns
  cases apart

end Staff

namespace Mapping

/-- User code can have a value refused for its type that compiling has compared: the writer of the
name turns the visitor into a guest, and the age, though it is declared as it is read, is then
stored by the rules of guests. -/
theorem refusesType_of_letIn :
    Staff.lobby.compile "Visitor" .all = .ok Staff.toVisitor ∧
      (∀ n, Staff.toVisitor.Contains n → Staff.lobby.MadeOfProperties n.source) ∧
      (∀ n, Staff.toVisitor.Contains n → n.target.StartsBlank) ∧
      Staff.lobby.read Staff.documentOfAda "Person" = .ok Staff.ada ∧
      Staff.toVisitor.toInstance Staff.lobby Staff.ada.toValue .all = .error Staff.noNumber ∧
      Staff.noNumber.refusesType = true ∧
      Staff.toVisitor.StopsAt Staff.lobby Staff.ada .all Staff.toVisitor "age"
        Staff.ageOfVisitor Staff.noNumber ∧
      ¬ Staff.ageOfVisitor.Unchecked Staff.visitor "age" := by
  have made : ∀ n, Staff.toVisitor.Contains n → Staff.lobby.MadeOfProperties n.source := by
    have found : Staff.lobby.find? "Person" = some Staff.person := by
      cbv
    intro n contained
    rw [Staff.eq_of_contains_visitor contained]
    exact Staff.madeOfProperties_of_find? found
  have blank : ∀ n, Staff.toVisitor.Contains n → n.target.StartsBlank := by
    intro n contained
    rw [Staff.eq_of_contains_visitor contained]
    exact ⟨rfl, by decide⟩
  exact ⟨by cbv, made, blank, by cbv, by cbv, rfl, Staff.stopsAt_age, Staff.not_unchecked_age⟩

end Mapping

end Fieldwise
