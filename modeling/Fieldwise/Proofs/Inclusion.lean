import Fieldwise.Proofs.Readiness
import Fieldwise.Proofs.Wiring

/-!
# Assignability is inclusion

Types are compared twice: with each other when a mapping is compiled, and with values when it is
carried out. The two comparisons define one order. A type may be stored where another is declared
exactly when every value of the former is one of the latter, and where it may not, there is a value
to show it. So a writer that has passed the comparison of types is never refused a value for its
type, and one that has not could have been.
-/

namespace Fieldwise

open Outcome

namespace Ty

/-- Every value that `source` accepts is accepted by `target`. -/
def Includes (target source : Ty) : Prop :=
  ∀ value, source.accepts value = true → target.accepts value = true

/-- A value of `source` that `target` rejects, if there is one. For the widest type a flag will do,
except against the type of flags. -/
def separator (target : Ty) : Ty → Value
  | any => if target = boolean then .integer 0 else .boolean true
  | boolean => .boolean true
  | integer => .integer 0
  | decimal => .decimal (.zero false)
  | string => .string ""
  | list => .list []
  | map => .map []
  | record name => .record name []

/-- The widest type accepts every value. -/
theorem accepts_any (value : Value) : any.accepts value = true := by
  cases value <;> rfl

/-- A separator is a value of the second type. -/
theorem accepts_separator (target source : Ty) :
    source.accepts (target.separator source) = true := by
  cases source with
  | any => exact accepts_any _
  | record name => simp [separator, accepts]
  | _ => rfl

/-- A type that is not assignable from another rejects the separator. -/
theorem not_accepts_separator {target source : Ty}
    (apart : target.isAssignableFrom source = false) :
    target.accepts (target.separator source) = false := by
  simp only [isAssignableFrom, Bool.or_eq_false_iff, Bool.and_eq_false_iff, beq_eq_false_iff_ne]
    at apart
  obtain ⟨⟨distinct, narrow⟩, widens⟩ := apart
  cases source with
  | any =>
    by_cases flags : target = boolean
    · subst flags
      rfl
    · rw [separator, if_neg flags]
      cases target <;> simp_all [accepts]
  | record name =>
    cases target with
    | any => exact absurd rfl narrow
    | record other =>
      have names : name ≠ other := fun same ↦ distinct (congrArg record same.symm)
      simpa [separator, accepts] using names
    | _ => rfl
  | _ => cases target <;> simp_all [separator, accepts]

/-- A type may be stored where another is declared exactly when all its values may. -/
theorem isAssignableFrom_iff_includes {target source : Ty} :
    target.isAssignableFrom source = true ↔ target.Includes source := by
  constructor
  · intro assignable value
    exact accepts_of_isAssignableFrom assignable
  · intro includes
    by_contra apart
    rw [Bool.not_eq_true] at apart
    have taken := includes _ (accepts_separator target source)
    rw [not_accepts_separator apart] at taken
    cases taken

end Ty

/-- A writer that accepts its arguments refuses for another reason. -/
theorem Method.rejectsArguments_of_assign {m : Method} {receiver after : Record}
    {args : List Value} {cause : AccessError} (accepted : m.checkArgs args = .ok ())
    (h : m.assign receiver args = (after, .error cause)) : cause.rejectsArguments = false := by
  cases refusesToAssign_of_assign h with
  | arguments rejected =>
    rw [accepted] at rejected
    cases rejected
  | _ => rfl

/-- A plain writer passes the comparison of types exactly when it includes what the reader of its
source field is declared to return. -/
theorem Scope.exists_written_iff {s : Scope} {writer reader : Method} {param type : Ty}
    {field sourceField : String} (plain : writer.chaining = none)
    (reads : s.catalog.reader s.source sourceField = .ok reader)
    (returns : reader.returns = some type) :
    (∃ b, s.written writer param field sourceField = .ok b) ↔ param.Includes type := by
  rw [← Ty.isAssignableFrom_iff_includes]
  simp only [written, plain, reads, returns, bind, Except.bind, Option.any_some]
  by_cases fits : param.isAssignableFrom type = true <;> simp [fits]

/-- A plain writer of a compiled mapping includes what its reader is declared to return. -/
theorem Catalog.Compiled.includes_of_written {c : Catalog} {m : Mapping} (h : c.Compiled m)
    {key field : String} {reader writer : Method}
    (member : (key, .direct field reader (some writer)) ∈ m.bindings) :
    ∃ param type, writer.params = [param] ∧ reader.returns = some type ∧ param.Includes type := by
  cases h.wired_of_mem member with
  | @written _ _ param type declared shape plain returns fits =>
    exact ⟨param, type, shape.params, returns, Ty.isAssignableFrom_iff_includes.mp fits⟩

/-- A type may be stored where another is declared exactly when the latter accepts every value that
the former accepts. This is an order, and where it fails a value shows so. A plain writer passes the
comparison exactly when it accepts all that its reader's type does, and in a compiled mapping, at
every depth, no plain writer rejects such a value for its type. -/
theorem Catalog.assignable_exactly_where_included :
    (∀ target source : Ty, target.isAssignableFrom source = true ↔
        ∀ value, source.accepts value = true → target.accepts value = true) ∧
      (∀ type : Ty, type.isAssignableFrom type = true) ∧
      (∀ a b c : Ty, a.isAssignableFrom b = true → b.isAssignableFrom c = true →
        a.isAssignableFrom c = true) ∧
      (∀ target source : Ty, target.isAssignableFrom source = false →
        source.accepts (target.separator source) = true ∧
          target.accepts (target.separator source) = false) ∧
      (∀ (s : Scope) (writer reader : Method) (param type : Ty) (field sourceField : String),
        writer.chaining = none → s.catalog.reader s.source sourceField = .ok reader →
          reader.returns = some type →
            ((∃ b, s.written writer param field sourceField = .ok b) ↔ param.Includes type)) ∧
      ∀ (c : Catalog) (target : String) (defaults : FieldFilter) (m n : Mapping),
        c.compile target defaults = .ok m → m.Contains n → ∀ key field reader writer,
          (key, .direct field reader (some writer)) ∈ n.bindings →
            ∃ type, reader.returns = some type ∧
              ∀ value, type.accepts value = true → writer.checkArgs [value] = .ok () ∧
                ∀ receiver after cause, writer.assign receiver [value] = (after, .error cause) →
                  cause.rejectsArguments = false := by
  refine ⟨fun target source ↦ Ty.isAssignableFrom_iff_includes, ?_, ?_, ?_, ?_, ?_⟩
  · intro type
    apply Ty.isAssignableFrom_iff_includes.mpr
    exact fun _ ↦ id
  · intro a b c first second
    rw [Ty.isAssignableFrom_iff_includes] at first second ⊢
    exact fun value taken ↦ first value (second value taken)
  · intro target source apart
    exact ⟨Ty.accepts_separator target source, Ty.not_accepts_separator apart⟩
  · intro s writer reader param type field sourceField plain reads returns
    exact Scope.exists_written_iff plain reads returns
  · intro c target defaults m n compiled contained key field reader writer member
    have nested : c.Compiled n := (compiled_of_compile compiled).1.contained contained
    obtain ⟨param, type, params, returns, includes⟩ := nested.includes_of_written member
    refine ⟨type, returns, fun value taken ↦ ?_⟩
    have accepted : writer.checkArgs [value] = .ok () := by
      rw [Method.checkArgs_singleton params, if_pos (includes value taken)]
    exact ⟨accepted, fun receiver after cause ↦ Method.rejectsArguments_of_assign accepted⟩

namespace Staff

/-- Notes the age of a person as a decimal. -/
def setYears : Method where
  name := "setYears"
  params := [.decimal]
  returns := none
  body := .setter "years"
  fromField := some "age"

/-- A chart shows the years of a person. -/
def chart : Schema where
  name := "Chart"
  serializedFrom := some "Person"
  fields := [{ name := "years", type := .decimal }]
  methods := [setYears]

/-- What charts are compiled to. -/
def toChart : Mapping :=
  .mk chart "Person" .all [("years", .direct "years" (.readerOf "age" .integer) (some setYears))]

/-- A chart takes any whole number for the years of a person, though it declares a decimal; a text
shows that not every type would do. -/
theorem assignable_exactly_where_included_chart :
    (catalog.register chart).compile "Chart" .all = .ok toChart ∧ toChart.Contains toChart ∧
      ("years", .direct "years" (.readerOf "age" .integer) (some setYears)) ∈ toChart.bindings ∧
      (∀ years, setYears.checkArgs [.integer years] = .ok ()) ∧
      Ty.decimal.isAssignableFrom .string = false ∧
      Ty.decimal.accepts (Ty.separator .decimal .string) = false := by
  obtain ⟨-, -, -, apart, -, written⟩ := Catalog.assignable_exactly_where_included
  have compiled : (catalog.register chart).compile "Chart" .all = .ok toChart := by
    cbv
  have member : ("years", .direct "years" (.readerOf "age" .integer) (some setYears)) ∈
      toChart.bindings := List.mem_singleton.mpr rfl
  have self : toChart.Contains toChart := .self toChart
  obtain ⟨type, returns, takes⟩ :=
    written (catalog.register chart) "Chart" .all toChart toChart compiled self _ _ _ _ member
  cases returns
  exact ⟨compiled, self, member, fun years ↦ (takes (.integer years) rfl).1, rfl,
    (apart .decimal .string rfl).2⟩

end Staff

end Fieldwise
