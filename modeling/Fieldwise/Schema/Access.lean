import Fieldwise.Schema
import Fieldwise.Template

/-!
# Access to instances

Construction, invocation of methods, and direct stores, with the reasons for which each of them
may be refused. A refused setter or store leaves the record as it was.
-/

namespace Fieldwise

/-- Why an instance could not be built, read or changed. -/
inductive AccessError where
  | unknownSchema (name : String)
  | inaccessibleConstructor (schema : String)
  | noDefaultConstructor (schema : String) (arity : Nat)
  | constructorFailed (schema reason : String)
  | noSuchField (schema field : String)
  | fieldNotAccessible (schema field : String)
  | fieldType (schema field : String) (expected : Ty) (found : String)
  | argumentCount (accessor : String) (expected actual : Nat)
  | argumentType (accessor : String) (index : Nat) (expected : Ty) (found : String)
  | readOnlyReceiver (accessor : String)
  | notAWriter (accessor : String)
  | failed (accessor reason : String)
  deriving DecidableEq, Repr

namespace AccessError

/-- The reason given by a user's computation, if it was the one that refused. -/
def reason? : AccessError → Option String
  | constructorFailed _ reason => some reason
  | failed _ reason => some reason
  | _ => none

/-- The text of the error. -/
def message : AccessError → String
  | unknownSchema name => s!"Unknown schema '{name}'"
  | inaccessibleConstructor schema => s!"Constructor of '{schema}' is not accessible"
  | noDefaultConstructor schema arity =>
    s!"'{schema}' has no zero-argument constructor (constructor takes {arity} argument(s))"
  | constructorFailed schema reason => s!"Constructor of '{schema}' failed: {reason}"
  | noSuchField schema field => s!"No field '{field}' on object of type '{schema}'"
  | fieldNotAccessible schema field =>
    s!"Field '{field}' on object of type '{schema}' is not publicly writable"
  | fieldType schema field expected found =>
    s!"Illegal value of type '{found}' for field '{field}' of type '{expected.text}' on '{schema}'"
  | argumentCount accessor expected actual =>
    s!"'{accessor}' expects {expected} argument(s) but was given {actual}"
  | argumentType accessor index expected found =>
    s!"Illegal argument {index} of type '{found}' for '{accessor}': expected '{expected.text}'"
  | readOnlyReceiver accessor => s!"'{accessor}' cannot be invoked on a read-only receiver"
  | notAWriter accessor => s!"'{accessor}' does not assign into its receiver"
  | failed accessor reason => s!"Invocation of '{accessor}' failed: {reason}"

end AccessError

namespace Method

/-- The first argument, counted from `index`, that its parameter does not accept. -/
def firstMismatch? (index : Nat) : List Ty → List Value → Option (Nat × Ty × Value)
  | param :: params, arg :: args =>
    if param.accepts arg then firstMismatch? (index + 1) params args else some (index, param, arg)
  | _, _ => none

/-- The arguments must be as many as the parameters and each must be accepted. -/
def checkArgs (m : Method) (args : List Value) : Except AccessError Unit :=
  if args.length ≠ m.arity then .error (.argumentCount m.name m.arity args.length)
  else match firstMismatch? 0 m.params args with
    | some (index, param, arg) => .error (.argumentType m.name index param arg.kind)
    | none => .ok ()

/-- Run a method that leaves its receiver alone. -/
def call (m : Method) (receiver : Record) (args : List Value) : Except AccessError Value := do
  m.checkArgs args
  match m.body with
  | .getter field =>
    match receiver.get? field with
    | some value => .ok value
    | none => .error (.noSuchField receiver.schema field)
  | .format template => .ok (.string (Template.render template args))
  | .native run =>
    match run receiver args with
    | .ok value => .ok value
    | .error reason => .error (.failed m.name reason)
  | .setter _ | .mutator _ => .error (.readOnlyReceiver m.name)

/-- Run a method that assigns its arguments into its receiver: the receiver afterwards, and
whether the method succeeded. -/
def assign (m : Method) (receiver : Record) (args : List Value) :
    Record × Except AccessError Unit :=
  match m.body with
  | .setter field =>
    match m.checkArgs args with
    | .error e => (receiver, .error e)
    | .ok () =>
      if receiver.has field then
        match args with
        | value :: _ => (receiver.set field value, .ok ())
        | [] => (receiver, .ok ())
      else (receiver, .error (.noSuchField receiver.schema field))
  | .mutator run =>
    match m.checkArgs args with
    | .error e => (receiver, .error e)
    | .ok () =>
      match run receiver args with
      | (after, .ok ()) => (after, .ok ())
      | (after, .error reason) => (after, .error (.failed m.name reason))
  | .getter _ | .format _ | .native _ => (receiver, .error (.notAWriter m.name))

end Method

namespace Schema

/-- A new instance, built the declared way. -/
def instantiate (s : Schema) : Except AccessError Record :=
  match s.construction with
  | .blank => .ok s.blank
  | .inaccessible => .error (.inaccessibleConstructor s.name)
  | .requires arity => .error (.noDefaultConstructor s.name arity)
  | .native build =>
    match build with
    | .ok record => .ok record
    | .error reason => .error (.constructorFailed s.name reason)

/-- Store a value into a public field of a record: the record afterwards, and whether the store
succeeded. -/
def store (s : Schema) (record : Record) (field : String) (value : Value) :
    Record × Except AccessError Unit :=
  match s.findField? field with
  | none => (record, .error (.noSuchField s.name field))
  | some definition =>
    if !definition.isPublic then (record, .error (.fieldNotAccessible s.name field))
    else if !definition.type.accepts value then
      (record, .error (.fieldType s.name field definition.type value.kind))
    else (record.set field value, .ok ())

end Schema

end Fieldwise
