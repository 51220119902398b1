import Fieldwise.Schema.Access

/-!
# Mapping faults

Why a schema has no mapping, and why a mapping could not be carried out. Each fault names its
cause; its kind and its text follow from that.
-/

namespace Fieldwise

/-- The cause of a failed mapping. -/
inductive Fault where
  | unknownSerializer (target : String)
  | undeclaredSource (target : String)
  | unknownSource (target source : String)
  | missingReader (reader source : String)
  | silentReader (reader source : String)
  | argumentCount (combinator target : String) (params sources : Nat)
  | parameterType (index : Nat) (combinator target : String) (param : Ty) (reader source : String)
      (returns : Option Ty)
  | writerType (writer target : String) (param : Ty) (returns : Option Ty) (reader : String)
  | serializerType (serializer element target : String) (declared : Ty)
  | notASerializer (declared : Ty) (element target : String)
  | cycle (serializer element target : String)
  | sourceMismatch (target expected found : String)
  | construction (target : String) (cause : AccessError)
  | invocation (accessor schema : String) (cause : AccessError)
  | assignment (writer target : String) (cause : AccessError)
  | store (field target : String) (cause : AccessError)
  deriving DecidableEq, Repr

namespace Fault

/-- The broad kinds of faults. -/
inductive Kind where
  | notASerializer
  | sourceMismatch
  | missingAccessor
  | typeMismatch
  | argCountMismatch
  | constructionFailure
  | accessDenied
  | invocationFailure
  | assignmentFailure
  deriving DecidableEq, Repr

/-- The label of a kind. -/
def Kind.label : Kind → String
  | notASerializer => "not a serializer"
  | sourceMismatch => "source mismatch"
  | missingAccessor => "missing accessor"
  | typeMismatch => "type mismatch"
  | argCountMismatch => "argument count mismatch"
  | constructionFailure => "construction failure"
  | accessDenied => "access denied"
  | invocationFailure => "invocation failure"
  | assignmentFailure => "assignment failure"

/-- The kind of a refused change of the target: a closed field denies access, a refusal by a user's
computation counts as a failed invocation. -/
def changeKind : AccessError → Kind
  | .fieldNotAccessible _ _ => .accessDenied
  | .failed _ _ => .invocationFailure
  | _ => .assignmentFailure

/-- The kind of a fault. -/
def kind : Fault → Kind
  | unknownSerializer _ | undeclaredSource _ | unknownSource _ _ | notASerializer _ _ _
  | cycle _ _ _ => .notASerializer
  | missingReader _ _ | silentReader _ _ => .missingAccessor
  | argumentCount _ _ _ _ => .argCountMismatch
  | parameterType _ _ _ _ _ _ _ | writerType _ _ _ _ _ | serializerType _ _ _ _ => .typeMismatch
  | sourceMismatch _ _ _ => .sourceMismatch
  | construction _ _ => .constructionFailure
  | invocation _ _ _ => .invocationFailure
  | assignment _ _ cause | store _ _ cause => changeKind cause

/-- The refused access behind a fault. -/
def cause? : Fault → Option AccessError
  | construction _ cause | invocation _ _ cause | assignment _ _ cause | store _ _ cause =>
    some cause
  | _ => none

/-- The written form of a result type. -/
private def resultText : Option Ty → String
  | some type => type.text
  | none => "nothing"

/-- The text of a fault without its kind. -/
def message : Fault → String
  | unknownSerializer target => s!"Serializer '{target}' is not a known schema"
  | undeclaredSource target =>
    s!"Serializer '{target}' does not declare the schema it is serialized from"
  | unknownSource target source =>
    s!"Serializer '{target}' is serialized from unknown schema '{source}'"
  | missingReader reader source => s!"No method named '{reader}' on schema '{source}'"
  | silentReader reader source => s!"Method '{reader}' on schema '{source}' returns nothing"
  | argumentCount combinator target params sources =>
    s!"Combinator '{combinator}' on '{target}' takes {params} arguments but {sources} " ++
      "source fields are declared"
  | parameterType index combinator target param reader source returns =>
    s!"Parameter {index} of '{combinator}' on '{target}' is '{param.text}' but " ++
      s!"'{reader}' on '{source}' returns '{resultText returns}'"
  | writerType writer target param returns reader =>
    s!"'{writer}' on '{target}' takes '{param.text}' which cannot hold " ++
      s!"'{resultText returns}' returned by '{reader}'"
  | serializerType serializer element target declared =>
    s!"Serializer '{serializer}' of '{element}' on '{target}' does not match declared type " ++
      s!"'{declared.text}'"
  | notASerializer declared element target =>
    s!"Type '{declared.text}' of '{element}' on '{target}' is not a serializer"
  | cycle serializer element target =>
    s!"Serializer '{serializer}' of '{element}' on '{target}' chains back into itself"
  | sourceMismatch target expected found =>
    s!"Source object does not match serializer '{target}': expected '{expected}', found '{found}'"
  | construction target _ => s!"Could not instantiate instance of type '{target}'"
  | invocation accessor schema _ => s!"Could not invoke '{accessor}' on object of type '{schema}'"
  | assignment writer target _ => s!"Could not invoke '{writer}' on object of type '{target}'"
  | store field target _ => s!"Could not set field '{field}' on object of type '{target}'"

/-- The text of a fault after the label of its kind. -/
def display (f : Fault) : String := f.kind.label ++ ": " ++ f.message

end Fault

end Fieldwise
