/-!
# Schema errors

Why a schema document, a path of documents, or the document of a record was turned down.
-/

namespace Fieldwise

/-- The written forms of schema documents. -/
inductive DocumentFormat where
  | json
  | yaml
  deriving DecidableEq, Repr

/-- Why schemas could not be loaded or a record could not be read. -/
inductive SchemaError where
  | unknownSchema (name : String)
  | missingPath (path : String)
  | malformed (format : DocumentFormat)
  | notAnObject (schema : String)
  | fieldValue (field schema expected found : String)
  | bodyCount (method schema : String)
  | formatResult (method schema : String)
  | nativeWriter (method schema : String)
  | unknownCombinator (schema method combinator : String)
  | unreadable
  deriving DecidableEq, Repr

namespace SchemaError

/-- The broad kinds of schema errors. -/
inductive Kind where
  | notFound
  | invalidFormat
  | unknownCombinator
  | io
  deriving DecidableEq, Repr

/-- The kind of an error. -/
def kind : SchemaError → Kind
  | unknownSchema _ | missingPath _ => .notFound
  | unknownCombinator _ _ _ => .unknownCombinator
  | unreadable => .io
  | malformed _ | notAnObject _ | fieldValue _ _ _ _ | bodyCount _ _ | formatResult _ _
  | nativeWriter _ _ => .invalidFormat

/-- What an error says beside its kind. -/
private def detail : SchemaError → String
  | unknownSchema name => s!"Schema '{name}' is not registered"
  | missingPath path => s!"Schema path {path} does not exist"
  | malformed .json => "JSON parse error"
  | malformed .yaml => "YAML parse error"
  | notAnObject schema => s!"Expected a JSON object for schema '{schema}'"
  | fieldValue field schema expected found =>
    s!"Field '{field}' of schema '{schema}' expects '{expected}' but found '{found}'"
  | bodyCount method schema =>
    s!"Method '{method}' of schema '{schema}' must declare exactly one of " ++
      "getter, setter, format, native"
  | formatResult method schema =>
    s!"Method '{method}' of schema '{schema}' has a format body and must return string"
  | nativeWriter method schema =>
    s!"Writer '{method}' of schema '{schema}' cannot assign through a native body; use setter"
  | unknownCombinator schema method combinator =>
    s!"Method '{method}' of schema '{schema}' refers to unknown combinator '{combinator}'"
  | unreadable => "IO error"

/-- The text of the error. -/
def message (e : SchemaError) : String :=
  match e.kind with
  | .notFound => "Schema not found: " ++ e.detail
  | .invalidFormat => "Invalid schema format: " ++ e.detail
  | .unknownCombinator | .io => e.detail

end SchemaError

end Fieldwise
