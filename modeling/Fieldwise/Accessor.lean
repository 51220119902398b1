import Fieldwise.Text.Casing

/-!
# Accessor names

A reader of a field is named `get`, a writer `set`, followed by the field's name with its first
character in upper case. Nothing else of the name changes.
-/

namespace Fieldwise.Accessor

/-- The name of a field's reader. -/
def reader (field : String) : String := "get" ++ Text.capitalize field

/-- The name of a field's writer. -/
def writer (field : String) : String := "set" ++ Text.capitalize field

/-- Whether an accessor is named like a writer. -/
def isWriter (accessor : String) : Bool :=
  match accessor.toList with
  | 's' :: 'e' :: 't' :: _ => true
  | _ => false

/-- What follows the prefix of an accessor's name, if it has one. -/
def stem (accessor : String) : String :=
  match accessor.toList with
  | 'g' :: 'e' :: 't' :: rest => String.ofList rest
  | 's' :: 'e' :: 't' :: rest => String.ofList rest
  | _ => accessor

/-- The field that an accessor addresses. -/
def field (accessor : String) : String := Text.uncapitalize (stem accessor)

/-- The stem of a reader's name is the name that it reads, capitalized. -/
@[simp] theorem stem_reader (name : String) : stem (reader name) = Text.capitalize name := by
  simp [stem, reader, String.toList_append]

/-- The stem of a writer's name is the name that it writes, capitalized. -/
@[simp] theorem stem_writer (name : String) : stem (writer name) = Text.capitalize name := by
  simp [stem, writer, String.toList_append]

/-- What a writer is called counts as a writer's name. -/
@[simp] theorem isWriter_writer (name : String) : isWriter (writer name) = true := by
  simp [isWriter, writer, String.toList_append]

/-- What a reader is called does not count as a writer's name. -/
@[simp] theorem isWriter_reader (name : String) : isWriter (reader name) = false := by
  simp [isWriter, reader, String.toList_append]

end Fieldwise.Accessor
