/-!
# Field filters

A filter lists the target fields that are wanted. An empty filter wants all of them, and gives way
to a filter of lesser rank.
-/

namespace Fieldwise

/-- A list of wanted fields; empty wants every field. -/
structure FieldFilter where
  fields : List String
  deriving DecidableEq, Repr, Inhabited

namespace FieldFilter

/-- The filter that wants every field. -/
def all : FieldFilter := ⟨[]⟩

/-- Whether the filter lists no field, and so wants every field. -/
def isEmpty (f : FieldFilter) : Bool := f.fields.isEmpty

/-- Whether a field is wanted. -/
def allows (f : FieldFilter) (field : String) : Bool := f.isEmpty || f.fields.contains field

/-- The filter itself if it lists a field, and otherwise the fallback. -/
def effective (f fallback : FieldFilter) : FieldFilter := if f.isEmpty then fallback else f

/-- The filter that lists nothing wants every field. -/
@[simp] theorem allows_all (field : String) : all.allows field = true := rfl

/-- Where no filter is given, the default filter applies. -/
@[simp] theorem effective_all (fallback : FieldFilter) : all.effective fallback = fallback := rfl

/-- A filter that lists some field wants exactly the listed ones. -/
theorem allows_iff_mem {f : FieldFilter} (h : f.fields ≠ []) {field : String} :
    f.allows field = true ↔ field ∈ f.fields := by
  simp [allows, isEmpty, h]

end FieldFilter

end Fieldwise
