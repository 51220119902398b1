import Fieldwise.Proofs.Compiled

/-!
# How bindings are wired

Each binding of a compiled mapping goes back to a declaration of the target. What the declaration
fixes about the way into the target, and what compiling has compared of the types on that way, is
said here once, with one case for each way: values that are read or mapped, through a writer or into
a public field, and values that are computed.
-/

namespace Fieldwise

/-- A method of the shape of a writer: its name is a writer's, and it takes one parameter. -/
structure Method.IsWriterOf (m : Method) (param : Ty) : Prop where
  named : Accessor.isWriter m.name = true
  params : m.params = [param]

/-- How the binding of a target field is wired to the declarations of the target. -/
inductive Binding.Wired (target : Schema) (key : String) : Binding → Prop
  | written {reader writer : Method} {param type : Ty}
      (declared : writer ∈ target.methods) (shape : writer.IsWriterOf param)
      (plain : writer.synthesis = none) (returns : reader.returns = some type)
      (fits : param.isAssignableFrom type = true) :
      Wired target key (.direct key reader (some writer))
  | stored {reader : Method} {f : FieldDef} {type : Ty}
      (declared : target.exposedField? key = some f) (returns : reader.returns = some type) :
      Wired target key (.direct key reader none)
  | writtenThrough {reader writer : Method} {n : Mapping}
      (declared : writer ∈ target.methods)
      (shape : writer.IsWriterOf (.record n.target.name)) (plain : writer.synthesis = none) :
      Wired target key (.chained key reader (some writer) n)
  | storedThrough {reader : Method} {f : FieldDef} {n : Mapping}
      (declared : target.exposedField? key = some f) (type : f.type = .record n.target.name) :
      Wired target key (.chained key reader none n)
  | computed {combinator : Method} {readers : List Method} {writer : Option Method}
      (assigns : ∀ w, writer = some w →
        w ∈ target.methods ∧ ∃ f, target.findField? key = some f ∧ w.IsWriterOf f.type) :
      Wired target key (.synthetic key combinator readers writer)

/-- A bound writer is a method of the target of the shape of a writer. -/
theorem Binding.Wired.writer {target : Schema} {key : String} {b : Binding} {w : Method}
    (h : b.Wired target key) (bound : b.writer? = some w) :
    w ∈ target.methods ∧ ∃ param, w.IsWriterOf param := by
  cases h with
  | written declared shape _ _ _ =>
    cases bound
    exact ⟨declared, _, shape⟩
  | writtenThrough declared shape _ =>
    cases bound
    exact ⟨declared, _, shape⟩
  | computed assigns =>
    obtain ⟨declared, f, -, shape⟩ := assigns w bound
    exact ⟨declared, f.type, shape⟩
  | stored _ _ => cases bound
  | storedThrough _ _ => cases bound

namespace Schema

variable {s : Schema} {key : String}

/-- What counts as filling a field from a single source field is a writer or an exposed field. -/
theorem Live.exists_of_slot {slot : Slot} (h : s.Live (.slot slot)) :
    (∃ w param, w ∈ s.methods ∧ w.IsWriterOf param ∧ w.synthesis = none ∧
        slot = w.slot param) ∨
      ∃ f, s.exposedField? f.name = some f ∧ slot = f.slot := by
  rcases h with member | ⟨f, exposed, same, -⟩
  · obtain ⟨w, declared, h⟩ := List.mem_filterMap.mp member
    refine .inl ⟨w, ?_⟩
    rw [Method.declaration?] at h
    split at h
    · cases h
    · next plain =>
      split at h
      · next param params =>
        split at h
        · next named =>
          cases h
          exact ⟨param, declared, ⟨named, params⟩, plain, rfl⟩
        · cases h
      · cases h
  · cases same
    exact .inr ⟨f, exposed, rfl⟩

/-- What counts as computing a field is a method that is marked so. -/
theorem Live.mem_of_computed {combinator : Method} {synthesis : Synthesis}
    (h : s.Live (.computed combinator synthesis)) :
    combinator ∈ s.methods ∧ combinator.synthesis = some synthesis := by
  rcases h with member | ⟨f, -, same, -⟩
  · obtain ⟨m, declared, h⟩ := List.mem_filterMap.mp member
    rw [Method.declaration?] at h
    split at h
    · next marked =>
      cases h
      exact ⟨declared, marked⟩
    · split at h
      · split at h <;> cases h
      · cases h
  · cases same

/-- An exposed field of a name is public and, if names are distinct, the field of that name. -/
theorem findField?_of_exposedField? (distinct : (s.fields.map FieldDef.name).Nodup) {f : FieldDef}
    (h : s.exposedField? key = some f) : s.findField? key = some f ∧ f.isPublic = true := by
  obtain ⟨exposed, named⟩ : f.isExposed = true ∧ f.name = key := by
    simpa using List.find?_some h
  constructor
  · rw [findField?, ← named]
    exact find?_key_of_mem distinct (List.mem_of_find?_eq_some h)
  · exact (Bool.and_eq_true_iff.mp exposed).1

end Schema

/-- The writer of a computed field is a method of the target that takes the field's type. -/
theorem Scope.isWriterOf_of_writerFor? {s : Scope} {field : String} {w : Method}
    (h : s.writerFor? field = some w) :
    w ∈ s.target.methods ∧ ∃ f, s.target.findField? field = some f ∧ w.IsWriterOf f.type := by
  obtain ⟨f, found, h⟩ := Option.bind_eq_some_iff.mp h
  have shape : w.name = Accessor.writer field ∧ w.params = [f.type] := by
    simpa using List.find?_some h
  refine ⟨List.mem_of_find?_eq_some h, f, found, ?_, shape.2⟩
  rw [shape.1]
  exact Accessor.isWriter_writer field

namespace Catalog.Compiled

variable {c : Catalog} {m : Mapping} {key : String} {b : Binding}

/-- A binding of a compiled mapping is that of a declaration of its field that counts. -/
theorem exists_live_of_mem (h : c.Compiled m) (member : (key, b) ∈ m.bindings) :
    ∃ d, m.target.Live d ∧ d.key = key ∧ (c.scope [] m.target m.source).Binds d b := by
  obtain ⟨d, owns, binds⟩ :=
    h.binds_owner ((Table.mem_iff_find?_eq_some h.nodup_names).mp member)
  rw [← m.target.lastOf_declarations] at owns
  obtain ⟨counts, same⟩ := mem_of_lastOf owns
  exact ⟨d, m.target.mem_declarations.mp counts, same, binds⟩

/-- The bindings of a compiled mapping are wired to its target. -/
theorem wired_of_mem (h : c.Compiled m) (member : (key, b) ∈ m.bindings) :
    b.Wired m.target key := by
  obtain ⟨d, counts, rfl, binds⟩ := h.exists_live_of_mem member
  cases binds with
  | computed _ _ =>
    exact .computed fun w bound ↦ Scope.isWriterOf_of_writerFor? bound
  | @direct slot reader type plain reads returns fits =>
    rcases counts.exists_of_slot with
      ⟨w, param, declared, shape, notComputed, rfl⟩ | ⟨f, exposed, rfl⟩
    · exact .written declared shape notComputed returns (fits rfl)
    · exact .stored exposed returns
  | @chained slot chaining serializer reader n chains names outside compiled reads =>
    have target : n.target.name = serializer := (compiled_of_compile compiled).2.1
    have type : slot.type = .record n.target.name := target ▸ names.1
    rcases counts.exists_of_slot with
      ⟨w, param, declared, shape, notComputed, rfl⟩ | ⟨f, exposed, rfl⟩
    · cases type
      exact .writtenThrough declared shape notComputed
    · exact .storedThrough exposed type

end Catalog.Compiled

end Fieldwise
