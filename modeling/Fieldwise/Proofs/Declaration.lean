import Fieldwise.Schema
import Fieldwise.Proofs.Gathering

/-!
# Declarations that fill target fields

A target schema says in three ways how its fields are filled: by a method that computes a field
from several source fields, by a writer of one parameter, and by a public field. A writer and a
public field are both a slot that takes one value read from the source. A method counts
wherever it stands; a public field counts only where no method fills the field of its name, and of
several public fields of one name only the first does.
-/

namespace Fieldwise

/-- An element of a target that takes one value read from the source. -/
structure Slot where
  /-- The target field that is filled. -/
  key : String
  /-- The source field that is read. -/
  sourceField : String
  type : Ty
  chaining : Option Chaining
  /-- The method that assigns the value; a public field is stored into without one. -/
  writer : Option Method

/-- The slot of a writer with one parameter. -/
def Method.slot (m : Method) (param : Ty) : Slot where
  key := Accessor.field m.name
  sourceField := m.fromField.getD (Accessor.field m.name)
  type := param
  chaining := m.chaining
  writer := some m

/-- The slot of a public field. -/
def FieldDef.slot (f : FieldDef) : Slot where
  key := f.name
  sourceField := f.fromField.getD f.name
  type := f.type
  chaining := f.chaining
  writer := none

/-- The slot of a writer is filled under the field that the writer is named for. -/
@[simp] theorem Method.key_slot (m : Method) (param : Ty) :
    (m.slot param).key = Accessor.field m.name := rfl

/-- A declaration that fills a target field. -/
inductive Declaration where
  | computed (combinator : Method) (synthesis : Synthesis)
  | slot (slot : Slot)

/-- The target field that a declaration fills. -/
def Declaration.key : Declaration → String
  | computed _ synthesis => synthesis.target
  | slot s => s.key

/-- What a method declares: a computed field, or a slot if it is a writer with one parameter. -/
def Method.declaration? (m : Method) : Option Declaration :=
  match m.synthesis with
  | some synthesis => some (.computed m synthesis)
  | none =>
    match m.params with
    | [param] => if Accessor.isWriter m.name then some (.slot (m.slot param)) else none
    | _ => none

/-- A field that mappings may store into. -/
def FieldDef.isExposed (f : FieldDef) : Bool := f.isPublic && !f.isTransient

namespace Schema

/-- What the methods of a schema declare, in order. -/
def methodDeclarations (s : Schema) : List Declaration := s.methods.filterMap Method.declaration?

/-- The first exposed field of a name. -/
def exposedField? (s : Schema) (name : String) : Option FieldDef :=
  s.fields.find? fun f ↦ f.isExposed && f.name == name

/-- A declaration that counts. -/
def Live (s : Schema) (d : Declaration) : Prop :=
  d ∈ s.methodDeclarations ∨
    ∃ f, s.exposedField? f.name = some f ∧ d = .slot f.slot ∧
      ∀ m ∈ s.methodDeclarations, m.key ≠ f.name

/-- The declaration that a target field goes by: the last method that fills it or, if there is
none, the first exposed field of its name. -/
def owner? (s : Schema) (key : String) : Option Declaration :=
  (lastOf Declaration.key s.methodDeclarations key).or
    ((s.exposedField? key).map fun f ↦ .slot f.slot)

end Schema

/-- The exposed fields whose names are neither taken nor those of earlier exposed fields. -/
def freshFields (taken : List String) : List FieldDef → List FieldDef
  | [] => []
  | f :: rest =>
    if f.isExposed && !taken.contains f.name then f :: freshFields (f.name :: taken) rest
    else freshFields taken rest

/-- The declarations that count, in order: methods first, then fields. -/
def Schema.declarations (s : Schema) : List Declaration :=
  s.methodDeclarations ++
    (freshFields (s.methodDeclarations.map Declaration.key) s.fields).map fun f ↦ .slot f.slot

/-- Under a name stands the first exposed field, unless the name is taken. -/
theorem find?_freshFields (taken : List String) (fields : List FieldDef) (name : String) :
    (freshFields taken fields).find? (·.name == name) =
      if name ∈ taken then none else fields.find? fun f ↦ f.isExposed && f.name == name := by
  induction fields generalizing taken with
  | nil => simp [freshFields]
  | cons f rest ih =>
    by_cases hf : f.isExposed && !taken.contains f.name
    · obtain ⟨exposed, free⟩ : f.isExposed = true ∧ f.name ∉ taken := by simpa using hf
      by_cases hn : f.name = name
      · subst hn
        simp [freshFields, exposed, free]
      · have hn' : ¬ name = f.name := fun e ↦ hn e.symm
        simp [freshFields, exposed, free, hn, hn', ih]
    · rw [freshFields, if_neg hf, ih]
      split
      · rfl
      · next free =>
        have skipped : (f.isExposed && f.name == name) = false := by
          by_cases hn : f.name = name
          · subst hn
            simpa [free] using hf
          · simp [hn]
        rw [List.find?_cons_of_neg (by simp [skipped])]

/-- A field that is kept has a name that was not taken. -/
theorem name_not_mem_of_mem_freshFields {taken : List String} {fields : List FieldDef}
    {f : FieldDef} (h : f ∈ freshFields taken fields) : f.name ∉ taken := by
  induction fields generalizing taken with
  | nil => cases h
  | cons g rest ih =>
    rw [freshFields] at h
    split at h
    · next hg =>
      rcases List.mem_cons.mp h with rfl | h
      · simpa using (Bool.and_eq_true_iff.mp hg).2
      · exact fun taken ↦ ih h (List.mem_cons_of_mem _ taken)
    · exact ih h

/-- The fields that are kept have distinct names. -/
theorem nodup_names_freshFields (taken : List String) (fields : List FieldDef) :
    ((freshFields taken fields).map FieldDef.name).Nodup := by
  induction fields generalizing taken with
  | nil => simp [freshFields]
  | cons f rest ih =>
    rw [freshFields]
    split
    · rw [List.map_cons, List.nodup_cons]
      refine ⟨?_, ih _⟩
      intro member
      obtain ⟨g, hg, same⟩ := List.mem_map.mp member
      exact name_not_mem_of_mem_freshFields hg (same ▸ List.mem_cons_self)
    · exact ih _

namespace Schema

variable (s : Schema)

/-- The last declaration of a key, among those that count, is its owner. -/
theorem lastOf_declarations (key : String) :
    lastOf Declaration.key s.declarations key = s.owner? key := by
  have fields : lastOf Declaration.key
      ((freshFields (s.methodDeclarations.map Declaration.key) s.fields).map fun f ↦
        .slot f.slot) key =
      if key ∈ s.methodDeclarations.map Declaration.key then none
      else (s.exposedField? key).map fun f ↦ .slot f.slot := by
    rw [lastOf_eq_find?, List.find?_map]
    · change ((freshFields _ s.fields).find? (·.name == key)).map _ = _
      rw [find?_freshFields]
      split <;> rfl
    · rw [List.map_map]
      exact nodup_names_freshFields _ _
  have parts : lastOf Declaration.key s.declarations key =
      (if key ∈ s.methodDeclarations.map Declaration.key then none
        else (s.exposedField? key).map fun f ↦ Declaration.slot f.slot).or
      (lastOf Declaration.key s.methodDeclarations key) := by
    rw [← fields]
    simp only [lastOf, declarations, List.reverse_append, List.find?_append]
  rw [parts, owner?]
  cases h : lastOf Declaration.key s.methodDeclarations key with
  | none =>
    have free : key ∉ s.methodDeclarations.map Declaration.key := by
      intro member
      obtain ⟨d, hd, same⟩ := List.mem_map.mp member
      exact lastOf_eq_none_iff.mp h d hd same
    simp [free]
  | some d =>
    obtain ⟨member, same⟩ := mem_of_lastOf h
    have taken : key ∈ s.methodDeclarations.map Declaration.key :=
      List.mem_map.mpr ⟨d, member, same⟩
    simp [taken]

/-- The declarations in order are the ones that count. -/
theorem mem_declarations {d : Declaration} : d ∈ s.declarations ↔ s.Live d := by
  rw [declarations, List.mem_append, Live, List.mem_map]
  refine or_congr_right ⟨?_, ?_⟩
  · rintro ⟨f, member, rfl⟩
    have free := name_not_mem_of_mem_freshFields member
    have first := find?_freshFields (s.methodDeclarations.map Declaration.key) s.fields f.name
    rw [if_neg free] at first
    refine ⟨f, ?_, rfl, ?_⟩
    · rw [exposedField?, ← first]
      exact find?_key_of_mem (nodup_names_freshFields _ _) member
    · intro m hm same
      exact free (List.mem_map.mpr ⟨m, hm, same⟩)
  · rintro ⟨f, first, rfl, free⟩
    have free : f.name ∉ s.methodDeclarations.map Declaration.key := by
      intro member
      obtain ⟨m, hm, same⟩ := List.mem_map.mp member
      exact free m hm same
    refine ⟨f, ?_, rfl⟩
    have found := find?_freshFields (s.methodDeclarations.map Declaration.key) s.fields f.name
    rw [if_neg free] at found
    exact List.mem_of_find?_eq_some (found.trans first)

end Schema

end Fieldwise
