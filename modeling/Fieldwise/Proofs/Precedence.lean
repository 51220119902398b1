import Fieldwise.Proofs.Property

/-!
# Order and precedence of bindings

The bindings of a target stand in the order in which its declarations first name a field: methods
first, then the exposed fields that no method fills. Of several methods that fill one field the last
one is bound, at the place of the first; of several exposed fields of one name the first one is.
-/

namespace Fieldwise

open Outcome

/-- The target field that a method fills, if it fills one: the one that it computes, or the one that
a writer with one parameter is named for. -/
def Method.target? (m : Method) : Option String :=
  match m.synthesis with
  | some synthesis => some synthesis.target
  | none =>
    if Accessor.isWriter m.name && m.arity == 1 then some (Accessor.field m.name) else none

/-- What a method declares fills the method's target field. -/
theorem Method.map_key_declaration? (m : Method) :
    m.declaration?.map Declaration.key = m.target? := by
  rw [declaration?, target?]
  cases m.synthesis with
  | some synthesis => rfl
  | none =>
    rcases hp : m.params with - | ⟨param, - | ⟨second, rest⟩⟩
    · simp [arity, hp]
    · by_cases named : Accessor.isWriter m.name
      · simp [arity, hp, named, Declaration.key]
      · simp [named]
    · simp [arity, hp]

namespace Schema

variable (s : Schema)

/-- The target fields that methods fill, in the order of the methods. -/
def methodTargets : List String := s.methods.filterMap Method.target?

/-- The names of the exposed fields, in order. -/
def exposedNames : List String := (s.fields.filter FieldDef.isExposed).map FieldDef.name

/-- The last method that fills a target field. -/
def filler? (key : String) : Option Method := s.methods.reverse.find? (·.target? == some key)

/-- The declarations of methods fill the fields that the methods do. -/
theorem map_key_methodDeclarations :
    s.methodDeclarations.map Declaration.key = s.methodTargets := by
  rw [methodDeclarations, methodTargets, List.map_filterMap]
  congr 1
  funext m
  exact m.map_key_declaration?

/-- The last declaration of a key by methods is that of the last method that fills it. -/
theorem lastOf_methodDeclarations (key : String) :
    lastOf Declaration.key s.methodDeclarations key = (s.filler? key).bind Method.declaration? := by
  have same : (fun m : Method ↦ m.declaration?.any (Declaration.key · == key)) =
      fun m ↦ m.target? == some key := by
    funext m
    rw [← m.map_key_declaration?]
    cases m.declaration? <;> simp
  rw [lastOf, methodDeclarations, ← List.filterMap_reverse, List.find?_filterMap, same, filler?]

/-- The fields that are kept have the names that are exposed and not taken, each once. -/
theorem map_name_freshFields (taken : List String) (fields : List FieldDef) :
    (freshFields taken fields).map FieldDef.name =
      (((fields.filter FieldDef.isExposed).map FieldDef.name).filter (· ∉ taken)).eraseDups := by
  induction fields generalizing taken with
  | nil => rfl
  | cons f rest ih =>
    have later : ((rest.filter FieldDef.isExposed).map FieldDef.name).filter
          (· ∉ f.name :: taken) =
        (((rest.filter FieldDef.isExposed).map FieldDef.name).filter (· ∉ taken)).filter
          (fun name ↦ !name == f.name) := by
      rw [List.filter_filter]
      refine List.filter_congr fun name _ ↦ ?_
      by_cases same : name = f.name <;> simp [same]
    cases exposed : f.isExposed with
    | false => simp [freshFields, exposed, ih]
    | true =>
      by_cases known : f.name ∈ taken
      · simp [freshFields, exposed, known, ih]
      · have kept : freshFields taken (f :: rest) = f :: freshFields (f.name :: taken) rest := by
          simp [freshFields, exposed, known]
        have first : (((f :: rest).filter FieldDef.isExposed).map FieldDef.name).filter
              (· ∉ taken) =
            f.name :: ((rest.filter FieldDef.isExposed).map FieldDef.name).filter (· ∉ taken) := by
          simp [exposed, known]
        rw [kept, List.map_cons, ih, later, first, List.eraseDups_cons]

end Schema

private theorem eraseDups_of_nodup {l : List String} (distinct : l.Nodup) : l.eraseDups = l := by
  induction l with
  | nil => rfl
  | cons a rest ih =>
    obtain ⟨fresh, distinct⟩ := List.nodup_cons.mp distinct
    have kept : rest.filter (fun b ↦ !b == a) = rest := by
      refine List.filter_eq_self.mpr fun b member ↦ ?_
      have other : b ≠ a := fun same ↦ fresh (same ▸ member)
      simp [other]
    rw [List.eraseDups_cons, kept, ih distinct]

/-- The names of a gathered table are the keys of the items, each at its first occurrence. -/
theorem names_gather {α β ε : Type} {key : α → String} {value : α → Except ε β} {items : List α}
    {t : Table β} (h : gather Table.put key value [] items = .ok t) :
    t.names = (items.map key).eraseDups := by
  -- from the end of the list, since `put` appends a name that is new
  induction items using List.reverseRecOn generalizing t with
  | nil =>
    cases h
    rfl
  | append_singleton rest item ih =>
    simp only [gather_append, gather_cons, gather_nil, bind_eq_ok, Except.ok.injEq] at h
    obtain ⟨before, earlier, b, -, rfl⟩ := h
    rw [Table.names_put, ih earlier, List.map_append, List.map_singleton, eraseDups_concat]
    simp only [List.mem_eraseDups]

namespace Scope

variable (s : Scope)

/-- The bindings of a target stand in the order in which its methods, and then its exposed fields,
first name their fields. -/
theorem names_of_bindings {bound : Table Binding} (h : s.bindings = .ok bound) :
    bound.names = s.target.methodTargets.eraseDups ++
      (s.target.exposedNames.filter (· ∉ s.target.methodTargets)).eraseDups := by
  rw [bindings_eq_gather] at h
  have fields : ((freshFields s.target.methodTargets s.target.fields).map fun f ↦
      Declaration.slot f.slot).map Declaration.key =
        (freshFields s.target.methodTargets s.target.fields).map FieldDef.name := by
    rw [List.map_map]
    rfl
  have apart : ((freshFields s.target.methodTargets s.target.fields).map FieldDef.name).removeAll
      s.target.methodTargets =
        (freshFields s.target.methodTargets s.target.fields).map FieldDef.name := by
    refine List.filter_eq_self.mpr fun name member ↦ ?_
    obtain ⟨f, kept, rfl⟩ := List.mem_map.mp member
    simpa using name_not_mem_of_mem_freshFields kept
  rw [names_gather h, Schema.declarations, List.map_append, Schema.map_key_methodDeclarations,
    fields, List.eraseDups_append, apart, eraseDups_of_nodup (nodup_names_freshFields _ _),
    Schema.map_name_freshFields, Schema.exposedNames]

/-- The entry of a field is built from the last method that fills the field and, if there is none,
from the first exposed field of its name. -/
theorem binds_filler_of_bindings {bound : Table Binding} (h : s.bindings = .ok bound) {key : String}
    {b : Binding} (member : (key, b) ∈ bound) :
    ∃ d, d.key = key ∧ s.Binds d b ∧
      match s.target.filler? key with
      | some method => method.declaration? = some d
      | none => ∃ f, s.target.exposedField? key = some f ∧ d = .slot f.slot := by
  obtain ⟨d, owns, binds⟩ := s.binds_owner_of_mem h member
  refine ⟨d, ?_, binds, ?_⟩
  · rw [← s.target.lastOf_declarations] at owns
    exact (mem_of_lastOf owns).2
  · rw [Schema.owner?, Schema.lastOf_methodDeclarations] at owns
    cases filled : s.target.filler? key with
    | none =>
      rw [filled] at owns
      obtain ⟨f, exposed, same⟩ := Option.map_eq_some_iff.mp owns
      exact ⟨f, exposed, same.symm⟩
    | some method =>
      have fills : method.target? = some key := by
        simpa using List.find?_some filled
      rw [← method.map_key_declaration?] at fills
      obtain ⟨declared, declares, -⟩ := Option.map_eq_some_iff.mp fills
      rw [filled, Option.bind_some, declares] at owns
      cases owns
      exact declares

/-- The writer that is looked up for a field takes exactly the field's declared type. -/
theorem writerFor?_eq_some_iff {field : String} {writer : Method} :
    s.writerFor? field = some writer ↔ ∃ f, s.target.findField? field = some f ∧
      s.target.findMethod? (Accessor.writer field) [f.type] = some writer :=
  Option.bind_eq_some_iff

variable {s}

/-- A computed field is computed by the method that declares it. -/
theorem Binds.of_computed {combinator : Method} {synthesis : Synthesis} {b : Binding}
    (h : s.Binds (.computed combinator synthesis) b) :
    b.combinator? = some combinator ∧ b.writer? = s.writerFor? synthesis.target := by
  cases h with
  | computed sources types => exact ⟨rfl, rfl⟩

/-- A slot is assigned by its own writer, and nothing computes it. -/
theorem Binds.of_slot {slot : Slot} {b : Binding} (h : s.Binds (.slot slot) b) :
    b.combinator? = none ∧ b.writer? = slot.writer := by
  cases h with
  | direct plain reads returns fits => exact ⟨rfl, rfl⟩
  | chained chains names outside compiled reads => exact ⟨rfl, rfl⟩

end Scope

/-- The declaration of a writer is a slot that the writer itself assigns. -/
theorem Method.exists_slot_of_declaration? {m : Method} {d : Declaration}
    (plain : m.synthesis = none) (h : m.declaration? = some d) :
    ∃ slot, d = .slot slot ∧ slot.writer = some m := by
  rw [declaration?, plain] at h
  rcases hp : m.params with - | ⟨param, - | ⟨second, rest⟩⟩
  · simp [hp] at h
  · simp only [hp] at h
    split at h
    · cases h
      exact ⟨_, rfl, rfl⟩
    · cases h
  · simp [hp] at h

namespace Catalog

/-- The keys of a compiled mapping are the fields that methods of the registered target fill, in the
order of the methods, and then the other exposed fields, each at its first occurrence. The entry of
a key produces the field of that name. It is built from the last method that fills the key: a
computing method assigns by the writer of exactly the field's type, if there is one, and a writer
assigns by itself. Where no method fills the key, the entry is built from the first exposed field of
that name and assigns without a writer. -/
theorem bindings_in_order {c : Catalog} {target : String} {defaults : FieldFilter}
    {m : Mapping} (result : c.compile target defaults = .ok m) :
    c.find? target = some m.target ∧
      m.bindings.names = m.target.methodTargets.eraseDups ++
        (m.target.exposedNames.filter (· ∉ m.target.methodTargets)).eraseDups ∧
      ∀ key b, (key, b) ∈ m.bindings → b.field = key ∧
        ∃ d, d.key = key ∧ (c.scope [] m.target m.source).Binds d b ∧
          match m.target.filler? key with
          | some method => method.declaration? = some d ∧
            match method.synthesis with
            | some _ => b.combinator? = some method ∧ ∀ writer, b.writer? = some writer ↔
                ∃ f, m.target.findField? key = some f ∧
                  m.target.findMethod? (Accessor.writer key) [f.type] = some writer
            | none => b.combinator? = none ∧ b.writer? = some method
          | none => b.combinator? = none ∧ b.writer? = none ∧
            ∃ f, m.target.exposedField? key = some f ∧ d = .slot f.slot := by
  obtain ⟨compiled, rfl, -⟩ := compiled_of_compile result
  refine ⟨compiled.registered.1, Scope.names_of_bindings _ compiled.bindings,
    fun key b member ↦ ?_⟩
  obtain ⟨d, same, binds, built⟩ := Scope.binds_filler_of_bindings _ compiled.bindings member
  simp only [scope] at built
  refine ⟨(Scope.field_of_binds _ binds).trans same, d, same, binds, ?_⟩
  -- who assigns is read off what the binding was built from
  cases filled : m.target.filler? key with
  | none =>
    rw [filled] at built
    obtain ⟨f, exposed, rfl⟩ := built
    obtain ⟨computes, assigns⟩ := binds.of_slot
    exact ⟨computes, assigns, f, exposed, rfl⟩
  | some method =>
    simp only [filled] at built
    refine ⟨built, ?_⟩
    cases marked : method.synthesis with
    | none =>
      obtain ⟨slot, rfl, own⟩ := method.exists_slot_of_declaration? marked built
      obtain ⟨computes, assigns⟩ := binds.of_slot
      exact ⟨computes, assigns.trans own⟩
    | some synthesis =>
      rw [Method.declaration?, marked] at built
      cases built
      obtain ⟨computes, assigns⟩ := binds.of_computed
      refine ⟨computes, fun writer ↦ ?_⟩
      rw [assigns]
      cases same
      exact Scope.writerFor?_eq_some_iff _

end Catalog

namespace Staff

private theorem filler?_head : card.filler? "head" = some setHeadToName := by
  cbv

private theorem head_mem_toCard :
    ("head", .direct "head" (.readerOf "name" .string) (some setHeadToName)) ∈ toCard.bindings := by
  simp [toCard, Mapping.bindings]

/-- A card's head comes first, as its first writer does, and is assigned by its last writer; the
boss, whom no method fills, comes last. -/
theorem bindings_in_order_card :
    catalog.compile "Card" .all = .ok toCard ∧
      toCard.bindings.names = ["head", "text", "twice", "boss"] ∧
      ("head", .direct "head" (.readerOf "name" .string) (some setHeadToName)) ∈ toCard.bindings ∧
      ∃ d, d.key = "head" ∧ setHeadToName.declaration? = some d ∧
        (catalog.scope [] card "Person").Binds d
          (.direct "head" (.readerOf "name" .string) (some setHeadToName)) := by
  obtain ⟨-, names, entries⟩ := Catalog.bindings_in_order compile_card
  have target : toCard.target = card := rfl
  have targets : card.methodTargets = ["head", "text", "twice", "head"] := by cbv
  have exposed : card.exposedNames = ["head", "text", "twice", "boss"] := by cbv
  refine ⟨compile_card, ?_, head_mem_toCard, ?_⟩
  · rw [names, target, targets, exposed]
    decide
  · obtain ⟨-, d, same, binds, built⟩ := entries "head" _ head_mem_toCard
    rw [target, filler?_head] at built
    exact ⟨d, same, built.1, binds⟩

end Staff

end Fieldwise
