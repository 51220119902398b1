import Fieldwise.Proofs.Conformance
import Fieldwise.Proofs.Filling
import Fieldwise.Proofs.Property

/-!
# Instances are well formed

What a mapping makes has the fields of its target in order, each with a value that the field
accepts, whatever the source holds and whatever computing methods return. A new instance has them,
and an assignment only replaces the value of a declared field by one that was checked. The same
holds of what nested mappings have placed in an instance.
-/

namespace Fieldwise

open Outcome

/-- A record is an instance of a schema: it is named for the schema and has its fields in order of
declaration, each with a value that the field accepts. -/
structure Schema.HasInstance (s : Schema) (record : Record) : Prop where
  schema : record.schema = s.name
  names : record.names = s.fields.map FieldDef.name
  filled : s.FilledBy record

namespace Schema

variable {s : Schema} {record : Record}

/-- With distinct names, a blank instance has the declared fields in order. -/
theorem names_blank (distinct : (s.fields.map FieldDef.name).Nodup) :
    s.blank.names = s.fields.map FieldDef.name := by
  rw [blank]
  generalize s.fields = fields at distinct ⊢
  induction fields using List.reverseRecOn with
  | nil => rfl
  | append_singleton rest f ih =>
    rw [List.map_append, List.nodup_append] at distinct
    obtain ⟨earlier, -, apart⟩ := distinct
    have fresh : f.name ∉ rest.map FieldDef.name :=
      fun member ↦ apart f.name member f.name List.mem_cons_self rfl
    rw [List.foldl_append, List.map_append]
    simp only [List.foldl_cons, List.foldl_nil]
    rw [Record.names_set, ih earlier, if_neg fresh]
    rfl

/-- A blank instance is an instance. -/
theorem hasInstance_blank (distinct : (s.fields.map FieldDef.name).Nodup) :
    s.HasInstance s.blank where
  schema := s.schema_blank
  names := names_blank distinct
  filled := by
    intro f declared
    refine ⟨.null, ?_, f.type.accepts_null⟩
    rw [get?_blank, if_pos (List.mem_map_of_mem declared)]

/-- An instance stays one when a declared field takes an accepted value. -/
theorem HasInstance.set (h : s.HasInstance record)
    (distinct : (s.fields.map FieldDef.name).Nodup) {f : FieldDef} (declared : f ∈ s.fields)
    {value : Value} (accepted : f.type.accepts value = true) :
    s.HasInstance (record.set f.name value) where
  schema := h.schema
  names := by
    have present : f.name ∈ record.names := h.names ▸ List.mem_map_of_mem declared
    rw [Record.names_set, if_pos present, h.names]
  filled := by
    intro g other
    rw [Record.get?_set]
    by_cases same : f.name = g.name
    · obtain rfl : f = g := List.inj_on_of_nodup_map distinct declared other same
      exact ⟨value, if_pos rfl, accepted⟩
    · rw [if_neg same]
      exact h.filled g other

/-- What an instance has is declared. -/
theorem HasInstance.exists_field (h : s.HasInstance record) {field : String}
    (present : record.has field = true) : ∃ f ∈ s.fields, f.name = field := by
  have listed : field ∈ record.names := Table.mem_names_iff.mpr present
  rw [h.names] at listed
  exact List.mem_map.mp listed

end Schema

namespace Mapping

/-- The writers of a mapping are not code of users, and what a setter takes may be assigned to the
field that it sets. -/
structure SetsFitting (m : Mapping) : Prop where
  plain : ∀ key b, (key, b) ∈ m.bindings → b.WritesPlainly
  fits : ∀ key b, (key, b) ∈ m.bindings → ∀ w, b.writer? = some w → ∀ field,
    w.body = .setter field → ∀ f ∈ m.target.fields, f.name = field →
      ∀ param ∈ w.params, f.type.isAssignableFrom param = true

/-- An instance that a mapping makes under a filter is well formed: it is an instance of the target,
and where the last assignment was that of a nested mapping it holds nothing, or a record that is
well formed for that mapping. -/
inductive WellFormed : Mapping → FieldFilter → Record → Prop
  | intro {m : Mapping} {filter : FieldFilter} {made : Record} (own : m.target.HasInstance made)
      (placed : ∀ field key own reader writer n,
        lastInto (filter.effective m.defaults) m.bindings field =
            some (key, .chained own reader writer n) →
          made.get? field = some .null ∨ ∃ inner : Record, made.get? field = some inner.toValue)
      (nested : ∀ field key own reader writer n,
        lastInto (filter.effective m.defaults) m.bindings field =
            some (key, .chained own reader writer n) →
          ∀ inner : Record, made.get? field = some inner.toValue → n.WellFormed .all inner) :
      m.WellFormed filter made

variable {c : Catalog} {m : Mapping}

private theorem hasInstance_of_assignField (found : c.find? m.target.name = some m.target)
    (distinct : (m.target.fields.map FieldDef.name).Nodup) (sets : m.SetsFitting) {key : String}
    {b : Binding} (member : (key, b) ∈ m.bindings) {before after : Record} {value : Value}
    (own : m.target.HasInstance before)
    (h : assignField c m.target before key b.writer? value = .ok after) :
    m.target.HasInstance after := by
  have assigned := assigned_of_assignField h
  cases bound : b.writer? with
  | none =>
    rw [bound] at assigned
    cases assigned with
    | stored stores =>
      obtain ⟨s, f, found', declared, -, accepted, rfl⟩ := Catalog.store_eq_ok_iff.mp stores
      cases (own.schema ▸ found').symm.trans found
      obtain rfl : f.name = key := by simpa using List.find?_some declared
      exact own.set distinct (List.mem_of_find?_eq_some declared) accepted
  | some w =>
    rw [bound] at assigned
    cases assigned with
    | set body checked present same =>
      obtain ⟨param, params, accepted⟩ := Method.exists_param_of_checkArgs checked
      obtain ⟨f, declared, rfl⟩ := own.exists_field present
      have fits := sets.fits key b member w bound f.name body f declared rfl param
        (params ▸ List.mem_cons_self)
      rw [same]
      exact own.set distinct declared (Ty.accepts_of_isAssignableFrom fits accepted)
    | changed body => exact absurd body (sets.plain key b member w bound _)

-- One level; the theorem below goes down the nested mappings.
private theorem wellFormed_of_nested (compiled : c.Compiled m) (blank : m.target.StartsBlank)
    (sets : m.SetsFitting)
    (nested : ∀ key field reader writer n, (key, .chained field reader writer n) ∈ m.bindings →
      ∀ value inner, n.toInstance c value .all = .ok (some inner) → n.WellFormed .all inner)
    {value : Value} {filter : FieldFilter} {made : Record}
    (h : m.toInstance c value filter = .ok (some made)) : m.WellFormed filter made := by
  obtain ⟨source, -, -, fresh, built, run⟩ := toInstance_eq_ok_some_iff.mp h
  have own : m.target.HasInstance made := by
    apply fillBindings_keeps (P := m.target.HasInstance) _ _ run
    · intro key b member _ before value after kept _ assigned
      exact hasInstance_of_assignField compiled.registered.1 blank.distinct sets member kept
        assigned
    · rw [compiled.construct_eq blank] at built
      cases built
      exact Schema.hasInstance_blank blank.distinct
  -- a field that was last assigned by a nested mapping holds what that mapping has made
  have held {field key own : String} {reader : Method} {writer : Option Method} {n : Mapping}
      (last : lastInto (filter.effective m.defaults) m.bindings field =
        some (key, .chained own reader writer n)) :
      made.get? field = some .null ∨ ∃ inner : Record, made.get? field = some inner.toValue ∧
        n.WellFormed .all inner := by
    have filled := get?_fillBindings sets.plain run field
    rw [last] at filled
    obtain ⟨state, value, produced, holds⟩ := filled
    rcases eq_null_or_made_of_chained produced with rfl | ⟨given, inner, rfl, nestedRun⟩
    · exact .inl holds
    · exact .inr ⟨inner, holds, nested key own reader writer n (mem_of_lastInto last) given inner
        nestedRun⟩
  refine .intro own ?_ ?_
  · intro field key own reader writer n last
    exact (held last).imp_right fun ⟨inner, holds, _⟩ ↦ ⟨inner, holds⟩
  · intro field key own reader writer n last inner holds
    rcases held last with nothing | ⟨other, holds', wellFormed⟩
    · cases holds.symm.trans nothing
    · obtain rfl : inner = other := by
        simpa using congrArg (·.bind Value.record?) (holds.symm.trans holds')
      exact wellFormed

/-- What a compiled mapping makes of any value is well formed, if its targets start blank and its
writers set fields that take what they are given. -/
theorem wellFormed_of_toInstance {target : String} {defaults : FieldFilter}
    (compiled : c.compile target defaults = .ok m)
    (blank : ∀ n, m.Contains n → n.target.StartsBlank)
    (sets : ∀ n, m.Contains n → n.SetsFitting) {value : Value} {filter : FieldFilter}
    {made : Record} (h : m.toInstance c value filter = .ok (some made)) :
    m.WellFormed filter made := by
  replace compiled : c.Compiled m := (Catalog.compiled_of_compile compiled).1
  induction m using nested_induction generalizing value filter made with
  | step m ih =>
    apply wellFormed_of_nested compiled (blank m (.self m)) (sets m (.self m)) _ h
    intro key field reader writer n member given inner run
    exact ih key field reader writer n member (fun k contains ↦ blank k (.nested member contains))
      (fun k contains ↦ sets k (.nested member contains)) run (compiled.nested member)

private theorem setsFitting_toCard : Staff.toCard.SetsFitting := by
  have sets {key : String} {b : Binding} (member : (key, b) ∈ Staff.toCard.bindings) {w : Method}
      (bound : b.writer? = some w) : w = Staff.setHeadToName := by
    simp only [Staff.toCard, bindings, List.mem_cons, List.not_mem_nil, or_false,
      Prod.mk.injEq] at member
    rcases member with ⟨rfl, rfl⟩ | ⟨rfl, rfl⟩ | ⟨rfl, rfl⟩ | ⟨rfl, rfl⟩ <;> cases bound
    rfl
  constructor
  · intro key b member w bound run
    rw [sets member bound]
    exact Body.noConfusion
  · intro key b member w bound field body f declared named param given
    rw [sets member bound] at body given
    cases body
    cases List.mem_singleton.mp given
    -- of the declared fields only the head is named so, and it takes everything
    simp only [Staff.toCard, Mapping.target, Staff.card, List.mem_cons, List.not_mem_nil,
      or_false] at declared
    rcases declared with rfl | rfl | rfl | rfl
    · rfl
    · simp at named
    · simp at named
    · simp at named

private theorem setsFitting_toLabel : Staff.toLabel.SetsFitting := by
  have none {key : String} {b : Binding} (member : (key, b) ∈ Staff.toLabel.bindings) :
      b.writer? = none := by
    simp only [Staff.toLabel, bindings, List.mem_singleton, Prod.mk.injEq] at member
    obtain ⟨rfl, rfl⟩ := member
    rfl
  constructor
  · intro key b member w bound
    cases (none member).symm.trans bound
  · intro key b member w bound
    cases (none member).symm.trans bound

/-- The card of a person with a boss is well formed, and so is the label of the boss on it. -/
theorem wellFormed_of_toInstance_card :
    Staff.catalog.compile "Card" .all = .ok Staff.toCard ∧
      (∀ n, Staff.toCard.Contains n → n.target.StartsBlank) ∧
      (∀ n, Staff.toCard.Contains n → n.SetsFitting) ∧
      Staff.toCard.toInstance Staff.catalog Staff.ada.toValue .all =
        .ok (some Staff.cardForAda) ∧
      Staff.toCard.WellFormed .all Staff.cardForAda := by
  have blank : ∀ n, Staff.toCard.Contains n → n.target.StartsBlank := by
    intro n contained
    rcases Staff.eq_of_contains contained with rfl | rfl
    · exact ⟨rfl, by decide⟩
    · exact ⟨rfl, by decide⟩
  have sets : ∀ n, Staff.toCard.Contains n → n.SetsFitting := by
    intro n contained
    rcases Staff.eq_of_contains contained with rfl | rfl
    · exact setsFitting_toCard
    · exact setsFitting_toLabel
  exact ⟨Staff.compile_card, blank, sets, Staff.toInstance_ada,
    wellFormed_of_toInstance Staff.compile_card blank sets Staff.toInstance_ada⟩

end Mapping

end Fieldwise
