import Fieldwise.Proofs.Assignment
import Fieldwise.Proofs.Execution
import Fieldwise.Proofs.Nesting
import Fieldwise.Proofs.Reading

/-!
# Registering more

A schema under a new name takes nothing away. Whatever is looked up and found in a catalog is found
in a larger one, and nothing that succeeds does so because a look-up has failed. So what compiles
compiles to the same mapping, what was made of a source is made again, and what was read is read
again; only a failure may turn into a success.
-/

namespace Fieldwise

open Outcome

namespace Catalog.ExtendedBy

variable {c c' : Catalog}

/-- A catalog is extended by registering a schema under a new name. -/
theorem register {schema : Schema} (fresh : schema.name ∉ c.names) :
    c.ExtendedBy (c.register schema) := by
  intro name other found
  have different : schema.name ≠ name := fun same ↦ fresh (same ▸ mem_names_of_find? found)
  rw [find?_register, if_neg different, found]

/-- What compiles compiles to the same mapping. -/
theorem compile (ext : c.ExtendedBy c') {target : String} {defaults : FieldFilter} {m : Mapping}
    (h : c.compile target defaults = .ok m) : c'.compile target defaults = .ok m :=
  compileWithin_of_extendedBy ext (List.Subset.refl []) h

/-- What is constructed is constructed again. -/
theorem construct (ext : c.ExtendedBy c') {schema : String} {record : Record}
    (h : c.construct schema = .ok record) : c'.construct schema = .ok record := by
  cases found : c.find? schema with
  | none => simp [Catalog.construct, found] at h
  | some definition =>
    rw [Catalog.construct, found] at h
    rw [Catalog.construct, ext schema definition found]
    exact h

/-- What is stored is stored again. -/
theorem store (ext : c.ExtendedBy c') {record after : Record} {field : String} {value : Value}
    (h : c.store record field value = .ok after) : c'.store record field value = .ok after := by
  obtain ⟨s, f, found, declared, isOpen, accepted, rfl⟩ := store_eq_ok_iff.mp h
  exact store_eq_ok_iff.mpr ⟨s, f, ext record.schema s found, declared, isOpen, accepted, rfl⟩

/-- A document that is read is read again as the same record. -/
theorem read (ext : c.ExtendedBy c') {document : Json} {name : String} {record : Record}
    (h : c.read document name = .ok record) : c'.read document name = .ok record := by
  induction document using Json.entry_induction generalizing name record with
  | step document ih =>
    obtain ⟨entries, s, rfl, found, h⟩ := read_eq_ok_iff.mp h
    apply read_eq_ok_iff.mpr
    refine ⟨entries, s, rfl, ext name s found, ?_⟩
    rw [fill_offers_eq_gather] at h ⊢
    refine gather_eq_ok_of_keeps ?_ h
    rintro ⟨f, inner⟩ told value takes
    obtain ⟨reads, accepted⟩ := taken_eq_ok_iff.mp takes
    refine taken_eq_ok_iff.mpr ⟨?_, accepted⟩
    -- only an object under a record type is read by a schema of the catalog
    rcases object_record_or inner f.type with ⟨entries', name', rfl, type⟩ | other
    · rw [type, valueOf_object_record, map_eq_ok] at reads ⊢
      obtain ⟨made, run, same⟩ := reads
      exact ⟨made, ih entries f.name _ rfl (Schema.mem_told.mp told).2 run, same⟩
    · rw [valueOf_of_other other] at reads ⊢
      exact reads

end Catalog.ExtendedBy

namespace Mapping

open Catalog (ExtendedBy)

variable {c c' : Catalog} {target : Schema} {source before after filled : Record}
  {bound : Table Binding} {filter : FieldFilter} {b : Binding} {value : Value}

/-- A new instance of a target is made again. -/
theorem construct_of_extendedBy (ext : c.ExtendedBy c') {record : Record}
    (h : construct c target = .ok record) : construct c' target = .ok record :=
  mapError_eq_ok.mpr (ext.construct (mapError_eq_ok.mp h))

/-- What is assigned is assigned again. -/
theorem assignField_of_extendedBy (ext : c.ExtendedBy c') {key : String} {writer : Option Method}
    (h : assignField c target before key writer value = .ok after) :
    assignField c' target before key writer value = .ok after := by
  cases writer with
  | none => exact assignField_none_eq_ok_iff.mpr (ext.store (assignField_none_eq_ok_iff.mp h))
  | some w => exact h

/-- The table of a source is made again. -/
theorem toTable_of_extendedBy (ext : c.ExtendedBy c') {m : Mapping} {table : Table Value}
    (h : m.toTable c value filter = .ok table) : m.toTable c' value filter = .ok table := by
  induction m using nested_induction generalizing value filter table with
  | step m ih =>
    rw [toTable_eq, bind_eq_ok] at h ⊢
    obtain ⟨source?, given, h⟩ := h
    refine ⟨source?, given, ?_⟩
    cases source? with
    | none => exact h
    | some source =>
      obtain ⟨receiver, built, h⟩ := bind_eq_ok.mp h
      refine bind_eq_ok.mpr ⟨receiver, construct_of_extendedBy ext built, ?_⟩
      rw [collectBindings_eq_gather] at h ⊢
      refine gather_eq_ok_of_keeps ?_ h
      rintro ⟨key, b⟩ member value made
      cases b with
      | direct field reader writer => exact made
      | synthetic field combinator readers writer => exact made
      | chained field reader writer n =>
        rw [tableValue, bind_eq_ok] at made ⊢
        obtain ⟨held, read, made⟩ := made
        obtain ⟨inner, run, made⟩ := bind_eq_ok.mp made
        have again := ih key field reader writer n (List.mem_of_mem_filter member) run
        exact ⟨held, read, bind_eq_ok.mpr ⟨inner, again, made⟩⟩

/-- Filling goes on as before when each value is made as before. -/
theorem fillBindings_of_extendedBy (ext : c.ExtendedBy c')
    (values : ∀ key b, (key, b) ∈ bound → ∀ state value,
      instanceValue c target source state b = .ok value →
        instanceValue c' target source state b = .ok value)
    (h : fillBindings c target filter source bound before = .ok filled) :
    fillBindings c' target filter source bound before = .ok filled := by
  induction bound generalizing before with
  | nil => exact h
  | cons entry rest ih =>
    obtain ⟨key, b⟩ := entry
    have later {before : Record} := @ih before fun key b member ↦
      values key b (List.mem_cons_of_mem _ member)
    rw [fillBindings] at h ⊢
    split at h
    · next wanted =>
      obtain ⟨value, made, h⟩ := bind_eq_ok.mp h
      obtain ⟨after, assigned, h⟩ := bind_eq_ok.mp h
      have again := values key b List.mem_cons_self before value made
      have assigned := assignField_of_extendedBy ext assigned
      rw [if_pos wanted]
      exact bind_eq_ok.mpr ⟨value, again, bind_eq_ok.mpr ⟨after, assigned, later h⟩⟩
    · next unwanted =>
      rw [if_neg unwanted]
      exact later h

/-- The instance of a source is made again. -/
theorem toInstance_of_extendedBy (ext : c.ExtendedBy c') {m : Mapping} {made : Option Record}
    (h : m.toInstance c value filter = .ok made) : m.toInstance c' value filter = .ok made := by
  induction m using nested_induction generalizing value filter made with
  | step m ih =>
    rw [toInstance_eq, bind_eq_ok] at h ⊢
    obtain ⟨source?, given, h⟩ := h
    refine ⟨source?, given, ?_⟩
    cases source? with
    | none => exact h
    | some source =>
      obtain ⟨fresh, built, h⟩ := bind_eq_ok.mp h
      obtain ⟨filled, run, h⟩ := bind_eq_ok.mp h
      refine bind_eq_ok.mpr ⟨fresh, construct_of_extendedBy ext built,
        bind_eq_ok.mpr ⟨filled, fillBindings_of_extendedBy ext ?_ run, h⟩⟩
      intro key b member state value made
      cases b with
      | direct field reader writer => exact made
      | synthetic field combinator readers writer => exact made
      | chained field reader writer n =>
        rw [instanceValue, bind_eq_ok] at made ⊢
        obtain ⟨held, read, made⟩ := made
        obtain ⟨inner, run, made⟩ := bind_eq_ok.mp made
        have again := ih key field reader writer n member run
        exact ⟨held, read, bind_eq_ok.mpr ⟨inner, again, made⟩⟩

end Mapping

namespace Catalog

/-- Registering a schema under a new name keeps what has worked: each target that compiled compiles
to the same mapping, which gives the tables and instances that it has given, and each document that
was read is read as the same record. -/
theorem outcomes_kept_by_register (c : Catalog) (schema : Schema) (fresh : schema.name ∉ c.names) :
    (∀ target defaults m, c.compile target defaults = .ok m →
      (c.register schema).compile target defaults = .ok m ∧ ∀ value filter,
        (∀ table, m.toTable c value filter = .ok table →
          m.toTable (c.register schema) value filter = .ok table) ∧
        ∀ made, m.toInstance c value filter = .ok made →
          m.toInstance (c.register schema) value filter = .ok made) ∧
    ∀ document name record, c.read document name = .ok record →
      (c.register schema).read document name = .ok record := by
  have ext : c.ExtendedBy (c.register schema) := ExtendedBy.register fresh
  refine ⟨fun target defaults m compiled ↦ ⟨ext.compile compiled, fun value filter ↦ ?_⟩, ?_⟩
  · exact ⟨fun table ↦ Mapping.toTable_of_extendedBy ext,
      fun made ↦ Mapping.toInstance_of_extendedBy ext⟩
  · exact fun document name record ↦ ext.read

end Catalog

namespace Staff

/-- A person without a boss, as a document. -/
def graceDocument : Json :=
  .object [("age", .number (.integer 50)), ("name", .string "Grace")]

private theorem read_grace : catalog.read graceDocument "Person" = .ok grace := by
  cbv

/-- Posters, although they do not compile themselves, change nothing for cards and persons. -/
theorem outcomes_kept_by_register_poster :
    poster.name ∉ catalog.names ∧ posters.compile "Card" .all = .ok toCard ∧
      toCard.toTable posters ada.toValue .all = .ok cardOfAda ∧
      toCard.toInstance posters ada.toValue .all = .ok (some cardForAda) ∧
      posters.read graceDocument "Person" = .ok grace := by
  have fresh : poster.name ∉ catalog.names := by decide +kernel
  obtain ⟨mapped, reads⟩ := Catalog.outcomes_kept_by_register catalog poster fresh
  obtain ⟨compiles, runs⟩ := mapped "Card" .all toCard compile_card
  obtain ⟨tables, instances⟩ := runs ada.toValue .all
  exact ⟨fresh, compiles, tables cardOfAda toTable_ada, instances (some cardForAda) toInstance_ada,
    reads graceDocument "Person" grace read_grace⟩

end Staff

end Fieldwise
