import Fieldwise.Proofs.Execution
import Fieldwise.Proofs.Property
import Fieldwise.Proofs.Sorting

/-!
# Filters select

A filter decides which bindings of a mapping are carried out and has no other effect. A table that
is collected with a narrower filter is the wider table without the entries that are no longer
wanted; nested tables stay whole. Only the fields that a filter lists count, not their order, and it
makes no difference whether a filter is given when a mapping is compiled or when it is carried out.
-/

namespace Fieldwise

open Outcome

namespace Table

variable {α : Type}

/-- The entries whose names are among the given ones. -/
def restrict (t : Table α) (names : List String) : Table α :=
  List.filter (fun entry ↦ entry.1 ∈ names) t

/-- Among the entries that are kept the same is found as before. -/
theorem find?_filter (t : Table α) (wanted : String → Bool) (name : String) :
    find? (List.filter (fun entry ↦ wanted entry.1) t) name =
      if wanted name then t.find? name else none := by
  induction t with
  | nil => simp
  | cons entry rest ih =>
    obtain ⟨key, value⟩ := entry
    by_cases hk : key = name
    · subst hk
      by_cases kept : wanted key
      · simp [kept, find?]
      · simp [kept, ih]
    · by_cases kept : wanted key <;> simp [kept, find?, hk, ih]

end Table

namespace FieldFilter

variable {f g : FieldFilter}

/-- Two filters list the same fields, in whatever order and however often. -/
def SameFields (f g : FieldFilter) : Prop := ∀ field, field ∈ f.fields ↔ field ∈ g.fields

/-- Filters that list the same fields want all fields both or neither. -/
theorem SameFields.isEmpty_eq (h : f.SameFields g) : f.isEmpty = g.isEmpty := by
  rw [isEmpty, isEmpty, Bool.eq_iff_iff, List.isEmpty_iff, List.isEmpty_iff,
    List.eq_nil_iff_forall_not_mem, List.eq_nil_iff_forall_not_mem]
  exact forall_congr' fun field ↦ not_congr (h field)

/-- Filters that list the same fields want the same fields. -/
theorem SameFields.allows_eq (h : f.SameFields g) (field : String) :
    f.allows field = g.allows field := by
  rw [allows, allows, h.isEmpty_eq]
  simp only [List.contains_eq_mem, h field]

/-- Filters that list the same fields, before filters that do, want the same fields. -/
theorem SameFields.allows_effective_eq {f' g' : FieldFilter} (h : f.SameFields g)
    (fallback : f'.SameFields g') (field : String) :
    (f.effective f').allows field = (g.effective g').allows field := by
  rw [effective, effective, h.isEmpty_eq]
  split
  · exact fallback.allows_eq field
  · exact h.allows_eq field

/-- A filter that lists some field does not give way. -/
theorem effective_of_ne_nil (h : f.fields ≠ []) (fallback : FieldFilter) :
    f.effective fallback = f := by
  simp [effective, isEmpty, h]

/-- To give way to the filter that wants every field changes nothing. -/
theorem effective_to_all (f : FieldFilter) : f.effective .all = f := by
  obtain ⟨fields⟩ := f
  cases fields <;> rfl

end FieldFilter

namespace Mapping

variable {c : Catalog} {m : Mapping} {filter filter' narrow wide : FieldFilter} {target : Schema}
  {source receiver : Record} {bound : Table Binding} {table : Table Value}

private theorem ascending_of_gather {α β ε : Type} {key : α → String} {value : α → Except ε β}
    {items : List α} {start made : Table β} (ascends : start.Ascending)
    (h : gather Table.place key value start items = .ok made) : made.Ascending := by
  apply foldlM_keeps ?_ ascends h
  intro t item t' _ ascends step
  obtain ⟨b, -, placed⟩ := bind_eq_ok.mp step
  cases placed
  exact ascends.place _ _

/-- The names of a collected table ascend. -/
theorem ascending_collectBindings
    (h : collectBindings c target filter source receiver bound [] = .ok table) :
    table.Ascending := by
  have empty : Table.Ascending ([] : Table Value) := List.Pairwise.nil
  rw [collectBindings_eq_gather] at h
  exact ascending_of_gather empty h

/-- What a filter that wants less still carries out has been carried out for the wider one. -/
theorem exists_collectBindings_of_narrower (narrower : ∀ key, narrow.allows key → wide.allows key)
    (h : collectBindings c target wide source receiver bound [] = .ok table) :
    ∃ made, collectBindings c target narrow source receiver bound [] = .ok made := by
  rw [collectBindings_eq_gather] at h
  simp only [collectBindings_eq_gather]
  apply gather_isOk_iff.mpr
  intro entry member
  obtain ⟨bound, wanted⟩ := List.mem_filter.mp member
  exact gather_isOk_iff.mp ⟨table, h⟩ entry (List.mem_filter.mpr ⟨bound, narrower _ wanted⟩)

/-- With a filter that wants less, the entries are collected that it still wants. -/
theorem collectBindings_of_narrower (distinct : bound.names.Nodup)
    (narrower : ∀ key, narrow.allows key → wide.allows key)
    (h : collectBindings c target wide source receiver bound [] = .ok table) :
    collectBindings c target narrow source receiver bound [] =
      .ok (List.filter (fun entry ↦ narrow.allows entry.1) table) := by
  -- both sides ascend, so they are compared by what is found under each key
  obtain ⟨made, collected⟩ := exists_collectBindings_of_narrower narrower h
  rw [collected, Except.ok.injEq]
  apply (ascending_collectBindings collected).ext ((ascending_collectBindings h).filter _)
  intro key
  have less := find?_collectBindings distinct collected key
  have more := find?_collectBindings distinct h key
  rw [Table.find?_filter]
  cases hb : bound.find? key with
  | none =>
    rw [hb] at less more
    simp [less, more]
  | some b =>
    simp only [hb] at less more
    by_cases wanted : narrow.allows key
    · rw [if_pos wanted] at less ⊢
      rw [if_pos (narrower key wanted)] at more
      obtain ⟨value, read, found⟩ := less
      obtain ⟨value', read', found'⟩ := more
      rw [read] at read'
      cases read'
      rw [found, found']
    · rw [if_neg wanted] at less ⊢
      exact less

/-- Filters that want the same fields collect the same. -/
theorem collectBindings_congr (same : ∀ key, filter.allows key = filter'.allows key) :
    collectBindings c target filter source receiver bound table =
      collectBindings c target filter' source receiver bound table := by
  simp only [collectBindings_eq_gather, same]

/-- Filters that want the same fields fill the same. -/
theorem fillBindings_congr (same : ∀ key, filter.allows key = filter'.allows key)
    (before : Record) :
    fillBindings c target filter source bound before =
      fillBindings c target filter' source bound before := by
  induction bound generalizing before with
  | nil => rfl
  | cons entry rest ih =>
    obtain ⟨key, b⟩ := entry
    rw [fillBindings, fillBindings, same key]
    simp only [ih]

/-- The mapping with another filter that applies by default. -/
def withDefaults (m : Mapping) (defaults : FieldFilter) : Mapping :=
  .mk m.target m.source defaults m.bindings

/-- Tables depend on the two filters through the fields that they want together. -/
theorem toTable_withDefaults {defaults defaults' : FieldFilter}
    (same : ∀ key, (filter.effective defaults).allows key =
      (filter'.effective defaults').allows key) (value : Value) :
    (m.withDefaults defaults).toTable c value filter =
      (m.withDefaults defaults').toTable c value filter' := by
  simp only [toTable_eq, withDefaults, Mapping.target, Mapping.source, Mapping.defaults,
    Mapping.bindings, collectBindings_congr same]

/-- Instances depend on the two filters through the fields that they want together. -/
theorem toInstance_withDefaults {defaults defaults' : FieldFilter}
    (same : ∀ key, (filter.effective defaults).allows key =
      (filter'.effective defaults').allows key) (value : Value) :
    (m.withDefaults defaults).toInstance c value filter =
      (m.withDefaults defaults').toInstance c value filter' := by
  simp only [toInstance_eq, withDefaults, Mapping.target, Mapping.source, Mapping.defaults,
    Mapping.bindings, fillBindings_congr same]

end Mapping

namespace Catalog

variable {c : Catalog} {m : Mapping} {filter narrow wide : FieldFilter} {source : Record}
  {table : Table Value}

/-- The default filter of a target has no part in how the target is compiled. -/
theorem compile_eq_map_withDefaults (c : Catalog) (target : String) (defaults : FieldFilter) :
    c.compile target defaults = (c.compile target .all).map (·.withDefaults defaults) := by
  rw [compile, compile, compileWithin_eq, compileWithin_eq]
  cases c.find? target with
  | none => rfl
  | some schema =>
    cases declared : schema.serializedFrom with
    | none => simp only [declared, Except.map]
    | some source =>
      simp only [declared]
      split
      · rfl
      · cases (c.scope [target] schema source).bindings <;> rfl

/-- The table of a source value, by compiling the target and carrying out the mapping. -/
def tableOf (c : Catalog) (target : String) (defaults : FieldFilter) (value : Value)
    (filter : FieldFilter) : Except Fault (Table Value) := do
  let m ← c.compile target defaults
  m.toTable c value filter

/-- The instance of a source value, by compiling the target and carrying out the mapping. -/
def instanceOf (c : Catalog) (target : String) (defaults : FieldFilter) (value : Value)
    (filter : FieldFilter) : Except Fault (Option Record) := do
  let m ← c.compile target defaults
  m.toInstance c value filter

/-- Only the fields count that the default filter and the given one want together. -/
theorem outcomes_eq_of_allows {target : String} {defaults defaults' filter' : FieldFilter}
    (same : ∀ key, (filter.effective defaults).allows key =
      (filter'.effective defaults').allows key) (value : Value) :
    c.tableOf target defaults value filter = c.tableOf target defaults' value filter' ∧
      c.instanceOf target defaults value filter = c.instanceOf target defaults' value filter' := by
  rw [tableOf, tableOf, instanceOf, instanceOf, c.compile_eq_map_withDefaults target defaults,
    c.compile_eq_map_withDefaults target defaults']
  cases c.compile target .all with
  | error fault => exact ⟨rfl, rfl⟩
  | ok m =>
    exact ⟨Mapping.toTable_withDefaults same value, Mapping.toInstance_withDefaults same value⟩

namespace Compiled

/-- A table of a compiled mapping has the keys that are bound and wanted. -/
theorem mem_names_toTable_iff (h : c.Compiled m)
    (made : m.toTable c source.toValue filter = .ok table) (key : String) :
    key ∈ table.names ↔
      key ∈ m.bindings.names ∧ (filter.effective m.defaults).allows key = true := by
  obtain ⟨-, receiver, -, collected⟩ := Mapping.toTable_toValue_eq_ok_iff.mp made
  exact Mapping.mem_names_collectBindings_iff h.nodup_names collected key

/-- With a filter that wants less, a compiled mapping gives the entries that it still wants. -/
theorem toTable_of_narrower (h : c.Compiled m)
    (narrower : ∀ key, (narrow.effective m.defaults).allows key →
      (wide.effective m.defaults).allows key)
    (made : m.toTable c source.toValue wide = .ok table) :
    m.toTable c source.toValue narrow =
      .ok (List.filter (fun entry ↦ (narrow.effective m.defaults).allows entry.1) table) := by
  obtain ⟨same, receiver, constructed, collected⟩ := Mapping.toTable_toValue_eq_ok_iff.mp made
  exact Mapping.toTable_toValue_eq_ok_iff.mpr ⟨same, receiver, constructed,
    Mapping.collectBindings_of_narrower h.nodup_names narrower collected⟩

/-- The same, for a filter that lists the wanted fields. -/
theorem toTable_restrict (h : c.Compiled m) (lists : narrow.fields ≠ [])
    (narrower : ∀ key ∈ narrow.fields, (wide.effective m.defaults).allows key)
    (made : m.toTable c source.toValue wide = .ok table) :
    m.toTable c source.toValue narrow = .ok (table.restrict narrow.fields) := by
  have own := FieldFilter.effective_of_ne_nil lists m.defaults
  have wants (key : String) : narrow.allows key = decide (key ∈ narrow.fields) := by
    rw [Bool.eq_iff_iff, FieldFilter.allows_iff_mem lists, decide_eq_true_iff]
  have less : ∀ key, (narrow.effective m.defaults).allows key →
      (wide.effective m.defaults).allows key := by
    simpa [own, wants] using narrower
  rw [h.toTable_of_narrower less made, own]
  simp only [wants, Table.restrict]

/-- A filter that lists fewer fields gives the same table restricted to them. -/
theorem toTable_of_subset (h : c.Compiled m) (lists : narrow.fields ≠ [])
    (fewer : narrow.fields ⊆ wide.fields)
    (made : m.toTable c source.toValue wide = .ok table) :
    (∀ key, key ∈ table.names ↔ key ∈ m.bindings.names ∧ key ∈ wide.fields) ∧
      m.toTable c source.toValue narrow = .ok (table.restrict narrow.fields) := by
  obtain ⟨field, listed⟩ := List.exists_mem_of_ne_nil _ lists
  have more : wide.fields ≠ [] := List.ne_nil_of_mem (fewer listed)
  have own := FieldFilter.effective_of_ne_nil more m.defaults
  constructor
  · intro key
    rw [h.mem_names_toTable_iff made, own, FieldFilter.allows_iff_mem more]
  · apply h.toTable_restrict lists _ made
    intro key listed
    rw [own, FieldFilter.allows_iff_mem more]
    exact fewer listed

/-- Without any filter the table has all keys, and each filter gives the same table restricted. -/
theorem toTable_of_unfiltered (h : c.Compiled m) (unfiltered : m.defaults = .all)
    (made : m.toTable c source.toValue .all = .ok table) :
    (∀ key, key ∈ table.names ↔ key ∈ m.bindings.names) ∧
      ∀ narrow : FieldFilter, narrow.fields ≠ [] →
        m.toTable c source.toValue narrow = .ok (table.restrict narrow.fields) := by
  have wants (key : String) : (FieldFilter.all.effective m.defaults).allows key = true := by
    rw [unfiltered, FieldFilter.effective_all, FieldFilter.allows_all]
  constructor
  · intro key
    rw [h.mem_names_toTable_iff made, and_iff_left (wants key)]
  · intro narrow lists
    exact h.toTable_restrict lists (fun key _ ↦ wants key) made

/-- Under a chained key stands the whole table of the nested mapping, whatever the filter. -/
theorem find?_toTable_chained (h : c.Compiled m)
    (made : m.toTable c source.toValue filter = .ok table) {key field : String} {reader : Method}
    {writer : Option Method} {nested : Mapping}
    (member : (key, .chained field reader writer nested) ∈ m.bindings) {value : Value}
    (found : table.find? key = some value) :
    ∃ held inner, Mapping.readSource source reader = .ok held ∧
      nested.toTable c held .all = .ok inner ∧ value = .map inner := by
  obtain ⟨-, receiver, -, collected⟩ := Mapping.toTable_toValue_eq_ok_iff.mp made
  obtain ⟨b, bound, -, read⟩ :=
    Mapping.exists_binding_of_collectBindings h.nodup_names collected found
  rw [(Table.mem_iff_find?_eq_some h.nodup_names).mp member] at bound
  cases bound
  simp only [Mapping.tableValue, bind_eq_ok, Except.ok.injEq] at read
  obtain ⟨held, reads, inner, nested, rfl⟩ := read
  exact ⟨held, inner, reads, nested, rfl⟩

end Compiled

/-- Filters only select. A table made with a filter has the bound keys that the filter lists, and a
filter that lists fewer gives the same table restricted to them; so does any filter beside none at
all, for a target without a default filter. Under a chained key stands what the nested mapping gives
without a filter. Tables and instances depend on the fields that are listed alone, and a default
filter does what the same filter does when it is given later. -/
theorem filters_only_select (c : Catalog) (target : String) (defaults : FieldFilter) :
    (∀ m, c.compile target defaults = .ok m → ∀ (source : Record) (table : Table Value),
      (∀ narrow wide : FieldFilter, narrow.fields ≠ [] → narrow.fields ⊆ wide.fields →
        m.toTable c source.toValue wide = .ok table →
          (∀ key, key ∈ table.names ↔ key ∈ m.bindings.names ∧ key ∈ wide.fields) ∧
            m.toTable c source.toValue narrow = .ok (table.restrict narrow.fields)) ∧
      (defaults = .all → m.toTable c source.toValue .all = .ok table →
        (∀ key, key ∈ table.names ↔ key ∈ m.bindings.names) ∧
          ∀ narrow : FieldFilter, narrow.fields ≠ [] →
            m.toTable c source.toValue narrow = .ok (table.restrict narrow.fields)) ∧
      ∀ filter : FieldFilter, m.toTable c source.toValue filter = .ok table →
        ∀ key field reader writer nested, (key, .chained field reader writer nested) ∈ m.bindings →
          ∀ value, table.find? key = some value →
            ∃ held inner, Mapping.readSource source reader = .ok held ∧
              nested.toTable c held .all = .ok inner ∧ value = .map inner) ∧
    (∀ defaults' filter filter' : FieldFilter, defaults.SameFields defaults' →
      filter.SameFields filter' → ∀ value,
        c.tableOf target defaults value filter = c.tableOf target defaults' value filter' ∧
          c.instanceOf target defaults value filter =
            c.instanceOf target defaults' value filter') ∧
    ∀ value, c.tableOf target defaults value .all = c.tableOf target .all value defaults ∧
      c.instanceOf target defaults value .all = c.instanceOf target .all value defaults := by
  -- the last two parts compare what the default filter and the given one want together
  refine ⟨fun m result source table ↦ ?_, fun defaults' filter filter' own given value ↦ ?_,
    fun value ↦ ?_⟩
  · obtain ⟨compiled, -, rfl⟩ := compiled_of_compile result
    exact ⟨fun narrow wide lists fewer made ↦ compiled.toTable_of_subset lists fewer made,
      fun unfiltered made ↦ compiled.toTable_of_unfiltered unfiltered made,
      fun filter made _ _ _ _ _ member _ found ↦ compiled.find?_toTable_chained made member found⟩
  · exact outcomes_eq_of_allows (given.allows_effective_eq own) value
  · apply outcomes_eq_of_allows
    intro key
    rw [FieldFilter.effective_all, FieldFilter.effective_to_all]

end Catalog

namespace Staff

/-- The card of a person with a boss, of which first three and then two fields are wanted; the boss
is shown as on the whole card. -/
theorem filters_only_select_card :
    toCard.toTable catalog ada.toValue ⟨["twice", "head", "boss", "head"]⟩ =
        .ok [("boss", .map [("name", .string "Grace")]), ("head", .string "Ada"),
          ("twice", .integer 72)] ∧
      toCard.toTable catalog ada.toValue ⟨["head", "boss"]⟩ =
        .ok [("boss", .map [("name", .string "Grace")]), ("head", .string "Ada")] ∧
      catalog.tableOf "Card" ⟨["twice", "head"]⟩ ada.toValue .all =
        catalog.tableOf "Card" .all ada.toValue ⟨["head", "twice", "head"]⟩ := by
  obtain ⟨selects, same, -⟩ := Catalog.filters_only_select catalog "Card" .all
  obtain ⟨-, whole, -⟩ := selects toCard compile_card ada cardOfAda
  have three := (whole rfl toTable_ada).2 ⟨["twice", "head", "boss", "head"]⟩ (by simp)
  obtain ⟨fewer, -, -⟩ := selects toCard compile_card ada _
  have two := (fewer ⟨["head", "boss"]⟩ ⟨["twice", "head", "boss", "head"]⟩ (by simp) (by simp)
    three).2
  obtain ⟨-, -, later⟩ := Catalog.filters_only_select catalog "Card" ⟨["twice", "head"]⟩
  refine ⟨three, two, ?_⟩
  rw [(later ada.toValue).1]
  exact (same .all ⟨["twice", "head"]⟩ ⟨["head", "twice", "head"]⟩ (fun _ ↦ Iff.rfl)
    (fun field ↦ by simp [or_comm]) ada.toValue).1

end Staff

end Fieldwise
