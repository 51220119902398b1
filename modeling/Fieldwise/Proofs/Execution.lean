import Fieldwise.Mapping.Run
import Fieldwise.Proofs.Gathering

/-!
# One level of carrying out a mapping

What a mapping does to a value before and around its nested mappings: an absent value gives
nothing, a record of the source schema is taken binding by binding, anything else is refused. A
table is gathered from the wanted bindings.
-/

namespace Fieldwise.Mapping

open Outcome

variable {c : Catalog} {m : Mapping} {filter : FieldFilter}

/-- Only the absent value gives no source record. -/
theorem sourceRecord?_eq_ok_none_iff {target : Schema} {source : String} {value : Value} :
    sourceRecord? target source value = .ok none ↔ value = .null := by
  cases value with
  | record schema fields =>
    rw [sourceRecord?]
    split <;> simp
  | _ => simp [sourceRecord?]

/-- The source record is the value itself, and of the source schema. -/
theorem sourceRecord?_eq_ok_some_iff {target : Schema} {source : String} {value : Value}
    {record : Record} :
    sourceRecord? target source value = .ok (some record) ↔
      value = record.toValue ∧ record.schema = source := by
  cases value with
  | record schema fields =>
    rw [sourceRecord?, ← Value.record?_eq_some_iff, Value.record?, Option.some.injEq]
    split
    · next same =>
      rw [Except.ok.injEq, Option.some.injEq]
      constructor
      · rintro rfl
        exact ⟨rfl, same⟩
      · exact And.left
    · next other =>
      simp only [reduceCtorEq, false_iff, not_and]
      rintro rfl
      exact other
  | _ => simp [sourceRecord?, Record.toValue]

/-- A record of another schema, or a value of another kind, is refused. -/
theorem sourceRecord?_eq_error_iff {target : Schema} {source : String} {value : Value}
    {fault : Fault} :
    sourceRecord? target source value = .error fault ↔
      value ≠ .null ∧ (∀ record : Record, value = record.toValue → record.schema ≠ source) ∧
        fault = .sourceMismatch target.name source value.kind := by
  cases value with
  | record schema fields =>
    rw [sourceRecord?]
    split
    · next same =>
      simp only [reduceCtorEq, false_iff, not_and]
      intro _ none
      exact absurd same (none ⟨schema, fields⟩ rfl)
    · next other =>
      simp only [Except.error.injEq, Value.kind, ne_eq, reduceCtorEq, not_false_eq_true, true_and]
      rw [eq_comm, iff_and_self]
      rintro - record heq
      cases heq
      exact other
  | _ => simp [sourceRecord?, Record.toValue, eq_comm]

/-- An absent source gives an empty table. -/
@[simp] theorem toTable_null : toTable c m .null filter = .ok [] := by
  obtain ⟨target, source, defaults, bound⟩ := m
  rfl

/-- An absent source gives no instance. -/
@[simp] theorem toInstance_null : toInstance c m .null filter = .ok none := by
  obtain ⟨target, source, defaults, bound⟩ := m
  rfl

/-- The table of a present source is collected against a new instance of the target. -/
theorem toTable_eq (c : Catalog) (m : Mapping) (value : Value) (filter : FieldFilter) :
    toTable c m value filter = (do
      match ← sourceRecord? m.target m.source value with
      | none => .ok []
      | some record =>
        let receiver ← construct c m.target
        collectBindings c m.target (filter.effective m.defaults) record receiver m.bindings
          []) := by
  obtain ⟨target, source, defaults, bound⟩ := m
  rw [toTable]
  rfl

/-- The instance of a present source is a new instance of the target, filled. -/
theorem toInstance_eq (c : Catalog) (m : Mapping) (value : Value) (filter : FieldFilter) :
    toInstance c m value filter = (do
      match ← sourceRecord? m.target m.source value with
      | none => .ok none
      | some record =>
        let fresh ← construct c m.target
        let filled ← fillBindings c m.target (filter.effective m.defaults) record m.bindings fresh
        .ok (some filled)) := by
  obtain ⟨target, source, defaults, bound⟩ := m
  rw [toInstance]
  rfl

/-- A record is its own source if it is of the source schema. -/
theorem sourceRecord?_toValue (target : Schema) (source : String) (record : Record) :
    sourceRecord? target source record.toValue =
      if record.schema = source then .ok (some record)
      else .error (.sourceMismatch target.name source record.schema) := rfl

/-- The table of a record of the source is collected from it. -/
theorem toTable_toValue {record : Record} (same : record.schema = m.source) :
    toTable c m record.toValue filter = (do
      let receiver ← construct c m.target
      collectBindings c m.target (filter.effective m.defaults) record receiver m.bindings []) := by
  rw [toTable_eq, sourceRecord?_toValue, if_pos same]
  rfl

/-- The instance of a record of the source is filled from it. -/
theorem toInstance_toValue {record : Record} (same : record.schema = m.source) :
    toInstance c m record.toValue filter = (do
      let fresh ← construct c m.target
      let filled ← fillBindings c m.target (filter.effective m.defaults) record m.bindings fresh
      .ok (some filled)) := by
  rw [toInstance_eq, sourceRecord?_toValue, if_pos same]
  rfl

/-- What it takes to make a table of a record. -/
theorem toTable_toValue_eq_ok_iff {record : Record} {table : Table Value} :
    toTable c m record.toValue filter = .ok table ↔
      record.schema = m.source ∧ ∃ receiver, construct c m.target = .ok receiver ∧
        collectBindings c m.target (filter.effective m.defaults) record receiver m.bindings [] =
          .ok table := by
  by_cases same : record.schema = m.source
  · rw [toTable_toValue same, and_iff_right same, ← bind_eq_ok]
  · rw [toTable_eq, sourceRecord?_toValue, if_neg same]
    simp [same, bind, Except.bind]

/-- A table is gathered from the wanted bindings. -/
theorem collectBindings_eq_gather (target : Schema) (source receiver : Record)
    (bound : Table Binding) (table : Table Value) :
    collectBindings c target filter source receiver bound table =
      gather Table.place Prod.fst (fun entry ↦ tableValue c target source receiver entry.2) table
        (List.filter (fun entry ↦ filter.allows entry.1) bound) := by
  induction bound generalizing table with
  | nil => rfl
  | cons entry rest ih =>
    obtain ⟨key, b⟩ := entry
    rw [collectBindings, List.filter_cons]
    split
    · rw [gather_cons]
      simp only [ih]
    · exact ih table

private theorem lastOf_filter {bound : Table Binding} (distinct : bound.names.Nodup)
    (key : String) :
    lastOf Prod.fst (List.filter (fun entry ↦ filter.allows entry.1) bound) key =
      if filter.allows key then (bound.find? key).map (key, ·) else none := by
  have kept : ((List.filter (fun entry ↦ filter.allows entry.1) bound).map Prod.fst).Nodup :=
    distinct.sublist ((List.filter_sublist).map Prod.fst)
  rw [lastOf_eq_find? kept]
  clear distinct kept
  induction bound with
  | nil => simp
  | cons entry rest ih =>
    obtain ⟨other, b⟩ := entry
    by_cases hk : other = key
    · subst hk
      by_cases wanted : filter.allows other
      · simp [wanted, Table.find?]
      · simp [wanted] at ih ⊢
        exact ih
    · by_cases wanted : filter.allows other <;>
        simp [wanted, hk, Table.find?, ih]

/-- In a collected table stands, under the key of each wanted binding, the binding's value, and
nothing else. -/
theorem find?_collectBindings {target : Schema} {source receiver : Record} {bound : Table Binding}
    {table : Table Value} (distinct : bound.names.Nodup)
    (h : collectBindings c target filter source receiver bound [] = .ok table) (key : String) :
    match bound.find? key with
    | some b =>
      if filter.allows key then
        ∃ value, tableValue c target source receiver b = .ok value ∧ table.find? key = some value
      else table.find? key = none
    | none => table.find? key = none := by
  rw [collectBindings_eq_gather] at h
  have found := find?_gather Table.find?_place h key
  rw [lastOf_filter distinct] at found
  cases hb : bound.find? key with
  | none => simpa [hb] using found
  | some b =>
    by_cases wanted : filter.allows key <;> simpa [hb, wanted] using found

/-- What stands in a collected table is the value of a wanted binding of that key. -/
theorem exists_binding_of_collectBindings {target : Schema} {source receiver : Record}
    {bound : Table Binding} {table : Table Value} (distinct : bound.names.Nodup)
    (h : collectBindings c target filter source receiver bound [] = .ok table) {key : String}
    {value : Value} (entry : table.find? key = some value) :
    ∃ b, bound.find? key = some b ∧ filter.allows key = true ∧
      tableValue c target source receiver b = .ok value := by
  have stands := find?_collectBindings distinct h key
  rw [entry] at stands
  cases hb : bound.find? key with
  | none => simp [hb] at stands
  | some b =>
    simp only [hb] at stands
    split at stands
    · next wanted =>
      obtain ⟨value', made, heq⟩ := stands
      cases heq
      exact ⟨b, rfl, wanted, made⟩
    · cases stands

/-- The keys of a collected table are those of the wanted bindings. -/
theorem mem_names_collectBindings_iff {target : Schema} {source receiver : Record}
    {bound : Table Binding} {table : Table Value} (distinct : bound.names.Nodup)
    (h : collectBindings c target filter source receiver bound [] = .ok table) (key : String) :
    key ∈ table.names ↔ key ∈ bound.names ∧ filter.allows key = true := by
  have stands := find?_collectBindings distinct h key
  rw [Table.mem_names_iff, Table.mem_names_iff]
  cases hb : bound.find? key with
  | none =>
    rw [hb] at stands
    simp [stands]
  | some b =>
    simp only [hb] at stands
    split at stands
    · next wanted =>
      obtain ⟨value, -, entry⟩ := stands
      simp [entry, wanted]
    · next unwanted => simp [stands, unwanted]

end Fieldwise.Mapping
