import Fieldwise.Proofs.Compiled
import Fieldwise.Proofs.Execution
import Fieldwise.Proofs.Property

/-!
# What stands under a target field

In the table that a compiled mapping makes of a record, each entry holds what the declaration that
owns its field says: the record's value of the one property that is read, the table that the
slot's own mapping makes of that value, or the result of the computing method.
-/

namespace Fieldwise

open Outcome

/-- What a declaration says that its field holds in the table that is made of a record. -/
inductive Catalog.Supplies (c : Catalog) (target : Schema) (properties : List (String × Ty))
    (record : Record) : Declaration → Value → Prop
  | read {slot : Slot} {p : String × Ty} {value : Value}
      (plain : slot.chaining = none)
      (only : OnlyProperty properties slot.sourceField p)
      (held : record.get? p.1 = some value) :
      c.Supplies target properties record (.slot slot) value
  | mapped {slot : Slot} {chaining : Chaining} {serializer : String} {p : String × Ty}
      {value : Value} {nested : Mapping} {table : Table Value}
      (chains : slot.chaining = some chaining)
      (declared : slot.type = .record serializer)
      (only : OnlyProperty properties slot.sourceField p)
      (held : record.get? p.1 = some value)
      (compiled : c.compile serializer ⟨chaining.fields⟩ = .ok nested)
      (made : Mapping.toTable c nested value .all = .ok table) :
      c.Supplies target properties record (.slot slot) (.map table)
  | computed {combinator : Method} {synthesis : Synthesis} {args : List Value}
      {receiver : Record} {value : Value}
      (held : List.Forall₂ (fun field arg ↦
        ∃ p, OnlyProperty properties field p ∧ record.get? p.1 = some arg) synthesis.sources args)
      (built : c.construct target.name = .ok receiver)
      (result : combinator.call receiver args = .ok value) :
      c.Supplies target properties record (.computed combinator synthesis) value

private theorem forall₂_held {c : Catalog} {source : String} {s : Schema}
    {properties : List (String × Ty)} (made : s.MadeOf properties)
    (distinct : (properties.map fun p ↦ Accessor.reader p.1).Nodup)
    (found : c.find? source = some s) {record : Record} {fields : List String}
    {readers : List Method} {args : List Value}
    (reads : List.Forall₂ (fun field reader ↦ c.reader source field = .ok reader) fields readers)
    (values : List.Forall₂ (fun reader arg ↦ Mapping.readSource record reader = .ok arg)
      readers args) :
    List.Forall₂ (fun field arg ↦
      ∃ p, OnlyProperty properties field p ∧ record.get? p.1 = some arg) fields args := by
  induction reads generalizing args with
  | nil =>
    cases values
    exact .nil
  | cons read _ ih =>
    cases values with
    | cons value values =>
      exact .cons (made.exists_only_of_call distinct found read (mapError_eq_ok.mp value))
        (ih values)

private theorem supplies_of_tableValue {c : Catalog} {target : Schema} {source : String}
    {s : Schema} {properties : List (String × Ty)} (made : s.MadeOf properties)
    (distinct : (properties.map fun p ↦ Accessor.reader p.1).Nodup)
    (found : c.find? source = some s) {d : Declaration} {b : Binding}
    (binds : (c.scope [] target source).Binds d b) {record receiver : Record}
    (built : c.construct target.name = .ok receiver) {value : Value}
    (run : Mapping.tableValue c target record receiver b = .ok value) :
    c.Supplies target properties record d value := by
  cases binds with
  | computed sources types =>
    rw [Mapping.tableValue, Mapping.combine, bind_eq_ok] at run
    obtain ⟨args, values, result⟩ := run
    exact .computed (forall₂_held made distinct found sources (mapM_eq_ok.mp values)) built
      (mapError_eq_ok.mp result)
  | direct plain reads returns fits =>
    obtain ⟨p, only, held⟩ :=
      made.exists_only_of_call distinct found reads (mapError_eq_ok.mp run)
    exact .read plain only held
  | chained chains names outside compiled reads =>
    rw [Mapping.tableValue, bind_eq_ok] at run
    obtain ⟨inner, read, run⟩ := run
    obtain ⟨table, nested, run⟩ := bind_eq_ok.mp run
    cases run
    obtain ⟨p, only, held⟩ :=
      made.exists_only_of_call distinct found reads (mapError_eq_ok.mp read)
    exact .mapped chains names.1 only held compiled nested

/-- A compiled mapping is that of the registered target and reads the source that the target names.
Each entry of the table that it makes of a record holds what the owner of its field says, provided
that the source is made of properties with distinct readers. -/
theorem toTable_supplied {c : Catalog} {target : String} {defaults : FieldFilter} {m : Mapping}
    (compiled : c.compile target defaults = .ok m) {s : Schema}
    (found : c.find? m.source = some s) {properties : List (String × Ty)}
    (made : s.MadeOf properties)
    (distinct : (properties.map fun p ↦ Accessor.reader p.1).Nodup) {record : Record}
    {filter : FieldFilter} {table : Table Value}
    (run : m.toTable c record.toValue filter = .ok table) {key : String} {value : Value}
    (entry : table.find? key = some value) :
    c.find? target = some m.target ∧ m.target.serializedFrom = some m.source ∧
      ∃ owner, m.target.owner? key = some owner ∧
        c.Supplies m.target properties record owner value := by
  obtain ⟨same, rfl, -⟩ := Catalog.compiled_of_compile compiled
  obtain ⟨-, receiver, built, run⟩ := Mapping.toTable_toValue_eq_ok_iff.mp run
  obtain ⟨b, hb, -, run⟩ := Mapping.exists_binding_of_collectBindings same.nodup_names run entry
  obtain ⟨owner, owns, binds⟩ := same.binds_owner hb
  have built : c.construct m.target.name = .ok receiver := mapError_eq_ok.mp built
  exact ⟨same.registered.1, same.registered.2.1, owner, owns,
    supplies_of_tableValue made distinct found binds built run⟩

/-- The card of a person with a boss shows the label of the boss. -/
theorem toTable_supplied_card :
    Staff.catalog.compile "Card" .all = .ok Staff.toCard ∧
      Staff.catalog.find? "Person" = some Staff.person ∧
      Staff.person.MadeOf Staff.properties ∧
      (Staff.properties.map fun p ↦ Accessor.reader p.1).Nodup ∧
      Staff.toCard.toTable Staff.catalog Staff.ada.toValue .all = .ok Staff.cardOfAda ∧
      Staff.cardOfAda.find? "boss" = some (.map [("name", .string "Grace")]) ∧
      Staff.catalog.find? "Card" = some Staff.card ∧
      Staff.card.serializedFrom = some "Person" ∧
      ∃ owner, Staff.card.owner? "boss" = some owner ∧
        Staff.catalog.Supplies Staff.card Staff.properties Staff.ada owner
          (.map [("name", .string "Grace")]) :=
  ⟨Staff.compile_card, Staff.find?_person, Staff.person_madeOf, Staff.distinct_readers,
    Staff.toTable_ada, rfl,
    toTable_supplied Staff.compile_card Staff.find?_person Staff.person_madeOf
      Staff.distinct_readers Staff.toTable_ada rfl⟩

end Fieldwise
