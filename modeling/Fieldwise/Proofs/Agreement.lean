import Fieldwise.Combinator
import Fieldwise.Proofs.Compiled
import Fieldwise.Proofs.Filling
import Fieldwise.Proofs.Property

/-!
# Instances and tables mirror each other

A mapping whose writers store into the fields they are bound to, and whose computing methods do not
look at their receiver, makes the same of a source in both modes. Where the instance holds a value,
so does the table; where the instance holds the instance of a nested mapping, the table holds the
table of that mapping; an absent nested source leaves the absent value in the one and an empty map
in the other.
-/

namespace Fieldwise

open Outcome

/-- A method whose result does not depend on its receiver. -/
def Method.IgnoresReceiver (m : Method) : Prop :=
  ∀ receiver other args, m.call receiver args = m.call other args

/-- Formats do not look at the receiver. -/
theorem Method.ignoresReceiver_of_format {m : Method} {template : String}
    (h : m.body = .format template) : m.IgnoresReceiver := by
  intro receiver other args
  simp only [call, h]

/-- Named combinators do not look at the receiver. -/
theorem Method.ignoresReceiver_of_combinator {m : Method} {cs : Combinators} {name : String}
    (h : cs.body? name = some m.body) : m.IgnoresReceiver := by
  intro receiver other args
  obtain ⟨f, -, body⟩ := Option.map_eq_some_iff.mp h
  simp only [call, ← body]

/-- A binding whose writer, if it has one, sets the field that is bound. -/
def Binding.WritesOwn (key : String) (b : Binding) : Prop :=
  ∀ writer, b.writer? = some writer → writer.body = .setter key

/-- A binding whose writer sets its own field assigns that field. -/
theorem Binding.WritesOwn.assigns {key : String} {b : Binding} (h : b.WritesOwn key) :
    b.assigns key = key := by
  cases bound : b.writer? with
  | none => exact assigns_of_none bound
  | some writer => exact assigns_of_setter bound (h writer bound)

/-- A setter is no code of users. -/
theorem Binding.WritesOwn.plain {key : String} {b : Binding} (h : b.WritesOwn key) :
    b.WritesPlainly := by
  intro w bound run
  rw [h w bound]
  exact Body.noConfusion

/-- The writers of a mapping set the fields that they are bound to, and its computing methods do
not look at their receiver. -/
structure Mapping.IsPlain (m : Mapping) : Prop where
  writers : ∀ key b, (key, b) ∈ m.bindings → b.WritesOwn key
  combinators : ∀ key b, (key, b) ∈ m.bindings → ∀ combinator, b.combinator? = some combinator →
    combinator.IgnoresReceiver

mutual

/-- An instance and a table that mirror each other as results of a mapping under a filter. -/
inductive Mapping.Mirrors : Mapping → FieldFilter → Record → Table Value → Prop
  | mk {m : Mapping} {filter : FieldFilter} {made : Record} {table : Table Value}
      (keys : ∀ key, key ∈ table.names ↔
        key ∈ m.bindings.names ∧ (filter.effective m.defaults).allows key = true)
      (present : ∀ key, key ∈ table.names → made.has key = true)
      (values : ∀ key b held shown, m.bindings.find? key = some b → made.get? key = some held →
        table.find? key = some shown → b.Mirrors held shown) :
      m.Mirrors filter made table

/-- A value held by the instance and a value shown by the table that mirror each other under a
binding. -/
inductive Binding.Mirrors : Binding → Value → Value → Prop
  | direct {field : String} {reader : Method} {writer : Option Method} {value : Value} :
      (Binding.direct field reader writer).Mirrors value value
  | synthetic {field : String} {combinator : Method} {readers : List Method}
      {writer : Option Method} {value : Value} :
      (Binding.synthetic field combinator readers writer).Mirrors value value
  | absent {field : String} {reader : Method} {writer : Option Method} {nested : Mapping} :
      (Binding.chained field reader writer nested).Mirrors .null (.map [])
  | present {field : String} {reader : Method} {writer : Option Method} {nested : Mapping}
      {made : Record} {table : Table Value} (inner : nested.Mirrors .all made table) :
      (Binding.chained field reader writer nested).Mirrors made.toValue (.map table)

end

namespace Mapping

variable {c : Catalog}

section Fill

variable {target : Schema} {filter : FieldFilter} {source before filled : Record}
  {bound : Table Binding}

/-- A wanted binding is the last one that assigns its field. -/
theorem lastInto_eq_of_mem (distinct : bound.names.Nodup)
    (own : ∀ key b, (key, b) ∈ bound → b.WritesOwn key) {key : String} {b : Binding}
    (member : (key, b) ∈ bound) (wanted : filter.allows key = true) :
    lastInto filter bound key = some (key, b) := by
  have kept : (key, b) ∈ bound.filter fun entry ↦ filter.allows entry.1 :=
    List.mem_filter.mpr ⟨member, wanted⟩
  have names : (bound.filter fun entry ↦ filter.allows entry.1).map
      (fun entry ↦ entry.2.assigns entry.1) =
        (bound.filter fun entry ↦ filter.allows entry.1).map Prod.fst :=
    List.map_congr_left fun entry member ↦
      (own entry.1 entry.2 (List.mem_of_mem_filter member)).assigns
  have apart : ((bound.filter fun entry ↦ filter.allows entry.1).map
      fun entry ↦ entry.2.assigns entry.1).Nodup :=
    names ▸ distinct.sublist (List.filter_sublist.map Prod.fst)
  have found := find?_key_of_mem apart kept
  rw [(own key b member).assigns] at found
  exact (lastOf_eq_find? apart key).trans found

/-- Filling gives each wanted field the value that its binding makes for some state of the
instance. -/
theorem exists_instanceValue_of_fillBindings (distinct : bound.names.Nodup)
    (own : ∀ key b, (key, b) ∈ bound → b.WritesOwn key)
    (h : fillBindings c target filter source bound before = .ok filled) {key : String}
    {b : Binding} (member : (key, b) ∈ bound) (wanted : filter.allows key = true) :
    ∃ state held, instanceValue c target source state b = .ok held ∧
      filled.get? key = some held := by
  have held := get?_fillBindings (fun key b member ↦ (own key b member).plain) h key
  rw [lastInto_eq_of_mem distinct own member wanted] at held
  exact held

end Fill

/-- What an instance made by a mapping says about the table. -/
private def TableFollows (c : Catalog) (m : Mapping) : Prop :=
  ∀ value filter made, m.toInstance c value filter = .ok made →
    ∃ table, m.toTable c value filter = .ok table ∧
      match made with
      | none => value = .null ∧ table = []
      | some instance_ => value ≠ .null ∧ m.Mirrors filter instance_ table

private theorem exists_tableValue {target : Schema} {source state : Record} {b : Binding}
    {held : Value} (receiver : Record) (ignores : ∀ k, b.combinator? = some k → k.IgnoresReceiver)
    (nested : ∀ n, b.nested? = some n → TableFollows c n)
    (h : instanceValue c target source state b = .ok held) :
    ∃ shown, tableValue c target source receiver b = .ok shown ∧ b.Mirrors held shown := by
  cases b with
  | direct field reader writer => exact ⟨held, h, .direct⟩
  | synthetic field combinator readers writer =>
    refine ⟨held, ?_, .synthetic⟩
    rw [instanceValue, combine, bind_eq_ok] at h
    obtain ⟨args, read, result⟩ := h
    rw [ignores combinator rfl state receiver args] at result
    exact bind_eq_ok.mpr ⟨args, read, result⟩
  | chained field reader writer n =>
    rw [instanceValue, bind_eq_ok] at h
    obtain ⟨value, read, h⟩ := h
    obtain ⟨made, run, h⟩ := bind_eq_ok.mp h
    obtain ⟨table, shown, follows⟩ := nested n rfl value .all made run
    refine ⟨.map table, bind_eq_ok.mpr ⟨value, read, bind_eq_ok.mpr ⟨table, shown, rfl⟩⟩, ?_⟩
    cases made with
    | none =>
      cases h
      rw [follows.2]
      exact .absent
    | some instance_ =>
      cases h
      exact .present follows.2

private theorem exists_held_and_shown {m : Mapping} (distinct : m.bindings.names.Nodup)
    (plain : m.IsPlain)
    (nested : ∀ key field reader writer n, (key, .chained field reader writer n) ∈ m.bindings →
      TableFollows c n) {filter : FieldFilter} {source fresh filled : Record}
    (run : fillBindings c m.target filter source m.bindings fresh = .ok filled) {key : String}
    {b : Binding} (member : (key, b) ∈ m.bindings) (wanted : filter.allows key = true) :
    ∃ held shown, filled.get? key = some held ∧
      tableValue c m.target source fresh b = .ok shown ∧ b.Mirrors held shown := by
  obtain ⟨state, held, made, holds⟩ :=
    exists_instanceValue_of_fillBindings distinct plain.writers run member wanted
  have follows : ∀ n, b.nested? = some n → TableFollows c n := by
    intro n hn
    cases b with
    | chained field reader writer n' =>
      cases hn
      exact nested key field reader writer n member
    | _ => cases hn
  obtain ⟨shown, shows, mirrors⟩ :=
    exists_tableValue fresh (plain.combinators key b member) follows made
  exact ⟨held, shown, holds, shows, mirrors⟩

-- One level; the theorem below goes down the nested mappings.
private theorem tableFollows_of_nested {m : Mapping} (compiled : c.Compiled m) (plain : m.IsPlain)
    (nested : ∀ key field reader writer n, (key, .chained field reader writer n) ∈ m.bindings →
      TableFollows c n) : TableFollows c m := by
  intro value filter made h
  rw [toInstance_eq, bind_eq_ok] at h
  obtain ⟨source?, read, h⟩ := h
  cases source? with
  | none =>
    cases h
    cases sourceRecord?_eq_ok_none_iff.mp read
    exact ⟨[], toTable_null, rfl, rfl⟩
  | some source =>
    obtain ⟨rfl, same⟩ := sourceRecord?_eq_ok_some_iff.mp read
    obtain ⟨fresh, built, h⟩ := bind_eq_ok.mp h
    obtain ⟨filled, run, h⟩ := bind_eq_ok.mp h
    cases h
    have distinct := compiled.nodup_names
    have values {key : String} {b : Binding} (member : (key, b) ∈ m.bindings) :=
      exists_held_and_shown distinct plain nested run member
    obtain ⟨table, collected⟩ : ∃ table, collectBindings c m.target
        (filter.effective m.defaults) source fresh m.bindings [] = .ok table := by
      simp only [collectBindings_eq_gather, gather_isOk_iff]
      intro entry member
      obtain ⟨member, wanted⟩ := List.mem_filter.mp member
      obtain ⟨held, shown, -, shows, -⟩ := values member wanted
      exact ⟨shown, shows⟩
    refine ⟨table, toTable_toValue_eq_ok_iff.mpr ⟨same, fresh, built, collected⟩, nofun, ?_⟩
    have keys := mem_names_collectBindings_iff distinct collected
    refine .mk keys (fun key member ↦ ?_) (fun key b held shown hb holds shows ↦ ?_)
    · obtain ⟨bound, wanted⟩ := (keys key).mp member
      obtain ⟨b, hb⟩ := Option.isSome_iff_exists.mp (Table.mem_names_iff.mp bound)
      obtain ⟨held, -, holds, -⟩ := values (Table.mem_of_find?_eq_some hb) wanted
      exact Option.isSome_of_eq_some holds
    · obtain ⟨b', hb', wanted, shows⟩ := exists_binding_of_collectBindings distinct collected shows
      obtain ⟨held', shown', holds', shows', mirrors⟩ :=
        values (Table.mem_of_find?_eq_some hb') wanted
      -- both modes were asked for the same binding, so these are the two values
      cases hb.symm.trans hb'
      cases holds.symm.trans holds'
      cases shows.symm.trans shows'
      exact mirrors

/-- Whenever a plain compiled mapping makes an instance of a source it also makes a table, and both
mirror each other; an absent source gives neither an instance nor an entry. -/
theorem toTable_mirrors_toInstance {target : String} {defaults : FieldFilter} {m : Mapping}
    (compiled : c.compile target defaults = .ok m) (plain : ∀ n, m.Contains n → n.IsPlain)
    (value : Value) (filter : FieldFilter) :
    (m.toInstance c .null filter = .ok none ∧ m.toTable c .null filter = .ok []) ∧
      ∀ made, m.toInstance c value filter = .ok made →
        ∃ table, m.toTable c value filter = .ok table ∧
          match made with
          | none => value = .null ∧ table = []
          | some instance_ => value ≠ .null ∧ m.Mirrors filter instance_ table := by
  have follows : ∀ m : Mapping, c.Compiled m → (∀ n, m.Contains n → n.IsPlain) →
      TableFollows c m := by
    intro m
    induction m using nested_induction with
    | step m ih =>
      intro compiled plain
      apply tableFollows_of_nested compiled (plain m (.self m))
      intro key field reader writer n member
      exact ih key field reader writer n member (compiled.nested member)
        fun k inner ↦ plain k (.nested member inner)
  refine ⟨⟨toInstance_null, toTable_null⟩, ?_⟩
  exact follows m (Catalog.compiled_of_compile compiled).1 plain value filter

private theorem isPlain_toCard : Staff.toCard.IsPlain := by
  constructor
  · intro key b member writer hw
    simp only [Staff.toCard, bindings, List.mem_cons, List.not_mem_nil, or_false,
      Prod.mk.injEq] at member
    rcases member with ⟨rfl, rfl⟩ | ⟨rfl, rfl⟩ | ⟨rfl, rfl⟩ | ⟨rfl, rfl⟩ <;> cases hw
    rfl
  · intro key b member combinator hk
    simp only [Staff.toCard, bindings, List.mem_cons, List.not_mem_nil, or_false,
      Prod.mk.injEq] at member
    rcases member with ⟨rfl, rfl⟩ | ⟨rfl, rfl⟩ | ⟨rfl, rfl⟩ | ⟨rfl, rfl⟩ <;> cases hk
    · exact Method.ignoresReceiver_of_format rfl
    · have named : Combinators.builtin.body? "add" = some Staff.twice.body := rfl
      exact Method.ignoresReceiver_of_combinator named

private theorem isPlain_toLabel : Staff.toLabel.IsPlain := by
  constructor
  · intro key b member writer hw
    simp only [Staff.toLabel, bindings, List.mem_singleton, Prod.mk.injEq] at member
    obtain ⟨rfl, rfl⟩ := member
    cases hw
  · intro key b member combinator hk
    simp only [Staff.toLabel, bindings, List.mem_singleton, Prod.mk.injEq] at member
    obtain ⟨rfl, rfl⟩ := member
    cases hk

/-- The card of a person with a boss is made in both modes, and they mirror each other. -/
theorem toTable_mirrors_toInstance_card :
    Staff.catalog.compile "Card" .all = .ok Staff.toCard ∧
      (∀ n, Staff.toCard.Contains n → n.IsPlain) ∧
      ∃ made table, Staff.toCard.toInstance Staff.catalog Staff.ada.toValue .all = .ok (some made) ∧
        Staff.toCard.toTable Staff.catalog Staff.ada.toValue .all = .ok table ∧
        Staff.toCard.Mirrors .all made table := by
  have plain : ∀ n, Staff.toCard.Contains n → n.IsPlain := by
    intro n contained
    rcases Staff.eq_of_contains contained with rfl | rfl
    · exact isPlain_toCard
    · exact isPlain_toLabel
  obtain ⟨-, mirrors⟩ :=
    toTable_mirrors_toInstance Staff.compile_card plain Staff.ada.toValue .all
  obtain ⟨table, shown, -, mirrored⟩ := mirrors (some Staff.cardForAda) Staff.toInstance_ada
  exact ⟨Staff.compile_card, plain, _, table, Staff.toInstance_ada, shown, mirrored⟩

end Mapping

end Fieldwise
