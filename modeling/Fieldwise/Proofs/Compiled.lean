import Fieldwise.Proofs.Scope

/-!
# Compiled mappings

A chain of targets that are being compiled can only refuse, and a schema that is missing can only be
missed. Whatever compiles within a chain compiles to the same mapping within a part of it, and in a
catalog that finds more. So every mapping that is nested in a compiled one, at any depth, is a
compiled mapping of its own, and what holds of compiled mappings holds at every depth.
-/

namespace Fieldwise

open Outcome

namespace Catalog

/-- The scope of a target while the targets of a chain are being compiled. -/
def scope (c : Catalog) (chain : List String) (target : Schema) (source : String) : Scope where
  catalog := c
  target := target
  source := source
  chain := chain
  nested := fun name outside filter ↦ c.compileWithin chain name outside filter

variable {c : Catalog}

/-- What compiling a target within a chain gives: its bindings in the scope of the longer chain, if
it and its source are registered. -/
theorem compileWithin_eq (chain : List String) (target : String) (fresh : target ∉ chain)
    (defaults : FieldFilter) :
    c.compileWithin chain target fresh defaults =
      match c.find? target with
      | none => .error (.unknownSerializer target)
      | some schema =>
        match schema.serializedFrom with
        | none => .error (.undeclaredSource target)
        | some source =>
          if !c.has source then .error (.unknownSource target source)
          else (c.scope (target :: chain) schema source).bindings.map
            (.mk schema source defaults) := by
  rw [compileWithin]
  split
  · next missing => simp only [missing]
  · next schema found =>
    cases declared : schema.serializedFrom with
    | none => simp only [found, declared]
    | some source =>
      simp only [found, declared]
      split
      · rfl
      · rfl

/-- A target compiles when it and its source are registered and it has bindings. -/
theorem compileWithin_eq_ok_iff {chain : List String} {target : String} {fresh : target ∉ chain}
    {defaults : FieldFilter} {m : Mapping} :
    c.compileWithin chain target fresh defaults = .ok m ↔
      ∃ schema source bound, c.find? target = some schema ∧
        schema.serializedFrom = some source ∧ c.has source = true ∧
        (c.scope (target :: chain) schema source).bindings = .ok bound ∧
        m = .mk schema source defaults bound := by
  rw [compileWithin]
  constructor
  · intro h
    split at h
    · cases h
    · next schema found =>
      split at h
      · cases h
      · next source declared =>
        split at h
        · cases h
        · next known =>
          obtain ⟨bound, bindings, h⟩ := bind_eq_ok.mp h
          cases h
          exact ⟨schema, source, bound, found, declared, by simpa using known, bindings, rfl⟩
  · rintro ⟨schema, source, bound, found, declared, known, bindings, rfl⟩
    split
    · next missing =>
      rw [found] at missing
      cases missing
    · next schema' found' =>
      rw [found] at found'
      cases found'
      simp only [declared, known, Bool.not_true, Bool.false_eq_true, ↓reduceIte]
      exact bind_eq_ok.mpr ⟨bound, bindings, rfl⟩

/-- Another catalog finds every schema that this one does. -/
def ExtendedBy (c c' : Catalog) : Prop :=
  ∀ name schema, c.find? name = some schema → c'.find? name = some schema

namespace ExtendedBy

variable {c' : Catalog}

/-- Every catalog is extended by itself. -/
theorem refl (c : Catalog) : c.ExtendedBy c := fun _ _ found ↦ found

/-- What is registered stays so. -/
theorem has (ext : c.ExtendedBy c') {name : String} (h : c.has name = true) :
    c'.has name = true := by
  obtain ⟨schema, found⟩ := Option.isSome_iff_exists.mp h
  exact Option.isSome_of_eq_some (ext name schema found)

/-- A source field that has a reader keeps it. -/
theorem reader (ext : c.ExtendedBy c') {source field : String} {reader : Method}
    (h : c.reader source field = .ok reader) : c'.reader source field = .ok reader := by
  rw [reader_eq_ok_iff] at h ⊢
  obtain ⟨found, returns⟩ := h
  obtain ⟨schema, registered, found⟩ := Option.bind_eq_some_iff.mp found
  exact ⟨Option.bind_eq_some_iff.mpr ⟨schema, ext source schema registered, found⟩, returns⟩

end ExtendedBy

variable {c' : Catalog}

/-- A declaration keeps its binding in a scope that reads and nests what the other does. -/
theorem binds_of_binds {chain chain' : List String} {target : Schema} {source : String}
    {d : Declaration} {b : Binding} (ext : c.ExtendedBy c') (sub : chain' ⊆ chain)
    (nested : ∀ name (outside : name ∉ chain) filter n,
      c.compileWithin chain name outside filter = .ok n →
        c'.compileWithin chain' name (fun member ↦ outside (sub member)) filter = .ok n)
    (h : (c.scope chain target source).Binds d b) : (c'.scope chain' target source).Binds d b := by
  cases h with
  | computed sources types => exact .computed (sources.imp fun _ _ reads ↦ ext.reader reads) types
  | direct plain reads returns fits => exact .direct plain (ext.reader reads) returns fits
  | chained chains names outside compiled reads =>
    exact .chained chains names (fun member ↦ outside (sub member))
      (nested _ outside _ _ compiled) (ext.reader reads)

/-- A target keeps its bindings in a scope that reads and nests what the other does. -/
theorem bindings_of_bindings {chain chain' : List String} {target : Schema} {source : String}
    {bound : Table Binding} (ext : c.ExtendedBy c') (sub : chain' ⊆ chain)
    (nested : ∀ name (outside : name ∉ chain) filter n,
      c.compileWithin chain name outside filter = .ok n →
        c'.compileWithin chain' name (fun member ↦ outside (sub member)) filter = .ok n)
    (h : (c.scope chain target source).bindings = .ok bound) :
    (c'.scope chain' target source).bindings = .ok bound := by
  rw [Scope.bindings_eq_gather] at h ⊢
  apply gather_eq_ok_of_keeps _ h
  intro d _ b hb
  rw [Scope.binding_eq_ok_iff] at hb ⊢
  exact binds_of_binds ext sub nested hb

/-- What compiles within a chain compiles to the same mapping within a part of the chain and in a
catalog that finds more. -/
theorem compileWithin_of_extendedBy {chain chain' : List String} {target : String}
    {fresh : target ∉ chain} {defaults : FieldFilter} {m : Mapping} (ext : c.ExtendedBy c')
    (sub : chain' ⊆ chain) (h : c.compileWithin chain target fresh defaults = .ok m) :
    c'.compileWithin chain' target (fun member ↦ fresh (sub member)) defaults = .ok m := by
  -- on the registered names outside the chain, which are fewer for each nested target
  obtain ⟨schema, source, bound, found, declared, known, bindings, rfl⟩ :=
    compileWithin_eq_ok_iff.mp h
  have longer : target :: chain' ⊆ target :: chain := List.cons_subset_cons target sub
  have kept : (c'.scope (target :: chain') schema source).bindings = .ok bound :=
    bindings_of_bindings ext longer
      (fun _ _ _ _ compiled ↦ compileWithin_of_extendedBy ext longer compiled) bindings
  exact compileWithin_eq_ok_iff.mpr
    ⟨schema, source, bound, ext target schema found, declared, ext.has known, kept, rfl⟩
termination_by (c.names.filter (· ∉ chain)).length
decreasing_by exact length_filter_lt (mem_names_of_find? found) fresh

/-- What compiles within a chain compiles to the same mapping within a part of the chain. -/
theorem compileWithin_of_subset {chain chain' : List String} {target : String}
    {fresh : target ∉ chain} {defaults : FieldFilter} {m : Mapping} (sub : chain' ⊆ chain)
    (h : c.compileWithin chain target fresh defaults = .ok m) :
    c.compileWithin chain' target (fun member ↦ fresh (sub member)) defaults = .ok m :=
  compileWithin_of_extendedBy (.refl c) sub h

/-- A mapping that the catalog compiles its target to. -/
def Compiled (c : Catalog) (m : Mapping) : Prop := c.compile m.target.name m.defaults = .ok m

/-- The result of compiling a target is a compiled mapping of that target. -/
theorem compiled_of_compile {target : String} {defaults : FieldFilter} {m : Mapping}
    (h : c.compile target defaults = .ok m) :
    c.Compiled m ∧ m.target.name = target ∧ m.defaults = defaults := by
  obtain ⟨schema, source, bound, found, -, -, -, rfl⟩ := compileWithin_eq_ok_iff.mp h
  obtain rfl := name_of_find? found
  exact ⟨h, rfl, rfl⟩

namespace Compiled

variable {m : Mapping}

/-- Target and source of a compiled mapping are registered. -/
theorem registered (h : c.Compiled m) :
    c.find? m.target.name = some m.target ∧ m.target.serializedFrom = some m.source ∧
      c.has m.source = true := by
  obtain ⟨schema, source, bound, found, declared, known, -, heq⟩ := compileWithin_eq_ok_iff.mp h
  rw [heq] at found ⊢
  exact ⟨found, declared, known⟩

/-- The bindings of a compiled mapping are those of a scope without a chain. -/
theorem bindings (h : c.Compiled m) :
    (c.scope [] m.target m.source).bindings = .ok m.bindings := by
  obtain ⟨schema, source, bound, -, -, -, bindings, heq⟩ := compileWithin_eq_ok_iff.mp h
  rw [heq]
  exact bindings_of_bindings (.refl c) (List.nil_subset _)
    (fun _ _ _ _ compiled ↦ compileWithin_of_subset (List.nil_subset _) compiled) bindings

/-- The target fields of a compiled mapping are distinct. -/
theorem nodup_names (h : c.Compiled m) : m.bindings.names.Nodup :=
  Scope.nodup_names_of_bindings _ h.bindings

/-- The binding of a target field is that of the field's owner. -/
theorem binds_owner (h : c.Compiled m) {key : String} {b : Binding}
    (hb : m.bindings.find? key = some b) :
    ∃ d, m.target.owner? key = some d ∧ (c.scope [] m.target m.source).Binds d b :=
  Scope.binds_owner_of_bindings _ h.bindings hb

/-- Each binding of a compiled mapping is that of a declaration. -/
theorem exists_binds_of_mem (h : c.Compiled m) {key : String} {b : Binding}
    (member : (key, b) ∈ m.bindings) : ∃ d, (c.scope [] m.target m.source).Binds d b := by
  obtain ⟨d, -, binds⟩ := Scope.binds_owner_of_mem _ h.bindings member
  exact ⟨d, binds⟩

/-- A mapping nested in a compiled one is compiled. -/
theorem nested (h : c.Compiled m) {key field : String} {reader : Method} {writer : Option Method}
    {n : Mapping} (member : (key, .chained field reader writer n) ∈ m.bindings) :
    c.Compiled n := by
  obtain ⟨d, binds⟩ := h.exists_binds_of_mem member
  cases binds with
  | chained _ _ _ compiled _ => exact (compiled_of_compile compiled).1

end Compiled

end Catalog

namespace Mapping

/-- A mapping contains itself and what its nested mappings contain. -/
inductive Contains : Mapping → Mapping → Prop
  | self (m : Mapping) : m.Contains m
  | nested {m n k : Mapping} {key field : String} {reader : Method} {writer : Option Method}
      (member : (key, .chained field reader writer n) ∈ m.bindings) (inner : n.Contains k) :
      m.Contains k

/-- What is contained is the mapping itself, or contained in a nested mapping. -/
theorem contains_iff {m k : Mapping} :
    m.Contains k ↔ k = m ∨
      ∃ key field reader writer n,
        (key, .chained field reader writer n) ∈ m.bindings ∧ n.Contains k := by
  constructor
  · intro h
    cases h with
    | self => exact .inl rfl
    | nested member inner => exact .inr ⟨_, _, _, _, _, member, inner⟩
  · rintro (rfl | ⟨key, field, reader, writer, n, member, inner⟩)
    · exact .self k
    · exact .nested member inner

/-- What a contained mapping contains is contained. -/
theorem Contains.trans {m n k : Mapping} (h : m.Contains n) (inner : n.Contains k) :
    m.Contains k := by
  induction h with
  | self => exact inner
  | nested member _ ih => exact .nested member (ih inner)

/-- A nested mapping is smaller. -/
theorem sizeOf_lt_of_mem {m n : Mapping} {key field : String} {reader : Method}
    {writer : Option Method} (member : (key, .chained field reader writer n) ∈ m.bindings) :
    sizeOf n < sizeOf m := by
  obtain ⟨target, source, defaults, bound⟩ := m
  have entry : sizeOf (key, Binding.chained field reader writer n) < sizeOf bound :=
    List.sizeOf_lt_of_mem member
  simp only [Prod.mk.sizeOf_spec, Binding.chained.sizeOf_spec] at entry
  simp only [mk.sizeOf_spec]
  omega

/-- What holds of a mapping whenever it holds of the mappings nested directly in it holds of all
mappings. -/
theorem nested_induction {P : Mapping → Prop}
    (step : ∀ m, (∀ key field reader writer n,
      (key, .chained field reader writer n) ∈ m.bindings → P n) → P m) (m : Mapping) : P m :=
  step m fun _ _ _ _ n _ ↦ nested_induction step n
termination_by sizeOf m
decreasing_by
  next member => exact sizeOf_lt_of_mem member

end Mapping

/-- What a compiled mapping contains is compiled. -/
theorem Catalog.Compiled.contained {c : Catalog} {m n : Mapping} (h : c.Compiled m)
    (inner : m.Contains n) : c.Compiled n := by
  induction inner with
  | self m => exact h
  | nested member _ ih => exact ih (h.nested member)

end Fieldwise
