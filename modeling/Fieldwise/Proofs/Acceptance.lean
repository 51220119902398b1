import Mathlib.Logic.Relation
import Fieldwise.Proofs.Compiled

/-!
# Which targets compile

The targets that a target is chained to form a graph. A target compiles exactly when each target
that can be reached from it is well formed by itself and none of them lies on a cycle. The order of
the declarations, the default filter and the number of ways to reach a target play no part.
-/

namespace Fieldwise.Catalog

open Relation

/-- A source field is read at a type: the first method of its reader's name without parameters
returns that type. -/
def Reads (c : Catalog) (source field : String) (type : Ty) : Prop :=
  ∃ reader, c.findMethod? source (Accessor.reader field) [] = some reader ∧
    reader.returns = some type

/-- What a declaration asks of the source and of its own types. A computed field asks for a read of
each of its sources, one for each parameter and of exactly the parameter's type. A slot asks for a
read of its source field; a plain writer takes what is read, and a chained slot is declared with
the record type of the schema that it is mapped with. -/
def Accepts (c : Catalog) (source : String) : Declaration → Prop
  | .computed combinator synthesis =>
    List.Forall₂ (c.Reads source) synthesis.sources combinator.params
  | .slot slot => ∃ type, c.Reads source slot.sourceField type ∧
    match slot.chaining with
    | none => slot.writer.isSome → slot.type.isAssignableFrom type = true
    | some chaining => ∃ serializer, chaining.Names slot.type serializer

/-- A target that is well formed by itself: it is registered, so is the source it declares, and
the source has what the declarations that count ask for. -/
def WellFormed (c : Catalog) (target : String) : Prop :=
  ∃ schema source, c.find? target = some schema ∧ schema.serializedFrom = some source ∧
    c.has source = true ∧ ∀ d, schema.Live d → c.Accepts source d

/-- A target is chained to the schema that one of its chained slots names, or that is named by the
slot's declared type. -/
def ChainEdge (c : Catalog) (outer inner : String) : Prop :=
  ∃ schema slot chaining, c.find? outer = some schema ∧ schema.Live (.slot slot) ∧
    slot.chaining = some chaining ∧
    chaining.serializer.or slot.type.recordName? = some inner

variable {c : Catalog}

/-- A source field is read as a type when it has a reader that returns it. -/
theorem reads_iff {source field : String} {type : Ty} :
    c.Reads source field type ↔
      ∃ reader, c.reader source field = .ok reader ∧ reader.returns = some type := by
  simp only [Reads, reader_eq_ok_iff]
  constructor
  · rintro ⟨reader, found, returns⟩
    exact ⟨reader, ⟨found, type, returns⟩, returns⟩
  · rintro ⟨reader, ⟨found, -⟩, returns⟩
    exact ⟨reader, found, returns⟩

private theorem forall₂_reads_iff {source : String} {sources : List String} {params : List Ty} :
    List.Forall₂ (c.Reads source) sources params ↔
      ∃ readers, List.Forall₂ (fun field reader ↦ c.reader source field = .ok reader)
          sources readers ∧
        List.Forall₂ (fun param (reader : Method) ↦ reader.returns = some param)
          params readers := by
  constructor
  · intro h
    induction h with
    | nil => exact ⟨[], .nil, .nil⟩
    | cons head _ ih =>
      obtain ⟨reader, reads, returns⟩ := reads_iff.mp head
      obtain ⟨readers, sources, types⟩ := ih
      exact ⟨reader :: readers, .cons reads sources, .cons returns types⟩
  · rintro ⟨readers, sources, types⟩
    induction sources generalizing params with
    | nil =>
      cases types
      exact .nil
    | cons reads _ ih =>
      cases types with
      | cons returns types => exact .cons (reads_iff.mpr ⟨_, reads, returns⟩) (ih types)

private theorem or_recordName?_of_names {chaining : Chaining} {declared : Ty} {serializer : String}
    (names : chaining.Names declared serializer) :
    chaining.serializer.or declared.recordName? = some serializer := by
  obtain ⟨rfl, same⟩ := names
  cases h : chaining.serializer with
  | none => rfl
  | some name => simp [same name h]

/-- A declaration is bound when it is accepted and what it is chained to compiles. -/
theorem exists_binds_iff {chain : List String} {target : Schema} {source : String}
    {d : Declaration} :
    (∃ b, (c.scope chain target source).Binds d b) ↔
      c.Accepts source d ∧ ∀ slot chaining inner, d = .slot slot → slot.chaining = some chaining →
        chaining.serializer.or slot.type.recordName? = some inner →
        ∃ (outside : inner ∉ chain) (n : Mapping),
          c.compileWithin chain inner outside ⟨chaining.fields⟩ = .ok n := by
  constructor
  · rintro ⟨b, binds⟩
    cases binds with
    | computed sources types =>
      exact ⟨forall₂_reads_iff.mpr ⟨_, sources, types⟩, by simp⟩
    | @direct slot reader type plain reads returns fits =>
      refine ⟨⟨type, reads_iff.mpr ⟨reader, reads, returns⟩, ?_⟩, ?_⟩
      · rw [plain]
        exact fits
      · rintro _ chaining inner ⟨⟩ chains
        rw [plain] at chains
        cases chains
    | @chained slot chaining serializer reader nested chains names outside compiled reads =>
      obtain ⟨-, type, returns⟩ := reader_eq_ok_iff.mp reads
      refine ⟨⟨type, reads_iff.mpr ⟨reader, reads, returns⟩, ?_⟩, ?_⟩
      · rw [chains]
        exact ⟨serializer, names⟩
      · rintro _ chaining' inner ⟨⟩ chains' named
        rw [chains] at chains'
        cases chains'
        rw [or_recordName?_of_names names] at named
        cases named
        exact ⟨outside, nested, compiled⟩
  · rintro ⟨accepts, chained⟩
    cases d with
    | computed combinator synthesis =>
      obtain ⟨readers, sources, types⟩ := forall₂_reads_iff.mp accepts
      exact ⟨_, .computed sources types⟩
    | slot slot =>
      obtain ⟨type, reads, accepts⟩ := accepts
      obtain ⟨reader, reads, returns⟩ := reads_iff.mp reads
      cases hc : slot.chaining with
      | none =>
        rw [hc] at accepts
        exact ⟨_, .direct hc reads returns accepts⟩
      | some chaining =>
        rw [hc] at accepts
        obtain ⟨serializer, names⟩ := accepts
        obtain ⟨outside, nested, compiled⟩ :=
          chained slot chaining serializer rfl hc (or_recordName?_of_names names)
        exact ⟨_, .chained hc names outside compiled reads⟩

/-- Whether a target compiles does not depend on its default filter. -/
theorem exists_compileWithin_of_eq_ok {chain : List String} {target : String}
    {fresh : target ∉ chain} {defaults : FieldFilter} {m : Mapping}
    (h : c.compileWithin chain target fresh defaults = .ok m) (other : FieldFilter) :
    ∃ n, c.compileWithin chain target fresh other = .ok n := by
  obtain ⟨schema, source, bound, found, declared, known, bindings, -⟩ :=
    compileWithin_eq_ok_iff.mp h
  exact ⟨_, compileWithin_eq_ok_iff.mpr
    ⟨schema, source, bound, found, declared, known, bindings, rfl⟩⟩

/-- One step: a target compiles when it is well formed and all it is chained to compile within the
longer chain. -/
theorem exists_compileWithin_iff_step {chain : List String} {target : String}
    {fresh : target ∉ chain} {defaults : FieldFilter} :
    (∃ m, c.compileWithin chain target fresh defaults = .ok m) ↔
      c.WellFormed target ∧ ∀ inner, c.ChainEdge target inner →
        ∃ (outside : inner ∉ target :: chain) (n : Mapping),
          c.compileWithin (target :: chain) inner outside .all = .ok n := by
  constructor
  · rintro ⟨m, h⟩
    obtain ⟨schema, source, bound, found, declared, known, bindings, -⟩ :=
      compileWithin_eq_ok_iff.mp h
    have binds := (Scope.bindings_isOk_iff _).mp ⟨bound, bindings⟩
    refine ⟨⟨schema, source, found, declared, known, fun d live ↦ ?_⟩, ?_⟩
    · exact (exists_binds_iff.mp (binds d live)).1
    · rintro inner ⟨schema', slot, chaining, found', live, chains, named⟩
      rw [found] at found'
      cases found'
      obtain ⟨outside, n, compiled⟩ :=
        (exists_binds_iff.mp (binds _ live)).2 slot chaining inner rfl chains named
      exact ⟨outside, exists_compileWithin_of_eq_ok compiled .all⟩
  · rintro ⟨⟨schema, source, found, declared, known, accepts⟩, edges⟩
    have binds : ∀ d, schema.Live d →
        ∃ b, (c.scope (target :: chain) schema source).Binds d b := by
      intro d live
      refine exists_binds_iff.mpr ⟨accepts d live, ?_⟩
      rintro slot chaining inner rfl chains named
      obtain ⟨outside, n, compiled⟩ :=
        edges inner ⟨schema, slot, chaining, found, live, chains, named⟩
      exact ⟨outside, exists_compileWithin_of_eq_ok compiled _⟩
    obtain ⟨bound, bindings⟩ :=
      (c.scope (target :: chain) schema source).bindings_isOk_iff.mpr binds
    exact ⟨_, compileWithin_eq_ok_iff.mpr
      ⟨schema, source, bound, found, declared, known, bindings, rfl⟩⟩

/-- Within a chain a target compiles when all that it reaches is well formed, on no cycle, and
outside the chain. -/
theorem exists_compileWithin_iff {chain : List String} {target : String} {fresh : target ∉ chain}
    {defaults : FieldFilter} :
    (∃ m, c.compileWithin chain target fresh defaults = .ok m) ↔
      ∀ name, ReflTransGen c.ChainEdge target name →
        c.WellFormed name ∧ ¬ TransGen c.ChainEdge name name ∧ name ∉ chain := by
  -- on the registered names outside the chain; a cycle shows as a target that returns to the chain
  rw [exists_compileWithin_iff_step]
  constructor
  · rintro ⟨wellFormed, edges⟩ name reach
    have member : target ∈ c.names := by
      obtain ⟨schema, -, found, -⟩ := wellFormed
      exact mem_names_of_find? found
    have below : ∀ inner, c.ChainEdge target inner → ∀ name, ReflTransGen c.ChainEdge inner name →
        c.WellFormed name ∧ ¬ TransGen c.ChainEdge name name ∧ name ∉ target :: chain := by
      intro inner edge
      obtain ⟨outside, compiled⟩ := edges inner edge
      exact exists_compileWithin_iff.mp compiled
    rcases ReflTransGen.cases_head reach with rfl | ⟨inner, edge, reach⟩
    · refine ⟨wellFormed, fun cycle ↦ ?_, fresh⟩
      obtain ⟨inner, edge, back⟩ := TransGen.head'_iff.mp cycle
      exact (below inner edge target back).2.2 List.mem_cons_self
    · obtain ⟨wellFormed, acyclic, outside⟩ := below inner edge name reach
      exact ⟨wellFormed, acyclic, fun member ↦ outside (List.mem_cons_of_mem target member)⟩
  · intro h
    have acyclic : ¬ TransGen c.ChainEdge target target := (h target .refl).2.1
    have member : target ∈ c.names := by
      obtain ⟨schema, -, found, -⟩ := (h target .refl).1
      exact mem_names_of_find? found
    have leaves : ∀ inner, c.ChainEdge target inner → ∀ name, ReflTransGen c.ChainEdge inner name →
        name ∉ target :: chain := by
      intro inner edge name reach again
      rcases List.mem_cons.mp again with rfl | again
      · exact acyclic (.head' edge reach)
      · exact (h name (.head edge reach)).2.2 again
    refine ⟨(h target .refl).1, fun inner edge ↦ ⟨leaves inner edge inner .refl, ?_⟩⟩
    apply exists_compileWithin_iff.mpr
    intro name reach
    obtain ⟨wellFormed, acyclic, -⟩ := h name (.head edge reach)
    exact ⟨wellFormed, acyclic, leaves inner edge name reach⟩
termination_by (c.names.filter (· ∉ chain)).length
decreasing_by all_goals exact length_filter_lt member fresh

/-- A target compiles exactly when every target that it reaches over chained slots, itself
included, is well formed by itself and lies on no cycle. -/
theorem exists_compile_iff (c : Catalog) (target : String) (defaults : FieldFilter) :
    (∃ m, c.compile target defaults = .ok m) ↔
      ∀ name, ReflTransGen c.ChainEdge target name →
        c.WellFormed name ∧ ¬ TransGen c.ChainEdge name name := by
  simp only [compile, exists_compileWithin_iff, List.not_mem_nil, not_false_eq_true, and_true]

end Fieldwise.Catalog
