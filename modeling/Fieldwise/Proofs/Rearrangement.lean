import Fieldwise.Proofs.Acceptance
import Fieldwise.Proofs.Agreement
import Fieldwise.Proofs.Conformance
import Fieldwise.Proofs.Precedence
import Fieldwise.Proofs.Selection
import Fieldwise.Proofs.Wiring

/-!
# Rearranged declarations

Where names settle which declaration is meant, the order of declarations does not matter to tables.
Catalogs whose schemas declare the same fields and methods in different orders compile the same
targets, bind the same target fields, and make the same table of a source or none. The order decides
no more than the order of the bindings, and with it which of several faults is met first.
-/

namespace Fieldwise

open Outcome Relation

/-- What only items of one key satisfy is found in any order, if the keys are distinct. -/
theorem find?_eq_of_perm {α κ : Type} {wanted : α → Bool} {key : α → κ} {k : κ}
    {items items' : List α} (perm : items.Perm items') (distinct : (items.map key).Nodup)
    (keyed : ∀ a, wanted a = true → key a = k) : items'.find? wanted = items.find? wanted := by
  cases found : items.find? wanted with
  | none =>
    rw [List.find?_eq_none] at found ⊢
    exact fun a member ↦ found a (perm.mem_iff.mpr member)
  | some a =>
    have member := List.mem_of_find?_eq_some found
    have holds := List.find?_some found
    cases found' : items'.find? wanted with
    | none => exact absurd holds (List.find?_eq_none.mp found' a (perm.mem_iff.mp member))
    | some b =>
      have member' := perm.mem_iff.mpr (List.mem_of_find?_eq_some found')
      have same : key b = key a := (keyed b (List.find?_some found')).trans (keyed a holds).symm
      rw [List.inj_on_of_nodup_map distinct member' member same]

/-- A method that computes the same on receivers that hold the same: it reads one field of its
receiver, or nothing. -/
def Method.ReadsFields (m : Method) : Prop := (∃ field, m.body = .getter field) ∨ m.IgnoresReceiver

/-- A method that reads fields alone returns the same for receivers that hold the same. -/
theorem Method.ReadsFields.call_eq {m : Method} (h : m.ReadsFields) {receiver other : Record}
    (alike : ∀ name, other.get? name = receiver.get? name) {args : List Value} {value : Value}
    (result : m.call receiver args = .ok value) : m.call other args = .ok value := by
  rcases h with ⟨field, body⟩ | ignores
  · rw [call, bind_eq_ok] at result ⊢
    obtain ⟨_, checked, result⟩ := result
    refine ⟨_, checked, ?_⟩
    simp only [body, alike field] at result ⊢
    cases held : receiver.get? field with
    | none => simp [held] at result
    | some value => simpa only [held] using result
  · rw [ignores other receiver args, result]

namespace Schema

/-- The same schema with its fields and its methods declared in any order. -/
structure Rearranged (s s' : Schema) : Prop where
  name : s'.name = s.name
  serializedFrom : s'.serializedFrom = s.serializedFrom
  construction : s'.construction = s.construction
  fields : s.fields.Perm s'.fields
  methods : s.methods.Perm s'.methods

/-- The schema with its declarations in the opposite order. -/
def reversed (s : Schema) : Schema :=
  { s with fields := s.fields.reverse, methods := s.methods.reverse }

/-- Names settle which declaration is meant: fields have distinct names, methods differ in name or
parameters, and no two methods fill the same target field. What computing methods see of their
receiver is at most what it holds in a field. -/
structure Unambiguous (s : Schema) : Prop where
  fields : (s.fields.map FieldDef.name).Nodup
  methods : (s.methods.map fun m ↦ (m.name, m.params)).Nodup
  targets : s.methodTargets.Nodup
  combinators : ∀ m ∈ s.methods, m.synthesis.isSome → m.ReadsFields

/-- A schema with its declarations reversed is a rearrangement. -/
theorem rearranged_reversed (s : Schema) : s.Rearranged s.reversed where
  name := rfl
  serializedFrom := rfl
  construction := rfl
  fields := s.fields.reverse_perm.symm
  methods := s.methods.reverse_perm.symm

namespace Rearranged

variable {s s' : Schema}

/-- Schemas that are rearrangements of one another are so both ways. -/
theorem symm (h : s.Rearranged s') : s'.Rearranged s where
  name := h.name.symm
  serializedFrom := h.serializedFrom.symm
  construction := h.construction.symm
  fields := h.fields.symm
  methods := h.methods.symm

/-- What is unambiguous stays so in any order. -/
theorem unambiguous (h : s.Rearranged s') (clear : s.Unambiguous) : s'.Unambiguous where
  fields := (h.fields.map _).nodup_iff.mp clear.fields
  methods := (h.methods.map _).nodup_iff.mp clear.methods
  targets := (h.methods.filterMap _).nodup_iff.mp clear.targets
  combinators := fun m member ↦ clear.combinators m (h.methods.mem_iff.mpr member)

/-- Rearranging rearranges what the methods declare. -/
theorem perm_methodDeclarations (h : s.Rearranged s') :
    s.methodDeclarations.Perm s'.methodDeclarations := h.methods.filterMap _

/-- The same method is found by name and parameters. -/
theorem findMethod?_eq (h : s.Rearranged s') (clear : s.Unambiguous) (name : String)
    (params : List Ty) : s'.findMethod? name params = s.findMethod? name params := by
  apply find?_eq_of_perm (k := (name, params)) h.methods clear.methods
  intro m same
  simpa using same

/-- The same exposed field is found by name. -/
theorem exposedField?_eq (h : s.Rearranged s') (clear : s.Unambiguous) (name : String) :
    s'.exposedField? name = s.exposedField? name := by
  apply find?_eq_of_perm (k := name) h.fields clear.fields
  intro f same
  simp only [Bool.and_eq_true, beq_iff_eq] at same
  exact same.2

/-- The same declaration owns a target field. -/
theorem owner?_eq (h : s.Rearranged s') (clear : s.Unambiguous) (key : String) :
    s'.owner? key = s.owner? key := by
  have distinct : (s.methodDeclarations.map Declaration.key).Nodup :=
    s.map_key_methodDeclarations ▸ clear.targets
  have distinct' : (s'.methodDeclarations.map Declaration.key).Nodup :=
    s'.map_key_methodDeclarations ▸ (h.unambiguous clear).targets
  have methods : s'.methodDeclarations.find? (Declaration.key · == key) =
      s.methodDeclarations.find? (Declaration.key · == key) := by
    apply find?_eq_of_perm (k := key) h.perm_methodDeclarations distinct
    intro d same
    simpa using same
  rw [owner?, owner?, lastOf_eq_find? distinct, lastOf_eq_find? distinct', methods,
    h.exposedField?_eq clear]

/-- The same declarations count. -/
theorem live_iff (h : s.Rearranged s') (clear : s.Unambiguous) (d : Declaration) :
    s'.Live d ↔ s.Live d := by
  simp only [Live, h.perm_methodDeclarations.mem_iff, h.exposedField?_eq clear]

/-- The same target fields are filled by methods. -/
theorem mem_methodTargets_iff (h : s.Rearranged s') (key : String) :
    key ∈ s'.methodTargets ↔ key ∈ s.methodTargets :=
  (h.methods.filterMap _).mem_iff.symm

/-- The same names are exposed. -/
theorem mem_exposedNames_iff (h : s.Rearranged s') (key : String) :
    key ∈ s'.exposedNames ↔ key ∈ s.exposedNames :=
  ((h.fields.filter _).map _).mem_iff.symm

/-- A new instance of the one schema holds what a new instance of the other does. -/
theorem exists_instantiate (h : s.Rearranged s') {record : Record}
    (built : s.instantiate = .ok record) :
    ∃ record', s'.instantiate = .ok record' ∧ ∀ name, record'.get? name = record.get? name := by
  rw [instantiate] at built ⊢
  rw [h.construction]
  cases construction : s.construction with
  | blank =>
    rw [construction] at built
    cases built
    refine ⟨s'.blank, rfl, fun name ↦ ?_⟩
    simp only [Schema.get?_blank, (h.fields.map FieldDef.name).mem_iff]
  | inaccessible => simp [construction] at built
  | requires arity => simp [construction] at built
  | native build =>
    cases build with
    | error reason => simp [construction] at built
    | ok made =>
      simp only [construction, Except.ok.injEq] at built
      exact ⟨record, congrArg Except.ok built, fun _ ↦ rfl⟩

end Rearranged

end Schema

namespace Catalog

/-- The same unambiguous schemas, each with its declarations in any order. -/
structure Rearranged (c c' : Catalog) : Prop where
  schemas : List.Forall₂ Schema.Rearranged c.schemas c'.schemas
  unambiguous : ∀ s ∈ c.schemas, s.Unambiguous

namespace Rearranged

variable {c c' : Catalog} {s s' : Schema} {name : String}

/-- Catalogs that are rearrangements of one another are so both ways. -/
theorem symm (h : c.Rearranged c') : c'.Rearranged c where
  schemas := h.schemas.flip.imp fun _ _ same ↦ same.symm
  unambiguous := by
    intro s' member
    obtain ⟨s, member, same⟩ := exists_mem_of_forall₂ h.schemas member
    exact same.unambiguous (h.unambiguous s member)

/-- What is found under a name is found rearranged. -/
theorem exists_of_find? (h : c.Rearranged c') (found : c.find? name = some s) :
    ∃ s', c'.find? name = some s' ∧ s.Rearranged s' ∧ s.Unambiguous := by
  have clear := h.unambiguous s (List.mem_of_find?_eq_some found)
  have schemas := h.schemas
  rw [find?] at found ⊢
  generalize c.schemas = listed at schemas found
  generalize c'.schemas = listed' at schemas ⊢
  induction schemas with
  | nil => cases found
  | @cons first first' rest rest' same _ ih =>
    by_cases named : first.name = name
    · rw [List.find?_cons_of_pos (by simpa using named), Option.some.injEq] at found
      subst found
      refine ⟨first', List.find?_cons_of_pos ?_, same, clear⟩
      simpa [same.name] using named
    · rw [List.find?_cons_of_neg (by simpa using named)] at found
      rw [List.find?_cons_of_neg (by simpa [same.name] using named)]
      exact ih found

/-- Rearranging keeps what is registered. -/
theorem has (h : c.Rearranged c') (known : c.has name = true) : c'.has name = true := by
  obtain ⟨s, found⟩ := Option.isSome_iff_exists.mp known
  obtain ⟨s', found', -⟩ := h.exists_of_find? found
  exact Option.isSome_iff_exists.mpr ⟨s', found'⟩

/-- The same method of a schema is found. -/
theorem findMethod?_eq (h : c.Rearranged c') (schema name : String) (params : List Ty) :
    c'.findMethod? schema name params = c.findMethod? schema name params := by
  rw [findMethod?, findMethod?]
  cases found : c.find? schema with
  | some s =>
    obtain ⟨s', found', same, clear⟩ := h.exists_of_find? found
    rw [found', Option.bind_some, Option.bind_some, same.findMethod?_eq clear]
  | none =>
    cases found' : c'.find? schema with
    | none => rfl
    | some s' =>
      obtain ⟨s, missing, -⟩ := h.symm.exists_of_find? found'
      cases found.symm.trans missing

/-- A source field has the same reader. -/
theorem reader_eq (h : c.Rearranged c') (source field : String) :
    c'.reader source field = c.reader source field := by
  rw [reader, reader, h.findMethod?_eq]

/-- A source field is read at the same type. -/
theorem reads_eq (h : c.Rearranged c') (source : String) : c'.Reads source = c.Reads source := by
  funext field type
  rw [Reads, Reads, h.findMethod?_eq]

/-- The same is asked of a source. -/
theorem accepts_iff (h : c.Rearranged c') (source : String) (d : Declaration) :
    c'.Accepts source d ↔ c.Accepts source d := by
  cases d <;> simp only [Accepts, h.reads_eq]

/-- What is well formed by itself stays so. -/
theorem wellFormed (h : c.Rearranged c') (formed : c.WellFormed name) : c'.WellFormed name := by
  obtain ⟨s, source, found, declared, known, accepts⟩ := formed
  obtain ⟨s', found', same, clear⟩ := h.exists_of_find? found
  refine ⟨s', source, found', same.serializedFrom.trans declared, h.has known, fun d live ↦ ?_⟩
  rw [h.accepts_iff]
  exact accepts d ((same.live_iff clear d).mp live)

/-- What is chained stays chained. -/
theorem chainEdge (h : c.Rearranged c') {inner : String} (edge : c.ChainEdge name inner) :
    c'.ChainEdge name inner := by
  obtain ⟨s, slot, chaining, found, live, chains, named⟩ := edge
  obtain ⟨s', found', same, clear⟩ := h.exists_of_find? found
  exact ⟨s', slot, chaining, found', (same.live_iff clear _).mpr live, chains, named⟩

/-- A target that compiles still compiles. -/
theorem exists_compile (h : c.Rearranged c') {target : String} {defaults : FieldFilter}
    (compiles : ∃ m, c.compile target defaults = .ok m) :
    ∃ m', c'.compile target defaults = .ok m' := by
  have back : ∀ outer inner, c'.ChainEdge outer inner → c.ChainEdge outer inner :=
    fun _ _ ↦ h.symm.chainEdge
  rw [exists_compile_iff] at compiles ⊢
  intro name reach
  obtain ⟨formed, acyclic⟩ := compiles name (ReflTransGen.mono back _ _ reach)
  exact ⟨h.wellFormed formed, fun cycle ↦ acyclic (TransGen.mono back _ _ cycle)⟩

end Rearranged

/-- The target fields of a compiled mapping are those that methods of its target fill or that its
exposed fields name. -/
theorem Compiled.mem_names_iff {c : Catalog} {m : Mapping} (h : c.Compiled m) (key : String) :
    key ∈ m.bindings.names ↔ key ∈ m.target.methodTargets ∨ key ∈ m.target.exposedNames := by
  rw [Scope.names_of_bindings _ h.bindings, List.mem_append, List.mem_eraseDups,
    List.mem_eraseDups, List.mem_filter, decide_eq_true_eq]
  change key ∈ m.target.methodTargets ∨
    key ∈ m.target.exposedNames ∧ key ∉ m.target.methodTargets ↔ _
  by_cases filled : key ∈ m.target.methodTargets <;> simp [filled]

end Catalog

/-- Mappings that two catalogs compile one target to, with one default filter. -/
structure Mapping.Counterpart (c c' : Catalog) (m m' : Mapping) : Prop where
  compiled : c.Compiled m
  compiled' : c'.Compiled m'
  target : m'.target.name = m.target.name
  defaults : m'.defaults = m.defaults

/-- Bindings that contribute the same to tables: they have the same readers, and compute by the same
method or map by mappings of one target. -/
inductive Binding.Counterpart (c c' : Catalog) : Binding → Binding → Prop
  | direct {field : String} {reader : Method} {writer writer' : Option Method} :
      Counterpart c c' (.direct field reader writer) (.direct field reader writer')
  | chained {field : String} {reader : Method} {writer writer' : Option Method} {n n' : Mapping}
      (nested : n.Counterpart c c' n') :
      Counterpart c c' (.chained field reader writer n) (.chained field reader writer' n')
  | synthetic {field : String} {combinator : Method} {readers : List Method}
      {writer writer' : Option Method} (reads : combinator.ReadsFields) :
      Counterpart c c' (.synthetic field combinator readers writer)
        (.synthetic field combinator readers writer')

namespace Mapping

variable {c c' : Catalog} {m m' : Mapping}

/-- What one declaration is bound to in either catalog contributes the same. -/
theorem counterpart_of_binds (h : c.Rearranged c') {target target' : Schema} {source : String}
    {d : Declaration} {b b' : Binding} (binds : (c.scope [] target source).Binds d b)
    (binds' : (c'.scope [] target' source).Binds d b')
    (fields : ∀ combinator synthesis, d = .computed combinator synthesis →
      combinator.ReadsFields) : b.Counterpart c c' b' := by
  have same {field : String} {reader reader' : Method} (reads : c.reader source field = .ok reader)
      (reads' : c'.reader source field = .ok reader') : reader = reader' := by
    rwa [h.reader_eq, reads, Except.ok.injEq] at reads'
  -- either catalog has the same readers, and a chaining names one schema only
  cases binds with
  | @computed combinator synthesis readers sources _ =>
    cases binds' with
    | @computed _ _ readers' sources' _ =>
      simp only [Catalog.scope] at sources sources'
      rw [← mapM_eq_ok] at sources sources'
      rw [funext (h.reader_eq source), sources, Except.ok.injEq] at sources'
      subst sources'
      exact .synthetic (fields combinator synthesis rfl)
  | direct plain reads =>
    cases binds' with
    | direct plain' reads' =>
      obtain rfl := same reads reads'
      exact .direct
    | chained chains' => cases plain.symm.trans chains'
  | chained chains names outside compiled reads =>
    cases binds' with
    | direct plain' => cases chains.symm.trans plain'
    | chained chains' names' outside' compiled' reads' =>
      obtain rfl := same reads reads'
      cases chains.symm.trans chains'
      cases names.1.symm.trans names'.1
      obtain ⟨own, target, defaults⟩ := Catalog.compiled_of_compile compiled
      obtain ⟨own', target', defaults'⟩ := Catalog.compiled_of_compile compiled'
      exact .chained ⟨own, own', target'.trans target.symm, defaults'.trans defaults.symm⟩

/-- What a binding contributes its counterpart does, if that holds of nested mappings. -/
theorem tableValue_of_counterpart {target target' : Schema} {source receiver receiver' : Record}
    {b b' : Binding} {value : Value} (same : b.Counterpart c c' b')
    (alike : ∀ name, receiver'.get? name = receiver.get? name)
    (nested : ∀ field reader writer n, b = .chained field reader writer n →
      ∀ n', n.Counterpart c c' n' → ∀ value table,
        n.toTable c value .all = .ok table → n'.toTable c' value .all = .ok table)
    (made : tableValue c target source receiver b = .ok value) :
    tableValue c' target' source receiver' b' = .ok value := by
  cases same with
  | direct => exact made
  | chained same =>
    rw [tableValue, bind_eq_ok] at made ⊢
    obtain ⟨held, read, made⟩ := made
    obtain ⟨inner, run, made⟩ := bind_eq_ok.mp made
    have again := nested _ _ _ _ rfl _ same held inner run
    exact ⟨held, read, bind_eq_ok.mpr ⟨inner, again, made⟩⟩
  | synthetic reads =>
    rw [tableValue, combine, bind_eq_ok] at made ⊢
    obtain ⟨args, read, made⟩ := made
    exact ⟨args, read, mapError_eq_ok.mpr (reads.call_eq alike (mapError_eq_ok.mp made))⟩

/-- The same is collected, in any order, from bindings that contribute the same under the same
names. -/
theorem collectBindings_of_values {target target' : Schema} {filter : FieldFilter}
    {source receiver receiver' : Record} {bound bound' : Table Binding} {table : Table Value}
    (distinct : bound.names.Nodup) (distinct' : bound'.names.Nodup)
    (names : ∀ key, key ∈ bound'.names ↔ key ∈ bound.names)
    (values : ∀ key b b', bound.find? key = some b → bound'.find? key = some b' → ∀ value,
      tableValue c target source receiver b = .ok value →
        tableValue c' target' source receiver' b' = .ok value)
    (made : collectBindings c target filter source receiver bound [] = .ok table) :
    collectBindings c' target' filter source receiver' bound' [] = .ok table := by
  have contributes {key : String} (wanted : filter.allows key = true) {b' : Binding}
      (found' : bound'.find? key = some b') :
      ∃ value, tableValue c' target' source receiver' b' = .ok value ∧
        table.find? key = some value := by
    obtain ⟨b, found⟩ := Option.isSome_iff_exists.mp (Table.mem_names_iff.mp
      ((names key).mp (Table.mem_names_iff.mpr (Option.isSome_of_eq_some found'))))
    have stands := find?_collectBindings distinct made key
    simp only [found, if_pos wanted] at stands
    obtain ⟨value, contributed, stands⟩ := stands
    exact ⟨value, values key b b' found found' value contributed, stands⟩
  obtain ⟨table', made'⟩ :
      ∃ table', collectBindings c' target' filter source receiver' bound' [] = .ok table' := by
    rw [collectBindings_eq_gather, gather_isOk_iff]
    rintro ⟨key, b'⟩ member
    obtain ⟨member, wanted⟩ := List.mem_filter.mp member
    obtain ⟨value, contributed, -⟩ :=
      contributes wanted ((Table.mem_iff_find?_eq_some distinct').mp member)
    exact ⟨value, contributed⟩
  -- both tables ascend, so they are compared by what is found under each key
  rw [made', Except.ok.injEq]
  apply (ascending_collectBindings made').ext (ascending_collectBindings made)
  intro key
  cases stands' : table'.find? key with
  | none =>
    have missing : key ∉ table.names := by
      rw [mem_names_collectBindings_iff distinct made, ← names,
        ← mem_names_collectBindings_iff distinct' made', Table.mem_names_iff, stands']
      simp
    rw [Table.mem_names_iff, Option.not_isSome_iff_eq_none] at missing
    exact missing.symm
  | some value' =>
    obtain ⟨b', found', wanted, contributed'⟩ :=
      exists_binding_of_collectBindings distinct' made' stands'
    obtain ⟨value, contributed, stands⟩ := contributes wanted found'
    cases contributed'.symm.trans contributed
    exact stands.symm

namespace Counterpart

/-- The targets of counterparts are rearranged. -/
theorem rearranged (same : m.Counterpart c c' m') (h : c.Rearranged c') :
    m.target.Rearranged m'.target ∧ m.target.Unambiguous := by
  obtain ⟨s', found', rearranged, clear⟩ := h.exists_of_find? same.compiled.registered.1
  rw [← same.target, same.compiled'.registered.1] at found'
  cases found'
  exact ⟨rearranged, clear⟩

/-- Counterparts read one source. -/
theorem source (same : m.Counterpart c c' m') (h : c.Rearranged c') : m'.source = m.source := by
  have declared := (same.rearranged h).1.serializedFrom
  rw [same.compiled.registered.2.1, same.compiled'.registered.2.1] at declared
  exact Option.some.inj declared

/-- A new instance of the target of a mapping holds what one of its counterpart's does. -/
theorem exists_construct (same : m.Counterpart c c' m') (h : c.Rearranged c') {receiver : Record}
    (built : construct c m.target = .ok receiver) :
    ∃ receiver', construct c' m'.target = .ok receiver' ∧
      ∀ name, receiver'.get? name = receiver.get? name := by
  rw [construct, mapError_eq_ok, Catalog.construct, same.compiled.registered.1] at built
  obtain ⟨receiver', built', alike⟩ := (same.rearranged h).1.exists_instantiate built
  refine ⟨receiver', ?_, alike⟩
  rw [construct, mapError_eq_ok, Catalog.construct, same.compiled'.registered.1]
  exact built'

/-- Counterparts fill the same target fields. -/
theorem mem_names_iff (same : m.Counterpart c c' m') (h : c.Rearranged c') (key : String) :
    key ∈ m'.bindings.names ↔ key ∈ m.bindings.names := by
  have rearranged := (same.rearranged h).1
  rw [same.compiled.mem_names_iff, same.compiled'.mem_names_iff, rearranged.mem_methodTargets_iff,
    rearranged.mem_exposedNames_iff]

/-- Under one key counterparts have bindings that contribute the same. -/
theorem counterpart_of_find? (same : m.Counterpart c c' m') (h : c.Rearranged c') {key : String}
    {b b' : Binding} (found : m.bindings.find? key = some b)
    (found' : m'.bindings.find? key = some b') : b.Counterpart c c' b' := by
  obtain ⟨rearranged, clear⟩ := same.rearranged h
  obtain ⟨d, owns, binds⟩ := same.compiled.binds_owner found
  obtain ⟨d', owns', binds'⟩ := same.compiled'.binds_owner found'
  rw [rearranged.owner?_eq clear, owns] at owns'
  cases owns'
  rw [same.source h] at binds'
  apply counterpart_of_binds h binds binds'
  rintro combinator synthesis rfl
  rw [← m.target.lastOf_declarations] at owns
  obtain ⟨declared, marked⟩ :=
    (m.target.mem_declarations.mp (mem_of_lastOf owns).1).mem_of_computed
  exact clear.combinators combinator declared (Option.isSome_of_eq_some marked)

/-- A table is the same for counterparts. -/
theorem toTable (same : m.Counterpart c c' m') (h : c.Rearranged c') {value : Value}
    {filter : FieldFilter} {table : Table Value} (made : m.toTable c value filter = .ok table) :
    m'.toTable c' value filter = .ok table := by
  induction m using nested_induction generalizing m' value filter table with
  | step m ih =>
    rw [toTable_eq, bind_eq_ok] at made ⊢
    obtain ⟨source?, given, made⟩ := made
    cases source? with
    | none =>
      rw [sourceRecord?_eq_ok_none_iff] at given
      exact ⟨none, sourceRecord?_eq_ok_none_iff.mpr given, made⟩
    | some source =>
      rw [sourceRecord?_eq_ok_some_iff, ← same.source h] at given
      refine ⟨some source, sourceRecord?_eq_ok_some_iff.mpr given, ?_⟩
      obtain ⟨receiver, built, made⟩ := bind_eq_ok.mp made
      obtain ⟨receiver', built', alike⟩ := same.exists_construct h built
      refine bind_eq_ok.mpr ⟨receiver', built', ?_⟩
      rw [same.defaults]
      apply collectBindings_of_values same.compiled.nodup_names same.compiled'.nodup_names
        (same.mem_names_iff h) _ made
      intro key b b' found found' value
      apply tableValue_of_counterpart (same.counterpart_of_find? h found found') alike
      rintro field reader writer n rfl n' nested value table
      exact ih key field reader writer n (Table.mem_of_find?_eq_some found) nested

end Counterpart

end Mapping

namespace Catalog

/-- The order of declarations does not matter to tables. Catalogs with the same unambiguous schemas,
each with its fields and methods in any order, compile the same targets; the mappings bind the same
target fields and make the same table of every source, or both make none. -/
theorem tables_kept_by_rearranging {c c' : Catalog} (rearranged : c.Rearranged c')
    (target : String) (defaults : FieldFilter) :
    ((∃ m, c.compile target defaults = .ok m) ↔ ∃ m', c'.compile target defaults = .ok m') ∧
      ∀ m m', c.compile target defaults = .ok m → c'.compile target defaults = .ok m' →
        (∀ key, key ∈ m.bindings.names ↔ key ∈ m'.bindings.names) ∧
          ∀ value filter table, m.toTable c value filter = .ok table ↔
            m'.toTable c' value filter = .ok table := by
  refine ⟨⟨rearranged.exists_compile, rearranged.symm.exists_compile⟩, fun m m' result result' ↦ ?_⟩
  obtain ⟨compiled, rfl, rfl⟩ := compiled_of_compile result
  obtain ⟨compiled', target, defaults⟩ := compiled_of_compile result'
  have same : m.Counterpart c c' m' := ⟨compiled, compiled', target, defaults⟩
  have back : m'.Counterpart c' c m := ⟨compiled', compiled, target.symm, defaults.symm⟩
  exact ⟨fun key ↦ (same.mem_names_iff rearranged key).symm, fun value filter table ↦
    ⟨same.toTable rearranged, back.toTable rearranged.symm⟩⟩

end Catalog

namespace Staff

/-- A sign is headed by a person's name and shows a text and the label of the boss. -/
def sign : Schema where
  name := "Sign"
  serializedFrom := some "Person"
  fields := [
    { name := "head", type := .any, isPublic := true },
    { name := "text", type := .string, isPublic := true },
    { name := "boss", type := .record "Label", isPublic := true, chaining := some ⟨none, []⟩ }]
  methods := [setHeadToName, inscription]

/-- Persons, their labels and their signs. -/
def signs : Catalog := ⟨[person, label, sign], by decide +kernel⟩

/-- The same with all declarations in the opposite order. -/
def signsReversed : Catalog :=
  ⟨[person.reversed, label.reversed, sign.reversed], by decide +kernel⟩

/-- What signs are compiled to. -/
def toSign : Mapping :=
  .mk sign "Person" .all [
    ("head", .direct "head" (.readerOf "name" .string) (some setHeadToName)),
    ("text",
      .synthetic "text" inscription [.readerOf "name" .string, .readerOf "age" .integer] none),
    ("boss", .chained "boss" (.readerOf "boss" (.record "Person")) none toLabel)]

/-- What signs are compiled to when their declarations are in the opposite order. -/
def toSignReversed : Mapping :=
  .mk sign.reversed "Person" .all [
    ("text",
      .synthetic "text" inscription [.readerOf "name" .string, .readerOf "age" .integer] none),
    ("head", .direct "head" (.readerOf "name" .string) (some setHeadToName)),
    ("boss", .chained "boss" (.readerOf "boss" (.record "Person")) none
      (.mk label.reversed "Person" .all
        [("name", .direct "name" (.readerOf "name" .string) none)]))]

/-- What the sign of a person with a boss shows. -/
def signOfAda : Table Value :=
  [("boss", .map [("name", .string "Grace")]), ("head", .string "Ada"), ("text", .string "Ada, 36")]

private theorem rearranged_signs : signs.Rearranged signsReversed where
  schemas := .cons person.rearranged_reversed
    (.cons label.rearranged_reversed (.cons sign.rearranged_reversed .nil))
  unambiguous := by
    have persons : person.Unambiguous := by
      refine ⟨by decide +kernel, by decide +kernel, by decide +kernel, fun m declared marked ↦ ?_⟩
      obtain ⟨p, -, rfl⟩ := List.mem_map.mp (person_madeOf.methods ▸ declared)
      cases marked
    have labels : label.Unambiguous :=
      ⟨by decide +kernel, by decide +kernel, by decide +kernel, fun m declared ↦ nomatch declared⟩
    have signs : sign.Unambiguous := by
      refine ⟨by decide +kernel, by decide +kernel, by decide +kernel, fun m declared marked ↦ ?_⟩
      simp only [sign, List.mem_cons, List.not_mem_nil, or_false] at declared
      rcases declared with rfl | rfl
      · cases marked
      · exact .inr (Method.ignoresReceiver_of_format rfl)
    simp [Staff.signs, persons, labels, signs]

/-- Signs show the same of a person with a boss, in whichever order everything is declared. -/
theorem tables_kept_by_rearranging_sign :
    signs.Rearranged signsReversed ∧ signs.compile "Sign" .all = .ok toSign ∧
      signsReversed.compile "Sign" .all = .ok toSignReversed ∧
      toSign.toTable signs ada.toValue .all = .ok signOfAda ∧
      toSignReversed.toTable signsReversed ada.toValue .all = .ok signOfAda := by
  have compiled : signs.compile "Sign" .all = .ok toSign := by
    cbv
  have compiled' : signsReversed.compile "Sign" .all = .ok toSignReversed := by
    cbv
  have shown : toSign.toTable signs ada.toValue .all = .ok signOfAda := by
    cbv
  obtain ⟨-, tables⟩ := Catalog.tables_kept_by_rearranging rearranged_signs "Sign" .all
  have same := (tables toSign toSignReversed compiled compiled').2 ada.toValue .all signOfAda
  exact ⟨rearranged_signs, compiled, compiled', shown, same.mp shown⟩

end Staff

end Fieldwise
