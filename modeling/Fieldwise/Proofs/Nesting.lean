import Fieldwise.Proofs.Acceptance
import Fieldwise.Proofs.Property

/-!
# Nested mappings

The targets that are being compiled around a nested mapping leave no trace in it: it is what its
target compiles to by itself, with the fields of the chaining as its default filter. They only keep
their own names out of it, so that no target occurs twice on a way down.
-/

namespace Fieldwise

namespace Mapping

/-- The names of the targets on a way from a mapping down to one that it contains. -/
inductive Path : Mapping → List String → Prop
  | here (m : Mapping) : m.Path [m.target.name]
  | down {m n : Mapping} {key field : String} {reader : Method} {writer : Option Method}
      {names : List String} (member : (key, .chained field reader writer n) ∈ m.bindings)
      (rest : n.Path names) : m.Path (m.target.name :: names)

end Mapping

namespace Catalog

variable {c : Catalog}

/-- A mapping that is nested in what compiles within a chain compiles within the chain that its
own target has joined. -/
theorem exists_compileWithin_of_nested {chain : List String} {target : String}
    {fresh : target ∉ chain} {defaults : FieldFilter} {m n : Mapping} {key field : String}
    {reader : Method} {writer : Option Method}
    (h : c.compileWithin chain target fresh defaults = .ok m)
    (member : (key, .chained field reader writer n) ∈ m.bindings) :
    ∃ slot chaining serializer, m.target.owner? key = some (.slot slot) ∧
      slot.chaining = some chaining ∧ chaining.Names slot.type serializer ∧
      ∃ outside : serializer ∉ target :: chain,
        c.compileWithin (target :: chain) serializer outside ⟨chaining.fields⟩ = .ok n := by
  obtain ⟨schema, source, bound, -, -, -, bindings, rfl⟩ := compileWithin_eq_ok_iff.mp h
  obtain ⟨d, owns, binds⟩ := Scope.binds_owner_of_mem _ bindings member
  cases binds with
  | chained chains names outside compiled reads =>
    exact ⟨_, _, _, owns, chains, names, outside, compiled⟩

/-- On a way down from what compiles within a chain the targets are registered, outside the chain
and all different. -/
theorem path_of_compileWithin {chain : List String} {target : String} {fresh : target ∉ chain}
    {defaults : FieldFilter} {m : Mapping} {names : List String}
    (h : c.compileWithin chain target fresh defaults = .ok m) (path : m.Path names) :
    names.Nodup ∧ ∀ name ∈ names, name ∈ c.names ∧ name ∉ chain := by
  -- on the way down; each step adds a target to the chain that the rest must keep out of
  induction path generalizing chain target defaults with
  | here m =>
    obtain ⟨schema, source, bound, found, -, -, -, rfl⟩ := compileWithin_eq_ok_iff.mp h
    obtain rfl := name_of_find? found
    refine ⟨List.nodup_singleton _, fun name member ↦ ?_⟩
    obtain rfl := List.mem_singleton.mp member
    exact ⟨mem_names_of_find? found, fresh⟩
  | @down m n key field reader writer names member rest ih =>
    obtain ⟨slot, chaining, serializer, -, -, -, outside, nested⟩ :=
      exists_compileWithin_of_nested h member
    obtain ⟨distinct, below⟩ := ih nested
    obtain ⟨schema, source, bound, found, -, -, -, rfl⟩ := compileWithin_eq_ok_iff.mp h
    obtain rfl := name_of_find? found
    constructor
    · refine List.nodup_cons.mpr ⟨fun again ↦ ?_, distinct⟩
      exact (below _ again).2 List.mem_cons_self
    · intro name member
      rcases List.mem_cons.mp member with rfl | member
      · exact ⟨mem_names_of_find? found, fresh⟩
      · obtain ⟨registered, apart⟩ := below name member
        exact ⟨registered, fun again ↦ apart (List.mem_cons_of_mem _ again)⟩

/-- A way down in a compiled mapping is no longer than the catalog. -/
theorem length_le_of_path {target : String} {defaults : FieldFilter} {m : Mapping}
    {names : List String} (h : c.compile target defaults = .ok m) (path : m.Path names) :
    names.length ≤ c.schemas.length := by
  obtain ⟨distinct, registered⟩ := path_of_compileWithin h path
  have sub : names ⊆ c.names := fun name member ↦ (registered name member).1
  calc names.length ≤ c.names.length := (List.subperm_of_subset distinct sub).length_le
    _ = c.schemas.length := List.length_map Schema.name

/-- What is nested in a compiled mapping, at any depth, is what its own target compiles to by
itself. What does not compile by itself keeps every target that is chained to it from compiling. And
what compiles within a chain compiles to the same mapping within any part of it. -/
theorem nested_compiles_alone (c : Catalog) :
    (∀ target defaults m, c.compile target defaults = .ok m → ∀ k, m.Contains k →
      ∀ key field reader writer n, (key, .chained field reader writer n) ∈ k.bindings →
        ∃ slot chaining serializer, k.target.owner? key = some (.slot slot) ∧
          slot.chaining = some chaining ∧ chaining.Names slot.type serializer ∧
          c.compile serializer ⟨chaining.fields⟩ = .ok n) ∧
    (∀ outer inner filter, c.ChainEdge outer inner → (∀ n, c.compile inner filter ≠ .ok n) →
      ∀ defaults m, c.compile outer defaults ≠ .ok m) ∧
    ∀ chain chain' target (fresh : target ∉ chain) (fresh' : target ∉ chain') defaults m,
      chain' ⊆ chain → c.compileWithin chain target fresh defaults = .ok m →
        c.compileWithin chain' target fresh' defaults = .ok m := by
  refine ⟨?_, ?_, ?_⟩
  · intro target defaults m compiled k inner key field reader writer n member
    have compiled : c.Compiled k := (compiled_of_compile compiled).1.contained inner
    obtain ⟨slot, chaining, serializer, owns, chains, names, outside, nested⟩ :=
      exists_compileWithin_of_nested compiled member
    exact ⟨slot, chaining, serializer, owns, chains, names,
      compileWithin_of_subset (List.nil_subset _) nested⟩
  · intro outer inner filter edge fails defaults m compiled
    have reached := (exists_compile_iff c outer defaults).mp ⟨m, compiled⟩
    obtain ⟨n, nested⟩ := (exists_compile_iff c inner filter).mpr fun name reach ↦
      reached name (.head edge reach)
    exact fails n nested
  · intro chain chain' target fresh fresh' defaults m sub compiled
    exact compileWithin_of_subset sub compiled

end Catalog

namespace Staff

/-- The boss on a poster. -/
def posterBoss : FieldDef :=
  { name := "boss", type := .record "Person", isPublic := true, chaining := some ⟨none, []⟩ }

/-- A poster shows the boss of a person, but persons are not mapped from anything. -/
def poster : Schema :=
  { name := "Poster", serializedFrom := some "Person", fields := [posterBoss] }

/-- The staff's catalog with posters. -/
def posters : Catalog := catalog.register poster

private theorem chainEdge_poster : posters.ChainEdge "Poster" "Person" := by
  have found : posters.find? "Poster" = some poster := by cbv
  have first : poster.exposedField? posterBoss.name = some posterBoss := by
    simp [Schema.exposedField?, poster, posterBoss, FieldDef.isExposed]
  have unfilled : poster.methodDeclarations = [] := rfl
  have live : poster.Live (.slot posterBoss.slot) :=
    .inr ⟨posterBoss, first, rfl, by simp [unfilled]⟩
  exact ⟨poster, posterBoss.slot, ⟨none, []⟩, found, live, rfl, rfl⟩

private theorem compile_person_ne (n : Mapping) : posters.compile "Person" .all ≠ .ok n := by
  have undeclared : posters.compile "Person" .all = .error (.undeclaredSource "Person") := by cbv
  simp [undeclared]

/-- The boss on a card is mapped as labels are. -/
theorem boss_mem_toCard :
    ("boss", .chained "boss" (.readerOf "boss" (.record "Person")) none toLabel) ∈
      toCard.bindings := by
  simp [toCard, Mapping.bindings]

/-- Labels compile while cards are being compiled. -/
theorem compile_label_within (fresh : "Label" ∉ ["Card"]) :
    catalog.compileWithin ["Card"] "Label" fresh .all = .ok toLabel := by
  cbv

/-- The boss on a card is a label of its own, posters do not compile for want of what they are
chained to, and labels compile within cards to what they compile to alone. -/
theorem nested_compiles_alone_card :
    (catalog.compile "Card" .all = .ok toCard ∧
      ("boss", .chained "boss" (.readerOf "boss" (.record "Person")) none toLabel) ∈
        toCard.bindings ∧
      ∃ slot chaining serializer, card.owner? "boss" = some (.slot slot) ∧
        slot.chaining = some chaining ∧ chaining.Names slot.type serializer ∧
        catalog.compile serializer ⟨chaining.fields⟩ = .ok toLabel) ∧
    (posters.ChainEdge "Poster" "Person" ∧ (∀ n, posters.compile "Person" .all ≠ .ok n) ∧
      ∀ m, posters.compile "Poster" .all ≠ .ok m) ∧
    ∃ (fresh : "Label" ∉ ["Card"]) (fresh' : "Label" ∉ []),
      catalog.compileWithin ["Card"] "Label" fresh .all = .ok toLabel ∧
        catalog.compileWithin [] "Label" fresh' .all = .ok toLabel := by
  have fresh : "Label" ∉ ["Card"] := by decide
  have boss := (Catalog.nested_compiles_alone catalog).1 "Card" .all toCard compile_card toCard
    (.self toCard) "boss" _ _ none toLabel boss_mem_toCard
  have unmade := (Catalog.nested_compiles_alone posters).2.1 "Poster" "Person" .all chainEdge_poster
    compile_person_ne .all
  have label := (Catalog.nested_compiles_alone catalog).2.2 ["Card"] [] "Label" fresh
    List.not_mem_nil .all toLabel (List.nil_subset _) (compile_label_within fresh)
  refine ⟨?_, ?_, ?_⟩
  · exact ⟨compile_card, boss_mem_toCard, boss⟩
  · exact ⟨chainEdge_poster, compile_person_ne, unmade⟩
  · exact ⟨fresh, List.not_mem_nil, compile_label_within fresh, label⟩

end Staff

end Fieldwise
