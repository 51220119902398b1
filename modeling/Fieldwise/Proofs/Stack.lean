import Fieldwise.Proofs.Nesting

/-!
# Compiling on a stack

Compiling can be run on one stack of the targets that are being compiled: a target is pushed before
its declarations are bound and popped afterwards, and every declaration finds the stack that the one
before has left. A run is a derivation, so that nothing is assumed about whether there is one. There
is exactly one: each target that is pushed leaves less room, the stack comes back as it was handed
over, and what is returned, mapping or fault, is what compiling within a chain gives.
-/

namespace Fieldwise

open Outcome

namespace Catalog

/-- The targets that are being compiled, innermost first: registered names, each of them once. -/
structure Stack (c : Catalog) where
  names : List String
  distinct : names.Nodup
  registered : names ⊆ c.names

namespace Stack

variable {c : Catalog} {target : String} {schema : Schema}

/-- The stack on which nothing is being compiled. -/
def empty : Stack c := ⟨[], List.nodup_nil, List.nil_subset _⟩

/-- The stack with a target on top. -/
def push (stack : Stack c) (found : c.find? target = some schema) (fresh : target ∉ stack.names) :
    Stack c where
  names := target :: stack.names
  distinct := List.nodup_cons.mpr ⟨fresh, stack.distinct⟩
  registered := List.cons_subset.mpr ⟨mem_names_of_find? found, stack.registered⟩

/-- The stack without its top. -/
def pop (stack : Stack c) : Stack c where
  names := stack.names.tail
  distinct := stack.distinct.tail
  registered := List.Subset.trans (List.tail_sublist _).subset stack.registered

/-- How many registered names are not on the stack. -/
def room (stack : Stack c) : Nat := (c.names.filter (· ∉ stack.names)).length

/-- Popping takes back what was pushed. -/
theorem pop_push (stack : Stack c) (found : c.find? target = some schema)
    (fresh : target ∉ stack.names) : (stack.push found fresh).pop = stack := rfl

/-- A target that is pushed leaves less room. -/
theorem room_push_lt (stack : Stack c) (found : c.find? target = some schema)
    (fresh : target ∉ stack.names) : (stack.push found fresh).room < stack.room :=
  length_filter_lt (mem_names_of_find? found) fresh

/-- Every name on the stack takes the room of one schema. -/
theorem length_names_add_room (stack : Stack c) :
    stack.names.length + stack.room = c.schemas.length := by
  have taken : (c.names.filter (· ∈ stack.names)).Perm stack.names := by
    refine (List.perm_ext_iff_of_nodup (c.distinct.filter _) stack.distinct).mpr fun name ↦ ?_
    simp only [List.mem_filter, decide_eq_true_eq, and_iff_right_iff_imp]
    exact fun member ↦ stack.registered member
  have parts := List.length_eq_length_filter_add (l := c.names) (· ∈ stack.names)
  simp only [taken.length_eq, ← decide_not] at parts
  rw [room, ← parts, Catalog.names, List.length_map]

end Stack

/-- The scope of a target for declarations that chain to nothing. -/
def plainScope (c : Catalog) (schema : Schema) (source : String) : Scope where
  catalog := c
  target := schema
  source := source
  chain := []
  nested := fun name _ _ ↦ .error (.unknownSerializer name)

-- a derivation is a run that ends; that there is one is not said here
mutual

/-- A run that compiles a target on a stack ends with a result and leaves a stack. -/
inductive CompilesOn (c : Catalog) :
    String → FieldFilter → Stack c → Except Fault Mapping → Stack c → Prop
  | unknown {target : String} {defaults : FieldFilter} {stack : Stack c}
      (missing : c.find? target = none) :
      CompilesOn c target defaults stack (.error (.unknownSerializer target)) stack
  | undeclared {target : String} {defaults : FieldFilter} {stack : Stack c} {schema : Schema}
      (found : c.find? target = some schema) (undeclared : schema.serializedFrom = none) :
      CompilesOn c target defaults stack (.error (.undeclaredSource target)) stack
  | unregistered {target source : String} {defaults : FieldFilter} {stack : Stack c}
      {schema : Schema} (found : c.find? target = some schema)
      (declared : schema.serializedFrom = some source) (unregistered : c.has source = false) :
      CompilesOn c target defaults stack (.error (.unknownSource target source)) stack
  | scanned {target source : String} {defaults : FieldFilter} {stack after : Stack c}
      {schema : Schema} {bound : Except Fault (Table Binding)}
      (found : c.find? target = some schema) (declared : schema.serializedFrom = some source)
      (known : c.has source = true) (fresh : target ∉ stack.names)
      (scan : ScansOn c schema source schema.declarations [] (stack.push found fresh) bound after) :
      CompilesOn c target defaults stack (bound.map (.mk schema source defaults)) after.pop

/-- A run that binds declarations one by one, each on the stack that the one before has left, ends
with the bindings and leaves a stack. -/
inductive ScansOn (c : Catalog) :
    Schema → String → List Declaration → Table Binding → Stack c →
      Except Fault (Table Binding) → Stack c → Prop
  | done {schema : Schema} {source : String} {bound : Table Binding} {stack : Stack c} :
      ScansOn c schema source [] bound stack (.ok bound) stack
  | stopped {schema : Schema} {source : String} {d : Declaration} {rest : List Declaration}
      {bound : Table Binding} {stack after : Stack c} {fault : Fault}
      (fails : BindsOn c schema source d stack (.error fault) after) :
      ScansOn c schema source (d :: rest) bound stack (.error fault) after
  | next {schema : Schema} {source : String} {d : Declaration} {rest : List Declaration}
      {bound : Table Binding} {stack between after : Stack c} {b : Binding}
      {result : Except Fault (Table Binding)}
      (first : BindsOn c schema source d stack (.ok b) between)
      (later : ScansOn c schema source rest (bound.put d.key b) between result after) :
      ScansOn c schema source (d :: rest) bound stack result after

/-- A run that binds a declaration ends with a binding and leaves a stack. A chained slot compiles
what it is mapped with, unless that is on the stack. -/
inductive BindsOn (c : Catalog) :
    Schema → String → Declaration → Stack c → Except Fault Binding → Stack c → Prop
  | computed {schema : Schema} {source : String} {combinator : Method} {synthesis : Synthesis}
      {stack : Stack c} :
      BindsOn c schema source (.computed combinator synthesis) stack
        ((c.plainScope schema source).synthetic combinator synthesis) stack
  | plain {schema : Schema} {source : String} {slot : Slot} {stack : Stack c}
      (plain : slot.chaining = none) :
      BindsOn c schema source (.slot slot) stack ((c.plainScope schema source).slotBinding slot)
        stack
  | unnamed {schema : Schema} {source : String} {slot : Slot} {chaining : Chaining}
      {stack : Stack c} {fault : Fault} (chains : slot.chaining = some chaining)
      (unnamed : chaining.serializerFor schema.name slot.element slot.type = .error fault) :
      BindsOn c schema source (.slot slot) stack (.error fault) stack
  | cycle {schema : Schema} {source serializer : String} {slot : Slot} {chaining : Chaining}
      {stack : Stack c} (chains : slot.chaining = some chaining)
      (named : chaining.serializerFor schema.name slot.element slot.type = .ok serializer)
      (member : serializer ∈ stack.names) :
      BindsOn c schema source (.slot slot) stack
        (.error (.cycle serializer slot.element schema.name)) stack
  | refused {schema : Schema} {source serializer : String} {slot : Slot} {chaining : Chaining}
      {stack after : Stack c} {fault : Fault} (chains : slot.chaining = some chaining)
      (named : chaining.serializerFor schema.name slot.element slot.type = .ok serializer)
      (outside : serializer ∉ stack.names)
      (fails : CompilesOn c serializer ⟨chaining.fields⟩ stack (.error fault) after) :
      BindsOn c schema source (.slot slot) stack (.error fault) after
  | chained {schema : Schema} {source serializer : String} {slot : Slot} {chaining : Chaining}
      {stack after : Stack c} {nested : Mapping} (chains : slot.chaining = some chaining)
      (named : chaining.serializerFor schema.name slot.element slot.type = .ok serializer)
      (outside : serializer ∉ stack.names)
      (compiles : CompilesOn c serializer ⟨chaining.fields⟩ stack (.ok nested) after) :
      BindsOn c schema source (.slot slot) stack
        ((c.reader source slot.sourceField).map (.chained slot.key · slot.writer nested)) after

end

variable {c : Catalog} {schema : Schema} {source : String}

/-- Faults of parameters do not depend on the chain. -/
theorem parameterFault?_plainScope (chain : List String) (combinator : Method) (index : Nat)
    (params : List Ty) (readers : List Method) :
    (c.plainScope schema source).parameterFault? combinator index params readers =
      (c.scope chain schema source).parameterFault? combinator index params readers := by
  induction params generalizing index readers with
  | nil => cases readers <;> rfl
  | cons param params ih =>
    cases readers with
    | nil => rfl
    | cons reader readers =>
      rw [Scope.parameterFault?, Scope.parameterFault?, ih]
      rfl

/-- A computed field is bound alike within any chain. -/
theorem synthetic_plainScope (chain : List String) (combinator : Method) (synthesis : Synthesis) :
    (c.plainScope schema source).synthetic combinator synthesis =
      (c.scope chain schema source).synthetic combinator synthesis := by
  simp only [Scope.synthetic, parameterFault?_plainScope chain]
  rfl

/-- A slot that is not chained is bound alike within any chain. -/
theorem slotBinding_plainScope (chain : List String) {slot : Slot} (plain : slot.chaining = none) :
    (c.plainScope schema source).slotBinding slot =
      (c.scope chain schema source).slotBinding slot := by
  simp only [Scope.slotBinding, plain]
  rfl

/-- A chained slot asks for the name of what it is mapped with, then for a mapping of it outside
the chain, and then for a reader. -/
theorem slotBinding_of_chaining (chain : List String) {slot : Slot} {chaining : Chaining}
    (chains : slot.chaining = some chaining) :
    (c.scope chain schema source).slotBinding slot = (do
      let serializer ← chaining.serializerFor schema.name slot.element slot.type
      if member : serializer ∈ chain then
        .error (.cycle serializer slot.element schema.name)
      else
        let nested ← c.compileWithin chain serializer member ⟨chaining.fields⟩
        (c.reader source slot.sourceField).map (.chained slot.key · slot.writer nested)) := by
  simp only [Scope.slotBinding, Scope.chained, chains, scope]
  cases chaining.serializerFor schema.name slot.element slot.type with
  | error fault => rfl
  | ok serializer =>
    by_cases member : serializer ∈ chain
    · simp [member, bind, Except.bind]
    · cases compiled : c.compileWithin chain serializer member ⟨chaining.fields⟩ with
      | error fault => simp [member, compiled, bind, Except.bind]
      | ok nested =>
        cases c.reader source slot.sourceField <;>
          simp [member, compiled, bind, Except.bind, Except.map]

-- by cases on what a run does, and by induction on the runs that it consists of
mutual

/-- A run that compiles a target ends with what compiling within the chain of the stack's names
gives, and leaves the stack as it was. -/
theorem eq_of_compilesOn {target : String} {defaults : FieldFilter} {stack after : Stack c}
    {result : Except Fault Mapping} (fresh : target ∉ stack.names) :
    c.CompilesOn target defaults stack result after →
      result = c.compileWithin stack.names target fresh defaults ∧ after = stack
  | .unknown missing => by
    simp only [compileWithin_eq, missing, and_self]
  | .undeclared found undeclared => by
    simp only [compileWithin_eq, found, undeclared, and_self]
  | .unregistered found declared unregistered => by
    simp [compileWithin_eq, found, declared, unregistered]
  | .scanned found declared known outside scan => by
    obtain ⟨rfl, rfl⟩ := eq_of_scansOn scan
    simp only [compileWithin_eq, found, declared, known, Bool.not_true, Bool.false_eq_true,
      ↓reduceIte, Scope.bindings_eq_gather]
    exact ⟨rfl, Stack.pop_push _ found fresh⟩

/-- A run through declarations gathers their bindings within the chain of the stack's names, and
leaves the stack as it was. -/
theorem eq_of_scansOn {schema : Schema} {source : String} {declarations : List Declaration}
    {bound : Table Binding} {stack after : Stack c} {result : Except Fault (Table Binding)} :
    c.ScansOn schema source declarations bound stack result after →
      result = gather Table.put Declaration.key (c.scope stack.names schema source).binding bound
        declarations ∧ after = stack
  | .done => ⟨gather_nil.symm, rfl⟩
  | .stopped fails => by
    obtain ⟨failed, rfl⟩ := eq_of_bindsOn fails
    rw [gather_cons, ← failed]
    exact ⟨rfl, rfl⟩
  | .next first later => by
    obtain ⟨given, rfl⟩ := eq_of_bindsOn first
    obtain ⟨gathered, rfl⟩ := eq_of_scansOn later
    rw [gather_cons, ← given]
    exact ⟨gathered, rfl⟩

/-- A run that binds a declaration gives its binding within the chain of the stack's names, and
leaves the stack as it was. -/
theorem eq_of_bindsOn {schema : Schema} {source : String} {d : Declaration}
    {stack after : Stack c} {result : Except Fault Binding} :
    c.BindsOn schema source d stack result after →
      result = (c.scope stack.names schema source).binding d ∧ after = stack
  | .computed => ⟨synthetic_plainScope _ _ _, rfl⟩
  | .plain plain => ⟨slotBinding_plainScope _ plain, rfl⟩
  | .unnamed chains unnamed => by
    rw [Scope.binding, slotBinding_of_chaining _ chains, unnamed]
    exact ⟨rfl, rfl⟩
  | .cycle chains named member => by
    rw [Scope.binding, slotBinding_of_chaining _ chains, named]
    simp [member, bind, Except.bind]
  | .refused chains named outside fails => by
    obtain ⟨failed, rfl⟩ := eq_of_compilesOn outside fails
    rw [Scope.binding, slotBinding_of_chaining _ chains, named]
    simp [outside, ← failed, bind, Except.bind]
  | .chained chains named outside compiles => by
    obtain ⟨given, rfl⟩ := eq_of_compilesOn outside compiles
    rw [Scope.binding, slotBinding_of_chaining _ chains, named]
    simp [outside, ← given, bind, Except.bind]

end

/-- There is a run that binds a declaration, if there is one for what it may be chained to. -/
theorem bindsOn_binding {stack : Stack c}
    (nested : ∀ name (outside : name ∉ stack.names) filter,
      c.CompilesOn name filter stack (c.compileWithin stack.names name outside filter) stack)
    (d : Declaration) :
    c.BindsOn schema source d stack ((c.scope stack.names schema source).binding d) stack := by
  cases d with
  | computed combinator synthesis =>
    rw [Scope.binding, ← synthetic_plainScope]
    exact .computed
  | slot slot =>
    cases chains : slot.chaining with
    | none =>
      rw [Scope.binding, ← slotBinding_plainScope _ chains]
      exact .plain chains
    | some chaining =>
      rw [Scope.binding, slotBinding_of_chaining _ chains]
      cases named : chaining.serializerFor schema.name slot.element slot.type with
      | error fault => exact .unnamed chains named
      | ok serializer =>
        by_cases member : serializer ∈ stack.names
        · simpa [member, bind, Except.bind] using .cycle chains named member
        · have run := nested serializer member ⟨chaining.fields⟩
          cases compiled : c.compileWithin stack.names serializer member ⟨chaining.fields⟩ with
          | error fault =>
            rw [compiled] at run
            simpa [member, compiled, bind, Except.bind] using .refused chains named member run
          | ok n =>
            rw [compiled] at run
            simpa [member, compiled, bind, Except.bind] using .chained chains named member run

/-- There is a run through declarations, if there is one for what they may be chained to. -/
theorem scansOn_gather {stack : Stack c} (schema : Schema) (source : String)
    (nested : ∀ name (outside : name ∉ stack.names) filter,
      c.CompilesOn name filter stack (c.compileWithin stack.names name outside filter) stack)
    (declarations : List Declaration) (bound : Table Binding) :
    c.ScansOn schema source declarations bound stack
      (gather Table.put Declaration.key (c.scope stack.names schema source).binding bound
        declarations) stack := by
  induction declarations generalizing bound with
  | nil => exact .done
  | cons d rest ih =>
    have run : c.BindsOn schema source d stack _ stack := bindsOn_binding nested d
    rw [gather_cons]
    cases given : (c.scope stack.names schema source).binding d with
    | error fault =>
      rw [given] at run
      exact .stopped run
    | ok b =>
      rw [given] at run
      exact .next run (ih (bound.put d.key b))

/-- There is a run that compiles a target that is not on the stack. -/
theorem compilesOn_compileWithin (stack : Stack c) (target : String) (fresh : target ∉ stack.names)
    (defaults : FieldFilter) :
    c.CompilesOn target defaults stack (c.compileWithin stack.names target fresh defaults)
      stack := by
  -- on the room that the stack leaves, which is less for each nested target
  rw [compileWithin_eq]
  split
  · next missing => exact .unknown missing
  · next schema found =>
    split
    · next undeclared => exact .undeclared found undeclared
    · next source declared =>
      split
      · next unregistered => exact .unregistered found declared (by simpa using unregistered)
      · next known =>
        have scan := scansOn_gather schema source
          (compilesOn_compileWithin (stack.push found fresh)) schema.declarations []
        rw [Scope.bindings_eq_gather]
        exact .scanned found declared (by simpa using known) fresh scan
termination_by stack.room
decreasing_by exact stack.room_push_lt _ _

/-- Compiling on a stack ends in one way, with what compiling within the chain of the stack's names
gives and with the stack as it was. -/
theorem compilesOn_iff (stack : Stack c) (target : String) (fresh : target ∉ stack.names)
    (defaults : FieldFilter) (result : Except Fault Mapping) (after : Stack c) :
    c.CompilesOn target defaults stack result after ↔
      result = c.compileWithin stack.names target fresh defaults ∧ after = stack := by
  constructor
  · exact eq_of_compilesOn fresh
  · rintro ⟨rfl, rfl⟩
    exact compilesOn_compileWithin after target fresh defaults

/-- Going through declarations on a stack ends in one way, each declaration bound as if it were the
first. -/
theorem scansOn_iff (stack : Stack c) (schema : Schema) (source : String)
    (declarations : List Declaration) (bound : Table Binding)
    (result : Except Fault (Table Binding)) (after : Stack c) :
    c.ScansOn schema source declarations bound stack result after ↔
      result = gather Table.put Declaration.key (c.scope stack.names schema source).binding bound
        declarations ∧ after = stack := by
  constructor
  · exact eq_of_scansOn
  · rintro ⟨rfl, rfl⟩
    exact scansOn_gather schema source (compilesOn_compileWithin after) declarations bound

/-- Compiling on a stack ends, for every catalog, target and stack, and it ends in one way. The
result is what compiling within the chain of the stack's names gives, be it a mapping or a fault,
and the stack is left as it was; so each declaration is bound as if none had come before it. It ends
because a target that is pushed takes the room of one registered name. In a compiled mapping no
target occurs twice on a way down. -/
theorem compilesOn_returns (c : Catalog) :
    (∀ target defaults result after, c.CompilesOn target defaults .empty result after ↔
      result = c.compile target defaults ∧ after = .empty) ∧
    (∀ (stack : Stack c) target (fresh : target ∉ stack.names) defaults result after,
      c.CompilesOn target defaults stack result after ↔
        result = c.compileWithin stack.names target fresh defaults ∧ after = stack) ∧
    (∀ (stack : Stack c) schema source declarations bound result after,
      c.ScansOn schema source declarations bound stack result after ↔
        result = gather Table.put Declaration.key (c.scope stack.names schema source).binding bound
          declarations ∧ after = stack) ∧
    (∀ (stack : Stack c) target schema (found : c.find? target = some schema)
      (fresh : target ∉ stack.names), (stack.push found fresh).room < stack.room ∧
        stack.names.length + stack.room = c.schemas.length) ∧
    ∀ target defaults m names, c.compile target defaults = .ok m → m.Path names →
      names.Nodup ∧ names ⊆ c.names ∧ names.length ≤ c.schemas.length := by
  refine ⟨?_, compilesOn_iff, scansOn_iff, ?_, ?_⟩
  · intro target defaults
    exact compilesOn_iff .empty target List.not_mem_nil defaults
  · intro stack target schema found fresh
    exact ⟨stack.room_push_lt found fresh, stack.length_names_add_room⟩
  · intro target defaults m names compiled path
    obtain ⟨distinct, registered⟩ := path_of_compileWithin compiled path
    exact ⟨distinct, fun name member ↦ (registered name member).1, length_le_of_path compiled path⟩

end Catalog

namespace Staff

/-- A mirror shows the mirror of a person's boss. -/
def mirror : Schema where
  name := "Mirror"
  serializedFrom := some "Person"
  fields := [
    { name := "boss", type := .record "Mirror", isPublic := true, chaining := some ⟨none, []⟩ }]

/-- The staff's catalog with mirrors. -/
def mirrors : Catalog := catalog.register mirror

private theorem compile_mirror :
    mirrors.compile "Mirror" .all = .error (.cycle "Mirror" "boss" "Mirror") := by
  cbv

private theorem find?_card : catalog.find? "Card" = some card := by
  cbv

private theorem find?_label : catalog.find? "Label" = some label := by
  cbv

/-- The stack while cards are being compiled. -/
def cardStack : catalog.Stack :=
  ⟨["Card"], List.nodup_singleton _,
    List.cons_subset.mpr ⟨Catalog.mem_names_of_find? find?_card, List.nil_subset _⟩⟩

/-- Compiling mirrors ends with a fault and the empty stack, and compiling labels while cards are
being compiled ends with their mapping and with cards on the stack. -/
theorem compilesOn_returns_mirror :
    mirrors.CompilesOn "Mirror" .all .empty (.error (.cycle "Mirror" "boss" "Mirror")) .empty ∧
    (∃ (found : catalog.find? "Label" = some label) (fresh : "Label" ∉ cardStack.names),
      catalog.CompilesOn "Label" .all cardStack (.ok toLabel) cardStack ∧
        (cardStack.push found fresh).room < cardStack.room) ∧
    catalog.compile "Card" .all = .ok toCard ∧ toCard.Path ["Card", "Label"] ∧
      ["Card", "Label"].Nodup ∧ ["Card", "Label"] ⊆ catalog.names ∧
      ["Card", "Label"].length ≤ catalog.schemas.length := by
  have fresh : "Label" ∉ cardStack.names := by decide
  have path : toCard.Path ["Card", "Label"] := .down boss_mem_toCard (.here toLabel)
  obtain ⟨-, returns, -, rooms, paths⟩ := Catalog.compilesOn_returns catalog
  refine ⟨?_, ⟨find?_label, fresh, ?_, ?_⟩, compile_card, path, ?_⟩
  · rw [(Catalog.compilesOn_returns mirrors).1]
    exact ⟨compile_mirror.symm, rfl⟩
  · rw [returns cardStack "Label" fresh]
    exact ⟨(compile_label_within fresh).symm, rfl⟩
  · exact (rooms cardStack "Label" label find?_label fresh).1
  · exact paths "Card" .all toCard ["Card", "Label"] compile_card path

end Staff

end Fieldwise
