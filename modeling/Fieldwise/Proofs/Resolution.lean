import Fieldwise.SchemaDocument
import Fieldwise.Proofs.Outcome

/-!
# Resolving declarations

What becomes of a schema document once it has been read. The document is turned down for its first
method that is not sound, on the first account that applies to that method; if all methods are
sound, every declaration is carried over as it stands and nothing is added but a private field and a
reader for each property. The accounts are said here of the declaration alone, without the resolved
body.
-/

namespace Fieldwise

open Outcome

namespace MethodDeclaration

variable (cs : Combinators) (m : MethodDeclaration)

/-- How many of the four bodies a method declares. -/
def bodyCount : Nat := [m.getter, m.setter, m.format, m.native].countP Option.isSome

/-- The code that a method names is that of a combinator. -/
def IsKnown : Prop := ∀ name, m.native = some name → (Table.find? cs name).isSome

/-- A format is declared only for a method that returns text or anything. -/
def RendersText : Prop :=
  m.format.isSome → m.returns = some .string ∨ m.returns = some .any

/-- Code is declared only for a method that would not be bound as a plain writer. -/
def LeavesWriting : Prop :=
  m.native.isSome → Accessor.isWriter m.name = true → m.params.length = 1 → m.synthesis.isSome

/-- A method that declares one body, of which all that is asked of such a body holds. -/
structure IsSound : Prop where
  known : m.IsKnown cs
  single : m.bodyCount = 1
  renders : m.RendersText
  writes : m.LeavesWriting

/-- Why a method is turned down. An unknown combinator comes before the number of bodies, and that
before what is asked of the one body. -/
inductive Offends (schema : String) : SchemaError → Prop
  | unknown {name : String} (named : m.native = some name) (absent : Table.find? cs name = none) :
      Offends schema (.unknownCombinator schema m.name name)
  | count (known : m.IsKnown cs) (several : m.bodyCount ≠ 1) :
      Offends schema (.bodyCount m.name schema)
  | result (known : m.IsKnown cs) (single : m.bodyCount = 1) (silent : ¬ m.RendersText) :
      Offends schema (.formatResult m.name schema)
  | writer (known : m.IsKnown cs) (single : m.bodyCount = 1) (renders : m.RendersText)
      (writes : ¬ m.LeavesWriting) :
      Offends schema (.nativeWriter m.name schema)

/-- The bodies that a method declares; code is the combinator of the name that is given. -/
inductive Provides : Body → Prop
  | getter {field : String} (declared : m.getter = some field) : Provides (.getter field)
  | setter {field : String} (declared : m.setter = some field) : Provides (.setter field)
  | format {template : String} (declared : m.format = some template) : Provides (.format template)
  | native {name : String} {f : Combinator} (declared : m.native = some name)
      (known : Table.find? cs name = some f) : Provides (.native fun _ args ↦ f args)

/-- The bodies that a method declares, in the order in which they are looked for. -/
def declaredBodies : List Body :=
  [m.getter.map .getter, m.setter.map .setter, m.format.map .format,
    m.native.bind cs.body?].filterMap id

variable {cs m}

/-- The declared bodies are the ones that the method provides. -/
theorem mem_declaredBodies {b : Body} : b ∈ m.declaredBodies cs ↔ m.Provides cs b := by
  simp only [declaredBodies, List.mem_filterMap, id_eq, exists_eq_right, List.mem_cons,
    List.not_mem_nil, or_false]
  constructor
  · rintro (h | h | h | h)
    · obtain ⟨field, declared, rfl⟩ := Option.map_eq_some_iff.mp h.symm
      exact .getter declared
    · obtain ⟨field, declared, rfl⟩ := Option.map_eq_some_iff.mp h.symm
      exact .setter declared
    · obtain ⟨template, declared, rfl⟩ := Option.map_eq_some_iff.mp h.symm
      exact .format declared
    · obtain ⟨name, declared, h⟩ := Option.bind_eq_some_iff.mp h.symm
      obtain ⟨f, known, rfl⟩ := Option.map_eq_some_iff.mp h
      exact .native declared known
  · intro h
    cases h with
    | getter declared | setter declared | format declared => simp [declared]
    | native declared known => simp [declared, Combinators.body?, known]

/-- If its code is known, a method declares as many bodies as are found. -/
theorem length_declaredBodies (known : m.IsKnown cs) :
    (m.declaredBodies cs).length = m.bodyCount := by
  have code : (m.native.bind cs.body?).isSome = m.native.isSome := by
    cases named : m.native with
    | none => rfl
    | some name => simpa [Combinators.body?] using known name named
  rw [declaredBodies, List.length_filterMap_eq_countP, bodyCount]
  simp only [List.countP_cons, id_eq, Option.isSome_map, code, List.countP_nil]

/-- The only body of a method is the one that it provides. -/
theorem exists_declaredBodies_eq (known : m.IsKnown cs) (single : m.bodyCount = 1) :
    ∃ b, m.declaredBodies cs = [b] ∧ m.Provides cs b := by
  rw [← length_declaredBodies known] at single
  obtain ⟨b, only⟩ := List.length_eq_one_iff.mp single
  exact ⟨b, only, mem_declaredBodies.mp (only ▸ List.mem_singleton_self b)⟩

/-- A method that declares one body provides no second one. -/
theorem Provides.unique (known : m.IsKnown cs) (single : m.bodyCount = 1) {b b' : Body}
    (h : m.Provides cs b) (h' : m.Provides cs b') : b = b' := by
  obtain ⟨only, bodies, -⟩ := exists_declaredBodies_eq known single
  rw [← mem_declaredBodies, bodies, List.mem_singleton] at h h'
  rw [h, h']

/-- Code that is known is found. -/
theorem nativeBody?_of_isKnown (known : m.IsKnown cs) (schema : String) :
    m.nativeBody? cs schema = .ok (m.native.bind cs.body?) := by
  rw [nativeBody?]
  cases named : m.native with
  | none => rfl
  | some name =>
    obtain ⟨f, found⟩ := Option.isSome_iff_exists.mp (known name named)
    simp [Combinators.body?, found]

/-- The one body of a method with known code is checked by its kind. -/
theorem body_of_isKnown (known : m.IsKnown cs) (schema : String) :
    m.body cs schema =
      match m.declaredBodies cs with
      | [.format template] =>
        if m.returns = some .string ∨ m.returns = some .any then .ok (.format template)
        else .error (.formatResult m.name schema)
      | [.native run] =>
        if m.isPlainWriter then .error (.nativeWriter m.name schema) else .ok (.native run)
      | [body] => .ok body
      | _ => .error (.bodyCount m.name schema) := by
  rw [body, nativeBody?_of_isKnown known]
  rfl

/-- A method that names an unknown combinator is turned down for it. -/
theorem body_of_unknown {name : String} (named : m.native = some name)
    (absent : Table.find? cs name = none) (schema : String) :
    m.body cs schema = .error (.unknownCombinator schema m.name name) := by
  rw [body, nativeBody?, named]
  simp [Combinators.body?, absent, bind, Except.bind]

/-- Nothing is asked of the result of a method whose one body is no format. -/
theorem rendersText_of_ne {b : Body} (known : m.IsKnown cs) (single : m.bodyCount = 1)
    (provides : m.Provides cs b) (other : ∀ template, b ≠ .format template) : m.RendersText := by
  intro declared
  obtain ⟨template, declared⟩ := Option.isSome_iff_exists.mp declared
  exact absurd (provides.unique known single (.format declared)) (other template)

/-- Nothing is asked of the shape of a method whose one body is no code. -/
theorem leavesWriting_of_ne {b : Body} (known : m.IsKnown cs) (single : m.bodyCount = 1)
    (provides : m.Provides cs b) (other : ∀ run, b ≠ .native run) : m.LeavesWriting := by
  intro declared
  obtain ⟨name, declared⟩ := Option.isSome_iff_exists.mp declared
  obtain ⟨f, found⟩ := Option.isSome_iff_exists.mp (known name declared)
  exact absurd (provides.unique known single (.native declared found)) (other _)

/-- A method with code leaves writing to others unless it would be bound as a plain writer. -/
theorem leavesWriting_iff {name : String} (named : m.native = some name) :
    m.LeavesWriting ↔ m.isPlainWriter = false := by
  rw [LeavesWriting, named, isPlainWriter]
  cases Accessor.isWriter m.name <;> cases m.synthesis <;> simp

/-- A method offends, or it is sound and has the body that it provides. -/
theorem offends_or_provides (cs : Combinators) (m : MethodDeclaration) (schema : String) :
    (∃ e, m.body cs schema = .error e ∧ m.Offends cs schema e) ∨
      ∃ b, m.body cs schema = .ok b ∧ m.IsSound cs ∧ m.Provides cs b := by
  by_cases known : m.IsKnown cs
  swap
  · obtain ⟨name, named, absent⟩ : ∃ name, m.native = some name ∧ Table.find? cs name = none := by
      simpa [IsKnown] using known
    exact .inl ⟨_, body_of_unknown named absent schema, .unknown named absent⟩
  rw [body_of_isKnown known]
  by_cases single : m.bodyCount = 1
  swap
  · refine .inl ⟨_, ?_, .count known single⟩
    rw [← length_declaredBodies known] at single
    split
    case h_4 => rfl
    all_goals
      next same => simp [same] at single
  obtain ⟨b, only, provides⟩ := exists_declaredBodies_eq known single
  have renders := rendersText_of_ne known single provides
  have writes := leavesWriting_of_ne known single provides
  rw [only]
  -- what is asked concerns one kind of body, so that of the other kinds nothing is asked
  cases provides with
  | getter declared =>
    exact .inr ⟨_, rfl, ⟨known, single, renders nofun, writes nofun⟩, .getter declared⟩
  | setter declared =>
    exact .inr ⟨_, rfl, ⟨known, single, renders nofun, writes nofun⟩, .setter declared⟩
  | format declared =>
    have text : m.RendersText ↔ m.returns = some .string ∨ m.returns = some .any := by
      simp [RendersText, declared]
    by_cases returns : m.returns = some .string ∨ m.returns = some .any
    · have sound : m.IsSound cs := ⟨known, single, text.mpr returns, writes nofun⟩
      exact .inr ⟨_, if_pos returns, sound, .format declared⟩
    · exact .inl ⟨_, if_neg returns, .result known single (mt text.mp returns)⟩
  | native declared found =>
    have leaves := leavesWriting_iff declared
    by_cases plain : m.isPlainWriter = true
    · have takes : ¬ m.LeavesWriting := by simp [leaves, plain]
      exact .inl ⟨_, if_pos plain, .writer known single (renders nofun) takes⟩
    · have sound : m.IsSound cs :=
        ⟨known, single, renders nofun, leaves.mpr (Bool.eq_false_iff.mpr plain)⟩
      exact .inr ⟨_, if_neg plain, sound, .native declared found⟩

/-- A method that offends is not sound. -/
theorem Offends.not_isSound {schema : String} {e : SchemaError} (h : m.Offends cs schema e) :
    ¬ m.IsSound cs := by
  intro sound
  cases h with
  | unknown named absent =>
    have found := sound.known _ named
    rw [absent] at found
    cases found
  | count _ several => exact several sound.single
  | result _ _ silent => exact silent sound.renders
  | writer _ _ _ writes => exact writes sound.writes

/-- A method offends on one account. -/
theorem Offends.unique {schema : String} {e e' : SchemaError} (h : m.Offends cs schema e)
    (h' : m.Offends cs schema e') : e = e' := by
  have found {name : String} (known : m.IsKnown cs) (named : m.native = some name)
      (absent : Table.find? cs name = none) : False := by
    simpa [absent] using known name named
  cases h with
  | unknown named absent =>
    cases h' with
    | unknown named' _ =>
      cases named.symm.trans named'
      rfl
    | count known | result known | writer known => exact (found known named absent).elim
  | count known several =>
    cases h' with
    | unknown named absent => exact (found known named absent).elim
    | count => rfl
    | result _ single | writer _ single => exact absurd single several
  | result known single silent =>
    cases h' with
    | unknown named absent => exact (found known named absent).elim
    | count _ several => exact absurd single several
    | result => rfl
    | writer _ _ renders => exact absurd renders silent
  | writer known single renders =>
    cases h' with
    | unknown named absent => exact (found known named absent).elim
    | count _ several => exact absurd single several
    | result _ _ silent => exact absurd renders silent
    | writer => rfl

/-- A method has a body when it is sound, and then the one that it provides. -/
theorem body_eq_ok_iff {schema : String} {b : Body} :
    m.body cs schema = .ok b ↔ m.IsSound cs ∧ m.Provides cs b := by
  rcases offends_or_provides cs m schema with ⟨e, failed, offends⟩ | ⟨b', given, sound, provides⟩
  · rw [failed]
    simp only [reduceCtorEq, false_iff, not_and]
    exact fun sound ↦ absurd sound offends.not_isSound
  · rw [given, Except.ok.injEq]
    constructor
    · rintro rfl
      exact ⟨sound, provides⟩
    · rintro ⟨-, provides'⟩
      exact provides.unique sound.known sound.single provides'

/-- A method is turned down on the account on which it offends. -/
theorem body_eq_error_iff {schema : String} {e : SchemaError} :
    m.body cs schema = .error e ↔ m.Offends cs schema e := by
  rcases offends_or_provides cs m schema with ⟨e', failed, offends⟩ | ⟨b, given, sound, -⟩
  · rw [failed, Except.error.injEq]
    constructor
    · rintro rfl
      exact offends
    · exact offends.unique
  · rw [given]
    simp only [reduceCtorEq, false_iff]
    exact fun offends ↦ offends.not_isSound sound

/-- What a declared method becomes: everything is carried over, and the body is one that it
provides. -/
structure Becomes (cs : Combinators) (m : MethodDeclaration) (w : Method) : Prop where
  name : w.name = m.name
  params : w.params = m.params
  returns : w.returns = m.returns
  fromField : w.fromField = m.fromField
  chaining : w.chaining = m.chaining
  synthesis : w.synthesis = m.synthesis
  body : m.Provides cs w.body

/-- A sound method is resolved to what it becomes. -/
theorem toMethod_eq_ok_iff {schema : String} {w : Method} :
    m.toMethod cs schema = .ok w ↔ m.IsSound cs ∧ m.Becomes cs w := by
  rw [toMethod, bind_eq_ok]
  simp only [body_eq_ok_iff, Except.ok.injEq]
  constructor
  · rintro ⟨b, ⟨sound, provides⟩, rfl⟩
    exact ⟨sound, rfl, rfl, rfl, rfl, rfl, rfl, provides⟩
  · rintro ⟨sound, becomes⟩
    obtain ⟨name, params, returns, body, fromField, chaining, synthesis⟩ := w
    obtain ⟨rfl, rfl, rfl, rfl, rfl, rfl, provides⟩ := becomes
    exact ⟨body, ⟨sound, provides⟩, rfl⟩

/-- Resolving a method fails on the account on which it offends. -/
theorem toMethod_eq_error_iff {schema : String} {e : SchemaError} :
    m.toMethod cs schema = .error e ↔ m.Offends cs schema e := by
  rw [toMethod, bind_eq_error, body_eq_error_iff]
  simp

/-- A method is resolved exactly when it is sound. -/
theorem exists_toMethod_iff {schema : String} :
    (∃ w, m.toMethod cs schema = .ok w) ↔ m.IsSound cs := by
  simp only [toMethod, bind_eq_ok, body_eq_ok_iff, Except.ok.injEq]
  constructor
  · rintro ⟨w, b, ⟨sound, -⟩, -⟩
    exact sound
  · intro sound
    obtain ⟨b, -, provides⟩ := exists_declaredBodies_eq sound.known sound.single
    exact ⟨_, b, ⟨sound, provides⟩, rfl⟩

end MethodDeclaration

namespace SchemaDeclaration

variable {cs : Combinators} {d : SchemaDeclaration}

/-- A schema declaration all of whose methods are sound. -/
def IsSound (cs : Combinators) (d : SchemaDeclaration) : Prop := ∀ m ∈ d.methods, m.IsSound cs

/-- A schema declaration offends with its first method that is not sound. -/
def Offends (cs : Combinators) (d : SchemaDeclaration) (e : SchemaError) : Prop :=
  FirstAt (·.IsSound cs) (·.Offends cs d.name e) d.methods

/-- What a schema declaration becomes: each property is a private field that takes part under its
own name, with a reader of its type, and everything that is declared follows in order. -/
structure Becomes (cs : Combinators) (d : SchemaDeclaration) (s : Schema) : Prop where
  name : s.name = d.name
  serializedFrom : s.serializedFrom = d.serializedFrom
  construction : s.construction = d.construction
  fields : s.fields = d.properties.map (fun p ↦
    { name := p.1, type := p.2, isPublic := false, isTransient := false, fromField := none
      chaining := none }) ++ d.fields
  methods : ∃ declared, List.Forall₂ (·.Becomes cs) d.methods declared ∧
    s.methods = d.properties.map (fun p ↦
      { name := Accessor.reader p.1, params := [], returns := some p.2, body := .getter p.1
        fromField := none, chaining := none, synthesis := none }) ++ declared

/-- A schema is made of its declaration exactly when all its methods are sound. -/
theorem exists_toSchema_iff : (∃ s, d.toSchema cs = .ok s) ↔ d.IsSound cs := by
  have methods : (∃ ws, d.methods.mapM (·.toMethod cs d.name) = .ok ws) ↔ d.IsSound cs := by
    simp only [exists_mapM_iff, MethodDeclaration.exists_toMethod_iff]
    rfl
  rw [← methods]
  simp only [toSchema, bind_eq_ok, Except.ok.injEq]
  constructor
  · rintro ⟨s, ws, given, -⟩
    exact ⟨ws, given⟩
  · rintro ⟨ws, given⟩
    exact ⟨_, ws, given, rfl⟩

/-- A schema fails to be made of its declaration at the first method that offends. -/
theorem toSchema_eq_error_iff {e : SchemaError} : d.toSchema cs = .error e ↔ d.Offends cs e := by
  rw [toSchema, bind_eq_error, mapM_eq_error_iff]
  simp only [MethodDeclaration.exists_toMethod_iff, MethodDeclaration.toMethod_eq_error_iff,
    reduceCtorEq, and_false, exists_false, or_false]
  rfl

/-- A schema that is made of its declaration is what the declaration becomes. -/
theorem toSchema_eq_ok_iff {s : Schema} :
    d.toSchema cs = .ok s ↔ d.IsSound cs ∧ d.Becomes cs s := by
  rw [toSchema, bind_eq_ok]
  simp only [mapM_eq_ok, MethodDeclaration.toMethod_eq_ok_iff, List.forall₂_and_left,
    Except.ok.injEq]
  constructor
  · rintro ⟨declared, ⟨sound, carried⟩, rfl⟩
    exact ⟨sound, rfl, rfl, rfl, rfl, declared, carried, rfl⟩
  · rintro ⟨sound, becomes⟩
    obtain ⟨name, serializedFrom, construction, fields, methods⟩ := s
    obtain ⟨rfl, rfl, rfl, rfl, declared, carried, rfl⟩ := becomes
    exact ⟨declared, ⟨sound, carried⟩, rfl⟩

end SchemaDeclaration

namespace SchemaDocument

/-- A document offends with its first schema that is not sound. -/
def Offends (cs : Combinators) (d : SchemaDocument) (e : SchemaError) : Prop :=
  FirstAt (·.IsSound cs) (·.Offends cs e) d.schemas

/-- A document becomes schemas exactly when every method of every schema is sound. Otherwise it is
turned down for the first method that is not, schema by schema and method by method, on the first
account that applies to it. The schemas that it becomes stand in its order, and each carries over
all that is declared, behind a private field and a reader for each property. -/
theorem becomes_exactly_if_sound (d : SchemaDocument) (cs : Combinators) :
    ((∃ schemas, d.toSchemas cs = .ok schemas) ↔
        ∀ s ∈ d.schemas, ∀ m ∈ s.methods, m.IsSound cs) ∧
      (∀ e, d.toSchemas cs = .error e ↔ d.Offends cs e) ∧
      ∀ schemas, d.toSchemas cs = .ok schemas ↔
        (∀ s ∈ d.schemas, ∀ m ∈ s.methods, m.IsSound cs) ∧
          List.Forall₂ (·.Becomes cs) d.schemas schemas := by
  refine ⟨?_, fun e ↦ ?_, fun schemas ↦ ?_⟩
  · rw [toSchemas, exists_mapM_iff]
    simp only [SchemaDeclaration.exists_toSchema_iff]
    rfl
  · rw [toSchemas, mapM_eq_error_iff]
    simp only [SchemaDeclaration.exists_toSchema_iff, SchemaDeclaration.toSchema_eq_error_iff]
    rfl
  · rw [toSchemas, mapM_eq_ok]
    simp only [SchemaDeclaration.toSchema_eq_ok_iff, List.forall₂_and_left]
    rfl

end SchemaDocument

namespace Books

/-- A reader of a field. -/
def balance : MethodDeclaration :=
  { name := "getBalance", returns := some .integer, getter := some "balance" }

/-- A method with two bodies, one of them in code that is not known. -/
def total : MethodDeclaration :=
  { name := "getTotal", returns := some .integer, getter := some "total", native := some "sum" }

/-- A format for a number. -/
def label : MethodDeclaration :=
  { name := "getLabel", returns := some .integer, format := some "\x7b0\x7d" }

/-- Two schemas, of which the second has two methods at fault. -/
def document : SchemaDocument :=
  ⟨[{ name := "Account", methods := [balance] },
    { name := "Ledger", methods := [balance, total, label] }]⟩

/-- One schema, with a property and a method that is not at fault. -/
def accounts : SchemaDocument :=
  ⟨[{ name := "Account", properties := [("owner", .string)], methods := [balance] }]⟩

/-- What the reader of a balance becomes. -/
def getBalance : Method :=
  { name := "getBalance", params := [], returns := some .integer, body := .getter "balance" }

/-- What an account becomes: the owner has a private field and a reader. -/
def account : Schema :=
  { name := "Account"
    fields := [{ name := "owner", type := .string }]
    methods := [.readerOf "owner" .string, getBalance] }

/-- The total hides the label behind it, and its unknown code the number of its bodies; without
either the document becomes what it declares. -/
theorem becomes_exactly_if_sound_books :
    total.bodyCount = 2 ∧
      document.toSchemas .builtin = .error (.unknownCombinator "Ledger" "getTotal" "sum") ∧
      accounts.toSchemas .builtin = .ok [account] := by
  have sound : balance.IsSound .builtin := ⟨nofun, rfl, nofun, nofun⟩
  have offends : total.Offends .builtin "Ledger" (.unknownCombinator "Ledger" "getTotal" "sum") :=
    .unknown rfl rfl
  refine ⟨rfl, ((document.becomes_exactly_if_sound .builtin).2.1 _).mpr ?_,
    ((accounts.becomes_exactly_if_sound .builtin).2.2 _).mpr ⟨?_, ?_⟩⟩
  · refine ⟨[_], _, [], rfl, ?_, [_], _, [_], rfl, ?_, offends⟩
    · simpa [SchemaDeclaration.IsSound] using sound
    · simpa using sound
  · simpa [accounts] using sound
  · have declared : List.Forall₂ (·.Becomes .builtin) [balance] [getBalance] :=
      .cons ⟨rfl, rfl, rfl, rfl, rfl, rfl, .getter rfl⟩ .nil
    exact .cons ⟨rfl, rfl, rfl, rfl, _, declared, rfl⟩ .nil

end Books

end Fieldwise
