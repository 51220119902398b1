import Fieldwise.Proofs.Assignment
import Fieldwise.Proofs.Compiled
import Fieldwise.Proofs.Conformance
import Fieldwise.Proofs.Property

/-!
# Readers and arguments are right

A compiled mapping whose sources are made of properties is ready for every conforming record of its
source: each of its readers returns a value of its declared type, and each computing method gets as
many arguments as it has parameters, each of its parameter's type. The records that nested mappings
are carried out on conform as well, so that this holds at every depth.
-/

namespace Fieldwise

open Outcome

/-- Whether an access was refused for the arguments it was given. -/
def AccessError.rejectsArguments : AccessError → Bool
  | argumentCount _ _ _ | argumentType _ _ _ _ => true
  | _ => false

namespace Method

/-- Without a mismatch each parameter accepts its argument. -/
theorem firstMismatch?_eq_none_iff (index : Nat) {params : List Ty} {args : List Value}
    (same : params.length = args.length) :
    firstMismatch? index params args = none ↔
      List.Forall₂ (fun param arg ↦ param.accepts arg = true) params args := by
  induction params generalizing index args with
  | nil =>
    rw [List.eq_nil_of_length_eq_zero same.symm]
    simp [firstMismatch?]
  | cons param params ih =>
    cases args with
    | nil => cases same
    | cons arg args =>
      rw [firstMismatch?, List.forall₂_cons]
      by_cases h : param.accepts arg = true
      · rw [if_pos h, ih (index + 1) (Nat.succ.inj same), and_iff_right h]
      · simp [h]

/-- Arguments are accepted when each parameter accepts its own. -/
theorem checkArgs_eq_ok {m : Method} {args : List Value}
    (h : List.Forall₂ (fun param arg ↦ param.accepts arg = true) m.params args) :
    m.checkArgs args = .ok () := by
  have count : args.length = m.arity := h.length_eq.symm
  rw [checkArgs, if_neg (not_not.mpr count),
    (firstMismatch?_eq_none_iff 0 h.length_eq).mpr h]

/-- A method that accepts its arguments refuses for another reason. -/
theorem rejectsArguments_of_call {m : Method} {receiver : Record} {args : List Value}
    {cause : AccessError} (accepted : m.checkArgs args = .ok ())
    (h : m.call receiver args = .error cause) : cause.rejectsArguments = false := by
  cases refusesToRun_of_call h with
  | arguments rejected =>
    rw [accepted] at rejected
    cases rejected
  | _ => rfl

end Method

namespace Mapping

variable {c : Catalog}

/-- A mapping is ready for a source when each of its readers returns a value of its declared type,
and its computing methods accept what their readers return. -/
structure Ready (m : Mapping) (source : Record) : Prop where
  reads : ∀ key b, (key, b) ∈ m.bindings → ∀ reader ∈ b.readers, ∃ type value,
    reader.returns = some type ∧ reader.call source [] = .ok value ∧ type.accepts value = true
  accepts : ∀ key field combinator readers writer,
    (key, .synthetic field combinator readers writer) ∈ m.bindings → ∀ args,
      List.Forall₂ (fun reader arg ↦ reader.call source [] = .ok arg) readers args →
        combinator.checkArgs args = .ok () ∧
          ∀ receiver cause, combinator.call receiver args = .error cause →
            cause.rejectsArguments = false

/-- The mappings that are carried out, at any depth, when a mapping is carried out on a source, each
with its own source. -/
inductive Reaches : Mapping → Record → Mapping → Record → Prop
  | self (m : Mapping) (source : Record) : m.Reaches source m source
  | nested {m n k : Mapping} {source inner last : Record} {key field : String} {reader : Method}
      {writer : Option Method}
      (member : (key, .chained field reader writer n) ∈ m.bindings)
      (read : reader.call source [] = .ok inner.toValue)
      (same : inner.schema = n.source)
      (later : n.Reaches inner k last) : m.Reaches source k last

/-- What is reached is contained. -/
theorem Reaches.contains {m n : Mapping} {source inner : Record}
    (h : m.Reaches source n inner) : m.Contains n := by
  induction h with
  | self m source => exact .self m
  | nested member _ _ _ ih => exact .nested member ih

end Mapping

/-- The schema of a name is made of properties of distinct names. -/
def Catalog.MadeOfProperties (c : Catalog) (name : String) : Prop :=
  ∃ s properties, c.find? name = some s ∧ s.MadeOf properties ∧ (properties.map Prod.fst).Nodup

namespace Staff

/-- The document of a person with a boss. -/
def documentOfAda : Json :=
  .object [("name", .string "Ada"), ("age", .number (.integer 36)),
    ("boss", .object [("name", .string "Grace"), ("age", .number (.integer 50))])]

/-- Persons are made of properties wherever they are registered. -/
theorem madeOfProperties_of_find? {c : Catalog} (found : c.find? "Person" = some person) :
    c.MadeOfProperties "Person" :=
  ⟨person, properties, found, person_madeOf, by decide⟩

/-- The sources of cards, and of the labels on them, are persons. -/
theorem madeOfProperties_of_contains (n : Mapping) (h : toCard.Contains n) :
    catalog.MadeOfProperties n.source := by
  have source : n.source = "Person" := by
    rcases eq_of_contains h with rfl | rfl <;> rfl
  rw [source]
  exact madeOfProperties_of_find? find?_person

end Staff

namespace Catalog.Compiled

variable {c : Catalog} {m : Mapping}

/-- The readers of a compiled mapping are looked up in its source. -/
theorem exists_reader (h : c.Compiled m) {key : String} {b : Binding}
    (member : (key, b) ∈ m.bindings) {reader : Method} (reads : reader ∈ b.readers) :
    ∃ field, c.reader m.source field = .ok reader := by
  obtain ⟨d, binds⟩ := h.exists_binds_of_mem member
  cases binds with
  | computed sources _ =>
    obtain ⟨field, -, found⟩ := exists_mem_of_forall₂ sources reads
    exact ⟨field, found⟩
  | direct _ found _ _ =>
    obtain rfl := List.mem_singleton.mp reads
    exact ⟨_, found⟩
  | chained _ _ _ _ found =>
    obtain rfl := List.mem_singleton.mp reads
    exact ⟨_, found⟩

end Catalog.Compiled

namespace Mapping

variable {c : Catalog}

/-- On a conforming record a reader of properties returns what the record holds there, a value of
its declared type. -/
theorem exists_property_of_reader {m : Mapping} (compiled : c.Compiled m)
    (made : c.MadeOfProperties m.source) {source : Record} (conforms : c.Conforms source)
    (same : source.schema = m.source) {key : String} {b : Binding}
    (member : (key, b) ∈ m.bindings) {reader : Method} (reads : reader ∈ b.readers) :
    ∃ p : String × Ty, ∃ value, reader = .readerOf p.1 p.2 ∧ source.get? p.1 = some value ∧
      p.2.accepts value = true := by
  obtain ⟨s, properties, found, made, distinct⟩ := made
  obtain ⟨field, read⟩ := compiled.exists_reader member reads
  obtain ⟨p, property, -, rfl⟩ := made.exists_of_reader found read
  cases conforms with
  | @intro _ s' found' filled held =>
    rw [same, found] at found'
    cases found'
    have names : (s.fields.map FieldDef.name).Nodup := by
      simpa [made.fields, Function.comp_def] using distinct
    have declared : { name := p.1, type := p.2 } ∈ s.fields := by
      rw [made.fields]
      exact List.mem_map_of_mem property
    obtain ⟨value, held, accepted⟩ := filled names _ declared
    exact ⟨p, value, rfl, held, accepted⟩

private theorem forall₂_accepts {params : List Ty} {readers : List Method} {args : List Value}
    {source : Record}
    (types : List.Forall₂ (fun param (reader : Method) ↦ reader.returns = some param)
      params readers)
    (reads : ∀ reader ∈ readers, ∃ type value, reader.returns = some type ∧
      reader.call source [] = .ok value ∧ type.accepts value = true)
    (values : List.Forall₂ (fun reader arg ↦ reader.call source [] = .ok arg) readers args) :
    List.Forall₂ (fun param arg ↦ param.accepts arg = true) params args := by
  induction types generalizing args with
  | nil =>
    cases values
    exact .nil
  | @cons param reader _ readers returns _ ih =>
    cases values with
    | cons read values =>
      obtain ⟨type, value, returns', read', accepted⟩ := reads reader List.mem_cons_self
      cases returns.symm.trans returns'
      cases read.symm.trans read'
      have later := fun other member ↦ reads other (List.mem_cons_of_mem reader member)
      exact .cons accepted (ih later values)

/-- A compiled mapping of properties is ready for a conforming record of its source. -/
theorem ready_of_conforms {m : Mapping} (compiled : c.Compiled m)
    (made : c.MadeOfProperties m.source) {source : Record} (conforms : c.Conforms source)
    (same : source.schema = m.source) : m.Ready source := by
  have reads : ∀ key b, (key, b) ∈ m.bindings → ∀ reader ∈ b.readers, ∃ type value,
      reader.returns = some type ∧ reader.call source [] = .ok value ∧
        type.accepts value = true := by
    intro key b member reader reads
    obtain ⟨p, value, rfl, held, accepted⟩ :=
      exists_property_of_reader compiled made conforms same member reads
    exact ⟨p.2, value, rfl, Method.call_readerOf_eq_ok_iff.mpr held, accepted⟩
  refine ⟨reads, ?_⟩
  intro key field combinator readers writer member args values
  have types : List.Forall₂ (fun param (reader : Method) ↦ reader.returns = some param)
      combinator.params readers := by
    obtain ⟨d, binds⟩ := compiled.exists_binds_of_mem member
    cases binds with
    | computed _ types => exact types
  have accepted : combinator.checkArgs args = .ok () :=
    Method.checkArgs_eq_ok (forall₂_accepts types (reads key _ member) values)
  exact ⟨accepted, fun receiver cause ↦ Method.rejectsArguments_of_call accepted⟩

/-- Every source that is reached conforms and is of the schema that its mapping reads. -/
theorem conforms_of_reaches {m n : Mapping} {source inner : Record} (compiled : c.Compiled m)
    (made : ∀ k, m.Contains k → c.MadeOfProperties k.source) (conforms : c.Conforms source)
    (same : source.schema = m.source) (h : m.Reaches source n inner) :
    c.Conforms inner ∧ inner.schema = n.source := by
  induction h with
  | self m source => exact ⟨conforms, same⟩
  | nested member read fits _ ih =>
    refine ih (compiled.nested member) (fun k contains ↦ made k (.nested member contains)) ?_ fits
    obtain ⟨p, value, rfl, -, -⟩ :=
      exists_property_of_reader compiled (made _ (.self _)) conforms same member
        List.mem_cons_self
    cases conforms with
    | intro _ _ held => exact held p.1 _ (Method.call_readerOf_eq_ok_iff.mp read)

/-- On a record that was read, every mapping that is reached is ready. -/
theorem ready_of_read {m : Mapping} (compiled : c.Compiled m)
    (made : ∀ n, m.Contains n → c.MadeOfProperties n.source) {document : Json} {source : Record}
    (read : c.read document m.source = .ok source) :
    source.schema = m.source ∧ ∀ n inner, m.Reaches source n inner → n.Ready inner := by
  obtain ⟨same, conforms⟩ := Catalog.conforms_of_read document m.source source read
  refine ⟨same, fun n inner reached ↦ ?_⟩
  obtain ⟨conforms, same⟩ := conforms_of_reaches compiled made conforms same reached
  have contained := reached.contains
  exact ready_of_conforms (compiled.contained contained) (made n contained) conforms same

end Mapping

end Fieldwise
