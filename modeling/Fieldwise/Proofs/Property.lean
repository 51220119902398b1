import Mathlib
import Fieldwise.Combinator
import Fieldwise.Mapping.Run
import Fieldwise.Proofs.Compiled

/-!
# Schemas made of properties

A property is a private field with its conventional reader. In a schema made of properties alone
the reader of a field belongs to the first property whose reader is spelled like the field's, and
reading returns what the record holds under that property. A small staff, whose persons are made of
properties and mapped to cards, stands at the end.
-/

namespace Fieldwise

/-- The fields and methods of a schema are those of its properties, in order. -/
structure Schema.MadeOf (s : Schema) (properties : List (String × Ty)) : Prop where
  fields : s.fields = properties.map fun p ↦ { name := p.1, type := p.2 }
  methods : s.methods = properties.map fun p ↦ .readerOf p.1 p.2

/-- Another property comes after the others. -/
theorem Schema.MadeOf.addProperty {s : Schema} {properties : List (String × Ty)}
    (h : s.MadeOf properties) (name : String) (type : Ty) :
    (s.addProperty name type).MadeOf (properties ++ [(name, type)]) where
  fields := by simp [Schema.addProperty, addField, addMethod, h.fields]
  methods := by simp [Schema.addProperty, addField, addMethod, h.methods]

/-- Adding properties to a schema without fields and methods gives a schema made of them. -/
theorem Schema.madeOf_foldl_addProperty (name : String) (serializedFrom : Option String)
    (construction : Construction) (properties : List (String × Ty)) :
    (properties.foldl (fun s p ↦ addProperty s p.1 p.2)
      { name, serializedFrom, construction }).MadeOf properties := by
  induction properties using List.reverseRecOn with
  | nil => exact ⟨rfl, rfl⟩
  | append_singleton rest p ih =>
    rw [List.foldl_append]
    exact ih.addProperty p.1 p.2

/-- The property that is read for a field, and the only one. -/
def OnlyProperty (properties : List (String × Ty)) (field : String) (p : String × Ty) : Prop :=
  p ∈ properties ∧ Accessor.reader p.1 = Accessor.reader field ∧
    ∀ q ∈ properties, Accessor.reader q.1 = Accessor.reader field → q = p

/-- A conventional reader returns what is held under its field, and takes no arguments. -/
theorem Method.call_readerOf_eq_ok_iff {field : String} {type : Ty} {record : Record}
    {value : Value} :
    (Method.readerOf field type).call record [] = .ok value ↔ record.get? field = some value := by
  have accepted : (Method.readerOf field type).checkArgs [] = .ok () := rfl
  rw [call, accepted]
  cases h : record.get? field <;> simp [readerOf, h, bind, Except.bind]

namespace Schema.MadeOf

variable {c : Catalog} {source field : String} {s : Schema} {properties : List (String × Ty)}
  {reader : Method}

/-- A reader in a schema made of properties belongs to one of them. -/
theorem exists_of_reader (h : s.MadeOf properties) (found : c.find? source = some s)
    (reads : c.reader source field = .ok reader) :
    ∃ p ∈ properties, Accessor.reader p.1 = Accessor.reader field ∧
      reader = .readerOf p.1 p.2 := by
  obtain ⟨hit, -⟩ := Catalog.reader_eq_ok_iff.mp reads
  rw [Catalog.findMethod?, found, Option.bind_some, findMethod?, h.methods] at hit
  obtain ⟨p, member, rfl⟩ := List.mem_map.mp (List.mem_of_find?_eq_some hit)
  refine ⟨p, member, ?_, rfl⟩
  simpa [Method.readerOf] using List.find?_some hit

/-- With distinct readers, what a reader returns is held under the only property of its
spelling. -/
theorem exists_only_of_call (h : s.MadeOf properties)
    (distinct : (properties.map fun p ↦ Accessor.reader p.1).Nodup)
    (found : c.find? source = some s) (reads : c.reader source field = .ok reader)
    {record : Record} {value : Value} (call : reader.call record [] = .ok value) :
    ∃ p, OnlyProperty properties field p ∧ record.get? p.1 = some value := by
  obtain ⟨p, member, spelled, rfl⟩ := h.exists_of_reader found reads
  refine ⟨p, ⟨member, spelled, fun q other same ↦ ?_⟩, Method.call_readerOf_eq_ok_iff.mp call⟩
  exact List.inj_on_of_nodup_map distinct other member (same.trans spelled.symm)

end Schema.MadeOf

namespace Staff

/-- What is kept of a person. -/
def properties : List (String × Ty) :=
  [("name", .string), ("age", .integer), ("boss", .record "Person")]

/-- A person has a name, an age and a boss. -/
def person : Schema := properties.foldl (fun s p ↦ s.addProperty p.1 p.2) { name := "Person" }

/-- A label shows a person's name. -/
def label : Schema where
  name := "Label"
  serializedFrom := some "Person"
  fields := [{ name := "name", type := .any, isPublic := true }]

/-- Writes name and age of a person in one line. -/
def inscription : Method where
  name := "inscription"
  params := [.string, .integer]
  returns := some .string
  body := .format "\x7b0\x7d, \x7b1\x7d"
  synthesis := some ⟨"text", ["name", "age"]⟩

/-- Doubles the age of a person, who must have one. -/
def twice : Method where
  name := "twice"
  params := [.integer, .integer]
  returns := some .integer
  body := .native fun _ args ↦ Combinator.Arithmetic.sum.combinator args
  synthesis := some ⟨"twice", ["age", "age"]⟩

/-- Heads a card with the age of a person. -/
def setHeadToAge : Method where
  name := "setHead"
  params := [.integer]
  returns := none
  body := .setter "head"
  fromField := some "age"

/-- Heads a card with the name of a person. -/
def setHeadToName : Method where
  name := "setHead"
  params := [.any]
  returns := none
  body := .setter "head"
  fromField := some "name"

/-- A card is headed by a person's name, for the later writer counts, and shows a text, twice the
age and the label of the boss. -/
def card : Schema where
  name := "Card"
  serializedFrom := some "Person"
  fields := [
    { name := "head", type := .any, isPublic := true },
    { name := "text", type := .string, isPublic := true },
    { name := "twice", type := .integer, isPublic := true },
    { name := "boss", type := .record "Label", isPublic := true, chaining := some ⟨none, []⟩ }]
  methods := [setHeadToAge, inscription, twice, setHeadToName]

/-- Persons, their labels and their cards. -/
def catalog : Catalog := ((Catalog.empty.register person).register label).register card

/-- What labels are compiled to. -/
def toLabel : Mapping :=
  .mk label "Person" .all [("name", .direct "name" (.readerOf "name" .string) none)]

/-- What cards are compiled to. -/
def toCard : Mapping :=
  .mk card "Person" .all [
    ("head", .direct "head" (.readerOf "name" .string) (some setHeadToName)),
    ("text",
      .synthetic "text" inscription [.readerOf "name" .string, .readerOf "age" .integer] none),
    ("twice",
      .synthetic "twice" twice [.readerOf "age" .integer, .readerOf "age" .integer] none),
    ("boss", .chained "boss" (.readerOf "boss" (.record "Person")) none toLabel)]

/-- A person without a boss. -/
def grace : Record := ⟨"Person", [("name", .string "Grace"), ("age", .integer 50), ("boss", .null)]⟩

/-- A person with a boss. -/
def ada : Record :=
  ⟨"Person", [("name", .string "Ada"), ("age", .integer 36), ("boss", grace.toValue)]⟩

/-- What the card of a person with a boss shows. -/
def cardOfAda : Table Value :=
  [("boss", .map [("name", .string "Grace")]), ("head", .string "Ada"),
    ("text", .string "Ada, 36"), ("twice", .integer 72)]

/-- The card of a person with a boss. -/
def cardForAda : Record :=
  ⟨"Card", [("head", .string "Ada"), ("text", .string "Ada, 36"), ("twice", .integer 72),
    ("boss", .record "Label" [("name", .string "Grace")])]⟩

/-- Persons are registered. -/
theorem find?_person : catalog.find? "Person" = some person := by
  cbv

/-- Persons are made of their properties. -/
theorem person_madeOf : person.MadeOf properties :=
  Schema.madeOf_foldl_addProperty "Person" none .blank properties

/-- The properties of persons have distinct readers. -/
theorem distinct_readers : (properties.map fun p ↦ Accessor.reader p.1).Nodup := by
  decide +kernel

/-- Cards compile to their mapping. -/
theorem compile_card : catalog.compile "Card" .all = .ok toCard := by
  cbv

/-- The card of a person with a boss, as a table. -/
theorem toTable_ada : toCard.toTable catalog ada.toValue .all = .ok cardOfAda := by
  cbv

/-- The card of a person with a boss, as an instance. -/
theorem toInstance_ada : toCard.toInstance catalog ada.toValue .all = .ok (some cardForAda) := by
  cbv

/-- The mapping of labels contains no other. -/
theorem eq_of_contains_label {n : Mapping} (h : toLabel.Contains n) : n = toLabel := by
  rcases Mapping.contains_iff.mp h with rfl | ⟨key, field, reader, writer, k, member, -⟩
  · rfl
  · simp [toLabel, Mapping.bindings] at member

/-- Carrying out the mapping of cards carries out that of labels. -/
theorem eq_of_contains {n : Mapping} (h : toCard.Contains n) : n = toCard ∨ n = toLabel := by
  rcases Mapping.contains_iff.mp h with rfl | ⟨key, field, reader, writer, k, member, inner⟩
  · exact .inl rfl
  · simp only [toCard, Mapping.bindings, List.mem_cons, List.not_mem_nil, Prod.mk.injEq,
      Binding.chained.injEq, reduceCtorEq, and_false, false_or, or_false] at member
    obtain ⟨-, -, -, -, rfl⟩ := member
    exact .inr (eq_of_contains_label inner)

end Staff

end Fieldwise
