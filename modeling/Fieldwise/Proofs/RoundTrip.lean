import Fieldwise.Proofs.Erasure
import Fieldwise.Proofs.Fitting

/-!
# Records survive the trip through documents

The document of a record names no schema, lists its fields with ascending keys and spells out the
fields that hold nothing. Read by the schema that made the record, it gives that record again: the
declared types bring back the schemas of nested records, the declarations the order of the fields,
and under every other type a value is read from its document as it was.
-/

namespace Fieldwise

open Outcome

/-- The numbers of an entry are numbers of its object. -/
theorem Json.mem_numbers_of_find? {entries : List (String × Json)} {key : String} {inner : Json}
    {n : Json.Number} (found : Table.find? entries key = some inner) (member : n ∈ inner.numbers) :
    n ∈ (Json.object entries).numbers := by
  rw [numbers, numbersOfEntries_eq_flatMap, List.mem_flatMap]
  exact ⟨(key, inner), Table.mem_of_find?_eq_some found, member⟩

namespace Value

/-- A value that was read from a document with finite numbers is what its own document says. -/
theorem ofJson_toJson_ofJson {document : Json}
    (finite : ∀ n ∈ document.numbers, n.isFinite = true) :
    ofJson (toJson (ofJson document)) = ofJson document := by
  rw [ofJson_toJson, erase_of_isPlain _ (isPlain_ofJson document finite)]

/-- Only an object has a value whose document is an object. -/
theorem exists_object_of_toJson_ofJson {document : Json} {entries : List (String × Json)}
    (h : toJson (ofJson document) = .object entries) :
    ∃ entries', document = .object entries' := by
  cases document with
  | object entries' => exact ⟨entries', rfl⟩
  | number n =>
    cases n with
    | integer => cases h
    | large | decimal =>
      simp only [ofJson, Json.Number.toValue, toJson] at h
      split at h
      · cases h
      · cases h
  | _ => cases h

end Value

namespace Catalog

variable {c : Catalog} {s : Schema} {name : String} {document : Json} {record : Record} {type : Ty}
  {value : Value}

/-- The entry of a declared field in the document of an instance is the document of what the
instance holds there. -/
theorem find?_toJson_of_hasInstance (own : s.HasInstance record)
    (distinct : (s.fields.map FieldDef.name).Nodup) (key : String) :
    Table.find? (Table.sorted (Value.toJsonEntries record.fields)) key =
      (record.get? key).map Value.toJson := by
  have names : record.fields.names = s.fields.map FieldDef.name := own.names
  rw [Value.toJsonEntries_eq_mapEntries, Table.sorted_mapEntries, Table.find?_mapEntries,
    Table.find?_sorted_of_nodup (names ▸ distinct), Record.get?]

-- The records inside are left to the induction on documents.
private theorem valueOf_toJson (finite : ∀ n ∈ document.numbers, n.isFinite = true)
    (inner : ∀ entries name record, document = .object entries →
      c.read (.object entries) name = .ok record →
        c.read record.toValue.toJson name = .ok record)
    (h : c.valueOf document type = .ok value) : c.valueOf value.toJson type = .ok value := by
  rcases object_record_or document type with ⟨entries, name, rfl, rfl⟩ | other
  · rw [valueOf_object_record, map_eq_ok] at h
    obtain ⟨record, run, rfl⟩ := h
    have again := inner entries name record rfl run
    rw [Record.toValue, Value.toJson] at again ⊢
    rw [valueOf_object_record, again]
    rfl
  · rw [valueOf_of_other other] at h
    cases h
    rw [valueOf_of_other, Value.ofJson_toJson_ofJson finite]
    intro entries name object
    obtain ⟨entries', rfl⟩ := Value.exists_object_of_toJson_ofJson object
    exact other entries' name rfl

/-- A record that was read is read again from its own document, whole: with its fields in order, and
in each the same value with the same schemas, maps, lists and kinds of numbers at every depth. -/
theorem read_toJson (distinct : ∀ s ∈ c.schemas, (s.fields.map FieldDef.name).Nodup)
    (finite : ∀ n ∈ document.numbers, n.isFinite = true)
    (h : c.read document name = .ok record) : c.read record.toValue.toJson name = .ok record := by
  induction document using Json.entry_induction generalizing name record with
  | step document ih =>
    obtain ⟨entries, s, rfl, found, -⟩ := read_eq_ok_iff.mp h
    obtain ⟨s', found', own, held⟩ := (read_object_eq_ok_iff distinct).mp h
    cases found.symm.trans found'
    rw [Record.toValue, Value.toJson]
    refine (read_object_eq_ok_iff distinct).mpr ⟨s, found, own, fun f declared ↦ ?_⟩
    have holds := held f declared
    rw [find?_toJson_of_hasInstance own (distinct s (List.mem_of_find?_eq_some found))]
    cases told : Table.find? entries f.name with
    | none =>
      -- the field that nothing was said of is spelled out as absent
      rw [told] at holds
      rw [holds]
      refine ⟨.null, valueOf_of_other ?_, rfl⟩
      intro entries name object
      cases object
    | some document =>
      rw [told] at holds
      obtain ⟨value, reads, holds⟩ := holds
      rw [holds]
      refine ⟨value, valueOf_toJson ?_ ?_ reads, rfl⟩
      · exact fun n member ↦ finite n (Json.mem_numbers_of_find? told member)
      · rintro entries' name' made rfl run
        exact ih entries f.name _ rfl told
          (fun n member ↦ finite n (Json.mem_numbers_of_find? told member)) run

end Catalog

namespace Stock

/-- Who delivers an article. -/
def supplier : Schema where
  name := "Supplier"
  fields := [{ name := "name", type := .string }, { name := "since", type := .integer }]

/-- An article has fields of all kinds of types. -/
def article : Schema where
  name := "Article"
  fields := [
    { name := "title", type := .string }, { name := "price", type := .decimal },
    { name := "weight", type := .decimal }, { name := "supplier", type := .record "Supplier" },
    { name := "sizes", type := .list }, { name := "notes", type := .any }]

/-- Suppliers and their articles. -/
def catalog : Catalog := (Catalog.empty.register supplier).register article

/-- An article with a whole price and a broken weight, whose supplier has no year. -/
def document : Json :=
  .object [
    ("notes", .object [("name", .string "label"), ("since", .number (.integer 1990))]),
    ("price", .number (.integer 3)),
    ("sizes", .array [.number (.integer 1), .number (.decimal ⟨0x3FF0000000000000⟩), .null]),
    ("supplier", .object [("name", .string "Acme"), ("town", .string "Bath")]),
    ("title", .string "rope"),
    ("weight", .number (.decimal ⟨0x3FF8000000000000⟩))]

/-- The article: the supplier is a record, and the note that looks like one is a map. -/
def rope : Record where
  schema := "Article"
  fields := [
    ("title", .string "rope"), ("price", .integer 3), ("weight", .decimal ⟨0x3FF8000000000000⟩),
    ("supplier", .record "Supplier" [("name", .string "Acme"), ("since", .null)]),
    ("sizes", .list [.integer 1, .decimal ⟨0x3FF0000000000000⟩, .null]),
    ("notes", .map [("name", .string "label"), ("since", .integer 1990)])]

/-- An article with values of all kinds is read again from its own document. -/
theorem read_toJson_rope :
    (∀ s ∈ catalog.schemas, (s.fields.map FieldDef.name).Nodup) ∧
      (∀ n ∈ document.numbers, n.isFinite = true) ∧
      catalog.read document "Article" = .ok rope ∧
      catalog.read rope.toValue.toJson "Article" = .ok rope := by
  have distinct : ∀ s ∈ catalog.schemas, (s.fields.map FieldDef.name).Nodup := by decide
  have finite : ∀ n ∈ document.numbers, n.isFinite = true := by decide
  have reads : catalog.read document "Article" = .ok rope := by cbv
  exact ⟨distinct, finite, reads, Catalog.read_toJson distinct finite reads⟩

end Stock

end Fieldwise
