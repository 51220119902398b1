import Mathlib.Data.List.Nodup
import Fieldwise.Catalog.Reading
import Fieldwise.Proofs.Gathering

/-!
# Reading as gathering

A record is gathered from an object: each declared field that the object has an entry for is given
the value of that entry, or fails, and all other fields stay absent in value. So whether an object
is read, and what its record holds, is settled field by field. Only an object under a record type is
read by a further schema; the records that are read in this way end with the document.
-/

namespace Fieldwise

open Outcome

/-- What holds of a document whenever it holds of the entries of the object that it is holds of all
documents. -/
theorem Json.entry_induction {P : Json → Prop}
    (step : ∀ document, (∀ entries key inner, document = .object entries →
      Table.find? entries key = some inner → P inner) → P document)
    (document : Json) : P document :=
  step document fun _ _ inner _ _ ↦ entry_induction step inner
termination_by sizeOf document
decreasing_by
  next key inner same found =>
    subst same
    have entry := List.sizeOf_lt_of_mem (Table.mem_of_find?_eq_some found)
    simp only [Prod.mk.sizeOf_spec] at entry
    simp only [Json.object.sizeOf_spec]
    omega

/-- The declared fields that an object has an entry for, each with its entry. -/
def Schema.told (s : Schema) (entries : List (String × Json)) : List (FieldDef × Json) :=
  s.fields.filterMap fun f ↦ (Table.find? entries f.name).map (f, ·)

/-- What a document tells are the declared fields that it has an entry for. -/
theorem Schema.mem_told {s : Schema} {entries : List (String × Json)} {f : FieldDef}
    {document : Json} :
    (f, document) ∈ s.told entries ↔ f ∈ s.fields ∧ Table.find? entries f.name = some document := by
  simp only [told, List.mem_filterMap, Option.map_eq_some_iff, Prod.mk.injEq]
  constructor
  · rintro ⟨g, declared, document', found, rfl, rfl⟩
    exact ⟨declared, found⟩
  · rintro ⟨declared, found⟩
    exact ⟨f, declared, document, found, rfl, rfl⟩

/-- With distinct names a declared field is told the entry of its name. -/
theorem Schema.lastOf_told {s : Schema} (distinct : (s.fields.map FieldDef.name).Nodup)
    {entries : List (String × Json)} {f : FieldDef} (declared : f ∈ s.fields) :
    lastOf (fun told : FieldDef × Json ↦ told.1.name) (s.told entries) f.name =
      (Table.find? entries f.name).map (f, ·) := by
  cases last : lastOf (fun told : FieldDef × Json ↦ told.1.name) (s.told entries) f.name with
  | none =>
    cases told : Table.find? entries f.name with
    | none => rfl
    | some document =>
      exact absurd rfl (lastOf_eq_none_iff.mp last (f, document) (mem_told.mpr ⟨declared, told⟩))
  | some told =>
    obtain ⟨g, document⟩ := told
    obtain ⟨member, same⟩ := mem_of_lastOf last
    obtain ⟨declared', found⟩ := mem_told.mp member
    obtain rfl : g = f := List.inj_on_of_nodup_map distinct declared' declared same
    rw [found, Option.map_some]

namespace Catalog

variable {c : Catalog} {s : Schema} {name : String} {entries : List (String × Json)}
  {document : Json} {record : Record} {f : FieldDef} {type : Ty} {value : Value}

/-- What a document offers to a field. -/
def offer (c : Catalog) (document : Json) : Offer where
  value := Value.ofJson document
  asRecord := match document with
    | .object entries => some (c.read (.object entries))
    | _ => none

/-- The value that a field of a type is given for a document. -/
def valueOf (c : Catalog) (document : Json) (type : Ty) : Except SchemaError Value :=
  (c.offer document).valueFor type

/-- The value that a declared field takes for a document, if it accepts it. -/
def taken (c : Catalog) (s : Schema) (told : FieldDef × Json) : Except SchemaError Value := do
  let value ← c.valueOf told.2 told.1.type
  if told.1.type.accepts value then .ok value
  else .error (.fieldValue told.1.name s.name told.1.type.text value.kind)

/-- Every entry of a document is offered under its own name. -/
theorem offers_eq_mapEntries (c : Catalog) (entries : List (String × Json)) :
    c.offers entries = Table.mapEntries c.offer entries := by
  induction entries with
  | nil => rw [offers]; rfl
  | cons entry rest ih =>
    obtain ⟨key, document⟩ := entry
    unfold offers
    rw [ih]
    cases document <;> rfl

/-- An object meets a record type, or it is the plain value of the document that counts. -/
theorem object_record_or (document : Json) (type : Ty) :
    (∃ entries name, document = .object entries ∧ type = .record name) ∨
      ∀ entries name, document = .object entries → type ≠ .record name := by
  by_cases h : ∃ entries name, document = .object entries ∧ type = .record name
  · exact .inl h
  · exact .inr fun entries name object record ↦ h ⟨entries, name, object, record⟩

/-- An object under a record type is read by the schema of that type. -/
theorem valueOf_object_record (entries : List (String × Json)) (name : String) :
    c.valueOf (.object entries) (.record name) =
      (c.read (.object entries) name).map Record.toValue := rfl

/-- Otherwise a document has its plain value. -/
theorem valueOf_of_other
    (other : ∀ entries name, document = .object entries → type ≠ .record name) :
    c.valueOf document type = .ok (Value.ofJson document) := by
  cases document with
  | object entries =>
    cases type with
    | record name => exact absurd rfl (other entries name rfl)
    | _ => rfl
  | _ => cases type <;> rfl

/-- A field takes the value of a document if it accepts that value. -/
theorem taken_eq_ok_iff :
    c.taken s (f, document) = .ok value ↔
      c.valueOf document f.type = .ok value ∧ f.type.accepts value = true := by
  rw [taken, bind_eq_ok]
  constructor
  · rintro ⟨given, reads, h⟩
    split at h
    · next accepted =>
      cases h
      exact ⟨reads, accepted⟩
    · cases h
  · rintro ⟨reads, accepted⟩
    exact ⟨value, reads, if_pos accepted⟩

/-- An instance is filled by gathering what its fields are told. -/
theorem fill_offers_eq_gather (s : Schema) (entries : List (String × Json)) :
    s.fill (c.offers entries) =
      gather Record.set (fun told ↦ told.1.name) (c.taken s) s.blank (s.told entries) := by
  rw [Schema.fill, Schema.told, gather, List.foldlM_filterMap]
  congr 1
  funext record f
  rw [Schema.fillField, offers_eq_mapEntries, Table.find?_mapEntries]
  cases Table.find? entries f.name with
  | none => rfl
  | some document =>
    simp only [Option.map_some, taken, bind_assoc]
    change c.valueOf document f.type >>= _ = _
    congr 1
    funext value
    split <;> rfl

/-- Fields that are given the same are filled the same. -/
theorem fill_offers_congr {entries' : List (String × Json)}
    (same : ∀ f ∈ s.fields, (Table.find? entries f.name).map (c.valueOf · f.type) =
      (Table.find? entries' f.name).map (c.valueOf · f.type)) :
    s.fill (c.offers entries) = s.fill (c.offers entries') := by
  have step (f : FieldDef) (declared : f ∈ s.fields) (record : Record) :
      s.fillField (c.offers entries) record f = s.fillField (c.offers entries') record f := by
    have given := same f declared
    simp only [Schema.fillField, offers_eq_mapEntries, Table.find?_mapEntries]
    cases told : Table.find? entries f.name with
    | none =>
      rw [told, Option.map_none, eq_comm, Option.map_eq_none_iff] at given
      rw [given]
    | some document =>
      rw [told, Option.map_some, eq_comm, Option.map_eq_some_iff] at given
      obtain ⟨document', told', given⟩ := given
      simp only [told', Option.map_some]
      change (c.valueOf document f.type >>= _) = (c.valueOf document' f.type >>= _)
      rw [given]
  rw [Schema.fill, Schema.fill]
  generalize s.blank = record
  generalize s.fields = fields at step
  induction fields generalizing record with
  | nil => rfl
  | cons f rest ih =>
    rw [List.foldlM_cons, List.foldlM_cons, step f List.mem_cons_self]
    congr 1
    funext after
    exact ih after fun g declared ↦ step g (List.mem_cons_of_mem f declared)

/-- What it takes to read a record: an object, and a schema that is filled by it. -/
theorem read_eq_ok_iff :
    c.read document name = .ok record ↔
      ∃ entries s, document = .object entries ∧ c.find? name = some s ∧
        s.fill (c.offers entries) = .ok record := by
  cases document with
  | object entries =>
    rw [read]
    cases c.find? name <;> simp
  | _ => simp [read]

/-- An object is read exactly when each declared field that it has an entry for accepts the value
that it is given. -/
theorem exists_read_object_iff :
    (∃ record, c.read (.object entries) name = .ok record) ↔
      ∃ s, c.find? name = some s ∧ ∀ f ∈ s.fields, ∀ document,
        Table.find? entries f.name = some document →
          ∃ value, c.valueOf document f.type = .ok value ∧ f.type.accepts value = true := by
  have filled (s : Schema) : (∃ record, s.fill (c.offers entries) = .ok record) ↔
      ∀ f ∈ s.fields, ∀ document, Table.find? entries f.name = some document →
        ∃ value, c.valueOf document f.type = .ok value ∧ f.type.accepts value = true := by
    rw [fill_offers_eq_gather, gather_isOk_iff]
    constructor
    · intro h f declared document found
      obtain ⟨value, takes⟩ := h (f, document) (Schema.mem_told.mpr ⟨declared, found⟩)
      exact ⟨value, taken_eq_ok_iff.mp takes⟩
    · rintro h ⟨f, document⟩ member
      obtain ⟨declared, found⟩ := Schema.mem_told.mp member
      obtain ⟨value, takes⟩ := h f declared document found
      exact ⟨value, taken_eq_ok_iff.mpr takes⟩
  simp only [read_eq_ok_iff, Json.object.injEq, ← filled]
  constructor
  · rintro ⟨record, _, s, rfl, found, h⟩
    exact ⟨s, found, record, h⟩
  · rintro ⟨s, found, record, h⟩
    exact ⟨record, entries, s, rfl, found, h⟩

/-- A record that was read holds under each declared field what the field was given for its entry,
and is as it was without one. -/
theorem get?_of_read (distinct : (s.fields.map FieldDef.name).Nodup) (found : c.find? name = some s)
    (h : c.read (.object entries) name = .ok record) (declared : f ∈ s.fields) :
    match Table.find? entries f.name with
    | some document => ∃ value, c.valueOf document f.type = .ok value ∧
        f.type.accepts value = true ∧ record.get? f.name = some value
    | none => record.get? f.name = s.blank.get? f.name := by
  obtain ⟨_, s', same, found', h⟩ := read_eq_ok_iff.mp h
  cases same
  cases found.symm.trans found'
  rw [fill_offers_eq_gather] at h
  have held := find?_gather Record.get?_set h f.name
  rw [Schema.lastOf_told distinct declared] at held
  cases told : Table.find? entries f.name with
  | none =>
    rw [told] at held
    exact held
  | some document =>
    rw [told] at held
    obtain ⟨value, takes, holds⟩ := held
    obtain ⟨reads, accepted⟩ := taken_eq_ok_iff.mp takes
    exact ⟨value, reads, accepted, holds⟩

end Catalog

end Fieldwise
