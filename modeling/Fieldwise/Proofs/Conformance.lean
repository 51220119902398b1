import Mathlib.Data.List.Induction
import Mathlib.Data.List.Nodup
import Fieldwise.Catalog.Reading
import Fieldwise.Proofs.Outcome

/-!
# Records that were read conform

A record conforms to the schemas of a catalog when each declared field of its schema is present and
holds a value of its type, and when the records that it holds conform. Reading a document gives
conforming records, since a field takes a record only from a reading of its own.
-/

namespace Fieldwise

open Outcome

/-- A record has every declared field, with a value that the field accepts. -/
def Schema.FilledBy (s : Schema) (record : Record) : Prop :=
  ∀ f ∈ s.fields, ∃ value, record.get? f.name = some value ∧ f.type.accepts value = true

namespace Catalog

/-- A record conforms to the schemas of a catalog. A name that is declared twice says nothing of
the field that it names. -/
inductive Conforms (c : Catalog) : Record → Prop
  | intro {record : Record} {s : Schema} (found : c.find? record.schema = some s)
      (filled : (s.fields.map FieldDef.name).Nodup → s.FilledBy record)
      (held : ∀ name (inner : Record), record.get? name = some inner.toValue → c.Conforms inner) :
      c.Conforms record

/-- What is offered by an object: values without records, and readings that conform. -/
def SoundOffer (c : Catalog) (offer : Offer) : Prop :=
  (∀ inner : Record, offer.value ≠ inner.toValue) ∧
    ∀ read, offer.asRecord = some read → ∀ name record, read name = .ok record →
      record.schema = name ∧ c.Conforms record

end Catalog

/-- A slot of any type takes the absent value. -/
@[simp] theorem Ty.accepts_null (type : Ty) : type.accepts .null = true := by
  cases type <;> rfl

/-- A slot of record type takes the records of its schema, and the absent value. -/
theorem Ty.accepts_record_iff {name : String} {value : Value} :
    (Ty.record name).accepts value = true ↔
      value = .null ∨ ∃ record : Record, value = record.toValue ∧ record.schema = name := by
  cases value with
  | record schema fields =>
    simp only [accepts, beq_iff_eq, reduceCtorEq, false_or]
    constructor
    · intro same
      exact ⟨⟨schema, fields⟩, rfl, same⟩
    · rintro ⟨record, held, same⟩
      cases held
      exact same
  | null => simp
  | _ => simp [accepts, Record.toValue]

/-- The value of a document is no record. -/
theorem Value.ofJson_ne_toValue (document : Json) (record : Record) :
    ofJson document ≠ record.toValue := by
  cases document with
  | number n => cases n <;> nofun
  | _ => nofun

/-- What a sound offer gives to a field is no record, or one that conforms. -/
theorem Catalog.SoundOffer.conforms_of_valueFor {c : Catalog} {offer : Offer} {type : Ty}
    {inner : Record} (sound : c.SoundOffer offer)
    (h : offer.valueFor type = .ok inner.toValue) : c.Conforms inner := by
  unfold Offer.valueFor at h
  split at h
  · next name read given =>
    cases run : read name with
    | error e => simp [run, Except.map] at h
    | ok record =>
      rw [run] at h
      have same : record = inner := by
        have heq : record.toValue = inner.toValue := Except.ok.inj h
        rw [← Value.record?_eq_some_iff, Value.record?_toValue] at heq
        exact (Option.some.inj heq)
      exact same ▸ (sound.2 read given name record run).2
  · exact absurd (Except.ok.inj h) (sound.1 inner)

namespace Schema

variable {c : Catalog} {s : Schema} {offers : Table Offer} {record : Record}

/-- Every field of a blank instance is absent in value. -/
theorem get?_blank (s : Schema) (name : String) :
    s.blank.get? name = if name ∈ s.fields.map FieldDef.name then some .null else none := by
  rw [blank]
  induction s.fields using List.reverseRecOn with
  | nil => rfl
  | append_singleton rest f ih =>
    rw [List.foldl_append]
    by_cases h : f.name = name
    · simp [h]
    · have h' : ¬ name = f.name := fun e ↦ h e.symm
      simpa [h, h'] using ih

/-- A blank instance is one of its schema. -/
theorem schema_blank (s : Schema) : s.blank.schema = s.name := by
  rw [blank]
  induction s.fields using List.reverseRecOn with
  | nil => rfl
  | append_singleton rest f ih =>
    rw [List.foldl_append]
    exact ih

/-- A field stays as it is, or takes an accepted value of what is offered to it. -/
theorem fillField_eq_ok_iff {f : FieldDef} {before after : Record} :
    s.fillField offers before f = .ok after ↔
      (offers.find? f.name = none ∧ after = before) ∨
        ∃ offer value, offers.find? f.name = some offer ∧ offer.valueFor f.type = .ok value ∧
          f.type.accepts value = true ∧ after = before.set f.name value := by
  rw [fillField]
  cases offers.find? f.name with
  | none => simp [@eq_comm _ before]
  | some offer =>
    simp only [bind_eq_ok, reduceCtorEq, false_and, false_or, Option.some.injEq]
    constructor
    · rintro ⟨value, given, h⟩
      split at h
      · next accepted => exact ⟨offer, value, rfl, given, accepted, (Except.ok.inj h).symm⟩
      · cases h
    · rintro ⟨_, value, rfl, given, accepted, rfl⟩
      exact ⟨value, given, if_pos accepted⟩

/-- What holds of the blank instance, and still holds whenever a field has taken an accepted value
of what is offered to it, holds of the filled instance. -/
theorem fill_keeps {P : Record → Prop} (start : P s.blank)
    (step : ∀ f ∈ s.fields, ∀ before offer value, P before → offers.find? f.name = some offer →
      offer.valueFor f.type = .ok value → f.type.accepts value = true →
        P (before.set f.name value))
    (h : s.fill offers = .ok record) : P record := by
  apply foldlM_keeps (P := P) _ start h
  intro f member before after kept run
  rcases fillField_eq_ok_iff.mp run with ⟨-, rfl⟩ | ⟨offer, value, found, given, accepted, rfl⟩
  · exact kept
  · exact step f member before offer value kept found given accepted

/-- Filling keeps the schema of the instance. -/
theorem schema_fill (h : s.fill offers = .ok record) : record.schema = s.name := by
  apply fill_keeps (P := fun r ↦ r.schema = s.name) s.schema_blank _ h
  intro f _ before offer value kept _ _ _
  exact kept

/-- A filled instance has every declared field, if their names are distinct. -/
theorem filledBy_fill (distinct : (s.fields.map FieldDef.name).Nodup)
    (h : s.fill offers = .ok record) : s.FilledBy record := by
  apply fill_keeps (P := s.FilledBy) _ _ h
  · intro f member
    refine ⟨.null, ?_, f.type.accepts_null⟩
    rw [get?_blank, if_pos (List.mem_map_of_mem member)]
  · intro f member before offer value kept _ _ accepted g other
    rw [Record.get?_set]
    by_cases same : f.name = g.name
    · obtain rfl : f = g := List.inj_on_of_nodup_map distinct member other same
      exact ⟨value, if_pos rfl, accepted⟩
    · rw [if_neg same]
      exact kept g other

/-- The records that a filled instance holds come from sound offers. -/
theorem conforms_of_get?_fill (sound : ∀ key offer, offers.find? key = some offer →
    c.SoundOffer offer) (h : s.fill offers = .ok record) :
    ∀ name (inner : Record), record.get? name = some inner.toValue → c.Conforms inner := by
  apply fill_keeps
    (P := fun r ↦ ∀ name (inner : Record), r.get? name = some inner.toValue → c.Conforms inner)
    _ _ h
  · intro name inner held
    rw [get?_blank] at held
    split at held <;> cases held
  · intro f _ before offer value kept found given _ name inner held
    rw [Record.get?_set] at held
    split at held
    · cases held
      exact (sound f.name offer found).conforms_of_valueFor given
    · exact kept name inner held

end Schema

namespace Catalog

variable {c : Catalog}

mutual

/-- A record that was read from a document is of the schema that it was read by, and conforms. -/
theorem conforms_of_read (document : Json) (name : String) (record : Record)
    (h : c.read document name = .ok record) : record.schema = name ∧ c.Conforms record := by
  cases document with
  | object entries =>
    rw [read] at h
    cases found : c.find? name with
    | none => simp [found] at h
    | some s =>
      simp only [found] at h
      have schema : record.schema = name := (s.schema_fill h).trans (name_of_find? found)
      refine ⟨schema, .intro (schema ▸ found) (fun distinct ↦ s.filledBy_fill distinct h) ?_⟩
      exact s.conforms_of_get?_fill (soundOffer_of_offers entries) h
  | _ => cases h

/-- What an object offers is sound. -/
theorem soundOffer_of_offers (entries : List (String × Json)) (key : String) (offer : Offer)
    (h : (c.offers entries).find? key = some offer) : c.SoundOffer offer := by
  cases entries with
  | nil => cases h
  | cons entry rest =>
    obtain ⟨other, document⟩ := entry
    unfold offers at h
    rw [Table.find?] at h
    split at h
    · cases h
      refine ⟨Value.ofJson_ne_toValue document, ?_⟩
      intro read given name record run
      cases document with
      | object entries =>
        cases given
        exact conforms_of_read (.object entries) name record run
      | _ => cases given
    · exact soundOffer_of_offers rest key offer h

end

end Catalog

end Fieldwise
