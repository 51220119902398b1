import Fieldwise.Proofs.Reading
import Fieldwise.Proofs.WellFormed

/-!
# Documents that fit

Reading takes exactly the documents that fit a schema, and what it makes of one is settled: an
instance of the schema that holds nothing where the document has no entry, a record where an object
meets a record type, and the plain value everywhere else. What a document says beyond the declared
fields, at any depth where it is read as a record, has no bearing on it. Record types may refer to
each other in cycles, since every record that is read belongs to an object within the document.
-/

namespace Fieldwise

open Outcome

namespace Catalog

mutual

/-- A document fits a registered schema: it is an object, and what it has for a declared field fits
the type of the field. -/
inductive Fits (c : Catalog) : Json → String → Prop
  | object {entries : List (String × Json)} {name : String} {s : Schema}
      (found : c.find? name = some s)
      (fields : ∀ f ∈ s.fields, ∀ document, Table.find? entries f.name = some document →
        FitsType c document f.type) : Fits c (.object entries) name

/-- A document fits a type: under a record type an object fits the schema of that name, and anywhere
else the plain value of the document is accepted. -/
inductive FitsType (c : Catalog) : Json → Ty → Prop
  | record {entries : List (String × Json)} {name : String}
      (inner : Fits c (.object entries) name) : FitsType c (.object entries) (.record name)
  | plain {document : Json} {type : Ty}
      (other : ∀ entries name, document = .object entries → type ≠ .record name)
      (accepted : type.accepts (Value.ofJson document) = true) : FitsType c document type

end

mutual

/-- A record is what a document says of a registered schema: an instance, with its fields in order
of declaration and with values that they accept, which holds nothing in the fields that the document
has no entry for, and in the others what their entries say. -/
inductive ReadsAs (c : Catalog) : Json → String → Record → Prop
  | object {entries : List (String × Json)} {name : String} {s : Schema} {record : Record}
      (found : c.find? name = some s) (own : s.HasInstance record)
      (missing : ∀ f ∈ s.fields, Table.find? entries f.name = none →
        record.get? f.name = some .null)
      (given : ∀ f ∈ s.fields, ∀ document value, Table.find? entries f.name = some document →
        record.get? f.name = some value → GivesValue c document f.type value) :
      ReadsAs c (.object entries) name record

/-- A value is what a document says of a field of some type: under a record type an object says a
record, and anywhere else a document says its plain value. -/
inductive GivesValue (c : Catalog) : Json → Ty → Value → Prop
  | record {entries : List (String × Json)} {name : String} {made : Record}
      (inner : ReadsAs c (.object entries) name made) :
      GivesValue c (.object entries) (.record name) made.toValue
  | plain {document : Json} {type : Ty}
      (other : ∀ entries name, document = .object entries → type ≠ .record name) :
      GivesValue c document type (Value.ofJson document)

end

/-- A record is an instance of its schema through and through: each field of record type holds
nothing, or a record of the type's schema that is such an instance itself. -/
inductive WellTyped (c : Catalog) : Record → Prop
  | intro {record : Record} {s : Schema} (found : c.find? record.schema = some s)
      (own : s.HasInstance record)
      (records : ∀ f ∈ s.fields, ∀ name, f.type = .record name → record.get? f.name = some .null ∨
        ∃ inner : Record, record.get? f.name = some inner.toValue ∧ inner.schema = name)
      (held : ∀ f ∈ s.fields, ∀ name, f.type = .record name → ∀ inner : Record,
        record.get? f.name = some inner.toValue → WellTyped c inner) : WellTyped c record

mutual

/-- Two documents tell a schema the same: they are one, or objects that tell each declared field the
same, whatever else they have. -/
inductive TellSame (c : Catalog) : String → Json → Json → Prop
  | refl (name : String) (document : Json) : TellSame c name document document
  | objects {name : String} {entries entries' : List (String × Json)}
      (fields : ∀ s, c.find? name = some s → ∀ f ∈ s.fields,
        TellFieldSame c f.type (Table.find? entries f.name) (Table.find? entries' f.name)) :
      TellSame c name (.object entries) (.object entries')

/-- Two entries tell a field of some type the same: they are one, or objects that tell the schema of
a record type the same. -/
inductive TellFieldSame (c : Catalog) : Ty → Option Json → Option Json → Prop
  | refl (type : Ty) (said? : Option Json) : TellFieldSame c type said? said?
  | records {name : String} {entries entries' : List (String × Json)}
      (inner : TellSame c name (.object entries) (.object entries')) :
      TellFieldSame c (.record name) (some (.object entries)) (some (.object entries'))

end

variable {c : Catalog} {document : Json} {name : String} {record : Record} {type : Ty}
  {value : Value}

-- The records inside are left to the induction on documents.
private theorem exists_valueOf_iff
    (inner : ∀ entries name, document = .object entries →
      ((∃ record, c.read (.object entries) name = .ok record) ↔ c.Fits (.object entries) name)) :
    (∃ value, c.valueOf document type = .ok value ∧ type.accepts value = true) ↔
      c.FitsType document type := by
  rcases object_record_or document type with ⟨entries, name, rfl, rfl⟩ | other
  · have fits : c.FitsType (.object entries) (.record name) ↔ c.Fits (.object entries) name := by
      refine ⟨fun h ↦ ?_, .record⟩
      cases h with
      | record inner => exact inner
      | plain other => exact absurd rfl (other entries name rfl)
    rw [fits, ← inner entries name rfl, valueOf_object_record]
    simp only [map_eq_ok]
    constructor
    · rintro ⟨value, ⟨record, run, -⟩, -⟩
      exact ⟨record, run⟩
    · rintro ⟨record, run⟩
      obtain ⟨_, s, _, found, filled⟩ := read_eq_ok_iff.mp run
      refine ⟨record.toValue, ⟨record, run, rfl⟩,
        Ty.accepts_record_iff.mpr (.inr ⟨record, rfl, ?_⟩)⟩
      exact (Schema.schema_fill filled).trans (name_of_find? found)
  · rw [valueOf_of_other other]
    constructor
    · rintro ⟨value, h, accepted⟩
      cases h
      exact .plain other accepted
    · intro h
      cases h with
      | record => exact absurd rfl (other _ _ rfl)
      | plain _ accepted => exact ⟨_, rfl, accepted⟩

/-- A document is read exactly when it fits. -/
theorem exists_read_iff_fits :
    (∃ record, c.read document name = .ok record) ↔ c.Fits document name := by
  induction document using Json.entry_induction generalizing name with
  | step document ih =>
    cases document with
    | object entries =>
      have fields (s : Schema) : (∀ f ∈ s.fields, ∀ inner,
          Table.find? entries f.name = some inner →
            ∃ value, c.valueOf inner f.type = .ok value ∧ f.type.accepts value = true) ↔
          ∀ f ∈ s.fields, ∀ inner, Table.find? entries f.name = some inner →
            c.FitsType inner f.type := by
        refine forall₂_congr fun f _ ↦ forall₂_congr fun inner told ↦ ?_
        apply exists_valueOf_iff
        rintro entries' name' rfl
        exact ih entries f.name _ rfl told
      rw [exists_read_object_iff]
      simp only [fields]
      constructor
      · rintro ⟨s, found, fits⟩
        exact .object found fits
      · intro h
        cases h with
        | object found fits => exact ⟨_, found, fits⟩
    | _ =>
      constructor
      · rintro ⟨record, h⟩
        obtain ⟨_, _, object, -⟩ := read_eq_ok_iff.mp h
        cases object
      · intro h
        cases h

private theorem eq_of_hasInstance {s : Schema} {other : Record} (own : s.HasInstance record)
    (own' : s.HasInstance other) (distinct : (s.fields.map FieldDef.name).Nodup)
    (same : ∀ f ∈ s.fields, record.get? f.name = other.get? f.name) : record = other := by
  have named : record.schema = other.schema := own.schema.trans own'.schema.symm
  have fields : record.fields = other.fields := by
    have names : record.fields.names = s.fields.map FieldDef.name := own.names
    apply Table.eq_of_find?_eq (names ▸ distinct) (names.trans own'.names.symm)
    intro name listed
    rw [names] at listed
    obtain ⟨f, declared, rfl⟩ := List.mem_map.mp listed
    exact same f declared
  cases record
  cases other
  congr

/-- One level: an object is read as the instance that holds nothing in the fields that it has no
entry for, and in the others what they are given. -/
theorem read_object_eq_ok_iff (distinct : ∀ s ∈ c.schemas, (s.fields.map FieldDef.name).Nodup)
    {entries : List (String × Json)} :
    c.read (.object entries) name = .ok record ↔
      ∃ s, c.find? name = some s ∧ s.HasInstance record ∧ ∀ f ∈ s.fields,
        match Table.find? entries f.name with
        | none => record.get? f.name = some .null
        | some document => ∃ value, c.valueOf document f.type = .ok value ∧
            record.get? f.name = some value := by
  have held {s : Schema} {made : Record} (found : c.find? name = some s)
      (h : c.read (.object entries) name = .ok made) (f : FieldDef) (declared : f ∈ s.fields) :
      match Table.find? entries f.name with
        | none => made.get? f.name = some .null
        | some document => ∃ value, c.valueOf document f.type = .ok value ∧
            made.get? f.name = some value := by
    have holds := get?_of_read (distinct s (List.mem_of_find?_eq_some found)) found h declared
    cases told : Table.find? entries f.name with
    | none =>
      rw [told] at holds
      rwa [Schema.get?_blank, if_pos (List.mem_map_of_mem declared)] at holds
    | some document =>
      rw [told] at holds
      obtain ⟨value, reads, -, holds⟩ := holds
      exact ⟨value, reads, holds⟩
  have own {s : Schema} {made : Record} (found : c.find? name = some s)
      (h : c.read (.object entries) name = .ok made) : s.HasInstance made := by
    obtain ⟨_, s', object, found', filled⟩ := read_eq_ok_iff.mp h
    cases object
    cases found.symm.trans found'
    have distinct := distinct s (List.mem_of_find?_eq_some found)
    apply Schema.fill_keeps (P := s.HasInstance) (Schema.hasInstance_blank distinct) _ filled
    intro f declared before offer value kept _ _ accepted
    exact kept.set distinct declared accepted
  constructor
  · intro h
    obtain ⟨_, s, object, found, -⟩ := read_eq_ok_iff.mp h
    exact ⟨s, found, own found h, held found h⟩
  · rintro ⟨s, found, own', held'⟩
    obtain ⟨made, h⟩ : ∃ made, c.read (.object entries) name = .ok made := by
      refine exists_read_object_iff.mpr ⟨s, found, fun f declared document told ↦ ?_⟩
      obtain ⟨value, holds, accepted⟩ := own'.filled f declared
      have given := held' f declared
      rw [told] at given
      obtain ⟨value', reads, holds'⟩ := given
      cases holds.symm.trans holds'
      exact ⟨value, reads, accepted⟩
    rw [h, Except.ok.injEq]
    apply eq_of_hasInstance (own found h) own' (distinct s (List.mem_of_find?_eq_some found))
    intro f declared
    have made := held found h f declared
    have given := held' f declared
    cases told : Table.find? entries f.name with
    | none =>
      rw [told] at made given
      exact made.trans given.symm
    | some document =>
      rw [told] at made given
      obtain ⟨value, reads, holds⟩ := made
      obtain ⟨value', reads', holds'⟩ := given
      cases reads.symm.trans reads'
      exact holds.trans holds'.symm

-- The records inside are left to the induction on documents.
private theorem valueOf_eq_ok_iff
    (inner : ∀ entries name, document = .object entries → ∀ record,
      c.read (.object entries) name = .ok record ↔ c.ReadsAs (.object entries) name record) :
    c.valueOf document type = .ok value ↔ c.GivesValue document type value := by
  rcases object_record_or document type with ⟨entries, name, rfl, rfl⟩ | other
  · rw [valueOf_object_record, map_eq_ok]
    constructor
    · rintro ⟨record, run, rfl⟩
      exact .record ((inner entries name rfl record).mp run)
    · intro h
      cases h with
      | record said => exact ⟨_, (inner entries name rfl _).mpr said, rfl⟩
      | plain other => exact absurd rfl (other entries name rfl)
  · rw [valueOf_of_other other]
    constructor
    · intro h
      cases h
      exact .plain other
    · intro h
      cases h with
      | record => exact absurd rfl (other _ _ rfl)
      | plain => rfl

/-- A document is read as what it says. -/
theorem read_eq_ok_iff_readsAs (distinct : ∀ s ∈ c.schemas, (s.fields.map FieldDef.name).Nodup) :
    c.read document name = .ok record ↔ c.ReadsAs document name record := by
  induction document using Json.entry_induction generalizing name record with
  | step document ih =>
    cases document with
    | object entries =>
      rw [read_object_eq_ok_iff distinct]
      have said (f : FieldDef) (inner : Json) (told : Table.find? entries f.name = some inner)
          (value : Value) :
          c.valueOf inner f.type = .ok value ↔ c.GivesValue inner f.type value := by
        apply valueOf_eq_ok_iff
        rintro entries' name' rfl record
        exact ih entries f.name _ rfl told
      constructor
      · rintro ⟨s, found, own, held⟩
        refine .object found own ?_ ?_
        · intro f declared missing
          have holds := held f declared
          rwa [missing] at holds
        · intro f declared inner value told holds
          have given := held f declared
          rw [told] at given
          obtain ⟨value', reads, holds'⟩ := given
          cases holds.symm.trans holds'
          exact (said f inner told value).mp reads
      · intro h
        cases h with
        | object found own missing given =>
          refine ⟨_, found, own, fun f declared ↦ ?_⟩
          cases told : Table.find? entries f.name with
          | none => exact missing f declared told
          | some inner =>
            obtain ⟨value, holds, -⟩ := own.filled f declared
            exact ⟨value, (said f inner told value).mpr (given f declared inner value told holds),
              holds⟩
    | _ =>
      constructor
      · intro h
        obtain ⟨_, _, object, -⟩ := read_eq_ok_iff.mp h
        cases object
      · intro h
        cases h

/-- What a document says is well typed. -/
theorem wellTyped_of_readsAs (h : c.ReadsAs document name record) :
    record.schema = name ∧ c.WellTyped record := by
  induction document using Json.entry_induction generalizing name record with
  | step document ih =>
    cases h with
    | @object entries _ s _ found own missing given =>
      have named : record.schema = name := own.schema.trans (name_of_find? found)
      -- a record in a field of record type was said by an object, by way of the type's schema
      have held {f : FieldDef} (declared : f ∈ s.fields) {name' : String}
          (type : f.type = .record name') :
          record.get? f.name = some .null ∨ ∃ inner : Record,
            record.get? f.name = some inner.toValue ∧ inner.schema = name' ∧
              c.WellTyped inner := by
        cases told : Table.find? entries f.name with
        | none => exact .inl (missing f declared told)
        | some document =>
          obtain ⟨value, holds, accepted⟩ := own.filled f declared
          have said := given f declared document value told holds
          rw [type] at said accepted
          cases said with
          | record inner =>
            exact .inr ⟨_, holds, ih entries f.name _ rfl told inner⟩
          | plain other =>
            rcases Ty.accepts_record_iff.mp accepted with null | ⟨inner, plain, -⟩
            · exact .inl (null ▸ holds)
            · exact absurd plain (Value.ofJson_ne_toValue document inner)
      refine ⟨named, .intro (named ▸ found) own ?_ ?_⟩
      · intro f declared name' type
        exact (held declared type).imp_right fun ⟨inner, holds, named, _⟩ ↦ ⟨inner, holds, named⟩
      · intro f declared name' type inner holds
        rcases held declared type with nothing | ⟨other, holds', -, wellTyped⟩
        · cases holds.symm.trans nothing
        · obtain rfl : inner = other := by
            simpa using congrArg (·.bind Value.record?) (holds.symm.trans holds')
          exact wellTyped

/-- Documents that tell a schema the same are read the same. -/
theorem read_eq_of_tellSame {other : Json} (same : c.TellSame name document other) :
    c.read document name = c.read other name := by
  induction document using Json.entry_induction generalizing name other with
  | step document ih =>
    cases same with
    | refl => rfl
    | @objects _ entries entries' fields =>
      rw [read, read]
      cases found : c.find? name with
      | none => rfl
      | some s =>
        apply fill_offers_congr
        intro f declared
        have same := fields s found f declared
        generalize type : f.type = t at same
        generalize told : Table.find? entries f.name = said? at same ⊢
        generalize told' : Table.find? entries' f.name = said'? at same ⊢
        cases same with
        | refl => rfl
        | records inner =>
          simp only [Option.map_some, valueOf_object_record, ih entries f.name _ rfl told inner]

/-- With distinct field names in every schema, exactly the documents that fit are read. What is read
is what the document says, an instance of the named schema through and through, and it is the same
for any document that tells the schema the same. -/
theorem reads_exactly_fitting (c : Catalog)
    (distinct : ∀ s ∈ c.schemas, (s.fields.map FieldDef.name).Nodup) (document : Json)
    (name : String) :
    ((∃ record, c.read document name = .ok record) ↔ c.Fits document name) ∧
      (∀ record, c.read document name = .ok record ↔ c.ReadsAs document name record) ∧
      (∀ record, c.read document name = .ok record →
        record.schema = name ∧ c.WellTyped record) ∧
      ∀ other, c.TellSame name document other → c.read document name = c.read other name := by
  refine ⟨exists_read_iff_fits, fun record ↦ read_eq_ok_iff_readsAs distinct, ?_, ?_⟩
  · intro record reads
    exact wellTyped_of_readsAs ((read_eq_ok_iff_readsAs distinct).mp reads)
  · exact fun other ↦ read_eq_of_tellSame

end Catalog

namespace Staff

/-- A person with a boss, as a document. -/
def adaDocument : Json :=
  .object [("age", .number (.integer 36)),
    ("boss", .object [("age", .number (.integer 50)), ("name", .string "Grace")]),
    ("name", .string "Ada")]

/-- The same person, where both rooms are told as well. -/
def adaInRoom : Json :=
  .object [("age", .number (.integer 36)),
    ("boss", .object [("age", .number (.integer 50)), ("name", .string "Grace"),
      ("room", .number (.integer 7))]),
    ("name", .string "Ada"), ("room", .string "next door")]

private theorem tellSame_person {entries entries' : List (String × Json)}
    (name : Table.find? entries "name" = Table.find? entries' "name")
    (age : Table.find? entries "age" = Table.find? entries' "age")
    (boss : catalog.TellFieldSame (.record "Person") (Table.find? entries "boss")
      (Table.find? entries' "boss")) :
    catalog.TellSame "Person" (.object entries) (.object entries') := by
  apply Catalog.TellSame.objects
  intro s found f declared
  obtain rfl : person = s := Option.some.inj (find?_person.symm.trans found)
  obtain ⟨p, member, rfl⟩ := List.mem_map.mp (person_madeOf.fields ▸ declared)
  simp only [properties, List.mem_cons, List.not_mem_nil, or_false] at member
  rcases member with rfl | rfl | rfl
  · exact name ▸ .refl _ _
  · exact age ▸ .refl _ _
  · exact boss

private theorem tellSame_adaInRoom : catalog.TellSame "Person" adaDocument adaInRoom :=
  tellSame_person rfl rfl (.records (tellSame_person rfl rfl (.refl _ _)))

private theorem read_adaDocument : catalog.read adaDocument "Person" = .ok ada := by
  cbv

/-- A person with a boss is read from the document, and with the rooms just the same. -/
theorem reads_exactly_fitting_ada :
    (∀ s ∈ catalog.schemas, (s.fields.map FieldDef.name).Nodup) ∧
      catalog.TellSame "Person" adaDocument adaInRoom ∧
      catalog.read adaInRoom "Person" = .ok ada ∧ catalog.Fits adaDocument "Person" ∧
      catalog.ReadsAs adaDocument "Person" ada ∧ catalog.WellTyped ada := by
  have distinct : ∀ s ∈ catalog.schemas, (s.fields.map FieldDef.name).Nodup := by
    decide +kernel
  obtain ⟨fits, said, typed, same⟩ :=
    Catalog.reads_exactly_fitting catalog distinct adaDocument "Person"
  have again := same adaInRoom tellSame_adaInRoom
  exact ⟨distinct, tellSame_adaInRoom, again.symm.trans read_adaDocument,
    fits.mp ⟨ada, read_adaDocument⟩, (said ada).mp read_adaDocument,
    (typed ada read_adaDocument).2⟩

end Staff

end Fieldwise
