import Fieldwise.Value.Document
import Fieldwise.Proofs.Rounding
import Fieldwise.Proofs.Sorting

/-!
# What a document keeps of a value

A document says nothing of the schema of a record and has no number that is not finite. Read back,
it gives the value with every record replaced by the map of its fields and every such number by the
absent value, at every depth; a second trip changes nothing more. In the other direction a document
comes back as it was if its numbers are whole numbers of the signed range or finite decimals; whole
numbers beyond that range become decimals.
-/

namespace Fieldwise

namespace Json

/-- A whole number of the signed range or a finite decimal. -/
def Number.isExact : Number → Bool
  | .integer _ => true
  | .large _ => false
  | .decimal d => d.isFinite

/-- A number that is neither infinite nor undefined. -/
def Number.isFinite : Number → Bool
  | .integer _ | .large _ => true
  | .decimal d => d.isFinite

mutual

/-- The numbers of a document, at every depth. -/
def numbers : Json → List Number
  | .null | .boolean _ | .string _ => []
  | .number n => [n]
  | .array items => numbersOfItems items
  | .object entries => numbersOfEntries entries

/-- The numbers of array items. -/
def numbersOfItems : List Json → List Number
  | [] => []
  | item :: rest => numbers item ++ numbersOfItems rest

/-- The numbers of object entries. -/
def numbersOfEntries : List (String × Json) → List Number
  | [] => []
  | (_, value) :: rest => numbers value ++ numbersOfEntries rest

end

/-- The numbers of a list are those of its items. -/
theorem numbersOfItems_eq_flatMap (items : List Json) :
    numbersOfItems items = items.flatMap numbers := by
  induction items with
  | nil => rfl
  | cons item rest ih => simp [numbersOfItems, ih]

/-- The numbers of an object are those of its entries. -/
theorem numbersOfEntries_eq_flatMap (entries : List (String × Json)) :
    numbersOfEntries entries = entries.flatMap fun entry ↦ numbers entry.2 := by
  induction entries with
  | nil => rfl
  | cons entry rest ih => simp [numbersOfEntries, ih]

/-- What holds of a document whenever it holds of its items and of the values of its entries holds
of all documents. -/
theorem nested_induction {P : Json → Prop} (null : P .null) (boolean : ∀ b, P (.boolean b))
    (number : ∀ n, P (.number n)) (string : ∀ s, P (.string s))
    (array : ∀ items, (∀ item ∈ items, P item) → P (.array items))
    (object : ∀ entries, (∀ entry ∈ entries, P entry.2) → P (.object entries))
    (document : Json) : P document :=
  match document with
  | .null => null
  | .boolean b => boolean b
  | .number n => number n
  | .string s => string s
  | .array items =>
    array items fun item member ↦ by
      have smaller := List.sizeOf_lt_of_mem member
      exact nested_induction null boolean number string array object item
  | .object entries =>
    object entries fun entry member ↦ by
      have smaller := List.sizeOf_lt_of_mem member
      exact nested_induction null boolean number string array object entry.2
termination_by sizeOf document
decreasing_by
  · simp only [Json.array.sizeOf_spec]
    omega
  · obtain ⟨key, value⟩ := entry
    simp only [Json.object.sizeOf_spec, Prod.mk.sizeOf_spec] at smaller ⊢
    omega

end Json

namespace Value

mutual

/-- A value without what no document tells: records are the maps of their fields, and decimals that
are not finite are absent. -/
def erase : Value → Value
  | null => null
  | boolean b => boolean b
  | integer i => integer i
  | decimal d => if d.isFinite then decimal d else null
  | string s => string s
  | list items => list (eraseItems items)
  | map entries => map (eraseEntries entries)
  | record _ fields => map (Table.sorted (eraseEntries fields))

/-- List items without what no document tells. -/
def eraseItems : List Value → List Value
  | [] => []
  | item :: rest => erase item :: eraseItems rest

/-- Entries without what no document tells. -/
def eraseEntries : List (String × Value) → List (String × Value)
  | [] => []
  | (key, value) :: rest => (key, erase value) :: eraseEntries rest

end

mutual

/-- A value without records and with finite decimals only, at every depth. -/
def isPlain : Value → Bool
  | null | boolean _ | integer _ | string _ => true
  | decimal d => d.isFinite
  | list items => arePlainItems items
  | map entries => arePlainEntries entries
  | record _ _ => false

/-- List items without records and with finite decimals only. -/
def arePlainItems : List Value → Bool
  | [] => true
  | item :: rest => isPlain item && arePlainItems rest

/-- Entries without records and with finite decimals only. -/
def arePlainEntries : List (String × Value) → Bool
  | [] => true
  | (_, value) :: rest => isPlain value && arePlainEntries rest

end

/-- Lists are erased item by item. -/
theorem eraseItems_eq_map (items : List Value) : eraseItems items = items.map erase := by
  induction items with
  | nil => rfl
  | cons item rest ih => simp [eraseItems, ih]

/-- Maps are erased entry by entry. -/
theorem eraseEntries_eq_mapEntries (entries : List (String × Value)) :
    eraseEntries entries = Table.mapEntries erase entries := by
  induction entries with
  | nil => rfl
  | cons entry rest ih => simp [eraseEntries, Table.mapEntries, ih]

/-- A list is plain when its items are. -/
theorem arePlainItems_iff {items : List Value} :
    arePlainItems items = true ↔ ∀ item ∈ items, item.isPlain = true := by
  induction items with
  | nil => simp [arePlainItems]
  | cons item rest ih => simp [arePlainItems, ih]

/-- A map is plain when its entries are. -/
theorem arePlainEntries_iff {entries : List (String × Value)} :
    arePlainEntries entries = true ↔ ∀ entry ∈ entries, entry.2.isPlain = true := by
  induction entries with
  | nil => simp [arePlainEntries]
  | cons entry rest ih => simp [arePlainEntries, ih]

/-- What holds of a value whenever it holds of its items, of the values of its entries and of its
fields holds of all values. -/
theorem nested_induction {P : Value → Prop} (null : P .null) (boolean : ∀ b, P (.boolean b))
    (integer : ∀ i, P (.integer i)) (decimal : ∀ d, P (.decimal d)) (string : ∀ s, P (.string s))
    (list : ∀ items, (∀ item ∈ items, P item) → P (.list items))
    (map : ∀ entries, (∀ entry ∈ entries, P entry.2) → P (.map entries))
    (record : ∀ schema fields, (∀ entry ∈ fields, P entry.2) → P (.record schema fields))
    (v : Value) : P v :=
  match v with
  | .null => null
  | .boolean b => boolean b
  | .integer i => integer i
  | .decimal d => decimal d
  | .string s => string s
  | .list items =>
    list items fun item member ↦ by
      have smaller := List.sizeOf_lt_of_mem member
      exact nested_induction null boolean integer decimal string list map record item
  | .map entries =>
    map entries fun entry member ↦ by
      have smaller := List.sizeOf_lt_of_mem member
      exact nested_induction null boolean integer decimal string list map record entry.2
  | .record schema fields =>
    record schema fields fun entry member ↦ by
      have smaller := List.sizeOf_lt_of_mem member
      exact nested_induction null boolean integer decimal string list map record entry.2
termination_by sizeOf v
decreasing_by
  · simp only [Value.list.sizeOf_spec]
    omega
  · obtain ⟨key, value⟩ := entry
    simp only [Value.map.sizeOf_spec, Prod.mk.sizeOf_spec] at smaller ⊢
    omega
  · obtain ⟨key, value⟩ := entry
    simp only [Value.record.sizeOf_spec, Prod.mk.sizeOf_spec] at smaller ⊢
    omega

/-- What is read back from the document of a value is the value without what no document tells. -/
theorem ofJson_toJson (v : Value) : ofJson (toJson v) = v.erase := by
  induction v using nested_induction with
  | null | boolean | integer | string => rfl
  | decimal d =>
    rw [toJson, erase]
    split
    · rfl
    · rfl
  | list items ih =>
    rw [toJson, ofJson, erase, toJsonItems_eq_map, ofJsonItems_eq_map, eraseItems_eq_map,
      List.map_map]
    exact congrArg list (List.map_congr_left ih)
  | map entries ih =>
    rw [toJson, ofJson, erase, toJsonEntries_eq_mapEntries, ofJsonEntries_eq_mapEntries,
      eraseEntries_eq_mapEntries, Table.mapEntries_mapEntries]
    exact congrArg map (Table.mapEntries_congr ih)
  | record schema fields ih =>
    rw [toJson, ofJson, erase, toJsonEntries_eq_mapEntries, ofJsonEntries_eq_mapEntries,
      eraseEntries_eq_mapEntries, ← Table.sorted_mapEntries, Table.mapEntries_mapEntries]
    exact congrArg (fun entries ↦ map (Table.sorted entries)) (Table.mapEntries_congr ih)

/-- The document of a value tells nothing of what is erased. -/
theorem toJson_erase (v : Value) : toJson v.erase = toJson v := by
  induction v using nested_induction with
  | null | boolean | integer | string => rfl
  | decimal d =>
    rw [erase]
    split
    · rfl
    · next infinite => rw [toJson, toJson, if_neg infinite]
  | list items ih =>
    rw [erase, toJson, toJson, eraseItems_eq_map, toJsonItems_eq_map, toJsonItems_eq_map,
      List.map_map]
    exact congrArg Json.array (List.map_congr_left ih)
  | map entries ih =>
    rw [erase, toJson, toJson, eraseEntries_eq_mapEntries, toJsonEntries_eq_mapEntries,
      toJsonEntries_eq_mapEntries, Table.mapEntries_mapEntries]
    exact congrArg Json.object (Table.mapEntries_congr ih)
  | record schema fields ih =>
    rw [erase, toJson, toJson, eraseEntries_eq_mapEntries, toJsonEntries_eq_mapEntries,
      toJsonEntries_eq_mapEntries, ← Table.sorted_mapEntries, Table.mapEntries_mapEntries]
    exact congrArg (fun entries ↦ Json.object (Table.sorted entries)) (Table.mapEntries_congr ih)

/-- Nothing of a plain value is erased. -/
theorem erase_of_isPlain (v : Value) (plain : v.isPlain = true) : v.erase = v := by
  induction v using nested_induction with
  | null | boolean | integer | string => rfl
  | decimal d => exact if_pos plain
  | list items ih =>
    rw [isPlain, arePlainItems_iff] at plain
    have same : items.map erase = items.map id :=
      List.map_congr_left fun item member ↦ ih item member (plain item member)
    rw [erase, eraseItems_eq_map, same, List.map_id]
  | map entries ih =>
    rw [isPlain, arePlainEntries_iff] at plain
    have same : Table.mapEntries erase entries = Table.mapEntries id entries :=
      Table.mapEntries_congr fun entry member ↦ ih entry member (plain entry member)
    rw [erase, eraseEntries_eq_mapEntries, same, Table.mapEntries_id]
  | record => cases plain

/-- What is left of a value is plain. -/
theorem isPlain_erase (v : Value) : v.erase.isPlain = true := by
  induction v using nested_induction with
  | null | boolean | integer | string => rfl
  | decimal d =>
    rw [erase]
    split
    · next finite => exact finite
    · rfl
  | list items ih =>
    rw [erase, isPlain, eraseItems_eq_map, arePlainItems_iff, List.forall_mem_map]
    exact ih
  | map entries ih =>
    rw [erase, isPlain, eraseEntries_eq_mapEntries, arePlainEntries_iff, Table.mapEntries,
      List.forall_mem_map]
    exact ih
  | record schema fields ih =>
    have plain : ∀ entry ∈ Table.mapEntries erase fields, entry.2.isPlain = true := by
      rw [Table.mapEntries, List.forall_mem_map]
      exact ih
    rw [erase, isPlain, eraseEntries_eq_mapEntries, arePlainEntries_iff]
    exact fun entry member ↦ plain entry (Table.mem_of_mem_sorted member)

/-- The value of a document with finite numbers is plain. -/
theorem isPlain_ofJson (document : Json)
    (finite : ∀ n ∈ document.numbers, n.isFinite = true) : (ofJson document).isPlain = true := by
  induction document using Json.nested_induction with
  | null | boolean | string => rfl
  | number n =>
    have finite : n.isFinite = true := finite n List.mem_cons_self
    cases n with
    | integer i => rfl
    | large i => exact (Decimal.ofInt_near i.toNat i.toNat_lt).1
    | decimal d => exact finite
  | array items ih =>
    rw [Json.numbers, Json.numbersOfItems_eq_flatMap] at finite
    rw [ofJson, isPlain, ofJsonItems_eq_map, arePlainItems_iff, List.forall_mem_map]
    intro item member
    exact ih item member fun n within ↦ finite n (List.mem_flatMap.mpr ⟨item, member, within⟩)
  | object entries ih =>
    rw [Json.numbers, Json.numbersOfEntries_eq_flatMap] at finite
    rw [ofJson, isPlain, ofJsonEntries_eq_mapEntries, arePlainEntries_iff, Table.mapEntries,
      List.forall_mem_map]
    intro entry member
    exact ih entry member fun n within ↦ finite n (List.mem_flatMap.mpr ⟨entry, member, within⟩)

/-- A document with exact numbers only is the document of its value. -/
theorem toJson_ofJson (document : Json)
    (exact : ∀ n ∈ document.numbers, n.isExact = true) : toJson (ofJson document) = document := by
  induction document using Json.nested_induction with
  | null | boolean | string => rfl
  | number n =>
    have exact : n.isExact = true := exact n List.mem_cons_self
    cases n with
    | integer i => rfl
    | large i => cases exact
    | decimal d => exact if_pos exact
  | array items ih =>
    rw [Json.numbers, Json.numbersOfItems_eq_flatMap] at exact
    have same : items.map (toJson ∘ ofJson) = items.map id :=
      List.map_congr_left fun item member ↦
        ih item member fun n within ↦ exact n (List.mem_flatMap.mpr ⟨item, member, within⟩)
    rw [ofJson, toJson, ofJsonItems_eq_map, toJsonItems_eq_map, List.map_map, same, List.map_id]
  | object entries ih =>
    rw [Json.numbers, Json.numbersOfEntries_eq_flatMap] at exact
    have same : Table.mapEntries (toJson ∘ ofJson) entries = Table.mapEntries id entries :=
      Table.mapEntries_congr fun entry member ↦
        ih entry member fun n within ↦ exact n (List.mem_flatMap.mpr ⟨entry, member, within⟩)
    rw [ofJson, toJson, ofJsonEntries_eq_mapEntries, toJsonEntries_eq_mapEntries,
      Table.mapEntries_mapEntries, same, Table.mapEntries_id]

/-- What is left of a record is the map of what is left of its fields. -/
theorem erase_record {schema : String} {fields : Table Value} (distinct : fields.names.Nodup) :
    ∃ entries : Table Value, (record schema fields).erase = map entries ∧ entries.Ascending ∧
      ∀ name, entries.find? name = (fields.find? name).map erase := by
  refine ⟨_, rfl, Table.ascending_sorted _, fun name ↦ ?_⟩
  rw [eraseEntries_eq_mapEntries, Table.sorted_mapEntries, Table.find?_mapEntries,
    Table.find?_sorted_of_nodup distinct]

/-- Values and documents are each other's inverse up to what no document tells. The value of a
value's document is the value with its records, at every depth, replaced by the maps of their
fields and its decimals that are not finite by the absent value; that is the value itself where it
is plain, and it has the same document. A document whose numbers are whole numbers of the signed
range and finite decimals is the document of its value. Whole numbers beyond that range become
finite decimals that miss them by no more than one part in `2 ^ 53`. -/
theorem json_inverse_up_to_erasure :
    (∀ v : Value, ofJson (toJson v) = v.erase ∧ v.erase.isPlain = true ∧
      toJson (ofJson (toJson v)) = toJson v) ∧
    (∀ (schema : String) (fields : Table Value), fields.names.Nodup →
      ∃ entries : Table Value, ofJson (toJson (record schema fields)) = map entries ∧
        entries.Ascending ∧ ∀ name, entries.find? name = (fields.find? name).map erase) ∧
    (∀ v : Value, v.isPlain = true → ofJson (toJson v) = v) ∧
    (∀ document : Json, (∀ n ∈ document.numbers, n.isExact = true) →
      toJson (ofJson document) = document) ∧
    ∀ n : UInt64, 2 ^ 63 ≤ n.toNat → ∃ d : Decimal, ofJson (.number (.large n)) = decimal d ∧
      d.isFinite = true ∧ |d.value - n.toNat| * 2 ^ 53 ≤ n.toNat := by
  refine ⟨fun v ↦ ⟨ofJson_toJson v, isPlain_erase v, ?_⟩, fun schema fields distinct ↦ ?_,
    fun v plain ↦ ?_, toJson_ofJson, fun n _ ↦ ?_⟩
  · rw [ofJson_toJson, toJson_erase]
  · rw [ofJson_toJson]
    exact erase_record distinct
  · rw [ofJson_toJson, erase_of_isPlain v plain]
  · exact ⟨.ofInt n.toNat, rfl, Decimal.ofInt_near n.toNat n.toNat_lt⟩

/-- A measurement: a whole level, the same level as a decimal, a level that is unknown, and the
place where it was taken. -/
def measurement : Record where
  schema := "Measurement"
  fields := [
    ("unit", .string "m"),
    ("levels", .list [.integer 1, .decimal ⟨0x3FF0000000000000⟩, .decimal .undefined]),
    ("place", .map [("gauge", .record "Gauge" [("name", .string "north"), ("id", .null)])])]

/-- The measurement as it is read back. -/
def measured : Value :=
  .map [
    ("levels", .list [.integer 1, .decimal ⟨0x3FF0000000000000⟩, .null]),
    ("place", .map [("gauge", .map [("id", .null), ("name", .string "north")])]),
    ("unit", .string "m")]

/-- A measurement loses its schemas and the unknown level, and then nothing more; the whole level
stays apart from the decimal one, and the first whole number beyond the signed range is kept as a
decimal. -/
theorem json_inverse_up_to_erasure_measurement :
    ofJson (toJson measurement.toValue) = measured ∧
      toJson measured = toJson measurement.toValue ∧ ofJson (toJson measured) = measured ∧
      (∃ entries : Table Value, ofJson (toJson measurement.toValue) = map entries ∧
        entries.find? "unit" = some (.string "m")) ∧
      toJson (ofJson (toJson measurement.toValue)) = toJson measurement.toValue ∧
      ∃ d : Decimal, ofJson (.number (.large 0x8000000000000000)) = decimal d ∧
        |d.value - 2 ^ 63| * 2 ^ 53 ≤ 2 ^ 63 := by
  obtain ⟨back, record, plain, exact, large⟩ := json_inverse_up_to_erasure
  have erased : measurement.toValue.erase = measured := rfl
  obtain ⟨read, -, again⟩ := back measurement.toValue
  rw [erased] at read
  obtain ⟨entries, found, -, holds⟩ := record measurement.schema measurement.fields (by decide)
  obtain ⟨d, becomes, -, near⟩ := large 0x8000000000000000 (by decide)
  refine ⟨read, read ▸ again, plain measured rfl, ⟨entries, found, ?_⟩,
    exact _ (by decide), d, becomes, ?_⟩
  · rw [holds]
    rfl
  · exact_mod_cast near

end Value

end Fieldwise
