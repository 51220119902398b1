import Fieldwise.Proofs.WellFormed

/-!
# The slots of a record

A record that starts blank keeps its schema and its field names in order, whatever is stored into
it and whichever setters are run on it, in whatever sequence. A change that is refused leaves the
record as it was; one that succeeds puts one value into one field. So each field holds the value of
the last change that succeeded in putting one there, and what came by a store is of the declared
type.
-/

namespace Fieldwise

/-- An attempt to change a record: a store into a field, or a call of a method as a writer, unless
its body is a mutator. -/
inductive Change where
  | store (field : String) (value : Value)
  | write (m : Method) (args : List Value) (plain : ∀ run, m.body ≠ .mutator run)

namespace Change

/-- The field that a change addresses, with the value that it is to hold. A setter puts its first
argument there, and nothing if it takes none. -/
def puts? : Change → Option (String × Value)
  | store field value => some (field, value)
  | write m args _ =>
    match m.body, args with
    | .setter field, value :: _ => some (field, value)
    | _, _ => none

/-- The record after a change was attempted by the rules of a schema, and whether it succeeded. -/
def attempt (s : Schema) (record : Record) : Change → Record × Except AccessError Unit
  | store field value => s.store record field value
  | write m args _ => m.assign record args

/-- How an attempted change may end. -/
inductive Ends (s : Schema) (record : Record) : Change → Record → Except AccessError Unit → Prop
  | refused (change : Change) (cause : AccessError) : Ends s record change record (.error cause)
  | stored {field : String} {value : Value} {f : FieldDef} (found : s.findField? field = some f)
      (isOpen : f.isPublic = true) (accepted : f.type.accepts value = true) :
      Ends s record (.store field value) (record.set field value) (.ok ())
  | set {m : Method} {plain : ∀ run, m.body ≠ .mutator run} {field : String} {value : Value}
      {rest : List Value} (sets : m.body = .setter field)
      (accepted : m.checkArgs (value :: rest) = .ok ()) (present : record.has field = true) :
      Ends s record (.write m (value :: rest) plain) (record.set field value) (.ok ())
  | idle {m : Method} {plain : ∀ run, m.body ≠ .mutator run} {field : String}
      (sets : m.body = .setter field) (accepted : m.checkArgs [] = .ok ())
      (present : record.has field = true) : Ends s record (.write m [] plain) record (.ok ())

/-- An attempted change ends in one of these ways. -/
theorem ends_attempt (s : Schema) (record : Record) (change : Change) :
    Ends s record change (change.attempt s record).1 (change.attempt s record).2 := by
  cases change with
  | store field value =>
    rw [attempt]
    rcases stores : s.store record field value with ⟨after, cause | ⟨⟩⟩
    · cases Schema.eq_of_store_error stores
      exact .refused _ cause
    · obtain ⟨f, found, isOpen, accepted, rfl⟩ := Schema.store_eq_ok_iff.mp stores
      exact .stored found isOpen accepted
  | write m args plain =>
    rw [attempt, Method.assign]
    split
    · next field sets =>
      split
      · next cause rejected => exact .refused _ cause
      · next accepted =>
        split
        · next present =>
          cases args with
          | nil => exact .idle sets accepted present
          | cons value rest => exact .set sets accepted present
        · exact .refused _ _
    · next run changes => exact absurd changes (plain run)
    · exact .refused _ _
    · exact .refused _ _
    · exact .refused _ _

/-- What a change has come to is one of the ways in which changes end. -/
theorem ends_of_attempt {s : Schema} {record after : Record} {change : Change}
    {outcome : Except AccessError Unit} (h : change.attempt s record = (after, outcome)) :
    Ends s record change after outcome := by
  have ends := ends_attempt s record change
  rwa [h] at ends

/-- A change that is refused leaves the record as it was. -/
theorem eq_of_refused {s : Schema} {record after : Record} {change : Change} {cause : AccessError}
    (h : change.attempt s record = (after, .error cause)) : after = record := by
  cases ends_of_attempt h
  rfl

/-- A change that succeeds puts its value into its field and touches no other; if it has none, it
touches nothing. -/
theorem eq_of_succeeded {s : Schema} {record after : Record} {change : Change}
    (h : change.attempt s record = (after, .ok ())) :
    (change.puts? = none ∧ after = record) ∨
      ∃ field value, change.puts? = some (field, value) ∧ after = record.set field value := by
  cases ends_of_attempt h with
  | stored found isOpen accepted => exact .inr ⟨_, _, rfl, rfl⟩
  | set sets accepted present => exact .inr ⟨_, _, by simp [puts?, sets], rfl⟩
  | idle sets accepted present => exact .inl ⟨by simp [puts?, sets], rfl⟩

/-- A writer without parameters changes nothing. -/
theorem eq_of_no_parameters {s : Schema} {record : Record} {m : Method} {args : List Value}
    {plain : ∀ run, m.body ≠ .mutator run} (none : m.params = []) :
    ((write m args plain).attempt s record).1 = record := by
  rcases run : (write m args plain).attempt s record with ⟨after, outcome⟩
  cases ends_of_attempt run with
  | refused => rfl
  | set sets accepted present => simp [Method.checkArgs, Method.arity, none] at accepted
  | idle => rfl

end Change

namespace Schema

variable {s : Schema}

/-- The field that is found for a name is declared and has that name. -/
theorem mem_of_findField? {name : String} {f : FieldDef} (found : s.findField? name = some f) :
    f ∈ s.fields ∧ f.name = name :=
  ⟨List.mem_of_find?_eq_some found, by simpa using List.find?_some found⟩

/-- A record has the slots of a schema: its name, and its fields in order. -/
structure HasSlots (s : Schema) (record : Record) : Prop where
  schema : record.schema = s.name
  names : record.names = s.fields.map FieldDef.name

/-- A change keeps the slots. -/
theorem HasSlots.attempt {record : Record} (h : s.HasSlots record) (change : Change) :
    s.HasSlots (change.attempt s record).1 := by
  have set {field : String} (present : field ∈ record.names) (value : Value) :
      s.HasSlots (record.set field value) :=
    ⟨h.schema, by rw [Record.names_set, if_pos present, h.names]⟩
  rcases run : change.attempt s record with ⟨after, outcome⟩
  cases Change.ends_of_attempt run with
  | refused => exact h
  | stored found isOpen accepted =>
    obtain ⟨declared, rfl⟩ := mem_of_findField? found
    exact set (h.names ▸ List.mem_map_of_mem declared) _
  | set sets accepted present => exact set (Table.mem_names_iff.mpr present) _
  | idle => exact h

/-- A change that a schema admits: a store of an accepted value into an open field, or a call of the
setter of a declared field with arguments that it accepts. -/
inductive Admits (s : Schema) : Change → Prop
  | store {f : FieldDef} (declared : f ∈ s.fields) (isOpen : f.isPublic = true) {value : Value}
      (accepted : f.type.accepts value = true) : s.Admits (.store f.name value)
  | write {f : FieldDef} (declared : f ∈ s.fields) {m : Method} (sets : m.body = .setter f.name)
      {args : List Value} (accepted : m.checkArgs args = .ok ())
      (plain : ∀ run, m.body ≠ .mutator run) : s.Admits (.write m args plain)

/-- Whether a change of a record with the slots of a schema succeeds does not depend on what they
hold: the schema decides. -/
theorem HasSlots.exists_attempt_iff (distinct : (s.fields.map FieldDef.name).Nodup)
    {record : Record} (h : s.HasSlots record) {change : Change} :
    (∃ after, change.attempt s record = (after, .ok ())) ↔ s.Admits change := by
  have present_iff (field : String) :
      record.has field = true ↔ ∃ f ∈ s.fields, f.name = field := by
    rw [Record.has, Table.has, ← Table.mem_names_iff, ← Record.names, h.names, List.mem_map]
  constructor
  · rintro ⟨after, succeeds⟩
    cases Change.ends_of_attempt succeeds with
    | stored found isOpen accepted =>
      obtain ⟨declared, rfl⟩ := mem_of_findField? found
      exact .store declared isOpen accepted
    | set sets accepted present | idle sets accepted present =>
      obtain ⟨f, declared, rfl⟩ := (present_iff _).mp present
      exact .write declared sets accepted _
  · intro admitted
    cases admitted with
    | @store f declared isOpen value accepted =>
      have found : s.findField? f.name = some f := find?_key_of_mem distinct declared
      refine ⟨record.set f.name value, ?_⟩
      rw [Change.attempt, store_eq_ok_iff.mpr ⟨f, found, isOpen, accepted, rfl⟩]
    | @write f declared m sets args accepted plain =>
      have present := (present_iff f.name).mpr ⟨f, declared, rfl⟩
      rw [Change.attempt, Method.assign, sets]
      simp only [accepted, present, if_true]
      cases args with
      | nil => exact ⟨_, rfl⟩
      | cons value rest => exact ⟨_, rfl⟩

/-- What a record becomes through changes that are attempted one after the other. -/
def changedFrom (s : Schema) (record : Record) (changes : List Change) : Record :=
  changes.foldl (fun record change ↦ (change.attempt s record).1) record

/-- What a blank record becomes through changes that are attempted one after the other. -/
def changed (s : Schema) (changes : List Change) : Record := s.changedFrom s.blank changes

/-- The changes that succeed when they are attempted one after the other. -/
def succeededFrom (s : Schema) (record : Record) : List Change → List Change
  | [] => []
  | change :: rest =>
    match change.attempt s record with
    | (after, .ok ()) => change :: s.succeededFrom after rest
    | (after, .error _) => s.succeededFrom after rest

/-- The change that was the last one to put a value into a field of a record that started blank. -/
def lastInto? (s : Schema) (changes : List Change) (field : String) : Option Change :=
  (s.succeededFrom s.blank changes).reverse.find? (·.puts?.map Prod.fst == some field)

/-- A change that comes last is attempted on what the others have left. -/
theorem changed_concat (changes : List Change) (change : Change) :
    s.changed (changes ++ [change]) = (change.attempt s (s.changed changes)).1 := by
  simp [changed, changedFrom]

/-- Later changes succeed by what the earlier ones have left. -/
theorem succeededFrom_append (record : Record) (earlier later : List Change) :
    s.succeededFrom record (earlier ++ later) =
      s.succeededFrom record earlier ++ s.succeededFrom (s.changedFrom record earlier) later := by
  induction earlier generalizing record with
  | nil => rfl
  | cons change rest ih =>
    rw [List.cons_append, succeededFrom, succeededFrom, changedFrom, List.foldl_cons, ← changedFrom]
    split
    · next after run => rw [ih, run, List.cons_append]
    · next after cause run => rw [ih, run]

/-- A last change that fails puts nothing into a field. -/
theorem lastInto?_concat_of_refused {changes : List Change} {change : Change} {after : Record}
    {cause : AccessError} (h : change.attempt s (s.changed changes) = (after, .error cause))
    (field : String) : s.lastInto? (changes ++ [change]) field = s.lastInto? changes field := by
  rw [lastInto?, succeededFrom_append, ← changed, succeededFrom, h]
  simp [succeededFrom, lastInto?]

/-- A last change that succeeds is the one that put a value into its field. -/
theorem lastInto?_concat_of_succeeded {changes : List Change} {change : Change} {after : Record}
    (h : change.attempt s (s.changed changes) = (after, .ok ())) (field : String) :
    s.lastInto? (changes ++ [change]) field =
      if change.puts?.map Prod.fst = some field then some change
      else s.lastInto? changes field := by
  rw [lastInto?, succeededFrom_append, ← changed, succeededFrom, h]
  simp only [succeededFrom, List.reverse_append, List.reverse_singleton, List.singleton_append,
    List.find?_cons, lastInto?]
  split
  · next into => rw [if_pos (by simpa using into)]
  · next into => rw [if_neg (by simpa using into)]

/-- What a blank record becomes has the slots of its schema. -/
theorem hasSlots_changed (distinct : (s.fields.map FieldDef.name).Nodup) (changes : List Change) :
    s.HasSlots (s.changed changes) := by
  induction changes using List.reverseRecOn with
  | nil => exact ⟨s.schema_blank, names_blank distinct⟩
  | append_singleton rest change ih =>
    rw [changed_concat]
    exact ih.attempt change

end Schema

/-- How a field comes to hold a value, by the last change that put one there. -/
inductive FieldDef.CameBy (f : FieldDef) : Value → Option Change → Prop
  | blank : f.CameBy .null none
  | stored {value : Value} (accepted : f.type.accepts value = true) :
      f.CameBy value (some (.store f.name value))
  | set {m : Method} {plain : ∀ run, m.body ≠ .mutator run} {value : Value} {rest : List Value}
      (sets : m.body = .setter f.name) (accepted : m.checkArgs (value :: rest) = .ok ()) :
      f.CameBy value (some (.write m (value :: rest) plain))

namespace Schema

variable {s : Schema}

/-- What a change that succeeds puts into a declared field comes by that change. -/
theorem cameBy_of_puts (distinct : (s.fields.map FieldDef.name).Nodup) {f : FieldDef}
    (declared : f ∈ s.fields) {record after : Record} {change : Change} {value : Value}
    (succeeds : change.attempt s record = (after, .ok ()))
    (puts : change.puts? = some (f.name, value)) : f.CameBy value (some change) := by
  cases Change.ends_of_attempt succeeds with
  | @stored field _ g found isOpen accepted =>
    obtain ⟨rfl, rfl⟩ : field = f.name ∧ _ = value := by simpa [Change.puts?] using puts
    obtain ⟨declared', same⟩ := mem_of_findField? found
    obtain rfl : g = f := List.inj_on_of_nodup_map distinct declared' declared same
    exact .stored accepted
  | @set _ _ field _ _ sets accepted present =>
    obtain ⟨rfl, rfl⟩ : field = f.name ∧ _ = value := by simpa [Change.puts?, sets] using puts
    exact .set sets accepted
  | idle sets accepted present => simp [Change.puts?, sets] at puts

/-- Each declared field holds the value of the last change that succeeded in putting one there, or
is still blank. -/
theorem exists_cameBy (distinct : (s.fields.map FieldDef.name).Nodup) (changes : List Change)
    {f : FieldDef} (declared : f ∈ s.fields) :
    ∃ value, (s.changed changes).get? f.name = some value ∧
      f.CameBy value (s.lastInto? changes f.name) := by
  induction changes using List.reverseRecOn with
  | nil =>
    refine ⟨.null, ?_, .blank⟩
    rw [changed, changedFrom, List.foldl_nil, get?_blank, if_pos (List.mem_map_of_mem declared)]
  | append_singleton rest change ih =>
    rw [changed_concat]
    rcases run : change.attempt s (s.changed rest) with ⟨after, cause | ⟨⟩⟩
    · obtain rfl := Change.eq_of_refused run
      rwa [lastInto?_concat_of_refused run]
    · rw [lastInto?_concat_of_succeeded run]
      obtain ⟨nowhere, rfl⟩ | ⟨field, value, puts, rfl⟩ := Change.eq_of_succeeded run
      · rwa [nowhere, if_neg (by simp)]
      · rw [puts, Record.get?_set]
        by_cases same : field = f.name
        · subst same
          rw [if_pos rfl, if_pos (by rfl)]
          exact ⟨value, rfl, cameBy_of_puts distinct declared run puts⟩
        · rwa [if_neg same, if_neg (by simpa using same)]

/-- The slots of a record stay. Whatever was attempted on a blank record, it has the name and the
fields of its schema in order; a refused change leaves it as it is, a change that succeeds puts its
value into its field and touches no other, and a setter without parameters touches none. Just those
changes succeed that the schema admits. Each field is blank, or holds what the last change to it put
there, which its type accepts if it was stored. -/
theorem slots_stay (distinct : (s.fields.map FieldDef.name).Nodup) (changes : List Change) :
    s.HasSlots (s.changed changes) ∧
      (∀ (change : Change) (after : Record) (cause : AccessError),
        change.attempt s (s.changed changes) = (after, .error cause) → after = s.changed changes) ∧
      (∀ (change : Change) (after : Record),
        change.attempt s (s.changed changes) = (after, .ok ()) →
        (change.puts? = none ∧ after = s.changed changes) ∨
          ∃ field value, change.puts? = some (field, value) ∧ after.get? field = some value ∧
            ∀ other, other ≠ field → after.get? other = (s.changed changes).get? other) ∧
      (∀ m args plain, m.params = [] →
        ((Change.write m args plain).attempt s (s.changed changes)).1 = s.changed changes) ∧
      (∀ change : Change, (∃ after, change.attempt s (s.changed changes) = (after, .ok ())) ↔
        s.Admits change) ∧
      ∀ f ∈ s.fields, ∃ value, (s.changed changes).get? f.name = some value ∧
        f.CameBy value (s.lastInto? changes f.name) := by
  have slots := hasSlots_changed distinct changes
  refine ⟨slots, fun change after cause ↦ Change.eq_of_refused, ?_, ?_,
    fun change ↦ slots.exists_attempt_iff distinct, fun f ↦ exists_cameBy distinct changes⟩
  · intro change after succeeds
    obtain idle | ⟨field, value, puts, rfl⟩ := Change.eq_of_succeeded succeeds
    · exact .inl idle
    · refine .inr ⟨field, value, puts, by simp, fun other distinct ↦ ?_⟩
      rw [Record.get?_set, if_neg distinct.symm]
  · intro m args plain none
    exact Change.eq_of_no_parameters none

end Schema

namespace Gauge

/-- A gauge with an open level and a label. -/
def gauge : Schema :=
  { name := "Gauge"
    fields := [
      { name := "level", type := .integer, isPublic := true },
      { name := "label", type := .string }] }

/-- Resets the level, to nothing. -/
def reset : Method := { name := "reset", params := [], returns := none, body := .setter "level" }

/-- A level is stored and a label is set; no depth can be stored or set, no text is a level, and the
label cannot be stored. -/
def adjustments : List Change := [
  .store "level" (.integer 3), .store "depth" (.integer 1),
  .write (.writerOf "label" .string) [.string "low"] nofun, .store "level" (.string "high"),
  .write (.writerOf "depth" .integer) [.integer 1] nofun, .store "label" (.string "high"),
  .write reset [] nofun]

/-- After these adjustments a gauge has its level and its label, in this order, with the level that
was stored and the label that was set, and storing a label is still refused. -/
theorem slots_stay_gauge :
    (gauge.fields.map FieldDef.name).Nodup ∧
      (gauge.changed adjustments).names = ["level", "label"] ∧
      (gauge.changed adjustments).get? "level" = some (.integer 3) ∧
      (gauge.changed adjustments).get? "label" = some (.string "low") ∧
      ((Change.store "label" .null).attempt gauge (gauge.changed adjustments)).1 =
        gauge.changed adjustments ∧
      ∃ after, (Change.store "level" .null).attempt gauge (gauge.changed adjustments) =
        (after, .ok ()) ∧ after.get? "level" = some .null ∧
        after.get? "label" = some (.string "low") := by
  have distinct : (gauge.fields.map FieldDef.name).Nodup := by decide
  obtain ⟨slots, refused, succeeded, -, -, holds⟩ := Schema.slots_stay distinct adjustments
  obtain ⟨level, heldLevel, stored⟩ :=
    holds { name := "level", type := .integer, isPublic := true } (by decide)
  rw [show gauge.lastInto? adjustments "level" =
    some (.store "level" (.integer 3)) by rfl] at stored
  cases stored
  obtain ⟨label, heldLabel, set⟩ := holds { name := "label", type := .string } (by decide)
  rw [show gauge.lastInto? adjustments "label" =
    some (.write (.writerOf "label" .string) [.string "low"] nofun) by rfl] at set
  cases set
  refine ⟨distinct, slots.names, heldLevel, heldLabel, refused (.store "label" .null) _ _ rfl,
    _, rfl, ?_⟩
  obtain ⟨nowhere, -⟩ | ⟨field, value, puts, held, others⟩ :=
    succeeded (.store "level" .null) _ rfl
  · cases nowhere
  · cases puts
    exact ⟨held, (others "label" (by decide)).trans heldLabel⟩

end Gauge

end Fieldwise
