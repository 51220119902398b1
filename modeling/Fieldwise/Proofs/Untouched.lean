import Fieldwise.Proofs.Agreement

/-!
# What a filter leaves out stays untouched

When the writers of a mapping set the fields they are bound to, and its computing methods do not
look at their receiver, each binding fills its own field and no binding depends on what others have
filled. So an instance that is made with a narrower filter holds the selected fields as the wider
one does, and everything else as the constructor has left it.
-/

namespace Fieldwise

open Outcome

/-- Two instances of one schema that have the same of the given fields. -/
structure Record.AlikeOn (names : List String) (r other : Record) : Prop where
  schema : other.schema = r.schema
  present : ∀ name ∈ names, other.has name = r.has name

namespace Record.AlikeOn

variable {names : List String} {r other : Record} {name : String}

/-- Instances that are alike on some fields are alike on fewer. -/
theorem tail (h : AlikeOn (name :: names) r other) : AlikeOn names r other where
  schema := h.schema
  present := fun name member ↦ h.present name (List.mem_cons_of_mem _ member)

/-- A field that is not among them may be set in one of the instances. -/
theorem set_left (h : AlikeOn names r other) (apart : name ∉ names) (value : Value) :
    AlikeOn names (r.set name value) other where
  schema := h.schema
  present := by
    intro field member
    have different : name ≠ field := fun same ↦ apart (same ▸ member)
    simpa [has, Table.has, set, different] using h.present field member

/-- A field may be set in both of the instances. -/
theorem set_both (h : AlikeOn names r other) (value value' : Value) :
    AlikeOn names (r.set name value) (other.set name value') where
  schema := h.schema
  present := by
    intro field member
    by_cases same : name = field
    · simp [has, Table.has, set, same]
    · simpa [has, Table.has, set, same] using h.present field member

end Record.AlikeOn

namespace Mapping

variable {c : Catalog} {target : Schema} {source before filled : Record} {bound : Table Binding}
  {filter narrow wide : FieldFilter} {key : String} {b : Binding} {value : Value}

/-- The value of a binding that does not look at its receiver is the same for every state of the
instance. -/
theorem instanceValue_congr (ignores : ∀ k, b.combinator? = some k → k.IgnoresReceiver)
    (state other : Record) :
    instanceValue c target source state b = instanceValue c target source other b := by
  cases b with
  | direct field reader writer => rfl
  | chained field reader writer nested => rw [instanceValue, instanceValue]
  | synthetic field combinator readers writer =>
    simp only [instanceValue, combine, ignores combinator rfl state other]

/-- A binding that writes its own field asks of an instance only its schema and whether it has that
field. -/
theorem assignField_eq_ok_of_alikeOn (own : b.WritesOwn key) {names : List String}
    (among : key ∈ names) {state other after : Record} (alike : Record.AlikeOn names state other)
    (h : assignField c target state key b.writer? value = .ok after) :
    assignField c target other key b.writer? value = .ok (other.set key value) := by
  cases bound : b.writer? with
  | some w =>
    have sets := own w bound
    rw [bound, assignField_writer_eq_ok_iff, Method.assign_setter_eq_ok_iff sets] at h
    obtain ⟨accepted, has, -⟩ := h
    rw [assignField_writer_eq_ok_iff, Method.assign_setter_eq_ok_iff sets]
    exact ⟨accepted, (alike.present key among).trans has, rfl⟩
  | none =>
    rw [bound, assignField_none_eq_ok_iff, Catalog.store_eq_ok_iff] at h
    obtain ⟨s, f, found, declared, isOpen, accepted, -⟩ := h
    rw [assignField_none_eq_ok_iff, Catalog.store_eq_ok_iff]
    exact ⟨s, f, alike.schema ▸ found, declared, isOpen, accepted, rfl⟩

/-- What a wider filter has filled, a narrower one fills too, starting from any instance that is
alike on the bound fields. -/
theorem exists_fillBindings_of_narrower (distinct : bound.names.Nodup)
    (own : ∀ key b, (key, b) ∈ bound → b.WritesOwn key)
    (ignores : ∀ key b, (key, b) ∈ bound → ∀ k, b.combinator? = some k → k.IgnoresReceiver)
    (narrower : ∀ key, narrow.allows key = true → wide.allows key = true) {other : Record}
    (alike : Record.AlikeOn bound.names before other)
    (h : fillBindings c target wide source bound before = .ok filled) :
    ∃ part, fillBindings c target narrow source bound other = .ok part := by
  -- the two runs go in step; a field that only one of them has set does not occur again
  induction bound generalizing before other with
  | nil => exact ⟨other, rfl⟩
  | cons entry rest ih =>
    obtain ⟨key, b⟩ := entry
    rw [Table.names_cons, List.nodup_cons] at distinct
    obtain ⟨apart, distinct⟩ := distinct
    have later {before other : Record} := @ih before distinct
      (fun key b member ↦ own key b (List.mem_cons_of_mem _ member))
      (fun key b member ↦ ignores key b (List.mem_cons_of_mem _ member)) other
    rw [fillBindings] at h ⊢
    by_cases wanted : wide.allows key = true
    · rw [if_pos wanted] at h
      obtain ⟨value, made, h⟩ := bind_eq_ok.mp h
      obtain ⟨after, assigned, h⟩ := bind_eq_ok.mp h
      have writes := own key b List.mem_cons_self
      have set : after = before.set key value := by
        rw [eq_set_of_assignField writes.plain assigned, writes.assigns]
      rw [set] at h
      by_cases selected : narrow.allows key = true
      · rw [if_pos selected]
        rw [instanceValue_congr (ignores key b List.mem_cons_self) before other] at made
        have assigned' := assignField_eq_ok_of_alikeOn writes List.mem_cons_self alike assigned
        obtain ⟨part, run⟩ := later (alike.tail.set_both value value) h
        exact ⟨part, bind_eq_ok.mpr ⟨value, made, bind_eq_ok.mpr ⟨_, assigned', run⟩⟩⟩
      · rw [if_neg selected]
        exact later (alike.tail.set_left apart value) h
    · rw [if_neg wanted] at h
      rw [if_neg fun selected ↦ wanted (narrower key selected)]
      exact later alike.tail h

/-- Filling leaves alone every field that is not bound or not wanted. -/
theorem get?_fillBindings_of_unselected (own : ∀ key b, (key, b) ∈ bound → b.WritesOwn key)
    (h : fillBindings c target filter source bound before = .ok filled) {field : String}
    (unselected : ¬ (field ∈ bound.names ∧ filter.allows field = true)) :
    filled.get? field = before.get? field := by
  have kept := get?_fillBindings (fun key b member ↦ (own key b member).plain) h field
  have untouched : lastInto filter bound field = none := by
    apply lastOf_eq_none_iff.mpr
    rintro ⟨key, b⟩ member same
    obtain ⟨member, wanted⟩ := List.mem_filter.mp member
    rw [(own key b member).assigns] at same
    subst same
    exact unselected ⟨List.mem_map_of_mem member, wanted⟩
  rw [untouched] at kept
  exact kept

end Mapping

namespace Catalog

variable {c : Catalog} {m : Mapping}

/-- When a mapping whose writers set their own fields, and whose computing methods ignore their
receiver, makes an instance with some filter, it makes one with each filter that wants no more. That
instance holds each selected field as the first one does, and every other field, bound or not, as
the constructor has left it. -/
theorem toInstance_touches_selected {target : String} {defaults : FieldFilter}
    (compiled : c.compile target defaults = .ok m) (plain : m.IsPlain) {source : Record}
    {narrow wide : FieldFilter}
    (narrower : ∀ key, (narrow.effective m.defaults).allows key = true →
      (wide.effective m.defaults).allows key = true) {made : Record}
    (h : m.toInstance c source.toValue wide = .ok (some made)) :
    ∃ fresh part, c.construct target = .ok fresh ∧
      m.toInstance c source.toValue narrow = .ok (some part) ∧
      (∀ key ∈ m.bindings.names, (narrow.effective m.defaults).allows key = true →
        ∃ value, made.get? key = some value ∧ part.get? key = some value) ∧
      ∀ field, ¬ (field ∈ m.bindings.names ∧ (narrow.effective m.defaults).allows field = true) →
        part.get? field = fresh.get? field := by
  obtain ⟨isCompiled, rfl, -⟩ := compiled_of_compile compiled
  have distinct := isCompiled.nodup_names
  obtain ⟨record, held, same, fresh, built, run⟩ := Mapping.toInstance_eq_ok_some_iff.mp h
  obtain ⟨part, run'⟩ := Mapping.exists_fillBindings_of_narrower distinct plain.writers
    plain.combinators narrower ⟨rfl, fun _ _ ↦ rfl⟩ run
  refine ⟨fresh, part, mapError_eq_ok.mp built, ?_, ?_, ?_⟩
  · exact Mapping.toInstance_eq_ok_some_iff.mpr ⟨record, held, same, fresh, built, run'⟩
  · intro key bound wanted
    obtain ⟨b, hb⟩ := Option.isSome_iff_exists.mp (Table.mem_names_iff.mp bound)
    have member := Table.mem_of_find?_eq_some hb
    obtain ⟨state, value, makes, holds⟩ := Mapping.exists_instanceValue_of_fillBindings distinct
      plain.writers run member (narrower key wanted)
    obtain ⟨state', value', makes', holds'⟩ := Mapping.exists_instanceValue_of_fillBindings
      distinct plain.writers run' member wanted
    -- both runs have asked the same binding, though in different states of the instance
    rw [Mapping.instanceValue_congr (plain.combinators key b member) state state'] at makes
    cases makes.symm.trans makes'
    exact ⟨value, holds, holds'⟩
  · intro field unselected
    exact Mapping.get?_fillBindings_of_unselected plain.writers run' unselected

end Catalog

namespace Staff

/-- A door plate is headed by a person's name and shows a text and the label of the boss. New plates
are headed as vacant and carry the number of the room, but have no text and no boss. -/
def plate : Schema where
  name := "Plate"
  serializedFrom := some "Person"
  construction := .native (.ok ⟨"Plate", [("head", .string "Vacant"), ("room", .integer 7)]⟩)
  fields := [
    { name := "text", type := .string, isPublic := true },
    { name := "boss", type := .record "Label", isPublic := true, chaining := some ⟨none, []⟩ }]
  methods := [setHeadToName, inscription]

/-- The staff's catalog with door plates. -/
def plates : Catalog := catalog.register plate

/-- What door plates are compiled to. -/
def toPlate : Mapping :=
  .mk plate "Person" .all [
    ("head", .direct "head" (.readerOf "name" .string) (some setHeadToName)),
    ("text",
      .synthetic "text" inscription [.readerOf "name" .string, .readerOf "age" .integer] none),
    ("boss", .chained "boss" (.readerOf "boss" (.record "Person")) none toLabel)]

/-- The door plate of a person with a boss. -/
def plateForAda : Record :=
  ⟨"Plate", [("head", .string "Ada"), ("room", .integer 7), ("text", .string "Ada, 36"),
    ("boss", .record "Label" [("name", .string "Grace")])]⟩

private theorem compile_plate : plates.compile "Plate" .all = .ok toPlate := by
  cbv

private theorem toInstance_plate :
    toPlate.toInstance plates ada.toValue .all = .ok (some plateForAda) := by
  cbv

private theorem isPlain_toPlate : toPlate.IsPlain := by
  constructor
  · intro key b member writer hw
    simp only [toPlate, Mapping.bindings, List.mem_cons, List.not_mem_nil, or_false,
      Prod.mk.injEq] at member
    rcases member with ⟨rfl, rfl⟩ | ⟨rfl, rfl⟩ | ⟨rfl, rfl⟩ <;> cases hw
    rfl
  · intro key b member combinator hk
    simp only [toPlate, Mapping.bindings, List.mem_cons, List.not_mem_nil, or_false,
      Prod.mk.injEq] at member
    rcases member with ⟨rfl, rfl⟩ | ⟨rfl, rfl⟩ | ⟨rfl, rfl⟩ <;> cases hk
    exact Method.ignoresReceiver_of_format rfl

/-- A plate of which only the head is wanted has the person's name for its head; it keeps the number
of the room, and has neither a text nor a boss. -/
theorem toInstance_touches_selected_plate :
    plates.compile "Plate" .all = .ok toPlate ∧ toPlate.IsPlain ∧
      toPlate.toInstance plates ada.toValue .all = .ok (some plateForAda) ∧
      ∃ part, toPlate.toInstance plates ada.toValue ⟨["head"]⟩ = .ok (some part) ∧
        part.get? "head" = some (.string "Ada") ∧ part.get? "room" = some (.integer 7) ∧
        part.get? "text" = none ∧ part.get? "boss" = none := by
  have narrower (key : String) :
      (FieldFilter.effective ⟨["head"]⟩ toPlate.defaults).allows key = true →
        (FieldFilter.all.effective toPlate.defaults).allows key = true := fun _ ↦ rfl
  obtain ⟨fresh, part, built, run, selected, untouched⟩ :=
    Catalog.toInstance_touches_selected compile_plate isPlain_toPlate narrower toInstance_plate
  obtain rfl : fresh = ⟨"Plate", [("head", .string "Vacant"), ("room", .integer 7)]⟩ := by
    have constructed : plates.construct "Plate" =
        .ok ⟨"Plate", [("head", .string "Vacant"), ("room", .integer 7)]⟩ := by cbv
    exact Except.ok.inj (built.symm.trans constructed)
  refine ⟨compile_plate, isPlain_toPlate, toInstance_plate, part, run, ?_, ?_, ?_, ?_⟩
  · obtain ⟨value, held, holds⟩ := selected "head" (by decide) (by decide)
    cases held
    exact holds
  · exact untouched "room" (by decide)
  · exact untouched "text" (by decide)
  · exact untouched "boss" (by decide)

end Staff

end Fieldwise
