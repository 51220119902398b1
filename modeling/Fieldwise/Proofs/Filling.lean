import Fieldwise.Proofs.Assignment
import Fieldwise.Proofs.Compiled
import Fieldwise.Proofs.Execution

/-!
# Filling an instance

An instance is filled binding by binding, and the first binding whose value cannot be made or is
refused ends the run. So a run that fails has come to one binding in one state of one instance, at
some depth; where an assignment was refused, that place is described by `Mapping.StopsAt`, and a run
stops at such a place exactly when it fails with the fault of an assignment.
-/

namespace Fieldwise

open Outcome

/-- New instances have every declared field, each under a name of its own. -/
structure Schema.StartsBlank (s : Schema) : Prop where
  construction : s.construction = .blank
  distinct : (s.fields.map FieldDef.name).Nodup

/-- A target that starts blank is built blank. -/
theorem Catalog.Compiled.construct_eq {c : Catalog} {m : Mapping} (h : c.Compiled m)
    (blank : m.target.StartsBlank) : Mapping.construct c m.target = .ok m.target.blank := by
  rw [Mapping.construct, Catalog.construct, h.registered.1]
  simp only [Schema.instantiate, blank.construction]
  rfl

namespace Mapping

variable {c : Catalog} {m n : Mapping} {source : Record} {filter : FieldFilter} {key : String}
  {b : Binding} {fault : Fault}

section Fill

variable {target : Schema} {before filled : Record} {bound : Table Binding}

/-- Later bindings fill what the earlier ones have left. -/
theorem fillBindings_append (earlier later : Table Binding) (before : Record) :
    fillBindings c target filter source (earlier ++ later) before = (do
      let state ← fillBindings c target filter source earlier before
      fillBindings c target filter source later state) := by
  induction earlier generalizing before with
  | nil => rfl
  | cons entry rest ih =>
    obtain ⟨key, b⟩ := entry
    rw [List.cons_append, fillBindings, fillBindings]
    split
    · simp only [ih, bind_assoc]
    · exact ih before

/-- What every assignment of a wanted value keeps, filling keeps. -/
theorem fillBindings_keeps {P : Record → Prop}
    (step : ∀ key b, (key, b) ∈ bound → filter.allows key = true → ∀ state value after, P state →
      instanceValue c target source state b = .ok value →
        assignField c target state key b.writer? value = .ok after → P after)
    (start : P before) (h : fillBindings c target filter source bound before = .ok filled) :
    P filled := by
  induction bound generalizing before with
  | nil =>
    cases h
    exact start
  | cons entry rest ih =>
    obtain ⟨key, b⟩ := entry
    have later := fun key b member ↦ step key b (List.mem_cons_of_mem _ member)
    rw [fillBindings] at h
    split at h
    · next wanted =>
      obtain ⟨value, made, h⟩ := bind_eq_ok.mp h
      obtain ⟨after, assigned, h⟩ := bind_eq_ok.mp h
      exact ih later (step key b List.mem_cons_self wanted before value after start made assigned) h
    · exact ih later start h

/-- Filling fails exactly when it comes to a wanted binding whose value cannot be made or is
refused. -/
theorem fillBindings_eq_error_iff :
    fillBindings c target filter source bound before = .error fault ↔
      ∃ earlier key b later state, bound = earlier ++ (key, b) :: later ∧
        filter.allows key = true ∧
        fillBindings c target filter source earlier before = .ok state ∧
        (instanceValue c target source state b = .error fault ∨
          ∃ value, instanceValue c target source state b = .ok value ∧
            assignField c target state key b.writer? value = .error fault) := by
  constructor
  · intro h
    induction bound generalizing before with
    | nil => cases h
    | cons entry rest ih =>
      obtain ⟨key, b⟩ := entry
      rw [fillBindings] at h
      split at h
      · next wanted =>
        rcases bind_eq_error.mp h with unmade | ⟨value, made, h⟩
        · exact ⟨[], key, b, rest, before, rfl, wanted, rfl, .inl unmade⟩
        · rcases bind_eq_error.mp h with refused | ⟨after, assigned, h⟩
          · exact ⟨[], key, b, rest, before, rfl, wanted, rfl, .inr ⟨value, made, refused⟩⟩
          · obtain ⟨earlier, other, b', later, state, rfl, wanted', filled, failed⟩ := ih h
            refine ⟨(key, b) :: earlier, other, b', later, state, rfl, wanted', ?_, failed⟩
            rw [fillBindings, if_pos wanted]
            exact bind_eq_ok.mpr ⟨value, made, bind_eq_ok.mpr ⟨after, assigned, filled⟩⟩
      · next unwanted =>
        obtain ⟨earlier, other, b', later, state, rfl, wanted', filled, failed⟩ := ih h
        refine ⟨(key, b) :: earlier, other, b', later, state, rfl, wanted', ?_, failed⟩
        rw [fillBindings, if_neg unwanted]
        exact filled
  · rintro ⟨earlier, key, b, later, state, rfl, wanted, filled, failed⟩
    rw [fillBindings_append, bind_eq_error]
    refine .inr ⟨state, filled, ?_⟩
    rw [fillBindings, if_pos wanted, bind_eq_error]
    rcases failed with unmade | ⟨value, made, refused⟩
    · exact .inl unmade
    · exact .inr ⟨value, made, bind_eq_error.mpr (.inl refused)⟩

/-- The last wanted binding that assigns a field. -/
def lastInto (filter : FieldFilter) (bound : Table Binding) (field : String) :
    Option (String × Binding) :=
  lastOf (fun entry ↦ entry.2.assigns entry.1) (bound.filter fun entry ↦ filter.allows entry.1)
    field

/-- A binding that comes last is the last into the field that it assigns, if it is wanted. -/
theorem lastInto_concat (rest : Table Binding) (key : String) (b : Binding) (field : String) :
    lastInto filter (rest ++ [(key, b)]) field =
      if filter.allows key = true ∧ b.assigns key = field then some (key, b)
      else lastInto filter rest field := by
  by_cases wanted : filter.allows key = true
  · simp [lastInto, wanted, lastOf_concat]
  · simp [lastInto, wanted]

/-- The last binding into a field is one of the bindings. -/
theorem mem_of_lastInto {field : String} {entry : String × Binding}
    (h : lastInto filter bound field = some entry) : entry ∈ bound :=
  (List.mem_filter.mp (mem_of_lastOf h).1).1

/-- Where only single fields are set, a field holds the value that the last wanted binding which
assigns it has made, or what it held before. -/
theorem get?_fillBindings
    (plain : ∀ key b, (key, b) ∈ bound → b.WritesPlainly)
    (h : fillBindings c target filter source bound before = .ok filled) (field : String) :
    match lastInto filter bound field with
    | some (_, b) => ∃ state value, instanceValue c target source state b = .ok value ∧
        filled.get? field = some value
    | none => filled.get? field = before.get? field := by
  -- by induction from the end, where the last binding that assigns the field is met first
  induction bound using List.reverseRecOn generalizing filled with
  | nil =>
    cases h
    rfl
  | append_singleton rest entry ih =>
    obtain ⟨key, b⟩ := entry
    rw [fillBindings_append, bind_eq_ok] at h
    obtain ⟨state, earlier, h⟩ := h
    have kept := ih (fun key b member ↦ plain key b (List.mem_append_left _ member)) earlier
    rw [lastInto_concat]
    rw [fillBindings] at h
    split at h
    · next wanted =>
      obtain ⟨value, made, h⟩ := bind_eq_ok.mp h
      obtain ⟨after, assigned, h⟩ := bind_eq_ok.mp h
      cases h
      have plain := plain key b (List.mem_append_right _ List.mem_cons_self)
      rw [eq_set_of_assignField plain assigned, Record.get?_set]
      by_cases own : b.assigns key = field
      · rw [if_pos ⟨wanted, own⟩]
        exact ⟨state, value, made, if_pos own⟩
      · rw [if_neg fun both ↦ own both.2, if_neg own]
        exact kept
    · next unwanted =>
      cases h
      rw [if_neg fun both ↦ unwanted both.1]
      exact kept

end Fill

/-- An instance is made of a record of the source schema, by filling a new instance. -/
theorem toInstance_eq_ok_some_iff {value : Value} {made : Record} :
    m.toInstance c value filter = .ok (some made) ↔
      ∃ source : Record, value = source.toValue ∧ source.schema = m.source ∧
        ∃ fresh, construct c m.target = .ok fresh ∧
          fillBindings c m.target (filter.effective m.defaults) source m.bindings fresh =
            .ok made := by
  rw [toInstance_eq, bind_eq_ok]
  constructor
  · rintro ⟨source?, read, h⟩
    cases source? with
    | none => cases h
    | some source =>
      obtain ⟨held, same⟩ := sourceRecord?_eq_ok_some_iff.mp read
      obtain ⟨fresh, built, h⟩ := bind_eq_ok.mp h
      obtain ⟨filled, run, h⟩ := bind_eq_ok.mp h
      cases h
      exact ⟨source, held, same, fresh, built, run⟩
  · rintro ⟨source, held, same, fresh, built, run⟩
    refine ⟨some source, sourceRecord?_eq_ok_some_iff.mpr ⟨held, same⟩, ?_⟩
    exact bind_eq_ok.mpr ⟨fresh, built, bind_eq_ok.mpr ⟨made, run, rfl⟩⟩

/-- A chained binding makes the absent value, or an instance that its nested mapping makes of what
was read. -/
theorem eq_null_or_made_of_chained {target : Schema} {state : Record} {field : String}
    {reader : Method} {writer : Option Method} {value : Value}
    (h : instanceValue c target source state (.chained field reader writer n) = .ok value) :
    value = .null ∨ ∃ given made, value = made.toValue ∧
      n.toInstance c given .all = .ok (some made) := by
  rw [instanceValue, bind_eq_ok] at h
  obtain ⟨given, -, h⟩ := h
  obtain ⟨made, run, h⟩ := bind_eq_ok.mp h
  cases made with
  | none =>
    cases h
    exact .inl rfl
  | some made =>
    cases h
    exact .inr ⟨given, made, rfl, run⟩

/-- In making an instance of a source, a mapping comes to a binding with the instance in some
state. -/
inductive ComesTo (c : Catalog) (m : Mapping) (source : Record) (filter : FieldFilter) :
    String → Binding → Record → Prop
  | intro {earlier later : Table Binding} {key : String} {b : Binding} {fresh state : Record}
      (order : m.bindings = earlier ++ (key, b) :: later)
      (wanted : (filter.effective m.defaults).allows key = true)
      (built : construct c m.target = .ok fresh)
      (filled : fillBindings c m.target (filter.effective m.defaults) source earlier fresh =
        .ok state) :
      m.ComesTo c source filter key b state

/-- A binding that a mapping comes to is one of its own. -/
theorem ComesTo.mem {state : Record} (h : m.ComesTo c source filter key b state) :
    (key, b) ∈ m.bindings := by
  cases h with
  | intro order _ _ _ =>
    rw [order]
    exact List.mem_append_right _ List.mem_cons_self

/-- One level: an instance is not made exactly when its target cannot be built, or when the mapping
comes to a binding whose value cannot be made or is refused. -/
theorem toInstance_toValue_eq_error_iff (same : source.schema = m.source) :
    m.toInstance c source.toValue filter = .error fault ↔
      construct c m.target = .error fault ∨
        ∃ key b state, m.ComesTo c source filter key b state ∧
          (instanceValue c m.target source state b = .error fault ∨
            ∃ value, instanceValue c m.target source state b = .ok value ∧
              assignField c m.target state key b.writer? value = .error fault) := by
  rw [toInstance_toValue same, bind_eq_error]
  apply or_congr_right
  constructor
  · rintro ⟨fresh, built, h⟩
    rcases bind_eq_error.mp h with h | ⟨filled, -, h⟩
    · obtain ⟨earlier, key, b, later, state, order, wanted, filled, failed⟩ :=
        fillBindings_eq_error_iff.mp h
      exact ⟨key, b, state, .intro order wanted built filled, failed⟩
    · cases h
  · rintro ⟨key, b, state, comes, failed⟩
    cases comes with
    | @intro earlier later _ _ fresh _ order wanted built filled =>
      refine ⟨fresh, built, bind_eq_error.mpr (.inl ?_)⟩
      exact fillBindings_eq_error_iff.mpr
        ⟨earlier, key, b, later, state, order, wanted, filled, failed⟩

/-- Making an instance of a source under a filter makes one of another source by a nested mapping,
under its filter. -/
inductive RunsInto (c : Catalog) :
    Mapping → Record → FieldFilter → Mapping → Record → FieldFilter → Prop
  | self (m : Mapping) (source : Record) (filter : FieldFilter) :
      RunsInto c m source filter m source filter
  | nested {m n k : Mapping} {source inner last state : Record} {filter own : FieldFilter}
      {key field : String} {reader : Method} {writer : Option Method}
      (comes : m.ComesTo c source filter key (.chained field reader writer n) state)
      (read : reader.call source [] = .ok inner.toValue)
      (same : inner.schema = n.source)
      (later : RunsInto c n inner .all k last own) : RunsInto c m source filter k last own

/-- What a run makes an instance by is contained. -/
theorem RunsInto.contains {inner : Record} {own : FieldFilter}
    (h : RunsInto c m source filter n inner own) : m.Contains n := by
  induction h with
  | self m => exact .self m
  | nested comes _ _ _ ih => exact .nested comes.mem ih

/-- Making an instance of a source stops at a binding, of the mapping itself or of one that it runs
into, because the value that the binding made is refused. -/
inductive StopsAt (c : Catalog) (m : Mapping) (source : Record) (filter : FieldFilter)
    (n : Mapping) (key : String) (b : Binding) (fault : Fault) : Prop
  | intro {inner state : Record} {own : FieldFilter} {value : Value}
      (runs : RunsInto c m source filter n inner own)
      (comes : n.ComesTo c inner own key b state)
      (made : instanceValue c n.target inner state b = .ok value)
      (refused : assignField c n.target state key b.writer? value = .error fault)

/-- A run stops where the run of a nested mapping does. -/
theorem StopsAt.of_nested {n k : Mapping} {inner state : Record} {other : String} {b' : Binding}
    {field : String} {reader : Method} {writer : Option Method}
    (h : n.StopsAt c inner .all k other b' fault)
    (comes : m.ComesTo c source filter key (.chained field reader writer n) state)
    (read : reader.call source [] = .ok inner.toValue) (same : inner.schema = n.source) :
    m.StopsAt c source filter k other b' fault := by
  cases h with
  | intro runs stop made refused =>
    exact .intro (.nested comes read same runs) stop made refused

private theorem toInstance_eq_error_of_runsInto {inner : Record} {own : FieldFilter}
    (runs : RunsInto c m source filter n inner own) (same : source.schema = m.source)
    (h : n.toInstance c inner.toValue own = .error fault) :
    m.toInstance c source.toValue filter = .error fault := by
  induction runs with
  | self => exact h
  | nested comes read fits _ ih =>
    apply (toInstance_toValue_eq_error_iff same).mpr
    refine .inr ⟨_, _, _, comes, .inl ?_⟩
    rw [instanceValue, bind_eq_error]
    refine .inr ⟨_, mapError_eq_ok.mpr read, bind_eq_error.mpr (.inl (ih fits h))⟩

private theorem schema_eq_of_runsInto {inner : Record} {own : FieldFilter}
    (runs : RunsInto c m source filter n inner own) (same : source.schema = m.source) :
    inner.schema = n.source := by
  induction runs with
  | self => exact same
  | nested _ _ fits _ ih => exact ih fits

/-- A run that stops at a binding fails with the fault of that binding's assignment. -/
theorem toInstance_eq_error_of_stopsAt (same : source.schema = m.source)
    (h : m.StopsAt c source filter n key b fault) :
    m.toInstance c source.toValue filter = .error fault := by
  cases h with
  | intro runs comes made refused =>
    apply toInstance_eq_error_of_runsInto runs same
    apply (toInstance_toValue_eq_error_iff (schema_eq_of_runsInto runs same)).mpr
    exact .inr ⟨key, b, _, comes, .inr ⟨_, made, refused⟩⟩

end Mapping

/-- A fault that is raised before a value is assigned: a source of the wrong kind, a target that
cannot be built, or a reader or computing method that refuses. -/
inductive Fault.Precedes (c : Catalog) : Fault → Prop
  | mismatch (target expected found : String) : Precedes c (.sourceMismatch target expected found)
  | construction {schema : String} {cause : AccessError}
      (refused : c.construct schema = .error cause) : Precedes c (.construction schema cause)
  | invocation {method : Method} {receiver : Record} {args : List Value} {schema : String}
      {cause : AccessError} (refused : method.call receiver args = .error cause) :
      Precedes c (.invocation method.name schema cause)

namespace Mapping

variable {c : Catalog} {m : Mapping} {filter : FieldFilter} {fault : Fault}

private theorem precedes_of_readSource {source : Record} {reader : Method}
    (h : readSource source reader = .error fault) : fault.Precedes c := by
  obtain ⟨cause, refused, rfl⟩ := mapError_eq_error.mp h
  exact .invocation refused

private theorem precedes_of_combine {target : Schema} {source receiver : Record}
    {combinator : Method} {readers : List Method}
    (h : combine target source receiver combinator readers = .error fault) : fault.Precedes c := by
  rw [combine, bind_eq_error] at h
  rcases h with h | ⟨args, -, h⟩
  · obtain ⟨reader, -, h⟩ := exists_error_of_mapM h
    exact precedes_of_readSource h
  · obtain ⟨cause, refused, rfl⟩ := mapError_eq_error.mp h
    exact .invocation refused

private theorem precedes_or_nested {target : Schema} {source state : Record} {b : Binding}
    (h : instanceValue c target source state b = .error fault) :
    fault.Precedes c ∨ ∃ field reader writer n value, b = .chained field reader writer n ∧
      reader.call source [] = .ok value ∧ n.toInstance c value .all = .error fault := by
  cases b with
  | direct field reader writer => exact .inl (precedes_of_readSource h)
  | synthetic field combinator readers writer => exact .inl (precedes_of_combine h)
  | chained field reader writer n =>
    rw [instanceValue, bind_eq_error] at h
    rcases h with unread | ⟨value, given, h⟩
    · exact .inl (precedes_of_readSource unread)
    · rcases bind_eq_error.mp h with failed | ⟨made, -, h⟩
      · exact .inr ⟨field, reader, writer, n, value, rfl, mapError_eq_ok.mp given, failed⟩
      · cases made <;> cases h

/-- Whatever value a mapping is given, an instance is not made for a reason that precedes
assignments, or because the run stops at a binding. -/
theorem precedes_or_stopsAt {value : Value} (h : m.toInstance c value filter = .error fault) :
    fault.Precedes c ∨ ∃ source : Record, value = source.toValue ∧ source.schema = m.source ∧
      ∃ n key b, m.StopsAt c source filter n key b fault := by
  induction m using nested_induction generalizing value filter with
  | step m ih =>
    cases given : sourceRecord? m.target m.source value with
    | error e =>
      rw [toInstance_eq, given] at h
      cases h
      obtain ⟨-, -, rfl⟩ := sourceRecord?_eq_error_iff.mp given
      exact .inl (.mismatch _ _ _)
    | ok source? =>
      cases source? with
      | none =>
        rw [toInstance_eq, given] at h
        cases h
      | some source =>
        obtain ⟨rfl, same⟩ := sourceRecord?_eq_ok_some_iff.mp given
        rcases (toInstance_toValue_eq_error_iff same).mp h with
          unbuilt | ⟨key, b, state, comes, unmade | ⟨value, made, refused⟩⟩
        · obtain ⟨cause, refused, rfl⟩ := mapError_eq_error.mp unbuilt
          exact .inl (.construction refused)
        · rcases precedes_or_nested unmade with
            precedes | ⟨field, reader, writer, n, value, rfl, read, failed⟩
          · exact .inl precedes
          · rcases ih key field reader writer n comes.mem failed with
              precedes | ⟨inner, rfl, fits, k, other, b', stops⟩
            · exact .inl precedes
            · exact .inr ⟨source, rfl, same, k, other, b', stops.of_nested comes read fits⟩
        · exact .inr ⟨source, rfl, same, m, key, b, .intro (.self _ _ _) comes made refused⟩

end Mapping

/-- A fault that precedes assignments has no cause that only changes have. -/
theorem Fault.Precedes.isOfChange {c : Catalog} {fault : Fault} (h : fault.Precedes c)
    {cause : AccessError} (causes : fault.cause? = some cause) : cause.isOfChange = false := by
  cases h with
  | mismatch => cases causes
  | construction refused =>
    cases causes
    exact Catalog.isOfChange_of_construct refused
  | invocation refused =>
    cases causes
    exact Method.isOfChange_of_call refused

end Fieldwise
