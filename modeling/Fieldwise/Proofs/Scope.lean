import Fieldwise.Mapping.Compile
import Fieldwise.Proofs.Declaration

/-!
# Bindings of a scope

The bindings of a target are gathered from the declarations that count. A declaration has a
binding exactly when what it names is there: readers of its source fields, for a computed field
parameters of exactly the read types, for a writer a parameter that the read type may be assigned
to, for a chained slot a nested mapping of its declared type.
-/

namespace Fieldwise

open Outcome

namespace Catalog

/-- A reader is the first method of the conventional name without parameters, and it returns
something. -/
theorem reader_eq_ok_iff {c : Catalog} {source field : String} {reader : Method} :
    c.reader source field = .ok reader ↔
      c.findMethod? source (Accessor.reader field) [] = some reader ∧
        ∃ type, reader.returns = some type := by
  rw [Catalog.reader]
  cases h : c.findMethod? source (Accessor.reader field) [] with
  | none => simp
  | some found =>
    cases hr : found.returns with
    | none =>
      simp only [hr, Option.isNone_none, ↓reduceIte, reduceCtorEq, Option.some.injEq, false_iff]
      rintro ⟨rfl, type, returns⟩
      rw [hr] at returns
      cases returns
    | some type =>
      simp only [hr, Option.isNone_some, Bool.false_eq_true, ↓reduceIte, Except.ok.injEq,
        Option.some.injEq]
      constructor
      · rintro rfl
        exact ⟨rfl, type, hr⟩
      · exact And.left

end Catalog

/-- A chaining maps a declared type with a schema: the one of the type, which any schema that the
chaining itself names must be. -/
def Chaining.Names (chaining : Chaining) (declared : Ty) (serializer : String) : Prop :=
  declared = .record serializer ∧ ∀ name, chaining.serializer = some name → name = serializer

/-- A chained element is mapped with a schema exactly when its chaining names it. -/
theorem Chaining.serializerFor_eq_ok_iff {chaining : Chaining} {target element serializer : String}
    {declared : Ty} :
    chaining.serializerFor target element declared = .ok serializer ↔
      chaining.Names declared serializer := by
  rw [serializerFor, Names]
  cases chaining.serializer with
  | none => cases declared <;> simp [Ty.recordName?]
  | some name =>
    by_cases h : Ty.record name = declared
    · subst h
      simp
    · simp only [h, ↓reduceIte, reduceCtorEq, Option.some.injEq, forall_eq', false_iff, not_and]
      rintro rfl rfl
      exact h rfl

/-- What a slot is called in complaints: its writer if it has one, else its field. -/
def Slot.element (slot : Slot) : String := (slot.writer.map Method.name).getD slot.key

namespace Scope

variable (s : Scope)

/-- The binding of a slot. -/
def slotBinding (slot : Slot) : Except Fault Binding :=
  match slot.chaining with
  | some chaining => do
    let nested ← s.chained slot.element chaining slot.type
    let reader ← s.catalog.reader s.source slot.sourceField
    .ok (.chained slot.key reader slot.writer nested)
  | none => do
    let reader ← s.catalog.reader s.source slot.sourceField
    match slot.writer with
    | some writer =>
      if reader.returns.any slot.type.isAssignableFrom then
        .ok (.direct slot.key reader (some writer))
      else .error (.writerType writer.name s.target.name slot.type reader.returns reader.name)
    | none => .ok (.direct slot.key reader none)

/-- The binding of a declaration. -/
def binding : Declaration → Except Fault Binding
  | .computed combinator synthesis => s.synthetic combinator synthesis
  | .slot slot => s.slotBinding slot

/-- The binding of a writer is that of its slot. -/
theorem written_eq_slotBinding (writer : Method) (param : Ty) :
    s.written writer param (Accessor.field writer.name)
        (writer.fromField.getD (Accessor.field writer.name)) =
      s.slotBinding (writer.slot param) := by
  cases h : writer.chaining <;> simp [written, slotBinding, Method.slot, Slot.element, h]

/-- The binding of a field is that of its slot. -/
theorem fieldBinding_eq_slotBinding (field : FieldDef) :
    s.fieldBinding field = s.slotBinding field.slot := by
  cases h : field.chaining <;> simp [fieldBinding, slotBinding, FieldDef.slot, Slot.element, h]

/-- A method adds the binding of what it declares, if it declares anything. -/
theorem addMethod_eq (bound : Table Binding) (method : Method) :
    s.addMethod bound method =
      match method.declaration? with
      | some d => do
        let b ← s.binding d
        .ok (bound.put d.key b)
      | none => .ok bound := by
  cases hs : method.synthesis with
  | some synthesis =>
    cases h : s.synthetic method synthesis <;>
      simp [addMethod, methodBinding?, Method.declaration?, hs, binding, h, bind, Except.bind,
        Declaration.key]
  | none =>
    rcases hp : method.params with - | ⟨param, - | ⟨second, rest⟩⟩
    · simp [addMethod, methodBinding?, Method.declaration?, hs, hp, bind, Except.bind]
    · by_cases hw : Accessor.isWriter method.name
      · cases h : s.slotBinding (method.slot param) <;>
          simp [addMethod, methodBinding?, Method.declaration?, hs, hp, hw,
            written_eq_slotBinding, binding, h, bind, Except.bind, Declaration.key]
      · simp [addMethod, methodBinding?, Method.declaration?, hs, hp, hw, bind, Except.bind]
    · simp [addMethod, methodBinding?, Method.declaration?, hs, hp, bind, Except.bind]

/-- Fields add the bindings of the fresh ones. -/
theorem foldlM_addField {taken : List String} {bound : Table Binding}
    (agree : ∀ name, bound.has name = true ↔ name ∈ taken) (fields : List FieldDef) :
    fields.foldlM s.addField bound =
      gather Table.put Declaration.key s.binding bound
        ((freshFields taken fields).map fun f ↦ .slot f.slot) := by
  induction fields generalizing taken bound with
  | nil => rfl
  | cons f rest ih =>
    have skip : (!f.isPublic || f.isTransient || bound.has f.name) =
        !(f.isExposed && !taken.contains f.name) := by
      have same : bound.has f.name = taken.contains f.name := by
        rw [Bool.eq_iff_iff, agree, List.contains_iff_mem]
      rw [same, FieldDef.isExposed]
      cases f.isPublic <;> cases f.isTransient <;> simp
    rw [List.foldlM_cons, addField, freshFields, skip]
    cases h : f.isExposed && !taken.contains f.name with
    | false => exact ih agree
    | true =>
      simp only [Bool.not_true, Bool.false_eq_true, ↓reduceIte, List.map_cons, gather_cons,
        fieldBinding_eq_slotBinding]
      change _ = s.slotBinding f.slot >>= fun b ↦
        gather Table.put Declaration.key s.binding (bound.put f.name b) _
      cases hb : s.slotBinding f.slot with
      | error e => rfl
      | ok b =>
        apply ih
        intro name
        rw [Table.has, Table.find?_put, List.mem_cons]
        by_cases hn : f.name = name
        · simp [hn]
        · have hn' : ¬ name = f.name := fun e ↦ hn e.symm
          rw [if_neg hn, or_iff_right hn']
          exact agree name

/-- The bindings of a target are gathered from its declarations. -/
theorem bindings_eq_gather :
    s.bindings = gather Table.put Declaration.key s.binding [] s.target.declarations := by
  have methods : s.target.methods.foldlM s.addMethod [] =
      gather Table.put Declaration.key s.binding [] s.target.methodDeclarations := by
    rw [gather, Schema.methodDeclarations, List.foldlM_filterMap]
    congr 1
    funext bound method
    rw [addMethod_eq]
    cases method.declaration? <;> rfl
  rw [bindings, methods, Schema.declarations, gather_append]
  cases h : gather Table.put Declaration.key s.binding [] s.target.methodDeclarations with
  | error e => rfl
  | ok bound =>
    apply s.foldlM_addField
    intro name
    rw [Table.has, isSome_find?_gather Table.find?_put h, Table.find?_nil]
    simp

/-- What a declaration is bound to when everything that it names is there. -/
inductive Binds : Declaration → Binding → Prop
  | computed {combinator : Method} {synthesis : Synthesis} {readers : List Method}
      (sources : List.Forall₂ (fun field reader ↦ s.catalog.reader s.source field = .ok reader)
        synthesis.sources readers)
      (types : List.Forall₂ (fun param (reader : Method) ↦ reader.returns = some param)
        combinator.params readers) :
      Binds (.computed combinator synthesis)
        (.synthetic synthesis.target combinator readers (s.writerFor? synthesis.target))
  | direct {slot : Slot} {reader : Method} {type : Ty}
      (plain : slot.chaining = none)
      (reads : s.catalog.reader s.source slot.sourceField = .ok reader)
      (returns : reader.returns = some type)
      (fits : slot.writer.isSome → slot.type.isAssignableFrom type = true) :
      Binds (.slot slot) (.direct slot.key reader slot.writer)
  | chained {slot : Slot} {chaining : Chaining} {serializer : String} {reader : Method}
      {nested : Mapping}
      (chains : slot.chaining = some chaining)
      (names : chaining.Names slot.type serializer)
      (outside : serializer ∉ s.chain)
      (compiled : s.nested serializer outside ⟨chaining.fields⟩ = .ok nested)
      (reads : s.catalog.reader s.source slot.sourceField = .ok reader) :
      Binds (.slot slot) (.chained slot.key reader slot.writer nested)

/-- A binding is for the field that is its declaration's key. -/
theorem field_of_binds {d : Declaration} {b : Binding} (h : s.Binds d b) : b.field = d.key := by
  cases h <;> rfl

/-- With as many readers as parameters there is no fault exactly when the types are equal. -/
theorem parameterFault?_eq_none_iff (combinator : Method) (index : Nat) {params : List Ty}
    {readers : List Method} (same : params.length = readers.length) :
    s.parameterFault? combinator index params readers = none ↔
      List.Forall₂ (fun param (reader : Method) ↦ reader.returns = some param) params readers := by
  induction params generalizing index readers with
  | nil =>
    rw [List.eq_nil_of_length_eq_zero same.symm]
    simp [parameterFault?]
  | cons param params ih =>
    cases readers with
    | nil => cases same
    | cons reader readers =>
      rw [parameterFault?, List.forall₂_cons]
      by_cases h : reader.returns = some param
      · rw [if_pos h, ih (index + 1) (Nat.succ.inj same), and_iff_right h]
      · simp [h]

/-- A computed field has a binding exactly when there are readers of the types it takes. -/
theorem synthetic_eq_ok_iff {combinator : Method} {synthesis : Synthesis} {b : Binding} :
    s.synthetic combinator synthesis = .ok b ↔ s.Binds (.computed combinator synthesis) b := by
  simp only [synthetic, bind_eq_ok, mapM_eq_ok]
  constructor
  · rintro ⟨readers, sources, h⟩
    by_cases count : combinator.arity = readers.length
    · rw [if_neg (not_not.mpr count)] at h
      cases hf : s.parameterFault? combinator 0 combinator.params readers with
      | some fault => simp [hf] at h
      | none =>
        simp only [hf, Except.ok.injEq] at h
        subst h
        exact .computed sources ((s.parameterFault?_eq_none_iff combinator 0 count).mp hf)
    · rw [if_pos count] at h
      cases h
  · intro h
    cases h with
    | @computed _ _ readers sources types =>
      have count : combinator.arity = readers.length := types.length_eq
      refine ⟨readers, sources, ?_⟩
      rw [if_neg (not_not.mpr count),
        (s.parameterFault?_eq_none_iff combinator 0 count).mpr types]

/-- The nested mapping of a chained element is that of the schema it is mapped with. -/
theorem chained_eq_ok_iff {element : String} {chaining : Chaining} {declared : Ty}
    {nested : Mapping} :
    s.chained element chaining declared = .ok nested ↔
      ∃ serializer, chaining.Names declared serializer ∧
        ∃ outside : serializer ∉ s.chain,
          s.nested serializer outside ⟨chaining.fields⟩ = .ok nested := by
  simp only [chained, bind_eq_ok, Chaining.serializerFor_eq_ok_iff]
  apply exists_congr
  intro serializer
  apply and_congr_right
  intro _
  by_cases h : serializer ∈ s.chain <;> simp [h]

/-- A slot has a binding exactly when there is a reader of its source field and what else its kind
asks for. -/
theorem slotBinding_eq_ok_iff {slot : Slot} {b : Binding} :
    s.slotBinding slot = .ok b ↔ s.Binds (.slot slot) b := by
  rw [slotBinding]
  constructor
  · intro h
    cases hc : slot.chaining with
    | some chaining =>
      simp only [hc, bind_eq_ok, chained_eq_ok_iff, Except.ok.injEq] at h
      obtain ⟨nested, ⟨serializer, names, outside, compiled⟩, reader, reads, rfl⟩ := h
      exact .chained hc names outside compiled reads
    | none =>
      simp only [hc, bind_eq_ok] at h
      obtain ⟨reader, reads, h⟩ := h
      obtain ⟨-, type, returns⟩ := Catalog.reader_eq_ok_iff.mp reads
      cases hw : slot.writer with
      | none =>
        simp only [hw, Except.ok.injEq] at h
        subst h
        rw [← hw]
        exact .direct hc reads returns (by simp [hw])
      | some writer =>
        simp only [hw, returns, Option.any_some] at h
        split at h
        · next fits =>
          cases h
          rw [← hw]
          exact .direct hc reads returns fun _ ↦ fits
        · cases h
  · intro h
    cases h with
    | direct plain reads returns fits =>
      simp only [plain, reads, bind, Except.bind]
      cases hw : slot.writer with
      | none => rfl
      | some writer => simp [returns, fits (by simp [hw])]
    | @chained _ chaining _ _ n chains names outside compiled reads =>
      have nested : s.chained slot.element chaining slot.type = .ok n :=
        s.chained_eq_ok_iff.mpr ⟨_, names, outside, compiled⟩
      simp only [chains, nested, reads, bind, Except.bind]

/-- A declaration has a binding exactly when everything that it names is there. -/
theorem binding_eq_ok_iff {d : Declaration} {b : Binding} : s.binding d = .ok b ↔ s.Binds d b := by
  cases d with
  | computed combinator synthesis => exact s.synthetic_eq_ok_iff
  | slot slot => exact s.slotBinding_eq_ok_iff

/-- The bindings of a target have distinct names. -/
theorem nodup_names_of_bindings {bound : Table Binding} (h : s.bindings = .ok bound) :
    bound.names.Nodup := by
  rw [bindings_eq_gather] at h
  have start : (Table.names ([] : Table Binding)).Nodup := List.nodup_nil
  apply foldlM_keeps (P := fun t : Table Binding ↦ t.names.Nodup) _ start h
  intro d _ t t' distinct step
  obtain ⟨b, -, step⟩ := bind_eq_ok.mp step
  cases step
  exact Table.nodup_names_put distinct d.key b

/-- The binding under a key is that of the key's owner. -/
theorem binds_owner_of_bindings {bound : Table Binding} (h : s.bindings = .ok bound)
    {key : String} {b : Binding} (hb : bound.find? key = some b) :
    ∃ d, s.target.owner? key = some d ∧ s.Binds d b := by
  rw [bindings_eq_gather] at h
  have found := find?_gather Table.find?_put h key
  rw [s.target.lastOf_declarations] at found
  cases ho : s.target.owner? key with
  | none =>
    rw [ho, hb] at found
    cases found
  | some d =>
    rw [ho, hb] at found
    obtain ⟨b', hb', heq⟩ := found
    cases heq
    exact ⟨d, rfl, s.binding_eq_ok_iff.mp hb'⟩

/-- Each entry is the binding of the owner of its key. -/
theorem binds_owner_of_mem {bound : Table Binding} (h : s.bindings = .ok bound) {key : String}
    {b : Binding} (member : (key, b) ∈ bound) :
    ∃ d, s.target.owner? key = some d ∧ s.Binds d b :=
  s.binds_owner_of_bindings h
    ((Table.mem_iff_find?_eq_some (s.nodup_names_of_bindings h)).mp member)

/-- A target has bindings exactly when each declaration that counts has one. -/
theorem bindings_isOk_iff :
    (∃ bound, s.bindings = .ok bound) ↔ ∀ d, s.target.Live d → ∃ b, s.Binds d b := by
  simp only [bindings_eq_gather, gather_isOk_iff, s.target.mem_declarations, binding_eq_ok_iff]

end Scope

end Fieldwise
