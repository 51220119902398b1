import Mathlib.Data.List.Forall2
import Mathlib.Data.List.Perm.Subperm
import Fieldwise.Proofs.Erasure

/-!
# Equality of values

Equality is symmetric and transitive, and a value equals itself unless it contains an undefined
decimal. Records are compared name by name, so the order of their fields makes no difference, at
whatever depth it is changed. That fields are found by name is also why the names of a record have
to be distinct here, as those of every record that is built field by field are.
-/

namespace Fieldwise

/-- Numeric equality is transitive. -/
theorem Decimal.agrees_trans {a b c : Decimal} (first : a.agrees b = true)
    (second : b.agrees c = true) : a.agrees c = true := by
  simp only [agrees, Bool.and_eq_true, Bool.or_eq_true, beq_iff_eq] at first second ⊢
  obtain ⟨⟨number, -⟩, same | zeros⟩ := first
  · obtain rfl : a = b := congrArg mk same
    exact second
  · obtain ⟨⟨-, number'⟩, same' | zeros'⟩ := second
    · obtain rfl : b = c := congrArg mk same'
      exact ⟨⟨number, number'⟩, .inr zeros⟩
    · exact ⟨⟨number, number'⟩, .inr ⟨zeros.1, zeros'.2⟩⟩

namespace Value

/-- The values that a value is made of: its items, or the values of its entries or fields. -/
def parts : Value → List Value
  | list items => items
  | map entries => entries.map Prod.snd
  | record _ fields => fields.map Prod.snd
  | _ => []

/-- A value contains itself and what its parts contain. -/
inductive Contains : Value → Value → Prop
  | self (v : Value) : v.Contains v
  | part {v a inner : Value} (member : a ∈ v.parts) (within : a.Contains inner) : v.Contains inner

/-- Every record that a value contains has distinct field names. -/
def NamesDistinct (v : Value) : Prop :=
  ∀ schema fields, v.Contains (record schema fields) → (Table.names fields).Nodup

/-- No decimal that a value contains is undefined. -/
def Defined (v : Value) : Prop := ∀ d, v.Contains (decimal d) → d.isNaN = false

/-- Values of one kind. Records are of one kind whatever their schemas. -/
inductive SameKind : Value → Value → Prop
  | null : SameKind null null
  | boolean (a b : Bool) : SameKind (boolean a) (boolean b)
  | integer (a b : Int64) : SameKind (integer a) (integer b)
  | decimal (a b : Decimal) : SameKind (decimal a) (decimal b)
  | string (a b : String) : SameKind (string a) (string b)
  | list (as bs : List Value) : SameKind (list as) (list bs)
  | map (as bs : List (String × Value)) : SameKind (map as) (map bs)
  | record (s t : String) (as bs : List (String × Value)) : SameKind (record s as) (record t bs)

/-- One value is another but for one record that it contains, which has its fields in another
order. -/
inductive Reordered : Value → Value → Prop
  | here (schema : String) {fields fields' : List (String × Value)} (perm : fields.Perm fields') :
      Reordered (record schema fields) (record schema fields')
  | item (before after : List Value) {a b : Value} (inner : Reordered a b) :
      Reordered (list (before ++ a :: after)) (list (before ++ b :: after))
  | entry (before after : List (String × Value)) (key : String) {a b : Value}
      (inner : Reordered a b) :
      Reordered (map (before ++ (key, a) :: after)) (map (before ++ (key, b) :: after))
  | field (schema : String) (before after : List (String × Value)) (name : String) {a b : Value}
      (inner : Reordered a b) :
      Reordered (record schema (before ++ (name, a) :: after))
        (record schema (before ++ (name, b) :: after))

/-- What a value contains is the value itself or in one of its parts. -/
theorem contains_iff {v inner : Value} :
    v.Contains inner ↔ inner = v ∨ ∃ a ∈ v.parts, a.Contains inner := by
  constructor
  · intro h
    cases h with
    | self => exact .inl rfl
    | part member within => exact .inr ⟨_, member, within⟩
  · rintro (rfl | ⟨a, member, within⟩)
    · exact .self _
    · exact .part member within

/-- Field names are distinct throughout a value if they are in the value itself and throughout its
parts. -/
theorem namesDistinct_iff {v : Value} :
    v.NamesDistinct ↔ (∀ schema fields, v = record schema fields → (Table.names fields).Nodup) ∧
      ∀ a ∈ v.parts, a.NamesDistinct := by
  constructor
  · intro h
    refine ⟨fun schema fields same ↦ h schema fields (same ▸ .self v), ?_⟩
    exact fun a member schema fields within ↦ h schema fields (.part member within)
  · rintro ⟨own, nested⟩ schema fields contained
    rcases contains_iff.mp contained with same | ⟨a, member, within⟩
    · exact own schema fields same.symm
    · exact nested a member schema fields within

/-- A value is defined if it is no undefined decimal and its parts are defined. -/
theorem defined_iff {v : Value} :
    v.Defined ↔ (∀ d, v = decimal d → d.isNaN = false) ∧ ∀ a ∈ v.parts, a.Defined := by
  constructor
  · intro h
    refine ⟨fun d same ↦ h d (same ▸ .self v), ?_⟩
    exact fun a member d within ↦ h d (.part member within)
  · rintro ⟨own, nested⟩ d contained
    rcases contains_iff.mp contained with same | ⟨a, member, within⟩
    · exact own d same.symm
    · exact nested a member d within

/-! ### Comparison of items, entries and fields -/

section

variable {α : Type} {R : α → α → Prop} {as bs cs : List α}

private theorem forall₂_trans (step : ∀ a ∈ as, ∀ b c, R a b → R b c → R a c)
    (first : List.Forall₂ R as bs) (second : List.Forall₂ R bs cs) : List.Forall₂ R as cs := by
  induction first generalizing cs with
  | nil => exact second
  | cons head tail ih =>
    obtain ⟨here, later⟩ := List.forall_mem_cons.mp step
    cases second with
    | cons head' tail' => exact .cons (here _ _ head head') (ih later tail')

private theorem forall₂_symm (step : ∀ a ∈ as, ∀ b ∈ bs, R a b → R b a)
    (h : List.Forall₂ R as bs) : List.Forall₂ R bs as := by
  induction h with
  | nil => exact .nil
  | cons head tail ih =>
    refine .cons (step _ List.mem_cons_self _ List.mem_cons_self head) (ih fun a member b ↦ ?_)
    exact fun member' ↦ step a (.tail _ member) b (.tail _ member')

end

/-- Lists agree when their items do, one by one. -/
theorem agreesItems_iff {as bs : List Value} :
    agreesItems as bs = true ↔ List.Forall₂ (fun a b ↦ a.agrees b = true) as bs := by
  induction as generalizing bs with
  | nil => cases bs <;> simp [agreesItems]
  | cons a rest ih => cases bs <;> simp [agreesItems, ih]

/-- Maps agree when their entries do, one by one and under the same names. -/
theorem agreesEntries_iff {as bs : List (String × Value)} :
    agreesEntries as bs = true ↔
      List.Forall₂ (fun a b ↦ a.1 = b.1 ∧ a.2.agrees b.2 = true) as bs := by
  induction as generalizing bs with
  | nil => cases bs <;> simp [agreesEntries]
  | cons a rest ih =>
    cases bs with
    | nil => simp [agreesEntries]
    | cons b others => rw [agreesEntries, Bool.and_eq_true, Bool.and_eq_true, beq_iff_eq, ih,
        List.forall₂_cons]

/-- The fields of one record agree with those of another when each has one of its name there that it
agrees with. -/
theorem agreesFields_iff {as bs : List (String × Value)} :
    agreesFields as bs = true ↔
      ∀ a ∈ as, ∃ b, Table.find? bs a.1 = some b ∧ a.2.agrees b = true := by
  induction as with
  | nil => simp [agreesFields]
  | cons a rest ih =>
    rw [agreesFields, Bool.and_eq_true, ih, List.forall_mem_cons]
    cases Table.find? bs a.1 <;> simp

/-- How two values come to be equal: one case for each kind of value. -/
inductive Matches : Value → Value → Prop
  | null : Matches null null
  | boolean (b : Bool) : Matches (boolean b) (boolean b)
  | integer (i : Int64) : Matches (integer i) (integer i)
  | decimal {a b : Decimal} (same : a.agrees b = true) : Matches (decimal a) (decimal b)
  | string (s : String) : Matches (string s) (string s)
  | list {as bs : List Value} (same : List.Forall₂ (fun a b ↦ a.agrees b = true) as bs) :
      Matches (list as) (list bs)
  | map {as bs : List (String × Value)}
      (same : List.Forall₂ (fun a b ↦ a.1 = b.1 ∧ a.2.agrees b.2 = true) as bs) :
      Matches (map as) (map bs)
  | record (schema : String) {as bs : List (String × Value)} (count : as.length = bs.length)
      (same : ∀ a ∈ as, ∃ b, Table.find? bs a.1 = some b ∧ a.2.agrees b = true) :
      Matches (record schema as) (record schema bs)

/-- Values agree exactly when they match. -/
theorem agrees_iff_matches {a b : Value} : a.agrees b = true ↔ a.Matches b := by
  constructor
  · intro h
    cases a <;> cases b <;>
      simp only [agrees, Bool.and_eq_true, beq_iff_eq, agreesItems_iff, agreesEntries_iff,
        agreesFields_iff, reduceCtorEq] at h
    case null.null => exact .null
    case boolean.boolean => exact h ▸ .boolean _
    case integer.integer => exact h ▸ .integer _
    case decimal.decimal => exact .decimal h
    case string.string => exact h ▸ .string _
    case list.list => exact .list h
    case map.map => exact .map h
    case record.record =>
      obtain ⟨⟨rfl, count⟩, same⟩ := h
      exact .record _ count same
  · intro h
    cases h <;>
      simp only [agrees, beq_self_eq_true, Bool.true_and, Bool.and_eq_true, beq_iff_eq,
        agreesItems_iff, agreesEntries_iff, agreesFields_iff]
    case decimal same => exact same
    case list same => exact same
    case map same => exact same
    case record count same => exact ⟨count, same⟩

/-- Records are equal when they have one schema and hold equal values under every name, or both
none. This takes distinct names: as many fields, with one of each name on the left, are then all
there are. -/
theorem agrees_record_iff {s t : String} {as bs : Table Value} (distinct : as.names.Nodup)
    (distinct' : bs.names.Nodup) :
    (record s as).agrees (record t bs) = true ↔
      s = t ∧ ∀ name, Option.Rel (fun a b ↦ a.agrees b = true) (as.find? name) (bs.find? name) := by
  simp only [agrees, Bool.and_eq_true, beq_iff_eq, agreesFields_iff, and_assoc]
  apply and_congr_right'
  constructor
  · rintro ⟨count, same⟩ name
    have subset : as.names ⊆ bs.names := by
      intro name listed
      obtain ⟨a, member, rfl⟩ := List.mem_map.mp listed
      obtain ⟨b, found, -⟩ := same a member
      exact Table.mem_names_iff.mpr (by rw [found, Option.isSome_some])
    have perm : as.names.Perm bs.names :=
      (List.subperm_of_subset distinct subset).perm_of_length_le (by simp [Table.names, count])
    cases held : as.find? name with
    | some a =>
      obtain ⟨b, found, equal⟩ := same (name, a) (Table.mem_of_find?_eq_some held)
      exact found ▸ .some equal
    | none =>
      have unlisted : name ∉ bs.names := by
        rw [← perm.mem_iff, Table.mem_names_iff, held]
        exact Bool.false_ne_true
      rw [Table.mem_names_iff, Bool.not_eq_true, Option.isSome_eq_false_iff,
        Option.isNone_iff_eq_none] at unlisted
      rw [unlisted]
      exact .none
  · intro same
    have perm : as.names.Perm bs.names := by
      refine (List.perm_ext_iff_of_nodup distinct distinct').mpr fun name ↦ ?_
      rw [Table.mem_names_iff, Table.mem_names_iff]
      have here := same name
      generalize as.find? name = held, bs.find? name = found at here ⊢
      cases here <;> rfl
    refine ⟨by simpa [Table.names] using perm.length_eq, fun a member ↦ ?_⟩
    have here := same a.1
    rw [(Table.mem_iff_find?_eq_some distinct).mp member] at here
    cases found : bs.find? a.1 with
    | none => rw [found] at here; cases here
    | some b =>
      rw [found] at here
      cases here with
      | some equal => exact ⟨b, rfl, equal⟩

/-- A record equals itself when each of its fields does, since their names are distinct. -/
theorem agrees_record_self_iff {schema : String} {fields : List (String × Value)}
    (distinct : (Table.names fields).Nodup) :
    (record schema fields).agrees (record schema fields) = true ↔
      ∀ a ∈ fields, a.2.agrees a.2 = true := by
  simp only [agrees, beq_self_eq_true, Bool.true_and, agreesFields_iff]
  refine forall₂_congr fun a member ↦ ?_
  rw [(Table.mem_iff_find?_eq_some distinct).mp member]
  simp

/-- A value equals itself exactly when it is defined. -/
theorem agrees_self_iff {v : Value} (distinct : v.NamesDistinct) :
    v.agrees v = true ↔ v.Defined := by
  induction v using nested_induction with
  | null | boolean | integer | string =>
    rw [agrees, defined_iff]
    simp [parts]
  | decimal d =>
    rw [agrees, defined_iff, Decimal.agrees_self]
    simp [parts]
  | list items ih =>
    obtain ⟨-, nested⟩ := namesDistinct_iff.mp distinct
    rw [agrees, agreesItems_iff, List.forall₂_same, defined_iff]
    simp only [reduceCtorEq, false_implies, implies_true, true_and, parts]
    exact forall₂_congr fun a member ↦ ih a member (nested a member)
  | map entries ih =>
    obtain ⟨-, nested⟩ := namesDistinct_iff.mp distinct
    rw [agrees, agreesEntries_iff, List.forall₂_same, defined_iff]
    simp only [reduceCtorEq, false_implies, implies_true, true_and, parts, List.forall_mem_map]
      at nested ⊢
    exact forall₂_congr fun a member ↦ ih a member (nested a member)
  | record schema fields ih =>
    obtain ⟨own, nested⟩ := namesDistinct_iff.mp distinct
    rw [agrees_record_self_iff (own schema fields rfl), defined_iff]
    simp only [reduceCtorEq, false_implies, implies_true, true_and, parts, List.forall_mem_map]
      at nested ⊢
    exact forall₂_congr fun a member ↦ ih a member (nested a member)

/-- Equal values are of one kind. -/
theorem sameKind_of_agrees {a b : Value} (h : a.agrees b = true) : a.SameKind b := by
  cases agrees_iff_matches.mp h <;> constructor

/-- Equality is transitive. -/
theorem agrees_trans {a b c : Value} (first : a.agrees b = true) (second : b.agrees c = true) :
    a.agrees c = true := by
  induction a using nested_induction generalizing b c with
  | null | boolean | integer | string =>
    cases agrees_iff_matches.mp first
    exact second
  | decimal d =>
    cases agrees_iff_matches.mp first with
    | decimal same =>
      cases agrees_iff_matches.mp second with
      | decimal same' => exact agrees_iff_matches.mpr (.decimal (Decimal.agrees_trans same same'))
  | list items ih =>
    cases agrees_iff_matches.mp first with
    | list same =>
      cases agrees_iff_matches.mp second with
      | list same' =>
        apply agrees_iff_matches.mpr (.list (forall₂_trans _ same same'))
        exact fun a member b c ↦ ih a member
  | map entries ih =>
    cases agrees_iff_matches.mp first with
    | map same =>
      cases agrees_iff_matches.mp second with
      | map same' =>
        apply agrees_iff_matches.mpr (.map (forall₂_trans _ same same'))
        rintro a member b c ⟨key, value⟩ ⟨key', value'⟩
        exact ⟨key.trans key', ih a member value value'⟩
  | record schema fields ih =>
    cases agrees_iff_matches.mp first with
    | record _ count same =>
      cases agrees_iff_matches.mp second with
      | record _ count' same' =>
        apply agrees_iff_matches.mpr (.record schema (count.trans count') _)
        intro a member
        obtain ⟨b, found, value⟩ := same a member
        obtain ⟨c, found', value'⟩ := same' (a.1, b) (Table.mem_of_find?_eq_some found)
        exact ⟨c, found', ih a member value value'⟩

/-- Equality is symmetric. -/
theorem agrees_symm {a b : Value} (distinct : a.NamesDistinct) (distinct' : b.NamesDistinct)
    (h : a.agrees b = true) : b.agrees a = true := by
  induction a using nested_induction generalizing b with
  | null | boolean | integer | string =>
    cases agrees_iff_matches.mp h
    exact h
  | decimal d =>
    cases agrees_iff_matches.mp h with
    | decimal same =>
      rw [Decimal.agrees_comm] at same
      exact agrees_iff_matches.mpr (.decimal same)
  | list items ih =>
    cases agrees_iff_matches.mp h with
    | list same =>
      obtain ⟨-, nested⟩ := namesDistinct_iff.mp distinct
      obtain ⟨-, nested'⟩ := namesDistinct_iff.mp distinct'
      apply agrees_iff_matches.mpr (.list (forall₂_symm _ same))
      exact fun a member b member' ↦ ih a member (nested a member) (nested' b member')
  | map entries ih =>
    cases agrees_iff_matches.mp h with
    | map same =>
      obtain ⟨-, nested⟩ := namesDistinct_iff.mp distinct
      obtain ⟨-, nested'⟩ := namesDistinct_iff.mp distinct'
      apply agrees_iff_matches.mpr (.map (forall₂_symm _ same))
      rintro a member b member' ⟨key, value⟩
      refine ⟨key.symm, ih a member (nested a.2 ?_) (nested' b.2 ?_) value⟩
      · exact List.mem_map_of_mem member
      · exact List.mem_map_of_mem member'
  | record schema fields ih =>
    cases agrees_iff_matches.mp h with
    | record _ _ _ =>
      obtain ⟨own, nested⟩ := namesDistinct_iff.mp distinct
      obtain ⟨own', nested'⟩ := namesDistinct_iff.mp distinct'
      rw [agrees_record_iff (own _ _ rfl) (own' _ _ rfl)] at h
      rw [agrees_record_iff (own' _ _ rfl) (own _ _ rfl)]
      refine ⟨rfl, fun name ↦ ?_⟩
      have same := h.2 name
      cases held : Table.find? fields name <;> cases held' : Table.find? _ name <;>
        rw [held, held'] at same <;> cases same
      case none.none.none => exact .none
      case some.some.some a b equal =>
        have member := Table.mem_of_find?_eq_some held
        have member' := Table.mem_of_find?_eq_some held'
        refine .some (ih (name, a) member (nested a ?_) (nested' b ?_) equal)
        · exact List.mem_map_of_mem member
        · exact List.mem_map_of_mem member'

private theorem forall₂_replace {α β : Type} {R : α → β → Prop} {a b : α}
    (same : ∀ u, R a u ↔ R b u) (before after : List α) (others : List β) :
    List.Forall₂ R (before ++ a :: after) others ↔
      List.Forall₂ R (before ++ b :: after) others := by
  induction before generalizing others with
  | nil => simp only [List.nil_append, List.forall₂_cons_left_iff, same]
  | cons first rest ih => simp only [List.cons_append, List.forall₂_cons_left_iff, ih]

/-- A value with a record reordered equals the same values. -/
theorem Reordered.agrees_eq {v w : Value} (h : v.Reordered w) (u : Value) :
    v.agrees u = w.agrees u := by
  rw [Bool.eq_iff_iff]
  induction h generalizing u with
  | here schema perm =>
    cases u with
    | record t others =>
      simp only [agrees, Bool.and_eq_true, agreesFields_iff, perm.length_eq, perm.mem_iff]
    | _ => simp only [agrees]
  | item before after inner ih =>
    cases u with
    | list others =>
      rw [agrees, agrees, agreesItems_iff, agreesItems_iff]
      exact forall₂_replace ih before after others
    | _ => simp only [agrees]
  | entry before after key inner ih =>
    cases u with
    | map others =>
      rw [agrees, agrees, agreesEntries_iff, agreesEntries_iff]
      apply forall₂_replace
      exact fun b ↦ and_congr_right fun _ ↦ ih b.2
    | _ => simp only [agrees]
  | field schema before after name inner ih =>
    cases u with
    | record t others =>
      simp only [agrees, Bool.and_eq_true, agreesFields_iff, List.length_append, List.length_cons,
        List.forall_mem_append, List.forall_mem_cons, ih]
    | _ => simp only [agrees]

/-- Reordering a record keeps field names distinct. -/
theorem Reordered.namesDistinct {v w : Value} (h : v.Reordered w) (distinct : v.NamesDistinct) :
    w.NamesDistinct := by
  induction h with
  | here schema perm =>
    obtain ⟨own, nested⟩ := namesDistinct_iff.mp distinct
    rw [namesDistinct_iff]
    refine ⟨?_, fun a member ↦ nested a ((perm.map Prod.snd).mem_iff.mpr member)⟩
    rintro _ _ ⟨⟩
    exact (perm.map Prod.fst).nodup_iff.mp (own _ _ rfl)
  | item before after inner ih =>
    rw [namesDistinct_iff] at distinct ⊢
    simp only [parts, List.forall_mem_append, List.forall_mem_cons] at distinct ⊢
    obtain ⟨-, earlier, here, later⟩ := distinct
    exact ⟨nofun, earlier, ih here, later⟩
  | entry before after key inner ih =>
    rw [namesDistinct_iff] at distinct ⊢
    simp only [parts, List.map_append, List.map_cons, List.forall_mem_append,
      List.forall_mem_cons] at distinct ⊢
    obtain ⟨-, earlier, here, later⟩ := distinct
    exact ⟨nofun, earlier, ih here, later⟩
  | field schema before after name inner ih =>
    rw [namesDistinct_iff] at distinct ⊢
    simp only [parts, List.map_append, List.map_cons, List.forall_mem_append,
      List.forall_mem_cons] at distinct ⊢
    obtain ⟨own, earlier, here, later⟩ := distinct
    refine ⟨?_, earlier, ih here, later⟩
    rintro _ _ ⟨⟩
    simpa [Table.names] using own _ _ rfl

/-- Equality of values is symmetric and transitive, and a value equals itself exactly when it is
defined. One of its records may be reordered without changing which values it equals, on either
side: records are compared name by name. Values of different kinds are never equal. -/
theorem equality_ignores_field_order :
    (∀ a b : Value, a.NamesDistinct → b.NamesDistinct → a.agrees b = b.agrees a) ∧
      (∀ a b c : Value, a.agrees b = true → b.agrees c = true → a.agrees c = true) ∧
      (∀ v : Value, v.NamesDistinct →
        (v.agrees v = true ↔ ∀ d, v.Contains (decimal d) → d.isNaN = false)) ∧
      (∀ v w : Value, v.Reordered w → v.NamesDistinct → ∀ u : Value, u.NamesDistinct →
        v.agrees u = w.agrees u ∧ u.agrees v = u.agrees w) ∧
      (∀ (s t : String) (as bs : Table Value), as.names.Nodup → bs.names.Nodup →
        ((record s as).agrees (record t bs) = true ↔ s = t ∧
          ∀ name, Option.Rel (fun a b ↦ a.agrees b = true) (as.find? name) (bs.find? name))) ∧
      ∀ a b : Value, ¬ a.SameKind b → a.agrees b = false := by
  have comm (a b : Value) (distinct : a.NamesDistinct) (distinct' : b.NamesDistinct) :
      a.agrees b = b.agrees a :=
    Bool.eq_iff_iff.mpr ⟨agrees_symm distinct distinct', agrees_symm distinct' distinct⟩
  refine ⟨comm, fun a b c ↦ agrees_trans, fun v ↦ agrees_self_iff, ?_,
    fun s t as bs ↦ agrees_record_iff, ?_⟩
  · intro v w reordered distinct u distinct'
    have left := reordered.agrees_eq u
    refine ⟨left, ?_⟩
    rw [comm u v distinct' distinct, left, comm w u (reordered.namesDistinct distinct) distinct']
  · intro a b apart
    rw [Bool.eq_false_iff]
    exact fun equal ↦ apart (sameKind_of_agrees equal)

/-- A shelf with one crate, of which the weight comes before the label. -/
def shelf (weight : Decimal) : Value :=
  .list [.record "Crate" [("weight", .decimal weight), ("label", .string "fragile")]]

/-- The shelf with the label of the crate before its weight. -/
def turnedShelf (weight : Decimal) : Value :=
  .list [.record "Crate" [("label", .string "fragile"), ("weight", .decimal weight)]]

private theorem namesDistinct_shelf (weight : Decimal) : (shelf weight).NamesDistinct := by
  simp [@namesDistinct_iff (.list _), @namesDistinct_iff (.record _ _),
    @namesDistinct_iff (.decimal _), @namesDistinct_iff (.string _), shelf, parts]

private theorem contains_shelf_iff {weight d : Decimal} :
    (shelf weight).Contains (.decimal d) ↔ d = weight := by
  simp [@contains_iff (.list _), @contains_iff (.record _ _),
    @contains_iff (.decimal _), @contains_iff (.string _), shelf, parts]

private theorem reordered_shelf (weight : Decimal) :
    (shelf weight).Reordered (turnedShelf weight) :=
  .item [] [] (.here "Crate" (.swap _ _ []))

/-- A shelf equals the shelf with its crate turned, unless the weight is undefined; then it does not
equal itself, nor does the turned one equal it. -/
theorem equality_ignores_field_order_shelf :
    (∀ weight, (shelf weight).NamesDistinct ∧ (shelf weight).Reordered (turnedShelf weight)) ∧
      (turnedShelf (.zero true)).agrees (shelf (.zero true)) = true ∧
      (turnedShelf (.zero true)).agrees (turnedShelf (.zero true)) = true ∧
      (shelf .undefined).agrees (shelf .undefined) = false ∧
      (turnedShelf .undefined).agrees (shelf .undefined) = false ∧
      (integer 1).agrees (decimal (.ofInt 1)) = false := by
  obtain ⟨comm, trans, self, reorder, -, kinds⟩ := equality_ignores_field_order
  have distinct := namesDistinct_shelf
  have turned (weight : Decimal) := reorder _ _ (reordered_shelf weight) (distinct weight) _
    (distinct weight)
  have light : (shelf (.zero true)).agrees (shelf (.zero true)) = true := by
    rw [self _ (distinct _)]
    rintro d contained
    rw [contains_shelf_iff.mp contained]
    rfl
  have unknown : (shelf .undefined).agrees (shelf .undefined) = false := by
    rw [Bool.eq_false_iff, ne_eq, self _ (distinct _)]
    intro defined
    exact absurd (defined .undefined (contains_shelf_iff.mpr rfl)) (by decide)
  have equal : (turnedShelf (.zero true)).agrees (shelf (.zero true)) = true :=
    (turned _).1.symm.trans light
  refine ⟨fun weight ↦ ⟨distinct weight, reordered_shelf weight⟩, equal, ?_, unknown, ?_, ?_⟩
  · apply trans _ _ _ equal
    rw [comm _ _ (distinct _) ((reordered_shelf _).namesDistinct (distinct _))]
    exact equal
  · exact (turned _).1.symm.trans unknown
  · exact kinds _ _ nofun

end Value

end Fieldwise
