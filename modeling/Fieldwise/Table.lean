/-!
# Tables

A table lists its entries under names. The first entry of a name is the one that counts, and each
name is meant to occur once. `put` keeps the order of first insertion, as records and mappings do;
`place` keeps the names ascending, as maps do. Each operation is described through `find?` and
`names`.
-/

namespace Fieldwise

/-- Entries under names, in a meaningful order. -/
abbrev Table (α : Type) := List (String × α)

namespace Table

variable {α β : Type}

/-- The first entry under a name. -/
def find? : Table α → String → Option α
  | [], _ => none
  | (key, value) :: rest, name => if key = name then some value else find? rest name

/-- The names in order. -/
def names (t : Table α) : List String := t.map Prod.fst

/-- Presence of a name. -/
def has (t : Table α) (name : String) : Bool := (t.find? name).isSome

/-- Set the entry of a name, in its present position or at the end if it is new. -/
def put : Table α → String → α → Table α
  | [], name, value => [(name, value)]
  | (key, old) :: rest, name, value =>
    if key = name then (key, value) :: rest else (key, old) :: put rest name value

/-- Set the entry of a name, in its present position or before the first greater name. -/
def place : Table α → String → α → Table α
  | [], name, value => [(name, value)]
  | (key, old) :: rest, name, value =>
    if key = name then (key, value) :: rest
    else if name < key then (name, value) :: (key, old) :: rest
    else (key, old) :: place rest name value

/-- The entries with ascending names; of several entries under one name the last counts. -/
def sorted (entries : List (String × α)) : Table α :=
  entries.foldl (fun t entry ↦ place t entry.1 entry.2) []

/-- The names ascend, so that each occurs once. -/
def Ascending (t : Table α) : Prop := t.names.Pairwise (· < ·)

/-- Each entry transformed, with its name and position kept. -/
def mapEntries (f : α → β) (t : Table α) : Table β := t.map fun entry ↦ (entry.1, f entry.2)

/-- Nothing is found in an empty table. -/
@[simp] theorem find?_nil (name : String) : find? ([] : Table α) name = none := rfl

/-- An empty table has no names. -/
@[simp] theorem names_nil : names ([] : Table α) = [] := rfl

/-- The name of the first entry comes first. -/
@[simp] theorem names_cons (entry : String × α) (t : Table α) :
    names (entry :: t) = entry.1 :: names t := rfl

/-- A name is listed exactly when it has an entry. -/
theorem mem_names_iff {t : Table α} {name : String} :
    name ∈ t.names ↔ (t.find? name).isSome := by
  induction t with
  | nil => simp
  | cons entry rest ih =>
    obtain ⟨key, value⟩ := entry
    by_cases h : key = name
    · simp [find?, h]
    · have h' : ¬ name = key := fun e ↦ h e.symm
      simp [find?, h, h', ih]

/-- The entry found is one of the entries. -/
theorem mem_of_find?_eq_some {t : Table α} {name : String} {value : α}
    (h : t.find? name = some value) : (name, value) ∈ t := by
  induction t with
  | nil => simp at h
  | cons entry rest ih =>
    obtain ⟨key, old⟩ := entry
    by_cases hk : key = name
    · simp_all [find?]
    · simp only [find?, hk, ↓reduceIte] at h
      exact List.mem_cons_of_mem _ (ih h)

/-- Putting a value changes what is found under its name only. -/
@[simp] theorem find?_put (t : Table α) (name : String) (value : α) (other : String) :
    (t.put name value).find? other = if name = other then some value else t.find? other := by
  induction t with
  | nil => rfl
  | cons entry rest ih =>
    obtain ⟨key, old⟩ := entry
    by_cases hk : key = name
    · subst hk
      by_cases ho : key = other <;> simp [put, find?, ho]
    · by_cases ho : key = other
      · subst ho
        have hn : ¬ name = key := fun e ↦ hk e.symm
        simp [put, find?, hk, hn]
      · simp [put, find?, hk, ho, ih]

/-- Setting an entry keeps the names in order and appends a new name. -/
theorem names_put (t : Table α) (name : String) (value : α) :
    (t.put name value).names = if name ∈ t.names then t.names else t.names ++ [name] := by
  induction t with
  | nil => rfl
  | cons entry rest ih =>
    obtain ⟨key, old⟩ := entry
    by_cases hk : key = name
    · simp [put, hk]
    · have hk' : ¬ name = key := fun e ↦ hk e.symm
      simp only [put, hk, ↓reduceIte, names_cons, ih, List.mem_cons, hk', false_or]
      split <;> rfl

/-- Placing a value changes what is found under its name only. -/
@[simp] theorem find?_place (t : Table α) (name : String) (value : α) (other : String) :
    (t.place name value).find? other = if name = other then some value else t.find? other := by
  induction t with
  | nil => rfl
  | cons entry rest ih =>
    obtain ⟨key, old⟩ := entry
    by_cases hk : key = name
    · subst hk
      by_cases ho : key = other <;> simp [place, find?, ho]
    · by_cases hlt : name < key
      · simp [place, find?, hk, hlt]
      · by_cases ho : key = other
        · subst ho
          have hn : ¬ name = key := fun e ↦ hk e.symm
          simp [place, find?, hk, hlt, hn]
        · simp [place, find?, hk, hlt, ho, ih]

/-- A placed name is listed beside the names that were there. -/
theorem mem_names_place {t : Table α} {name : String} {value : α} {other : String} :
    other ∈ (t.place name value).names ↔ other = name ∨ other ∈ t.names := by
  induction t with
  | nil => simp [place]
  | cons entry rest ih =>
    obtain ⟨key, old⟩ := entry
    by_cases hk : key = name
    · subst hk
      simp [place]
    · by_cases hlt : name < key
      · simp [place, hk, hlt]
      · simp only [place, hk, hlt, ↓reduceIte, names_cons, List.mem_cons, ih]
        exact or_left_comm

/-- Placing an entry keeps the names ascending. -/
theorem Ascending.place {t : Table α} (h : t.Ascending) (name : String) (value : α) :
    (t.place name value).Ascending := by
  unfold Ascending at *
  induction t with
  | nil => simp [Table.place]
  | cons entry rest ih =>
    obtain ⟨key, old⟩ := entry
    obtain ⟨hrest, htail⟩ := List.pairwise_cons.1 h
    by_cases hk : key = name
    · simpa [Table.place, hk] using h
    · by_cases hlt : name < key
      · simp only [Table.place, hk, hlt, ↓reduceIte, names_cons]
        refine List.pairwise_cons.2 ⟨fun other member ↦ ?_, h⟩
        rcases List.mem_cons.1 member with rfl | member
        · exact hlt
        · exact String.lt_trans hlt (hrest other member)
      · simp only [Table.place, hk, hlt, ↓reduceIte, names_cons]
        refine List.pairwise_cons.2 ⟨fun other member ↦ ?_, ih htail⟩
        rcases mem_names_place.1 member with rfl | member
        · exact Std.lt_of_le_of_ne (String.not_lt.1 hlt) hk
        · exact hrest other member

/-- Sorted entries have ascending names. -/
theorem ascending_sorted (entries : List (String × α)) : (sorted entries).Ascending := by
  have step (entries : List (String × α)) : ∀ t : Table α, t.Ascending →
      (entries.foldl (fun t entry ↦ Table.place t entry.1 entry.2) t).Ascending := by
    induction entries with
    | nil => exact fun _ h ↦ h
    | cons entry rest ih => exact fun t h ↦ ih _ (h.place entry.1 entry.2)
  exact step entries [] List.Pairwise.nil

/-- Transforming the entries commutes with looking one up. -/
theorem find?_mapEntries (f : α → β) (t : Table α) (name : String) :
    (mapEntries f t).find? name = (t.find? name).map f := by
  induction t with
  | nil => rfl
  | cons entry rest ih =>
    obtain ⟨key, old⟩ := entry
    by_cases hk : key = name
    · simp [mapEntries, find?, hk]
    · simpa [mapEntries, find?, hk] using ih

end Table

end Fieldwise
