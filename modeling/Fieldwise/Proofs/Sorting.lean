import Mathlib.Data.List.Nodup
import Fieldwise.Proofs.Gathering

/-!
# Sorted tables

What sorting makes of a list of entries: of each name the last entry, names ascending. Ascending
tables are determined by what is found in them, so that the order of the given entries shows only
where a name is given twice.
-/

namespace Fieldwise

namespace Table

variable {α β γ : Type}

/-- Ascending names are distinct. -/
theorem Ascending.nodup_names {t : Table α} (h : t.Ascending) : t.names.Nodup := by
  apply List.Pairwise.imp _ h
  intro name other less same
  exact String.lt_irrefl name (same ▸ less)

/-- Entries that are dropped leave the names ascending. -/
theorem Ascending.filter {t : Table α} (h : t.Ascending) (wanted : String × α → Bool) :
    Ascending (List.filter wanted t) :=
  List.Pairwise.sublist (List.filter_sublist.map Prod.fst) h

/-- Tables with ascending names are the same if they have the same entries. -/
theorem Ascending.ext_mem {t u : Table α} (ht : t.Ascending) (hu : u.Ascending)
    (same : ∀ entry, entry ∈ t ↔ entry ∈ u) : t = u := by
  have perm : List.Perm t u :=
    (List.perm_ext_iff_of_nodup ht.nodup_names.of_map hu.nodup_names.of_map).mpr same
  have ht : List.Pairwise (fun a b : String × α ↦ a.1 < b.1) t := List.pairwise_map.mp ht
  have hu : List.Pairwise (fun a b : String × α ↦ a.1 < b.1) u := List.pairwise_map.mp hu
  exact List.Perm.eq_of_pairwise
    (fun _ _ _ _ less greater ↦ absurd less (String.lt_asymm greater)) ht hu perm

/-- Tables with ascending names are the same if the same is found in them. -/
theorem Ascending.ext {t u : Table α} (ht : t.Ascending) (hu : u.Ascending)
    (same : ∀ name, t.find? name = u.find? name) : t = u := by
  apply ht.ext_mem hu
  rintro ⟨name, value⟩
  rw [mem_iff_find?_eq_some ht.nodup_names, mem_iff_find?_eq_some hu.nodup_names, same]

/-- Transforming the entries twice is transforming them once. -/
theorem mapEntries_mapEntries (g : β → γ) (f : α → β) (t : Table α) :
    mapEntries g (mapEntries f t) = mapEntries (g ∘ f) t := by
  simp [mapEntries, Function.comp_def]

/-- Transformations that agree on the entries give the same. -/
theorem mapEntries_congr {f g : α → β} {t : Table α}
    (same : ∀ entry ∈ t, f entry.2 = g entry.2) : mapEntries f t = mapEntries g t := by
  apply List.map_congr_left
  intro entry member
  rw [same entry member]

/-- Transforming the entries by nothing changes nothing. -/
theorem mapEntries_id (t : Table α) : mapEntries id t = t := List.map_id t

private theorem place_mapEntries (f : α → β) (t : Table α) (name : String) (value : α) :
    (mapEntries f t).place name (f value) = mapEntries f (t.place name value) := by
  induction t with
  | nil => rfl
  | cons entry rest ih =>
    obtain ⟨key, old⟩ := entry
    by_cases same : key = name
    · simp [mapEntries, place, same]
    · by_cases before : name < key
      · simp [mapEntries, place, same, before]
      · simpa [mapEntries, place, same, before] using ih

/-- Transforming the entries commutes with sorting them. -/
theorem sorted_mapEntries (f : α → β) (entries : Table α) :
    sorted (mapEntries f entries) = mapEntries f (sorted entries) := by
  -- by induction from the end of the entries, where the last one is placed
  induction entries using List.reverseRecOn with
  | nil => rfl
  | append_singleton rest entry ih =>
    have split : mapEntries f (rest ++ [entry]) = mapEntries f rest ++ [(entry.1, f entry.2)] :=
      List.map_append
    have last {γ : Type} (t : Table γ) (e : String × γ) :
        sorted (t ++ [e]) = (sorted t).place e.1 e.2 := by
      rw [sorted, List.foldl_append]
      rfl
    rw [split, last, last, ih, place_mapEntries]

private theorem mem_of_mem_place {t : Table α} {name : String} {value : α} {entry : String × α}
    (member : entry ∈ t.place name value) : entry = (name, value) ∨ entry ∈ t := by
  induction t with
  | nil => exact .inl (List.mem_singleton.mp member)
  | cons first rest ih =>
    obtain ⟨key, old⟩ := first
    rw [place] at member
    split at member
    · next same =>
      rcases List.mem_cons.mp member with rfl | member
      · exact .inl (congrArg (·, value) same)
      · exact .inr (List.mem_cons_of_mem _ member)
    · split at member
      · exact List.mem_cons.mp member
      · rcases List.mem_cons.mp member with rfl | member
        · exact .inr List.mem_cons_self
        · exact (ih member).imp_right (List.mem_cons_of_mem _)

/-- Sorted entries are among the given ones. -/
theorem mem_of_mem_sorted {entries : Table α} {entry : String × α}
    (member : entry ∈ sorted entries) : entry ∈ entries := by
  induction entries using List.reverseRecOn with
  | nil => cases member
  | append_singleton rest last ih =>
    rw [sorted, List.foldl_append] at member
    rcases mem_of_mem_place member with rfl | member
    · exact List.mem_append_right rest List.mem_cons_self
    · exact List.mem_append_left _ (ih member)

/-- Among sorted entries the last one of each name is found. -/
theorem find?_sorted (entries : Table α) (name : String) :
    (sorted entries).find? name = (lastOf Prod.fst entries name).map Prod.snd := by
  induction entries using List.reverseRecOn with
  | nil => rfl
  | append_singleton rest entry ih =>
    rw [sorted, List.foldl_append, List.foldl_cons, List.foldl_nil, find?_place, lastOf_concat]
    split
    · rfl
    · exact ih

/-- What is found in a table is the value of the first entry of the name. -/
theorem find?_eq_map_find? (t : Table α) (name : String) :
    t.find? name = (List.find? (·.1 == name) t).map Prod.snd := by
  induction t with
  | nil => rfl
  | cons entry rest ih =>
    obtain ⟨key, value⟩ := entry
    by_cases same : key = name
    · simp [find?, same]
    · simpa [find?, same] using ih

/-- Sorting entries with distinct names keeps what is found under each of them. -/
theorem find?_sorted_of_nodup {entries : Table α} (distinct : entries.names.Nodup)
    (name : String) : (sorted entries).find? name = entries.find? name := by
  rw [find?_sorted, lastOf_eq_find? distinct, find?_eq_map_find?]

/-- Sorting entries with distinct names keeps all of them. -/
theorem mem_sorted_iff {entries : Table α} (distinct : entries.names.Nodup)
    {entry : String × α} : entry ∈ sorted entries ↔ entry ∈ entries := by
  obtain ⟨name, value⟩ := entry
  rw [mem_iff_find?_eq_some (ascending_sorted entries).nodup_names, mem_iff_find?_eq_some distinct,
    find?_sorted_of_nodup distinct]

end Table

end Fieldwise
