import Mathlib.Data.List.Induction
import Fieldwise.Table
import Fieldwise.Proofs.Outcome

/-!
# Gathering entries

Bindings, tables and records come about in one way: each item of a list is given a value, or
fails, and the value is set under the item's key. What is then found under a key is the value of
the last item of that key. The laws are stated for any store with a look-up that `set` obeys.
-/

namespace Fieldwise

open Outcome

namespace Table

variable {α : Type}

/-- With distinct names the entries are the ones that can be found. -/
theorem mem_iff_find?_eq_some {t : Table α} (distinct : t.names.Nodup) {name : String}
    {value : α} : (name, value) ∈ t ↔ t.find? name = some value := by
  refine ⟨fun member ↦ ?_, mem_of_find?_eq_some⟩
  induction t with
  | nil => cases member
  | cons entry rest ih =>
    obtain ⟨key, old⟩ := entry
    obtain ⟨fresh, distinct⟩ := List.nodup_cons.mp distinct
    rcases List.mem_cons.mp member with heq | member
    · cases heq
      simp [find?]
    · have hk : ¬ key = name := by
        intro same
        exact fresh (List.mem_map.mpr ⟨(name, value), member, same.symm⟩)
      simpa [find?, hk] using ih distinct member

/-- Tables with the same distinct names, and under each of them the same entry, are the same. -/
theorem eq_of_find?_eq {t u : Table α} (distinct : t.names.Nodup) (names : t.names = u.names)
    (same : ∀ name ∈ t.names, t.find? name = u.find? name) : t = u := by
  induction t generalizing u with
  | nil =>
    cases u with
    | nil => rfl
    | cons entry rest => cases names
  | cons entry rest ih =>
    cases u with
    | nil => cases names
    | cons entry' rest' =>
      obtain ⟨key, value⟩ := entry
      obtain ⟨key', value'⟩ := entry'
      obtain ⟨fresh, distinct⟩ := List.nodup_cons.mp distinct
      obtain ⟨rfl, later⟩ := List.cons_eq_cons.mp names
      have first := same key List.mem_cons_self
      simp only [find?, ↓reduceIte, Option.some.injEq] at first
      subst first
      congr 1
      apply ih distinct later
      intro name member
      have other : ¬ key = name := fun heq ↦ fresh (heq ▸ member)
      have found := same name (List.mem_cons_of_mem key member)
      simpa only [find?, if_neg other] using found

/-- Setting an entry keeps the names distinct. -/
theorem nodup_names_put {t : Table α} (distinct : t.names.Nodup) (name : String) (value : α) :
    (t.put name value).names.Nodup := by
  rw [names_put]
  split
  · exact distinct
  · next fresh =>
    refine List.nodup_append.mpr ⟨distinct, by simp, ?_⟩
    intro other member same hsame heq
    rw [List.mem_singleton] at hsame
    exact fresh (hsame ▸ heq ▸ member)

end Table

section Gather

variable {σ α β ε : Type}

/-- The store after every item's value has been set under the item's key, in order. -/
def gather (set : σ → String → β → σ) (key : α → String) (value : α → Except ε β) (start : σ)
    (items : List α) : Except ε σ :=
  items.foldlM (fun s item ↦ do
    let b ← value item
    .ok (set s (key item) b)) start

variable {set : σ → String → β → σ} {key : α → String} {value : α → Except ε β}
  {start s : σ} {items : List α}

/-- Nothing is gathered from no items. -/
@[simp] theorem gather_nil : gather set key value start [] = .ok start := rfl

/-- The first item's value is set before those of the others. -/
theorem gather_cons (item : α) :
    gather set key value start (item :: items) = (do
      let b ← value item
      gather set key value (set start (key item) b) items) := by
  cases h : value item <;> simp [gather, h, bind, Except.bind]

/-- What comes later is gathered onto what came before. -/
theorem gather_append (later : List α) :
    gather set key value start (items ++ later) =
      gather set key value start items >>= fun s ↦ gather set key value s later := by
  rw [gather, List.foldlM_append]
  rfl

/-- Gathering succeeds exactly when every item has a value. -/
theorem gather_isOk_iff :
    (∃ s, gather set key value start items = .ok s) ↔ ∀ item ∈ items, ∃ b, value item = .ok b := by
  induction items generalizing start with
  | nil => simp
  | cons item rest ih =>
    simp only [gather_cons, bind_eq_ok, List.forall_mem_cons]
    constructor
    · rintro ⟨s, b, hb, hs⟩
      exact ⟨⟨b, hb⟩, ih.mp ⟨s, hs⟩⟩
    · rintro ⟨⟨b, hb⟩, others⟩
      obtain ⟨s, hs⟩ := ih.mpr others
      exact ⟨s, b, hb, hs⟩

/-- Gathering that fails does so at the value of an item. -/
theorem exists_error_of_gather {e : ε} (h : gather set key value start items = .error e) :
    ∃ item ∈ items, value item = .error e := by
  induction items generalizing start with
  | nil => cases h
  | cons item rest ih =>
    rw [gather_cons, bind_eq_error] at h
    rcases h with h | ⟨b, -, h⟩
    · exact ⟨item, List.mem_cons_self, h⟩
    · obtain ⟨other, member, h⟩ := ih h
      exact ⟨other, List.mem_cons_of_mem item member, h⟩

/-- Values that are kept give the same store. -/
theorem gather_eq_ok_of_keeps {value' : α → Except ε β}
    (keeps : ∀ item ∈ items, ∀ b, value item = .ok b → value' item = .ok b)
    (h : gather set key value start items = .ok s) :
    gather set key value' start items = .ok s := by
  induction items generalizing start with
  | nil => exact h
  | cons item rest ih =>
    rw [gather_cons, bind_eq_ok] at h
    obtain ⟨b, hb, h⟩ := h
    rw [gather_cons, keeps item List.mem_cons_self b hb]
    exact ih (fun other member ↦ keeps other (List.mem_cons_of_mem item member)) h

/-- The last item of a key. -/
def lastOf (key : α → String) (items : List α) (name : String) : Option α :=
  items.reverse.find? (key · == name)

/-- An item that comes last is the last of its own name. -/
theorem lastOf_concat (item : α) (name : String) :
    lastOf key (items ++ [item]) name =
      if key item = name then some item else lastOf key items name := by
  by_cases h : key item = name <;> simp [lastOf, h]

/-- The last item of a name is one of the items and has that name. -/
theorem mem_of_lastOf {name : String} {item : α} (h : lastOf key items name = some item) :
    item ∈ items ∧ key item = name := by
  constructor
  · exact List.mem_reverse.mp (List.mem_of_find?_eq_some h)
  · simpa using List.find?_some h

/-- There is no last item of a name exactly when no item has it. -/
theorem lastOf_eq_none_iff {name : String} :
    lastOf key items name = none ↔ ∀ item ∈ items, key item ≠ name := by
  simp [lastOf]

/-- A key that is added at the end is erased if it repeats an earlier one. -/
theorem eraseDups_concat (keys : List String) (key : String) :
    (keys ++ [key]).eraseDups =
      if key ∈ keys then keys.eraseDups else keys.eraseDups ++ [key] := by
  rw [List.eraseDups_append]
  by_cases known : key ∈ keys <;> simp [known, List.removeAll, List.eraseDups_cons]

/-- With distinct keys an item is found under its key. -/
theorem find?_key_of_mem (distinct : (items.map key).Nodup) {item : α} (member : item ∈ items) :
    items.find? (key · == key item) = some item := by
  induction items with
  | nil => cases member
  | cons first rest ih =>
    rw [List.map_cons, List.nodup_cons] at distinct
    obtain ⟨fresh, distinct⟩ := distinct
    rcases List.mem_cons.mp member with rfl | member
    · simp
    · have hk : ¬ key first = key item := by
        intro same
        exact fresh (List.mem_map.mpr ⟨item, member, same.symm⟩)
      rw [List.find?_cons_of_neg (by simp [hk])]
      exact ih distinct member

/-- With distinct keys the last item of a key is the first one. -/
theorem lastOf_eq_find? (distinct : (items.map key).Nodup) (name : String) :
    lastOf key items name = items.find? (key · == name) := by
  induction items with
  | nil => rfl
  | cons item rest ih =>
    rw [List.map_cons, List.nodup_cons] at distinct
    obtain ⟨fresh, distinct⟩ := distinct
    rw [lastOf, List.reverse_cons, List.find?_append]
    change (lastOf key rest name).or _ = _
    rw [ih distinct]
    by_cases hk : key item = name
    · subst hk
      have absent : rest.find? (key · == key item) = none := by
        rw [List.find?_eq_none]
        intro other member same
        exact fresh (List.mem_map.mpr ⟨other, member, by simpa using same⟩)
      simp [absent]
    · simp [hk]

/-- Under a key stands the value of the last item of that key, or what stood there before. -/
theorem find?_gather {find? : σ → String → Option β}
    (law : ∀ s name b other,
      find? (set s name b) other = if name = other then some b else find? s other)
    (h : gather set key value start items = .ok s) (name : String) :
    match lastOf key items name with
    | some item => ∃ b, value item = .ok b ∧ find? s name = some b
    | none => find? s name = find? start name := by
  -- by induction from the end of the list, where the last item of a key is met first
  induction items using List.reverseRecOn generalizing s with
  | nil =>
    cases h
    rfl
  | append_singleton rest item ih =>
    simp only [gather_append, gather_cons, gather_nil, bind_eq_ok, Except.ok.injEq] at h
    obtain ⟨t, ht, b, hb, rfl⟩ := h
    rw [lastOf_concat]
    by_cases hk : key item = name
    · rw [if_pos hk]
      exact ⟨b, hb, by rw [law, if_pos hk]⟩
    · simp only [if_neg hk, law]
      exact ih ht

/-- Something stands under the keys of the items and wherever something stood before. -/
theorem isSome_find?_gather {find? : σ → String → Option β}
    (law : ∀ s name b other,
      find? (set s name b) other = if name = other then some b else find? s other)
    (h : gather set key value start items = .ok s) (name : String) :
    (find? s name).isSome ↔ name ∈ items.map key ∨ (find? start name).isSome := by
  have found := find?_gather law h name
  cases hl : lastOf key items name with
  | none =>
    rw [hl] at found
    have free : name ∉ items.map key := by
      intro member
      obtain ⟨item, member, same⟩ := List.mem_map.mp member
      exact lastOf_eq_none_iff.mp hl item member same
    rw [found, or_iff_right free]
  | some item =>
    rw [hl] at found
    obtain ⟨b, -, found⟩ := found
    obtain ⟨member, same⟩ := mem_of_lastOf hl
    simp [found, List.mem_map.mpr ⟨item, member, same⟩]

end Gather

end Fieldwise
