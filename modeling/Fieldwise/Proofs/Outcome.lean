import Mathlib.Data.List.Forall2

/-!
# Outcomes of sequenced steps

When a sequence of steps that may fail succeeds, each of its steps has; when it fails, one of them
has. The laws here take a sequence apart into its steps.
-/

namespace Fieldwise.Outcome

variable {ε ε' α β σ : Type}

/-- Two steps succeed when the second succeeds on the result of the first. -/
theorem bind_eq_ok {x : Except ε α} {f : α → Except ε β} {b : β} :
    (x >>= f) = .ok b ↔ ∃ a, x = .ok a ∧ f a = .ok b := by
  cases x <;> simp [bind, Except.bind]

/-- Two steps fail when the first fails, or the second on the result of the first. -/
theorem bind_eq_error {x : Except ε α} {f : α → Except ε β} {e : ε} :
    (x >>= f) = .error e ↔ x = .error e ∨ ∃ a, x = .ok a ∧ f a = .error e := by
  cases x <;> simp [bind, Except.bind]

/-- A step whose result is changed succeeds with the changed result. -/
theorem map_eq_ok {x : Except ε α} {f : α → β} {b : β} :
    x.map f = .ok b ↔ ∃ a, x = .ok a ∧ f a = b := by
  cases x <;> simp [Except.map]

/-- A step whose result is changed fails as before. -/
theorem map_eq_error {x : Except ε α} {f : α → β} {e : ε} : x.map f = .error e ↔ x = .error e := by
  cases x <;> simp [Except.map]

/-- A relabelled step succeeds with the same result. -/
theorem mapError_eq_ok {x : Except ε α} {f : ε → ε'} {a : α} :
    x.mapError f = .ok a ↔ x = .ok a := by
  cases x <;> simp [Except.mapError]

/-- A relabelled step fails with the relabelled error. -/
theorem mapError_eq_error {x : Except ε α} {f : ε → ε'} {e : ε'} :
    x.mapError f = .error e ↔ ∃ cause, x = .error cause ∧ f cause = e := by
  cases x <;> simp [Except.mapError]

/-- A traversal succeeds item by item. -/
theorem mapM_eq_ok {f : α → Except ε β} {items : List α} {results : List β} :
    items.mapM f = .ok results ↔ List.Forall₂ (fun a b ↦ f a = .ok b) items results := by
  induction items generalizing results with
  | nil => simp [pure, Except.pure, eq_comm]
  | cons a rest ih =>
    rw [List.mapM_cons, List.forall₂_cons_left_iff]
    simp only [bind_eq_ok, ih, pure, Except.pure, Except.ok.injEq]
    constructor
    · rintro ⟨b, hb, bs, hbs, rfl⟩
      exact ⟨b, bs, hb, hbs, rfl⟩
    · rintro ⟨b, bs, hb, hbs, rfl⟩
      exact ⟨b, hb, bs, hbs, rfl⟩

/-- Each result of a traversal comes from an item. -/
theorem exists_mem_of_forall₂ {R : α → β → Prop} {items : List α} {results : List β}
    (h : List.Forall₂ R items results) {b : β} (member : b ∈ results) : ∃ a ∈ items, R a b := by
  induction h with
  | nil => cases member
  | @cons a _ rest _ first _ ih =>
    rcases List.mem_cons.mp member with rfl | member
    · exact ⟨a, List.mem_cons_self, first⟩
    · obtain ⟨item, later, related⟩ := ih member
      exact ⟨item, List.mem_cons_of_mem a later, related⟩

/-- A traversal succeeds if each of its steps does. -/
theorem exists_mapM_iff {f : α → Except ε β} {items : List α} :
    (∃ results, items.mapM f = .ok results) ↔ ∀ a ∈ items, ∃ b, f a = .ok b := by
  induction items with
  | nil => simp [pure, Except.pure]
  | cons a rest ih =>
    simp only [List.mapM_cons, bind_eq_ok, List.forall_mem_cons, ← ih, pure, Except.pure,
      Except.ok.injEq]
    constructor
    · rintro ⟨results, b, hb, bs, hbs, rfl⟩
      exact ⟨⟨b, hb⟩, bs, hbs⟩
    · rintro ⟨⟨b, hb⟩, bs, hbs⟩
      exact ⟨b :: bs, b, hb, bs, hbs, rfl⟩

/-- Of several items the first one that is not good is bad. -/
def FirstAt (good bad : α → Prop) (items : List α) : Prop :=
  ∃ before a after, items = before ++ a :: after ∧ (∀ b ∈ before, good b) ∧ bad a

/-- The first bad item of a list is its head, or the first of the rest behind a good head. -/
theorem firstAt_cons {good bad : α → Prop} {a : α} {rest : List α} :
    FirstAt good bad (a :: rest) ↔ bad a ∨ good a ∧ FirstAt good bad rest := by
  constructor
  · rintro ⟨before, item, after, same, earlier, first⟩
    cases before with
    | nil =>
      cases same
      exact .inl first
    | cons b before =>
      cases same
      obtain ⟨good, earlier⟩ := List.forall_mem_cons.mp earlier
      exact .inr ⟨good, before, item, after, rfl, earlier, first⟩
  · rintro (first | ⟨good, before, item, after, rfl, earlier, first⟩)
    · exact ⟨[], a, rest, rfl, by simp, first⟩
    · exact ⟨a :: before, item, after, rfl, List.forall_mem_cons.mpr ⟨good, earlier⟩, first⟩

/-- A traversal fails with the error of its first step that fails. -/
theorem mapM_eq_error_iff {f : α → Except ε β} {items : List α} {e : ε} :
    items.mapM f = .error e ↔
      FirstAt (fun a ↦ ∃ b, f a = .ok b) (fun a ↦ f a = .error e) items := by
  induction items with
  | nil => simp [FirstAt, pure, Except.pure]
  | cons a rest ih =>
    rw [List.mapM_cons, bind_eq_error, firstAt_cons, ← ih]
    apply or_congr_right
    constructor
    · rintro ⟨b, hb, h⟩
      rcases bind_eq_error.mp h with h | ⟨bs, -, h⟩
      · exact ⟨⟨b, hb⟩, h⟩
      · cases h
    · rintro ⟨⟨b, hb⟩, h⟩
      exact ⟨b, hb, bind_eq_error.mpr (.inl h)⟩

/-- A traversal that fails does so at one of its items. -/
theorem exists_error_of_mapM {f : α → Except ε β} {items : List α} {e : ε}
    (h : items.mapM f = .error e) : ∃ a ∈ items, f a = .error e := by
  obtain ⟨before, a, after, rfl, -, first⟩ := mapM_eq_error_iff.mp h
  exact ⟨a, by simp, first⟩

/-- A run that only adds the result of each step to a state is a traversal whose results are added
afterwards. -/
theorem foldlM_eq_map_mapM {f : α → Except ε β} {add : σ → β → σ} (items : List α) (s : σ) :
    items.foldlM (fun s a ↦ do
      let b ← f a
      .ok (add s b)) s = (items.mapM f).map (·.foldl add s) := by
  induction items generalizing s with
  | nil => rfl
  | cons a rest ih =>
    rw [List.foldlM_cons, List.mapM_cons]
    cases f a with
    | error e => rfl
    | ok b =>
      simp only [bind, Except.bind] at ih ⊢
      rw [ih]
      cases rest.mapM f <;> rfl

/-- What every step keeps, a run of steps keeps. -/
theorem foldlM_keeps {P : σ → Prop} {f : σ → α → Except ε σ} {items : List α} {s t : σ}
    (step : ∀ a ∈ items, ∀ s t, P s → f s a = .ok t → P t) (start : P s)
    (run : items.foldlM f s = .ok t) : P t := by
  induction items generalizing s with
  | nil =>
    cases run
    exact start
  | cons a rest ih =>
    rw [List.foldlM_cons, bind_eq_ok] at run
    obtain ⟨next, first, run⟩ := run
    have kept := step a List.mem_cons_self s next start first
    exact ih (fun b member ↦ step b (List.mem_cons_of_mem a member)) kept run

end Fieldwise.Outcome
