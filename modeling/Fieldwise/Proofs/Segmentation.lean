import Mathlib.Data.List.Induction
import Mathlib.Data.Nat.Digits.Defs
import Fieldwise.Template

/-!
# Segments of templates

A placeholder is an index between braces: digits of the ASCII range, after a plus sign or not, that
denote a number below the number of arguments. No brace occurs in an index, so placeholders never
overlap, and a text has exactly one list of segments whose sources make up the text and whose
arguments are all the placeholders that occur in it. All else is literal: braces that do not match,
braces around braces, and indices that are out of range.
-/

namespace Fieldwise.Template

open Text (isDigit digitsValue)

/-- The number that digits denote. -/
def denoted (digits : List Char) : Nat :=
  Nat.ofDigits 10 (digits.reverse.map fun d ↦ d.toNat - '0'.toNat)

/-- A spelling of an index: at least one digit, after a plus sign or not. -/
inductive Spells : List Char → Nat → Prop
  | plain {digits : List Char} (nonempty : digits ≠ []) (all : ∀ d ∈ digits, d.isDigit = true) :
      Spells digits (denoted digits)
  | signed {digits : List Char} (nonempty : digits ≠ []) (all : ∀ d ∈ digits, d.isDigit = true) :
      Spells ('+' :: digits) (denoted digits)

/-- The digits are those of the core library. -/
theorem isDigit_eq (c : Char) : isDigit c = c.isDigit := rfl

/-- The value of digits is what they denote. -/
theorem digitsValue_eq_denoted (digits : List Char) : digitsValue digits = denoted digits := by
  -- from the last digit, which is the least one
  induction digits using List.reverseRecOn with
  | nil => rfl
  | append_singleton rest last ih =>
    rw [digitsValue, List.foldl_append, List.foldl_cons, List.foldl_nil, ← digitsValue, ih, denoted,
      denoted, List.reverse_append, List.reverse_singleton, List.singleton_append, List.map_cons,
      Nat.ofDigits_cons, Nat.add_comm]

/-- Braces are no part of an index. -/
theorem Spells.brace_not_mem {spelling : List Char} {index : Nat} (h : Spells spelling index) :
    '{' ∉ spelling ∧ '}' ∉ spelling := by
  have noDigit {digits : List Char} (all : ∀ d ∈ digits, d.isDigit = true) :
      '{' ∉ digits ∧ '}' ∉ digits :=
    ⟨fun member ↦ absurd (all _ member) (by decide), fun member ↦ absurd (all _ member) (by decide)⟩
  cases h with
  | plain _ all => exact noDigit all
  | signed _ all =>
    obtain ⟨noOpening, noClosing⟩ := noDigit all
    simp [noOpening, noClosing]

private theorem index?_of_unsigned {spelling : List Char} (h : ∀ rest, spelling ≠ '+' :: rest) :
    index? spelling =
      if !spelling.isEmpty && spelling.all isDigit then some (digitsValue spelling) else none := by
  rw [index?]
  exact h

/-- An index is read exactly where one is spelled. -/
theorem index?_eq_some_iff {spelling : List Char} {index : Nat} :
    index? spelling = some index ↔ Spells spelling index := by
  have read (digits : List Char) :
      (if !digits.isEmpty && digits.all isDigit then some (digitsValue digits) else none) =
        some index ↔ digits ≠ [] ∧ (∀ d ∈ digits, d.isDigit = true) ∧ denoted digits = index := by
    simp [digitsValue_eq_denoted, isDigit_eq, and_assoc]
  by_cases sign : ∃ rest, spelling = '+' :: rest
  · obtain ⟨rest, rfl⟩ := sign
    refine (read rest).trans ⟨?_, fun h ↦ ?_⟩
    · rintro ⟨nonempty, all, rfl⟩
      exact .signed nonempty all
    · cases h with
      | plain nonempty all => exact absurd (all '+' List.mem_cons_self) (by decide)
      | signed nonempty all => exact ⟨nonempty, all, rfl⟩
  · have unsigned : ∀ rest, spelling ≠ '+' :: rest := fun rest same ↦ sign ⟨rest, same⟩
    rw [index?_of_unsigned unsigned, read]
    constructor
    · rintro ⟨nonempty, all, rfl⟩
      exact .plain nonempty all
    · intro h
      cases h with
      | plain nonempty all => exact ⟨nonempty, all, rfl⟩
      | signed => exact absurd rfl (unsigned _)

/-- Up to its first closing brace a text is the index of an argument, or there is no
placeholder. -/
theorem placeholder?_of_closed {arity : Nat} {spelling after : List Char} (h : '}' ∉ spelling) :
    placeholder? arity (spelling ++ '}' :: after) =
      (index? spelling).bind fun index ↦
        if index < arity then some (spelling, index, after) else none := by
  have inside : ∀ c ∈ spelling, (c != '}') = true := by
    intro c member
    rw [bne_iff_ne]
    rintro rfl
    exact h member
  rw [placeholder?, List.dropWhile_append_of_pos inside, List.takeWhile_append_of_pos inside,
    List.dropWhile_cons_of_neg (by decide), List.takeWhile_cons_of_neg (by decide), List.append_nil]
  cases read : index? spelling with
  | none => simp only [read, Option.bind_none]
  | some index => simp only [read, Option.bind_some]

/-- What follows an opening brace is a placeholder exactly when it spells the index of an argument
up to a closing brace. -/
theorem placeholder?_eq_some_iff {arity : Nat} {text spelling after : List Char} {index : Nat} :
    placeholder? arity text = some (spelling, index, after) ↔
      text = spelling ++ '}' :: after ∧ Spells spelling index ∧ index < arity := by
  constructor
  · intro h
    have whole := eq_of_placeholder? h
    rw [placeholder?] at h
    split at h
    · cases h
    · simp only at h
      split at h
      · next read =>
        split at h
        · next below =>
          cases h
          exact ⟨whole, index?_eq_some_iff.mp read, below⟩
        · cases h
      · cases h
  · rintro ⟨rfl, spells, below⟩
    rw [placeholder?_of_closed spells.brace_not_mem.2, index?_eq_some_iff.mpr spells]
    exact if_pos below

/-- The text that segments were read from. -/
def sourceOf (parts : List Segment) : List Char := parts.flatMap Segment.source

/-- The source of no segments is empty. -/
@[simp] theorem sourceOf_nil : sourceOf [] = [] := rfl

/-- The source of the first segment comes first. -/
@[simp] theorem sourceOf_cons (part : Segment) (parts : List Segment) :
    sourceOf (part :: parts) = part.source ++ sourceOf parts := List.flatMap_cons

/-- The source of segments in a row is their sources in a row. -/
@[simp] theorem sourceOf_append (earlier later : List Segment) :
    sourceOf (earlier ++ later) = sourceOf earlier ++ sourceOf later := List.flatMap_append

/-- The source of a segment is not empty. -/
theorem Segment.source_ne_nil (part : Segment) : part.source ≠ [] := by
  cases part <;> simp [source]

/-- A placeholder occurs in a text, between what comes before and after it. -/
structure Occurs (arity : Nat) (text before spelling : List Char) (index : Nat)
    (after : List Char) : Prop where
  whole : text = before ++ '{' :: spelling ++ '}' :: after
  spells : Spells spelling index
  below : index < arity

/-- Segments of a text: their sources make up the text, and its placeholders, wherever they occur,
are the segments that are arguments. -/
structure Segmentation (arity : Nat) (text : List Char) (parts : List Segment) : Prop where
  whole : sourceOf parts = text
  placeholders : ∀ before spelling index after,
    Occurs arity text before spelling index after ↔
      ∃ earlier later, parts = earlier ++ .argument spelling index :: later ∧
        sourceOf earlier = before ∧ sourceOf later = after

variable {arity : Nat}

/-- A placeholder is a segment. -/
theorem segments_of_placeholder? {rest spelling after : List Char} {index : Nat}
    (h : placeholder? arity rest = some (spelling, index, after)) :
    segments arity ('{' :: rest) = .argument spelling index :: segments arity after := by
  rw [segments, if_pos rfl]
  split
  · next found =>
    cases h.symm.trans found
    rfl
  · next missing => cases h.symm.trans missing

/-- What does not begin a placeholder is literal. -/
theorem segments_of_literal {c : Char} {rest : List Char}
    (h : c = '{' → placeholder? arity rest = none) :
    segments arity (c :: rest) = .literal c :: segments arity rest := by
  rw [segments]
  split
  · next brace =>
    split
    · next found => cases (h brace).symm.trans found
    · rfl
  · rfl

/-- What holds of a text whenever it holds of what follows its first segment holds of all texts. -/
theorem segment_induction (arity : Nat) {P : List Char → Prop} (nil : P [])
    (placeholder : ∀ rest spelling index after,
      placeholder? arity rest = some (spelling, index, after) → P after → P ('{' :: rest))
    (literal : ∀ c rest, (c = '{' → placeholder? arity rest = none) → P rest → P (c :: rest))
    (text : List Char) : P text :=
  match text with
  | [] => nil
  | c :: rest =>
    if brace : c = '{' then
      match found : placeholder? arity rest with
      | some (spelling, index, after) =>
        have := length_lt_of_placeholder? found
        brace ▸ placeholder rest spelling index after found
          (segment_induction arity nil placeholder literal after)
      | none =>
        literal c rest (fun _ ↦ found) (segment_induction arity nil placeholder literal rest)
    else
      literal c rest (fun same ↦ absurd same brace)
        (segment_induction arity nil placeholder literal rest)
termination_by text.length
decreasing_by all_goals simp_all <;> omega

/-- The sources of the segments make up the text. -/
theorem sourceOf_segments (arity : Nat) (text : List Char) :
    sourceOf (segments arity text) = text := by
  induction text using segment_induction arity with
  | nil => rw [segments, sourceOf_nil]
  | placeholder rest spelling index after found ih =>
    rw [segments_of_placeholder? found, sourceOf_cons, ih, eq_of_placeholder? found]
    simp [Segment.source]
  | literal c rest bare ih =>
    rw [segments_of_literal bare, sourceOf_cons, ih]
    rfl

/-- An argument among the segments is spelled, and it is one of the arguments. -/
theorem spells_of_mem_segments {text spelling : List Char} {index : Nat}
    (member : .argument spelling index ∈ segments arity text) :
    Spells spelling index ∧ index < arity := by
  induction text using segment_induction arity with
  | nil =>
    rw [segments] at member
    cases member
  | placeholder rest spelling' index' after found ih =>
    rw [segments_of_placeholder? found] at member
    rcases List.mem_cons.mp member with same | member
    · cases same
      exact (placeholder?_eq_some_iff.mp found).2
    · exact ih member
  | literal c rest bare ih =>
    rw [segments_of_literal bare] at member
    rcases List.mem_cons.mp member with same | member
    · cases same
    · exact ih member

private theorem eq_append_of_closed {spelling after before rest : List Char}
    (noOpening : '{' ∉ spelling) (h : spelling ++ '}' :: after = before ++ '{' :: rest) :
    ∃ between, before = spelling ++ '}' :: between ∧ after = between ++ '{' :: rest := by
  rcases List.append_eq_append_iff.mp h with ⟨more, rfl, tail⟩ | ⟨more, rfl, tail⟩
  · cases more with
    | nil => cases tail
    | cons c between =>
      obtain ⟨rfl, rfl⟩ := List.cons_eq_cons.mp tail
      exact ⟨between, rfl, rfl⟩
  · cases more with
    | nil => cases tail
    | cons c between =>
      obtain ⟨rfl, -⟩ := List.cons_eq_cons.mp tail
      simp at noOpening

/-- Wherever a placeholder occurs, an argument is among the segments. -/
theorem exists_argument_of_occurs {text before spelling after : List Char} {index : Nat}
    (h : Occurs arity text before spelling index after) :
    ∃ earlier later, segments arity text = earlier ++ .argument spelling index :: later ∧
      sourceOf earlier = before ∧ sourceOf later = after := by
  obtain ⟨whole, spells, below⟩ := h
  have begins {rest : List Char} (same : rest = spelling ++ '}' :: after) :
      placeholder? arity rest = some (spelling, index, after) :=
    placeholder?_eq_some_iff.mpr ⟨same, spells, below⟩
  induction text using segment_induction arity generalizing before with
  | nil => simp at whole
  | placeholder rest spelling' index' after' found ih =>
    rw [segments_of_placeholder? found]
    cases before with
    | nil =>
      obtain ⟨-, same⟩ := List.cons_eq_cons.mp whole
      cases found.symm.trans (begins same)
      exact ⟨[], segments arity after, rfl, rfl, sourceOf_segments arity after⟩
    | cons c before =>
      -- no placeholder begins within another one
      obtain ⟨rfl, same⟩ := List.cons_eq_cons.mp whole
      obtain ⟨rfl, spells', -⟩ := placeholder?_eq_some_iff.mp found
      simp only [List.append_eq, List.append_assoc, List.cons_append] at same
      obtain ⟨between, rfl, rest⟩ := eq_append_of_closed spells'.brace_not_mem.1 same
      obtain ⟨earlier, later, parts, source, sourceLater⟩ := ih (by simpa using rest)
      refine ⟨.argument spelling' index' :: earlier, later, by rw [parts]; rfl, ?_, sourceLater⟩
      rw [sourceOf_cons, source]
      simp [Segment.source]
  | literal c rest bare ih =>
    rw [segments_of_literal bare]
    cases before with
    | nil =>
      obtain ⟨rfl, same⟩ := List.cons_eq_cons.mp whole
      cases (bare rfl).symm.trans (begins same)
    | cons c' before =>
      obtain ⟨rfl, same⟩ := List.cons_eq_cons.mp whole
      obtain ⟨earlier, later, parts, source, sourceLater⟩ := ih same
      refine ⟨.literal c :: earlier, later, by rw [parts]; rfl, ?_, sourceLater⟩
      rw [sourceOf_cons, source]
      rfl

/-- The segments of a text are a segmentation of it. -/
theorem segmentation_segments (text : List Char) :
    Segmentation arity text (segments arity text) where
  whole := sourceOf_segments arity text
  placeholders := by
    intro before spelling index after
    refine ⟨exists_argument_of_occurs, ?_⟩
    rintro ⟨earlier, later, parts, rfl, rfl⟩
    have member : .argument spelling index ∈ segments arity text := by
      rw [parts]
      exact List.mem_append_right _ List.mem_cons_self
    obtain ⟨spells, below⟩ := spells_of_mem_segments member
    refine ⟨?_, spells, below⟩
    rw [← sourceOf_segments arity text, parts]
    simp [Segment.source]

/-- What follows the first segment is segmented by the others. -/
theorem Segmentation.tail {text : List Char} {part : Segment} {parts : List Segment}
    (h : Segmentation arity text (part :: parts)) : Segmentation arity (sourceOf parts) parts where
  whole := rfl
  placeholders := by
    intro before spelling index after
    have whole := h.whole
    rw [sourceOf_cons] at whole
    constructor
    · rintro ⟨same, spells, below⟩
      have occurs : Occurs arity text (part.source ++ before) spelling index after :=
        ⟨by rw [← whole, same]; simp, spells, below⟩
      obtain ⟨earlier, later, parts', source, sourceLater⟩ := (h.placeholders _ _ _ _).mp occurs
      cases earlier with
      | nil =>
        have empty : part.source ++ before = [] := source.symm
        exact absurd (List.append_eq_nil_iff.mp empty).1 part.source_ne_nil
      | cons first earlier =>
        obtain ⟨rfl, rfl⟩ := List.cons_eq_cons.mp parts'
        exact ⟨earlier, later, rfl, List.append_cancel_left source, sourceLater⟩
    · rintro ⟨earlier, later, rfl, rfl, rfl⟩
      obtain ⟨-, spells, below⟩ :=
        (h.placeholders _ _ _ _).mpr ⟨part :: earlier, later, rfl, rfl, rfl⟩
      exact ⟨by simp [Segment.source], spells, below⟩

/-- A text has only one segmentation. -/
theorem Segmentation.eq_segments {text : List Char} {parts : List Segment}
    (h : Segmentation arity text parts) : parts = segments arity text := by
  induction parts generalizing text with
  | nil =>
    have empty : text = [] := h.whole.symm
    rw [empty, segments]
  | cons part parts ih =>
    have whole := h.whole
    rw [sourceOf_cons] at whole
    rw [ih h.tail, ← whole]
    cases part with
    | literal c =>
      -- a placeholder that began here would be an argument without anything before it
      have bare : c = '{' → placeholder? arity (sourceOf parts) = none := by
        rintro rfl
        rw [Option.eq_none_iff_forall_not_mem]
        rintro ⟨spelling, index, after⟩ found
        obtain ⟨same, spells, below⟩ := placeholder?_eq_some_iff.mp found
        have occurs : Occurs arity text [] spelling index after :=
          ⟨by rw [← whole, same]; rfl, spells, below⟩
        obtain ⟨earlier, later, parts', source, -⟩ := (h.placeholders _ _ _ _).mp occurs
        cases earlier with
        | nil => cases parts'
        | cons first earlier =>
          exact absurd (List.append_eq_nil_iff.mp source).1 first.source_ne_nil
      exact (segments_of_literal bare).symm
    | argument spelling index =>
      obtain ⟨-, spells, below⟩ := (h.placeholders _ _ _ _).mpr ⟨[], parts, rfl, rfl, rfl⟩
      have found : placeholder? arity (spelling ++ '}' :: sourceOf parts) =
          some (spelling, index, sourceOf parts) :=
        placeholder?_eq_some_iff.mpr ⟨rfl, spells, below⟩
      have source : (Segment.argument spelling index).source ++ sourceOf parts =
          '{' :: (spelling ++ '}' :: sourceOf parts) := by
        simp [Segment.source]
      rw [source, segments_of_placeholder? found]

/-- A text has one segmentation, which is what a template splits into. -/
theorem segmentation_iff {text : List Char} {parts : List Segment} :
    Segmentation arity text parts ↔ parts = segments arity text := by
  constructor
  · exact Segmentation.eq_segments
  · rintro rfl
    exact segmentation_segments text

end Fieldwise.Template
