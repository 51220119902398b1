import Mathlib.Data.List.Forall2
import Fieldwise.Proofs.Segmentation

/-!
# Rendering by offsets

A template is rendered in one pass over its bytes: the next opening brace is looked for, then the
next closing one, the index between them is read, and what follows is rendered in turn. Offsets
count bytes, from the start of whatever rest is at hand, and a text can only be cut between two
characters. No cut is ever out of range or within a character, every turn leaves less to render, and
the pass writes what the segments of the template show.
-/

namespace Fieldwise.Template

/-- The number of bytes of a text. -/
def width (text : List Char) : Nat := (text.map Char.utf8Size).sum

/-- A text cut in two at an offset; nothing if it is out of range or within a character. -/
def cut? : List Char → Nat → Option (List Char × List Char)
  | [], offset => if offset = 0 then some ([], []) else none
  | c :: rest, offset =>
    if offset = 0 then some ([], c :: rest)
    else if c.utf8Size ≤ offset then
      (cut? rest (offset - c.utf8Size)).map fun parts ↦ (c :: parts.1, parts.2)
    else none

/-- The offset of the first occurrence of a character. -/
def offset? (c : Char) : List Char → Option Nat
  | [] => none
  | d :: rest => if d = c then some 0 else (offset? c rest).map (d.utf8Size + ·)

/-- The width of a text is that of its first character and the rest. -/
@[simp] theorem width_cons (c : Char) (rest : List Char) :
    width (c :: rest) = c.utf8Size + width rest := by
  simp [width]

/-- The width of two texts in a row is the sum of theirs. -/
@[simp] theorem width_append (before after : List Char) :
    width (before ++ after) = width before + width after := by
  simp [width]

private theorem cut?_append (before after : List Char) :
    cut? (before ++ after) (width before) = some (before, after) := by
  induction before with
  | nil => cases after <;> rfl
  | cons c rest ih =>
    have inside : width (c :: rest) ≠ 0 := by
      rw [width_cons]
      exact Nat.ne_of_gt (Nat.add_pos_left c.utf8Size_pos _)
    rw [List.cons_append, cut?, if_neg inside, width_cons, if_pos (Nat.le_add_right _ _),
      Nat.add_sub_cancel_left, ih]
    rfl

private theorem eq_append_of_cut? {text before after : List Char} {offset : Nat}
    (h : cut? text offset = some (before, after)) :
    text = before ++ after ∧ width before = offset := by
  induction text generalizing before offset with
  | nil =>
    rw [cut?] at h
    split at h
    · next start =>
      cases h
      exact ⟨rfl, start.symm⟩
    · cases h
  | cons c rest ih =>
    rw [cut?] at h
    split at h
    · next start =>
      cases h
      exact ⟨rfl, start.symm⟩
    · split at h
      · next fits =>
        obtain ⟨⟨before', after'⟩, cut, same⟩ := Option.map_eq_some_iff.mp h
        cases same
        obtain ⟨rfl, ends⟩ := ih cut
        exact ⟨rfl, by rw [width_cons, ends, Nat.add_sub_cancel' fits]⟩
      · cases h

/-- A text is cut where a part of it ends, and nowhere else. -/
theorem cut?_eq_some_iff {text before after : List Char} {offset : Nat} :
    cut? text offset = some (before, after) ↔ text = before ++ after ∧ width before = offset := by
  constructor
  · exact eq_append_of_cut?
  · rintro ⟨rfl, rfl⟩
    exact cut?_append before after

/-- A character is found where the part before its first occurrence ends. -/
theorem offset?_append {c : Char} {before : List Char} (first : c ∉ before) (after : List Char) :
    offset? c (before ++ c :: after) = some (width before) := by
  induction before with
  | nil => exact if_pos rfl
  | cons d rest ih =>
    rw [List.mem_cons, not_or] at first
    obtain ⟨other, first⟩ := first
    rw [List.cons_append, offset?, if_neg (Ne.symm other), ih first, width_cons]
    rfl

/-- A character that does not occur has no offset. -/
theorem offset?_of_not_mem {c : Char} {text : List Char} (absent : c ∉ text) :
    offset? c text = none := by
  induction text with
  | nil => rfl
  | cons d rest ih =>
    rw [List.mem_cons, not_or] at absent
    obtain ⟨other, absent⟩ := absent
    rw [offset?, if_neg (Ne.symm other), ih absent]
    rfl

/-- An index as the machine reads it; one that does not fit 64 bits is none. -/
def machineIndex? (spelling : List Char) : Option Nat :=
  (index? spelling).filter (· < 2 ^ 64)

/-- What one turn does: it writes the rest, or it writes some text and leaves the rest to later
turns. -/
inductive Turn where
  | last (written : List Char)
  | more (written rest : List Char)

/-- The argument that is named between an opening brace and the closing one, and the offset where
the placeholder ends, if there is such an argument; nothing at all if a cut fails. -/
def argumentAt? (args : List Value) (tail : List Char) (closing : Nat) :
    Option (Option (Value × Nat)) := do
  let (upToClosing, _) ← cut? tail (closing + 1)
  let (_, spelling) ← cut? upToClosing 1
  some (((machineIndex? spelling).bind fun index ↦ args[index]?).map (·, closing + 2))

/-- One turn of the pass over the rest of a template; nothing if a cut fails. -/
def turn? (args : List Value) (rest : List Char) : Option Turn :=
  match offset? '{' rest with
  | none => some (.last rest)
  | some opening => do
    let (skipped, tail) ← cut? rest opening
    let (_, inner) ← cut? tail 1
    let placeholder ← match offset? '}' inner with
      | none => some none
      | some closing => argumentAt? args tail closing
    match placeholder with
    | some (argument, consumed) => do
      let (_, after) ← cut? tail consumed
      some (.more (skipped ++ argument.textOrEmpty.toList) after)
    | none => some (.more (skipped ++ ['{']) inner)

/-- A pass over a template writes a text, turn by turn; it may fail to do so where a cut fails or
where it does not come to an end. -/
inductive ScansTo (args : List Value) : List Char → List Char → Prop
  | last {rest written : List Char} (turns : turn? args rest = some (.last written)) :
      ScansTo args rest written
  | more {rest written after text : List Char}
      (turns : turn? args rest = some (.more written after)) (later : ScansTo args after text) :
      ScansTo args rest (written ++ text)

/-- The text that a template's segments show. -/
def rendered (args : List Value) (text : List Char) : List Char :=
  (segments args.length text).flatMap (Segment.render args)

variable {args : List Value}

/-- The last turn writes a rest without an opening brace. -/
theorem turn?_of_not_mem {rest : List Char} (absent : '{' ∉ rest) :
    turn? args rest = some (.last rest) := by
  rw [turn?, offset?_of_not_mem absent]

private theorem argumentAt?_width (spelling after : List Char) :
    argumentAt? args ('{' :: (spelling ++ '}' :: after)) (width spelling) =
      some (((machineIndex? spelling).bind fun index ↦ args[index]?).map
        (·, width spelling + 2)) := by
  have upTo : cut? ('{' :: (spelling ++ '}' :: after)) (width spelling + 1) =
      some ('{' :: spelling, '}' :: after) := cut?_eq_some_iff.mpr ⟨rfl, Nat.add_comm _ _⟩
  have inner : cut? ('{' :: spelling) 1 = some (['{'], spelling) :=
    cut?_eq_some_iff.mpr ⟨rfl, rfl⟩
  simp only [argumentAt?, upTo, inner, Option.bind_eq_bind, Option.bind_some]

private theorem cut?_placeholder (spelling after : List Char) :
    cut? ('{' :: (spelling ++ '}' :: after)) (width spelling + 2) =
      some ('{' :: (spelling ++ ['}']), after) := by
  refine cut?_eq_some_iff.mpr ⟨by simp, ?_⟩
  rw [width_cons, width_append]
  exact Nat.add_comm 1 _

private theorem machineIndex?_bind (count : args.length ≤ 2 ^ 64) (spelling : List Char) :
    ((machineIndex? spelling).bind fun index ↦ args[index]?) =
      (index? spelling).bind fun index ↦ args[index]? := by
  rw [machineIndex?]
  cases index? spelling with
  | none => rfl
  | some index =>
    by_cases fits : index < 2 ^ 64
    · rw [Option.filter_some, if_pos (by simpa using fits)]
    · have beyond : args[index]? = none := by
        rw [List.getElem?_eq_none_iff]
        exact count.trans (Nat.not_lt.mp fits)
      rw [Option.filter_some, if_neg (by simpa using fits), Option.bind_some, beyond]
      rfl

/-- Any other turn stops at the first opening brace. It writes the argument of a placeholder that
begins there, and leaves what follows the placeholder; or else it writes the brace. -/
theorem turn?_of_opening (count : args.length ≤ 2 ^ 64) {skipped : List Char}
    (first : '{' ∉ skipped) (inner : List Char) :
    turn? args (skipped ++ '{' :: inner) =
      match placeholder? args.length inner with
      | some (spelling, index, after) =>
        some (.more (skipped ++ (Segment.argument spelling index).render args) after)
      | none => some (.more (skipped ++ ['{']) inner) := by
  have opening := offset?_append first inner
  have tail : cut? (skipped ++ '{' :: inner) (width skipped) = some (skipped, '{' :: inner) :=
    cut?_eq_some_iff.mpr ⟨rfl, rfl⟩
  have brace : cut? ('{' :: inner) 1 = some (['{'], inner) := cut?_eq_some_iff.mpr ⟨rfl, rfl⟩
  simp only [turn?, opening, tail, brace, Option.bind_eq_bind, Option.bind_some]
  by_cases closes : '}' ∈ inner
  · obtain ⟨spelling, after, rfl, free⟩ := List.eq_append_cons_of_mem closes
    have cut := cut?_placeholder spelling after
    rw [offset?_append free, placeholder?_of_closed free]
    simp only [argumentAt?_width, machineIndex?_bind count, Option.bind_some]
    cases index? spelling with
    | none => rfl
    | some index =>
      by_cases below : index < args.length
      · have found : args[index]? = some args[index] := List.getElem?_eq_getElem below
        simp only [Option.bind_some, found, Option.map_some, cut, if_pos below, Segment.render,
          Option.getD_some]
      · have beyond : args[index]? = none := List.getElem?_eq_none (Nat.not_lt.mp below)
        simp only [Option.bind_some, beyond, Option.map_none, if_neg below]
  · have nothing : placeholder? args.length inner = none := by
      rw [Option.eq_none_iff_forall_not_mem]
      rintro ⟨spelling, index, after⟩ found
      have whole := eq_of_placeholder? found
      exact closes (whole ▸ List.mem_append_right _ List.mem_cons_self)
    rw [nothing, offset?_of_not_mem closes]

/-- Text without an opening brace is shown as it is. -/
theorem rendered_append {skipped : List Char} (free : '{' ∉ skipped) (rest : List Char) :
    rendered args (skipped ++ rest) = skipped ++ rendered args rest := by
  induction skipped with
  | nil => rfl
  | cons c skipped ih =>
    rw [List.mem_cons, not_or] at free
    obtain ⟨other, free⟩ := free
    rw [List.cons_append, rendered, segments_of_literal fun same ↦ absurd same.symm other,
      List.flatMap_cons]
    exact congrArg (c :: ·) (ih free)

private theorem rendered_of_placeholder? {rest spelling after : List Char} {index : Nat}
    (found : placeholder? args.length rest = some (spelling, index, after)) :
    rendered args ('{' :: rest) =
      (Segment.argument spelling index).render args ++ rendered args after := by
  rw [rendered, segments_of_placeholder? found, List.flatMap_cons, ← rendered]

private theorem rendered_of_brace {rest : List Char}
    (bare : placeholder? args.length rest = none) :
    rendered args ('{' :: rest) = '{' :: rendered args rest := by
  rw [rendered, segments_of_literal fun _ ↦ bare, List.flatMap_cons, ← rendered]
  rfl

/-- A turn does its part: what it writes, and what the rest that it leaves shows, is what the text
shows; and the rest is shorter. -/
def Turn.Renders (args : List Value) (text : List Char) : Turn → Prop
  | .last written => rendered args text = written
  | .more written rest =>
    rendered args text = written ++ rendered args rest ∧ rest.length < text.length

/-- Every turn makes its cuts and does its part. -/
theorem exists_turn (count : args.length ≤ 2 ^ 64) (text : List Char) :
    ∃ turn, turn? args text = some turn ∧ turn.Renders args text := by
  by_cases opens : '{' ∈ text
  · obtain ⟨skipped, inner, rfl, first⟩ := List.eq_append_cons_of_mem opens
    rw [turn?_of_opening count first]
    cases found : placeholder? args.length inner with
    | none =>
      refine ⟨_, rfl, ?_, ?_⟩
      · rw [rendered_append first, rendered_of_brace found, List.append_assoc]
        rfl
      · rw [List.length_append, List.length_cons]
        omega
    | some placeholder =>
      obtain ⟨spelling, index, after⟩ := placeholder
      have shorter := length_lt_of_placeholder? found
      refine ⟨_, rfl, ?_, ?_⟩
      · rw [rendered_append first, rendered_of_placeholder? found, List.append_assoc]
      · rw [List.length_append, List.length_cons]
        omega
  · have whole : rendered args (text ++ []) = text ++ rendered args [] := rendered_append opens []
    rw [List.append_nil] at whole
    refine ⟨.last text, turn?_of_not_mem opens, whole.trans ?_⟩
    rw [rendered, segments, List.flatMap_nil, List.append_nil]

/-- There is a pass, and it writes what the text shows. -/
theorem scansTo_rendered (count : args.length ≤ 2 ^ 64) (text : List Char) :
    ScansTo args text (rendered args text) := by
  obtain ⟨turn, turns, renders⟩ := exists_turn count text
  cases turn with
  | last written =>
    have same : rendered args text = written := renders
    rw [same]
    exact .last turns
  | more written rest =>
    obtain ⟨same, shorter⟩ := renders
    rw [same]
    exact .more turns (scansTo_rendered count rest)
termination_by text.length

/-- A pass writes what the text shows and nothing else. -/
theorem eq_rendered_of_scansTo (count : args.length ≤ 2 ^ 64) {text written : List Char}
    (h : ScansTo args text written) : written = rendered args text := by
  induction h with
  | @last text written turns =>
    obtain ⟨turn, turns', renders⟩ := exists_turn count text
    cases turns.symm.trans turns'
    exact renders.symm
  | @more text written rest shown turns later ih =>
    obtain ⟨turn, turns', renders⟩ := exists_turn count text
    cases turns.symm.trans turns'
    rw [ih, renders.1]

/-- What a segment shows: a literal character itself, and an argument its text, or nothing if it is
absent or composite. -/
inductive Shows (args : List Value) : Segment → List Char → Prop
  | literal (c : Char) : Shows args (.literal c) [c]
  | text {spelling : List Char} {index : Nat} {arg : Value} {text : String}
      (found : args[index]? = some arg) (scalar : arg.text? = some text) :
      Shows args (.argument spelling index) text.toList
  | nothing {spelling : List Char} {index : Nat} {arg : Value}
      (found : args[index]? = some arg)
      (textless : arg = .null ∨ (∃ items, arg = .list items) ∨ (∃ entries, arg = .map entries) ∨
        ∃ record : Record, arg = record.toValue) :
      Shows args (.argument spelling index) []

/-- Segments of a text that are arguments show arguments that are there. -/
theorem shows_render {text : List Char} {part : Segment}
    (member : part ∈ segments args.length text) : Shows args part (part.render args) := by
  cases part with
  | literal c => exact .literal c
  | argument spelling index =>
    obtain ⟨-, below⟩ := spells_of_mem_segments member
    have found : args[index]? = some args[index] := List.getElem?_eq_getElem below
    rw [Segment.render, found, Option.map_some, Option.getD_some, Value.textOrEmpty]
    generalize args[index] = arg at found
    cases arg with
    | null => exact .nothing found (.inl rfl)
    | list items => exact .nothing found (.inr (.inl ⟨items, rfl⟩))
    | map entries => exact .nothing found (.inr (.inr (.inl ⟨entries, rfl⟩)))
    | record schema fields => exact .nothing found (.inr (.inr (.inr ⟨⟨schema, fields⟩, rfl⟩)))
    | _ => exact .text found rfl

/-- Rendering replaces the placeholders of a template, once. For a number of arguments a template
has exactly one segmentation; with whatever arguments of that number, the text is what its segments
show, one after another. The pass over the bytes of the template makes all its cuts, in whatever is
left to render, comes to an end, and writes that text and no other, if there are no more arguments
than 64 bits count. -/
theorem render_replaces_placeholders (template : String) (arity : Nat) :
    ∃ parts : List Segment,
      (∀ other, Segmentation arity template.toList other ↔ other = parts) ∧
      ∀ args : List Value, args.length = arity →
        (∃ shown, List.Forall₂ (Shows args) parts shown ∧
          (render template args).toList = shown.flatten) ∧
        (args.length ≤ 2 ^ 64 →
          (∀ rest, ∃ turn, turn? args rest = some turn ∧
            ∀ written after, turn = .more written after → after.length < rest.length) ∧
          ∀ text, ScansTo args template.toList text ↔ text = (render template args).toList) := by
  refine ⟨segments arity template.toList, fun other ↦ segmentation_iff, ?_⟩
  rintro args rfl
  have text : (render template args).toList = rendered args template.toList :=
    String.toList_ofList
  refine ⟨⟨_, ?_, text.trans List.flatMap_def⟩, fun count ↦ ⟨fun rest ↦ ?_, fun written ↦ ?_⟩⟩
  · rw [List.forall₂_map_right_iff, List.forall₂_same]
    intro part member
    exact shows_render member
  · obtain ⟨turn, turns, renders⟩ := exists_turn count rest
    refine ⟨turn, turns, ?_⟩
    rintro written after rfl
    exact renders.2
  · rw [text]
    constructor
    · exact eq_rendered_of_scansTo count
    · rintro rfl
      exact scansTo_rendered count template.toList

/-- A template in which only two of the braces begin placeholders. -/
def greeting : String := "Zoë \x7b\x7b0\x7d \x7b+1\x7d \x7b2\x7d \x7b"

/-- The text of the first argument looks like a placeholder, and the second has none. -/
def guests : List Value := [.string "\x7b1\x7d", .null]

/-- The guests are greeted, and their texts are not read as placeholders. -/
theorem render_replaces_placeholders_greeting :
    guests.length = 2 ∧ guests.length ≤ 2 ^ 64 ∧
      render greeting guests = "Zoë \x7b\x7b1\x7d  \x7b2\x7d \x7b" ∧
      ScansTo guests greeting.toList "Zoë \x7b\x7b1\x7d  \x7b2\x7d \x7b".toList := by
  have text : render greeting guests = "Zoë \x7b\x7b1\x7d  \x7b2\x7d \x7b" := by cbv
  have count : guests.length ≤ 2 ^ 64 := by decide
  obtain ⟨parts, -, rendering⟩ := render_replaces_placeholders greeting 2
  obtain ⟨-, runs⟩ := (rendering guests rfl).2 count
  exact ⟨rfl, count, text, (runs _).mpr (text ▸ rfl)⟩

end Fieldwise.Template
