import Mathlib.Data.List.DropRight
import Mathlib.Data.List.TakeWhile
import Fieldwise.Ty

/-!
# Spellings of types

A text names a type by what is left of it without the blanks around it: a reserved spelling names a
built-in type, any other record name the record type of that name, and nothing else names a type.
Since a record type is written by its bare name, and may be declared under any name, writing a type
and reading it again is not always the identity. It is for the types that reading can give.
-/

namespace Fieldwise

namespace Text

/-- A name is what a text is without the blanks at its two ends. -/
structure TrimsTo (text name : String) : Prop where
  around : ∃ left right, text.toList = left ++ name.toList ++ right ∧
    (∀ c ∈ left, isBlank c = true) ∧ ∀ c ∈ right, isBlank c = true
  first : ∀ c, name.toList.head? = some c → isBlank c = false
  last : ∀ c, name.toList.getLast? = some c → isBlank c = false

/-- Trimming drops the blanks at both ends. -/
theorem trimChars_eq (cs : List Char) :
    trimChars cs = (cs.dropWhile isBlank).rdropWhile isBlank := rfl

/-- Blanks in front of a text are dropped. -/
theorem trimChars_append_left {left : List Char} (blank : ∀ c ∈ left, isBlank c = true)
    (cs : List Char) : trimChars (left ++ cs) = trimChars cs := by
  rw [trimChars_eq, List.dropWhile_append_of_pos blank, trimChars_eq]

/-- Blanks behind a text are dropped. -/
theorem trimChars_append_right (cs : List Char) {right : List Char}
    (blank : ∀ c ∈ right, isBlank c = true) : trimChars (cs ++ right) = trimChars cs := by
  rw [trimChars_eq, List.dropWhile_append]
  split
  · next empty =>
    rw [List.dropWhile_eq_nil_iff.mpr blank, trimChars_eq, List.isEmpty_iff.mp empty]
  · rw [List.rdropWhile, List.reverse_append,
      List.dropWhile_append_of_pos (by simpa using blank)]
    rfl

/-- A text that has no blank at either end is kept. -/
theorem trimChars_of_ends {cs : List Char} (first : ∀ c, cs.head? = some c → isBlank c = false)
    (last : ∀ c, cs.getLast? = some c → isBlank c = false) : trimChars cs = cs := by
  have front : cs.dropWhile isBlank = cs := by
    cases cs with
    | nil => rfl
    | cons c rest => rw [List.dropWhile_cons_of_neg (by simp [first c rfl])]
  rw [trimChars_eq, front, List.rdropWhile_eq_self_iff]
  intro nonempty
  simp [last _ (List.getLast?_eq_some_getLast nonempty)]

/-- A trimmed text does not begin with a blank. -/
theorem isBlank_head?_trimChars (cs : List Char) {c : Char}
    (h : (trimChars cs).head? = some c) : isBlank c = false := by
  -- what is kept of the end begins as the rest does, whose blanks in front are gone
  obtain ⟨rest, prefixed⟩ := List.rdropWhile_prefix isBlank (cs.dropWhile isBlank)
  have begins : (cs.dropWhile isBlank).head? = some c := by
    rw [← prefixed, List.head?_append, ← trimChars_eq, h, Option.some_or]
  have kept := List.head?_dropWhile_not isBlank cs
  rwa [begins] at kept

/-- A trimmed text does not end with a blank. -/
theorem isBlank_getLast?_trimChars (cs : List Char) {c : Char}
    (h : (trimChars cs).getLast? = some c) : isBlank c = false := by
  rw [trimChars, List.getLast?_reverse] at h
  have kept := List.head?_dropWhile_not isBlank (cs.dropWhile isBlank).reverse
  rwa [h] at kept

/-- Around a trimmed text only blanks were dropped. -/
theorem exists_around_trimChars (cs : List Char) : ∃ left right,
    cs = left ++ trimChars cs ++ right ∧ (∀ c ∈ left, isBlank c = true) ∧
      ∀ c ∈ right, isBlank c = true := by
  refine ⟨cs.takeWhile isBlank, (cs.dropWhile isBlank).rtakeWhile isBlank, ?_,
    fun c ↦ List.mem_takeWhile_imp, fun c ↦ List.mem_rtakeWhile_imp⟩
  rw [List.append_assoc, trimChars_eq, List.rdropWhile_append_rtakeWhile,
    List.takeWhile_append_dropWhile]

/-- Trimming drops the blanks at both ends and nothing else. -/
theorem trim_eq_iff {text name : String} : trim text = name ↔ TrimsTo text name := by
  have chars : (trim text).toList = trimChars text.toList := String.toList_ofList
  constructor
  · rintro rfl
    refine ⟨?_, fun c ↦ ?_, fun c ↦ ?_⟩
    · rw [chars]
      exact exists_around_trimChars text.toList
    · rw [chars]
      exact isBlank_head?_trimChars text.toList
    · rw [chars]
      exact isBlank_getLast?_trimChars text.toList
  · rintro ⟨⟨left, right, around, before, behind⟩, first, last⟩
    apply String.toList_inj.mp
    rw [chars, around, trimChars_append_right _ behind, trimChars_append_left before,
      trimChars_of_ends first last]

/-- Blanks that are added around a text are trimmed again. -/
theorem trim_append_append {left right : String} (before : ∀ c ∈ left.toList, isBlank c = true)
    (behind : ∀ c ∈ right.toList, isBlank c = true) (text : String) :
    trim (left ++ text ++ right) = trim text := by
  rw [trim, String.toList_append, String.toList_append, trimChars_append_right _ behind,
    trimChars_append_left before, trim]

/-- Classes of characters whose ranges lie apart have no character in common. -/
theorem CodeRange.covers_eq_false {ranges others : List CodeRange}
    (apart : ∀ r ∈ ranges, ∀ q ∈ others, r.2 < q.1 ∨ q.2 < r.1) {c : Char}
    (h : covers ranges c = true) : covers others c = false := by
  obtain ⟨r, member, least, greatest⟩ := covers_iff.mp h
  rw [Bool.eq_false_iff]
  intro covered
  obtain ⟨q, other, least', greatest'⟩ := covers_iff.mp covered
  have := apart r member q other
  omega

/-- No blank is a letter. -/
theorem isAlphabetic_of_isBlank {c : Char} (h : isBlank c = true) : isAlphabetic c = false :=
  CodeRange.covers_eq_false (by decide +kernel) h

/-- No blank is a digit. -/
theorem isNumeric_of_isBlank {c : Char} (h : isBlank c = true) : isNumeric c = false :=
  CodeRange.covers_eq_false (by decide +kernel) h

end Text

namespace Ty

/-- A type that is named by its own text: a built-in one, or a record type under a record name that
is not reserved. -/
def IsNameable : Ty → Prop
  | record name => isRecordName name = true ∧ name ∉ reserved.names
  | _ => True

/-- Record names hold no blanks. -/
theorem isBlank_of_isRecordName {name : String} (h : isRecordName name = true) {c : Char}
    (member : c ∈ name.toList) : Text.isBlank c = false := by
  rw [Bool.eq_false_iff]
  intro blank
  have letter := Text.isAlphabetic_of_isBlank blank
  have digit := Text.isNumeric_of_isBlank blank
  rw [isRecordName] at h
  cases chars : name.toList with
  | nil => simp [chars] at member
  | cons first rest =>
    simp only [chars, Bool.and_eq_true, List.all_eq_true] at h
    rw [chars] at member
    rcases List.mem_cons.mp member with rfl | member
    · simp [letter] at h
    · have legal := h.2 c member
      simp only [letter, digit, Bool.false_or, Bool.or_eq_true, beq_iff_eq] at legal
      rcases legal with rfl | rfl <;> revert blank <;> decide

/-- A record name is trimmed. -/
theorem trim_of_isRecordName {name : String} (h : isRecordName name = true) :
    Text.trim name = name := by
  apply Text.trim_eq_iff.mpr
  refine ⟨⟨[], [], by simp, by simp, by simp⟩, fun c first ↦ ?_, fun c last ↦ ?_⟩
  · exact isBlank_of_isRecordName h (List.mem_of_head? first)
  · exact isBlank_of_isRecordName h (List.mem_of_getLast? last)

/-- No reserved spelling names a record type. -/
theorem find?_reserved_ne_record {spelling name : String} :
    reserved.find? spelling ≠ some (record name) := by
  intro found
  simpa [reserved] using Table.mem_of_find?_eq_some found

/-- The spellings that record types cannot be read by. -/
example : reserved.names = ["any", "bool", "boolean", "int", "integer", "decimal", "float",
    "string", "list", "map"] := rfl

/-- A reserved spelling names its built-in type. -/
theorem parse_of_reserved {text : String} {type : Ty}
    (found : reserved.find? (Text.trim text) = some type) : parse text = .ok type := by
  rw [parse, found]

/-- A spelling that is not reserved names the record type of that name or no type. -/
theorem parse_of_free {text : String} (free : Text.trim text ∉ reserved.names) :
    parse text =
      if isRecordName (Text.trim text) then .ok (record (Text.trim text))
      else .error ⟨Text.trim text⟩ := by
  have absent : reserved.find? (Text.trim text) = none := by
    simpa [Table.mem_names_iff] using free
  rw [parse, absent]

/-- A spelling is reserved for a built-in type, or not at all. -/
theorem reserved_or_free (spelling : String) :
    (∃ type, reserved.find? spelling = some type ∧ spelling ∈ reserved.names) ∨
      spelling ∉ reserved.names := by
  by_cases listed : spelling ∈ reserved.names
  · obtain ⟨type, found⟩ := Option.isSome_iff_exists.mp (Table.mem_names_iff.mp listed)
    exact .inl ⟨type, found, listed⟩
  · exact .inr listed

/-- What a text names is a nameable type. -/
theorem isNameable_of_parse {text : String} {type : Ty} (h : parse text = .ok type) :
    type.IsNameable := by
  rcases reserved_or_free (Text.trim text) with ⟨builtIn, found, -⟩ | free
  · rw [parse_of_reserved found] at h
    cases h
    cases type with
    | record name => exact absurd found find?_reserved_ne_record
    | _ => trivial
  · rw [parse_of_free free] at h
    split at h
    · next legal =>
      cases h
      exact ⟨legal, free⟩
    · cases h

/-- A text names no type when what is left of it is neither reserved nor a record name, and the
complaint is about what is left. -/
theorem parse_eq_error_iff {text : String} {e : UnknownType} :
    parse text = .error e ↔ e.name = Text.trim text ∧ e.name ∉ reserved.names ∧
      isRecordName e.name = false := by
  obtain ⟨name⟩ := e
  rcases reserved_or_free (Text.trim text) with ⟨builtIn, found, listed⟩ | free
  · rw [parse_of_reserved found]
    simp only [reduceCtorEq, false_iff]
    rintro ⟨rfl, free, -⟩
    exact free listed
  · rw [parse_of_free free]
    cases legal : isRecordName (Text.trim text) with
    | true =>
      simp only [↓reduceIte, reduceCtorEq, false_iff]
      rintro ⟨rfl, -, illegal⟩
      rw [legal] at illegal
      cases illegal
    | false =>
      simp only [Bool.false_eq_true, ↓reduceIte, Except.error.injEq, UnknownType.mk.injEq]
      constructor
      · rintro rfl
        exact ⟨rfl, free, legal⟩
      · rintro ⟨rfl, -⟩
        rfl

/-- The text of a nameable type names it. -/
theorem parse_text_of_isNameable {type : Ty} (h : type.IsNameable) :
    parse type.text = .ok type := by
  cases type with
  | record name =>
    obtain ⟨legal, free⟩ := h
    have trimmed : Text.trim name = name := trim_of_isRecordName legal
    rw [text, parse_of_free (by rwa [trimmed]), trimmed, if_pos legal]
  | _ => decide +kernel

/-- Writing a type and reading it again gives it back exactly for the nameable types, and these are
the only types that are ever read. Blanks around a text make no difference. A text is refused
exactly when what it is without them is neither reserved nor a record name, and that is what the
complaint names. -/
theorem parse_text_exactly_nameable :
    (∀ type : Ty, parse type.text = .ok type ↔ type.IsNameable) ∧
      (∀ text type, parse text = .ok type → type.IsNameable ∧ parse type.text = .ok type) ∧
      (∀ left text right : String, (∀ c ∈ left.toList, Text.isBlank c = true) →
        (∀ c ∈ right.toList, Text.isBlank c = true) →
          parse (left ++ text ++ right) = parse text) ∧
      ∀ text e, parse text = .error e ↔ Text.TrimsTo text e.name ∧ e.name ∉ reserved.names ∧
        isRecordName e.name = false := by
  refine ⟨fun type ↦ ⟨isNameable_of_parse, parse_text_of_isNameable⟩, ?_, ?_, ?_⟩
  · intro text type read
    have nameable := isNameable_of_parse read
    exact ⟨nameable, parse_text_of_isNameable nameable⟩
  · intro left text right before behind
    rw [parse, parse, Text.trim_append_append before behind]
  · intro text e
    rw [parse_eq_error_iff, ← Text.trim_eq_iff, eq_comm]

/-- A record type is read through blanks of several kinds, and one that bears a reserved spelling is
not read back. -/
theorem parse_text_exactly_nameable_padded :
    (∀ c ∈ "\t\u00a0".toList, Text.isBlank c = true) ∧
      (∀ c ∈ "\n".toList, Text.isBlank c = true) ∧
      parse ("\t\u00a0" ++ "Org.Person_2" ++ "\n") = .ok (record "Org.Person_2") ∧
      (record "Org.Person_2").IsNameable ∧
      parse (record "Org.Person_2").text = .ok (record "Org.Person_2") ∧
      parse (record "int").text ≠ .ok (record "int") := by
  obtain ⟨nameable, reads, pads, -⟩ := parse_text_exactly_nameable
  have before : ∀ c ∈ "\t\u00a0".toList, Text.isBlank c = true :=
    List.all_eq_true.mp (by decide +kernel)
  have behind : ∀ c ∈ "\n".toList, Text.isBlank c = true :=
    List.all_eq_true.mp (by decide +kernel)
  have bare : parse "Org.Person_2" = .ok (record "Org.Person_2") := by decide +kernel
  obtain ⟨named, again⟩ := reads _ _ bare
  refine ⟨before, behind, ?_, named, again, ?_⟩
  · rw [pads _ _ _ before behind]
    exact bare
  · rw [ne_eq, nameable]
    rintro ⟨-, free⟩
    exact free (by decide)

end Ty

end Fieldwise
