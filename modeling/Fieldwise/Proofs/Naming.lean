import Mathlib
import Fieldwise.Proofs.Wiring

/-!
# Accessor names and the fields they address

An accessor addresses the field it is named for exactly when the first character of the field's name
comes back from its upper case. Whether it does depends on that character alone, whatever follows it
and even if the name itself looks like an accessor's. Names of which this holds have readers and
writers of their own, and no reader is ever bound as a writer.
-/

namespace Fieldwise

namespace Text

/-- A mapping gives some character if all of its expansions do. -/
theorem CaseRun.mapping_ne_nil {runs : List CaseRun} {expansions : List (Nat × List Nat)}
    (spelled : ∀ entry ∈ expansions, entry.2 ≠ []) (c : Char) :
    CaseRun.mapping runs expansions c ≠ [] := by
  rw [CaseRun.mapping]
  split
  · next codes found =>
    obtain ⟨before, after, rfl, -⟩ := List.lookup_eq_some_iff.mp found
    simpa using spelled (c.toNat, codes) (by simp)
  · split <;> simp

/-- The upper case of a character is not empty. -/
theorem upperOf_ne_nil (c : Char) : upperOf c ≠ [] := CaseRun.mapping_ne_nil (by decide) c

/-- The lower case of a character is not empty. -/
theorem lowerOf_ne_nil (c : Char) : lowerOf c ≠ [] := CaseRun.mapping_ne_nil (by decide) c

/-- The upper case of a character, with the first of its characters back in lower case. -/
def recase (c : Char) : List Char :=
  match upperOf c with
  | [] => []
  | first :: rest => lowerOf first ++ rest

/-- A character that has several characters in upper case does not become fewer. -/
theorem length_upperOf_le_length_recase (c : Char) : (upperOf c).length ≤ (recase c).length := by
  rw [recase]
  cases upperOf c with
  | nil => rfl
  | cons first rest =>
    have := List.length_pos_iff.mpr (lowerOf_ne_nil first)
    simp only [List.length_cons, List.length_append]
    omega

/-- Of the first 128 characters, all but the capitals come back. -/
theorem recase_eq_singleton_iff {c : Char} (ascii : c.toNat < 128) :
    recase c = [c] ↔ c.isUpper = false := by
  have each : ∀ code < 128, recase (.ofNat code) = [.ofNat code] ↔
      (Char.ofNat code).isUpper = false := by
    decide +kernel
  simpa only [Char.ofNat_toNat] using each c.toNat ascii

/-- Changing the case of a name to and fro recases its first character. -/
theorem uncapitalize_capitalize_cons (c : Char) (rest : List Char) :
    uncapitalize (capitalize (.ofList (c :: rest))) = .ofList (recase c ++ rest) := by
  obtain ⟨first, others, upper⟩ := List.exists_cons_of_ne_nil (upperOf_ne_nil c)
  simp [capitalize, uncapitalize, recase, upper]

end Text

namespace Accessor

/-- A name whose first character comes back from its upper case. -/
def IsStable (name : String) : Prop := Text.uncapitalize (Text.capitalize name) = name

instance : DecidablePred IsStable :=
  fun name ↦ inferInstanceAs (Decidable (Text.uncapitalize (Text.capitalize name) = name))

/-- The empty name is stable. -/
theorem isStable_empty : IsStable "" := rfl

section

variable {name : String} {c : Char} {rest : List Char}

/-- The first character alone decides. -/
theorem isStable_iff_of_cons (spelled : name.toList = c :: rest) :
    IsStable name ↔ Text.recase c = [c] := by
  obtain rfl : .ofList (c :: rest) = name := spelled ▸ String.ofList_toList
  rw [IsStable, Text.uncapitalize_capitalize_cons, String.ofList_inj, ← List.singleton_append,
    List.append_left_inj]

/-- No name is stable whose first character has several characters in upper case. -/
theorem not_isStable_of_expanding (spelled : name.toList = c :: rest)
    (expands : 1 < (Text.upperOf c).length) : ¬ IsStable name := by
  intro stable
  have longer := Text.length_upperOf_le_length_recase c
  rw [(isStable_iff_of_cons spelled).mp stable, List.length_singleton] at longer
  omega

example : IsStable "σίγμα" ∧ ¬ IsStable "Σίγμα" ∧ ¬ IsStable "ﬁx" := by decide +kernel

end

/-- A reader addresses the field that it is named for if and only if the name is stable. -/
theorem field_reader_eq_iff {name : String} : field (reader name) = name ↔ IsStable name := by
  rw [field, stem_reader, IsStable]

/-- A reader and a writer of one name address one field. -/
theorem field_writer (name : String) : field (writer name) = field (reader name) := by
  rw [field, field, stem_writer, stem_reader]

/-- On stable names, the field of a reader is what it is named for. -/
theorem leftInvOn_reader : Set.LeftInvOn field reader {name | IsStable name} :=
  fun _ stable ↦ field_reader_eq_iff.mpr stable

/-- On stable names, the field of a writer is what it is named for. -/
theorem leftInvOn_writer : Set.LeftInvOn field writer {name | IsStable name} := by
  intro name stable
  rw [field_writer]
  exact leftInvOn_reader stable

end Accessor

/-- A method that is named like a reader and computes nothing fills no field. -/
theorem Scope.methodBinding?_eq_none (s : Scope) {m : Method} {name : String}
    (named : m.name = Accessor.reader name) (plain : m.synthesis = none) :
    s.methodBinding? m = .ok none := by
  simp only [methodBinding?, plain, named, Accessor.isWriter_reader, Bool.false_eq_true, if_false]
  split <;> rfl

/-- No writer of a compiled mapping, at any depth, is named like a reader. -/
theorem Catalog.Compiled.name_ne_reader {c : Catalog} {m n : Mapping} (compiled : c.Compiled m)
    (contained : m.Contains n) {key : String} {b : Binding} (member : (key, b) ∈ n.bindings)
    {w : Method} (bound : b.writer? = some w) (name : String) : w.name ≠ Accessor.reader name := by
  intro named
  obtain ⟨-, param, shape⟩ := ((compiled.contained contained).wired_of_mem member).writer bound
  have written := shape.named
  rw [named, Accessor.isWriter_reader] at written
  cases written

namespace Accessor

/-- Accessor names and stable names. A reader and a writer address one field, which is the one they
are named for if and only if the name is stable: if its first character comes back from its upper
case. Among the first 128 characters those are all but the capitals; a character with several in
upper case never is one. Stable names have readers and writers of their own. Only the latter are
taken for writers, so no method with a reader's name is bound as one, by itself or in a mapping. -/
theorem field_inverts_exactly_stable :
    (∀ name, field (reader name) = field (writer name)) ∧
      (∀ name, field (reader name) = name ↔ IsStable name) ∧
      IsStable "" ∧
      (∀ name c rest, name.toList = c :: rest →
        (IsStable name ↔ Text.recase c = [c]) ∧
          (c.toNat < 128 → (IsStable name ↔ c.isUpper = false)) ∧
          (1 < (Text.upperOf c).length → ¬ IsStable name)) ∧
      Set.InjOn reader {name | IsStable name} ∧ Set.InjOn writer {name | IsStable name} ∧
      (∀ name, isWriter (reader name) = false ∧ isWriter (writer name) = true) ∧
      (∀ (s : Scope) (m : Method) name, m.name = reader name → m.synthesis = none →
        s.methodBinding? m = .ok none) ∧
      ∀ (c : Catalog) target defaults m, c.compile target defaults = .ok m →
        ∀ n, m.Contains n → ∀ key b, (key, b) ∈ n.bindings →
          ∀ w, b.writer? = some w → ∀ name, w.name ≠ reader name := by
  refine ⟨fun name ↦ (field_writer name).symm, fun name ↦ field_reader_eq_iff, isStable_empty, ?_,
    leftInvOn_reader.injOn, leftInvOn_writer.injOn,
    fun name ↦ ⟨isWriter_reader name, isWriter_writer name⟩,
    fun s m name ↦ s.methodBinding?_eq_none, ?_⟩
  · intro name c rest spelled
    refine ⟨isStable_iff_of_cons spelled, fun ascii ↦ ?_, not_isStable_of_expanding spelled⟩
    rw [isStable_iff_of_cons spelled, Text.recase_eq_singleton_iff ascii]
  · intro c target defaults m compiled n contained key b member w bound
    exact (Catalog.compiled_of_compile compiled).1.name_ne_reader contained member bound

end Accessor

namespace Post

/-- A memo is mapped from a letter. Its title has a reader and a writer. -/
def memo : Schema :=
  { name := "Memo", serializedFrom := some "Letter" : Schema }.addProperty "title" .string
    |>.addMethod (.writerOf "title" .string)

/-- Memos and the letters that they are mapped from. -/
def memos : Catalog :=
  Catalog.empty.registerAll [{ name := "Letter" : Schema }.addProperty "title" .string, memo]

/-- What sets a title by the name of its reader. -/
def retitle : Method :=
  { name := "getTitle", params := [.string], returns := none, body := .setter "title" }

/-- What memos are compiled to. -/
def toMemo : Mapping :=
  .mk memo "Letter" .all
    [("title", .direct "title" (.readerOf "title" .string) (some (.writerOf "title" .string)))]

/-- Names that look like accessors, and those with an accented first letter, are addressed by their
accessors; names with a capital first letter, or with one that has no capital of its own, are not.
A memo's title is filled by its writer, and would not be by a setter named like its reader. -/
theorem field_inverts_exactly_stable_memo :
    Accessor.field (Accessor.reader "getaway") = "getaway" ∧
      Accessor.field (Accessor.writer "settings") = "settings" ∧
      Accessor.field (Accessor.writer "éclair") = "éclair" ∧
      Accessor.field (Accessor.reader "URL") ≠ "URL" ∧
      Accessor.field (Accessor.reader "ßen") ≠ "ßen" ∧
      Accessor.reader "getaway" ≠ Accessor.reader "settings" ∧
      memos.compile "Memo" .all = .ok toMemo ∧
      Accessor.writer "title" ≠ Accessor.reader "title" ∧
      ∀ s : Scope, s.methodBinding? retitle = .ok none := by
  obtain ⟨same, inverts, -, first, readers, -, -, skipped, apart⟩ :=
    Accessor.field_inverts_exactly_stable
  have getaway : Accessor.IsStable "getaway" :=
    ((first "getaway" 'g' "etaway".toList (by decide)).2.1 (by decide)).mpr rfl
  have settings : Accessor.IsStable "settings" :=
    ((first "settings" 's' "ettings".toList (by decide)).2.1 (by decide)).mpr rfl
  have éclair : Accessor.IsStable "éclair" :=
    (first "éclair" 'é' "clair".toList (by decide)).1.mpr (by decide +kernel)
  have capital : ¬ Accessor.IsStable "URL" := fun stable ↦ nomatch
    ((first "URL" 'U' "RL".toList (by decide)).2.1 (by decide)).mp stable
  have expanding : ¬ Accessor.IsStable "ßen" :=
    (first "ßen" 'ß' "en".toList (by decide)).2.2 (by decide +kernel)
  have compiled : memos.compile "Memo" .all = .ok toMemo := by cbv
  have bound :
      ("title",
        .direct "title" (.readerOf "title" .string) (some (.writerOf "title" .string))) ∈
          toMemo.bindings := List.mem_singleton.mpr rfl
  refine ⟨(inverts _).mpr getaway, ?_, ?_, fun h ↦ capital ((inverts _).mp h),
    fun h ↦ expanding ((inverts _).mp h), fun h ↦ ?_, compiled,
    apart memos "Memo" .all toMemo compiled toMemo (.self _) "title" _ bound
      (.writerOf "title" .string) rfl "title",
    fun s ↦ skipped s retitle "title" (by decide +kernel) rfl⟩
  · exact (same _).symm.trans ((inverts _).mpr settings)
  · exact (same _).symm.trans ((inverts _).mpr éclair)
  · exact absurd (readers getaway settings h) (by decide)

end Post

end Fieldwise
