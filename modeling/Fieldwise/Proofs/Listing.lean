import Mathlib.Data.List.TakeWhile
import Fieldwise.Catalog.Loading
import Fieldwise.Proofs.Sorting

/-!
# Documents in a file tree

Which documents a path contributes, said of the entries of the tree and of their names. A directory
contributes the files inside it whose names mark them as documents, names ascending; that is one
list and no other, so the order in which the tree lists its entries leaves no trace.
-/

namespace Fieldwise

namespace FileTree

/-- An extension is what follows the last point of a name, unless the name begins there. -/
theorem extension?_eq_some_iff {name ending : String} :
    extension? name = some ending ↔
      '.' ∉ ending.toList ∧ ∃ stem, stem ≠ "" ∧ name = stem ++ "." ++ ending := by
  constructor
  · intro h
    simp only [extension?] at h
    split at h
    · next point c rest dropped =>
      cases h
      have pointed := List.head?_dropWhile_not (· != '.') name.toList.reverse
      rw [dropped] at pointed
      obtain rfl : point = '.' := by simpa using pointed
      refine ⟨?_, String.ofList (c :: rest).reverse, by simp, ?_⟩
      · intro member
        rw [String.toList_ofList, List.mem_reverse] at member
        simpa using List.mem_takeWhile_imp member
      · have whole := List.takeWhile_append_dropWhile (p := (· != '.')) (l := name.toList.reverse)
        rw [dropped, ← List.reverse_inj, List.reverse_reverse] at whole
        apply String.toList_inj.mp
        apply whole.symm.trans
        simp
    · cases h
  · rintro ⟨plain, stem, nonempty, rfl⟩
    have spelled : (stem ++ "." ++ ending).toList.reverse =
        ending.toList.reverse ++ '.' :: stem.toList.reverse := by
      simp
    have free : ∀ c ∈ ending.toList.reverse, (c != '.') = true := by
      intro c member
      simpa using fun same : c = '.' ↦ plain (same ▸ List.mem_reverse.mp member)
    simp only [extension?, spelled, List.dropWhile_append_of_pos free,
      List.takeWhile_append_of_pos free]
    cases stemmed : stem.toList.reverse with
    | nil => exact absurd (by simpa using stemmed) nonempty
    | cons c rest => simp

end FileTree

namespace DocumentFormat

/-- The extensions of documents of a form. -/
def extensions : DocumentFormat → List String
  | json => ["json"]
  | yaml => ["yaml", "yml"]

/-- A file name marks a document of a form: it ends in a point and one of the form's extensions, and
does not begin with that point. -/
def Marks (format : DocumentFormat) (name : String) : Prop :=
  ∃ stem, stem ≠ "" ∧ ∃ extension ∈ format.extensions, name = stem ++ "." ++ extension

/-- The form that is read off a file name is the one that the name marks. -/
theorem ofName?_eq_some_iff {format : DocumentFormat} {name : String} :
    ofName? name = some format ↔ format.Marks name := by
  have listed : ofName? name = some format ↔
      ∃ extension ∈ format.extensions, FileTree.extension? name = some extension := by
    rw [ofName?]
    split <;> cases format <;> simp_all [extensions]
  have plain : ∀ extension ∈ format.extensions, '.' ∉ extension.toList := by
    cases format <;> simp [extensions]
  rw [listed]
  simp only [FileTree.extension?_eq_some_iff, Marks]
  constructor
  · rintro ⟨extension, known, -, stem, nonempty, spelled⟩
    exact ⟨stem, nonempty, extension, known, spelled⟩
  · rintro ⟨stem, nonempty, extension, known, spelled⟩
    exact ⟨extension, known, plain extension known, stem, nonempty, spelled⟩

/-- A file that is named outright is read as the form that its name marks, and otherwise as the
first one. -/
theorem getD_ofName?_eq_iff {format : DocumentFormat} {name : String} :
    (ofName? name).getD .json = format ↔ (format = .yaml ↔ yaml.Marks name) := by
  rw [← ofName?_eq_some_iff]
  cases ofName? name with
  | none => cases format <;> simp
  | some marked => cases marked <;> cases format <;> simp

end DocumentFormat

namespace FileTree

/-- An entry is a file inside a directory when it stands there under a name. -/
theorem childIn?_eq_some_iff {location : List String} {entry : List String × Entry} {name : String}
    {text? : Option String} :
    childIn? location entry = some (name, text?) ↔ entry = (location ++ [name], .file text?) := by
  obtain ⟨spot, content⟩ := entry
  cases content with
  | directory => simp [childIn?, Entry.content?]
  | file text =>
    simp only [childIn?, Entry.content?, Option.bind_eq_bind, Option.bind_some,
      Option.bind_eq_some_iff, Option.ite_none_right_eq_some, Option.some.injEq, Prod.mk.injEq,
      Entry.file.injEq]
    constructor
    · rintro ⟨last, ends, rfl, rfl, rfl⟩
      exact ⟨(List.dropLast_append_getLast? last ends).symm, rfl⟩
    · rintro ⟨rfl, rfl⟩
      exact ⟨name, by simp, by simp, rfl, rfl⟩

variable {t u : FileTree} {location : List String} {path name : String} {text? : Option String}

/-- The listing of a directory has the files that stand in it. -/
theorem mem_listing_iff :
    (name, text?) ∈ t.listing location ↔ (location ++ [name], .file text?) ∈ t.entries := by
  simp only [listing, List.mem_filterMap, childIn?_eq_some_iff, exists_eq_right]

/-- No name is listed twice. -/
theorem nodup_names_listing (t : FileTree) (location : List String) :
    (t.listing location).names.Nodup := by
  have apart : t.entries.Pairwise (fun a b ↦ a.1 ≠ b.1) := List.pairwise_map.mp t.distinct
  rw [Table.names, listing, List.Nodup, List.pairwise_map, List.pairwise_filterMap]
  apply List.Pairwise.imp _ apart
  rintro a b distinct ⟨name, text?⟩ first ⟨other, text'?⟩ second rfl
  rw [childIn?_eq_some_iff] at first second
  exact distinct (first ▸ second ▸ rfl)

/-- The files of a directory are the ones that stand in it. -/
theorem mem_filesIn_iff :
    (name, text?) ∈ t.filesIn location ↔ (location ++ [name], .file text?) ∈ t.entries := by
  rw [filesIn, Table.mem_sorted_iff (t.nodup_names_listing location), mem_listing_iff]

/-- The documents of a directory are the files in it that are within reach and whose names mark
them. -/
theorem mem_documentsIn_iff {file : DocumentFile} :
    (name, file) ∈ t.documentsIn path location ↔
      (location ++ [name], .file file.text?) ∈ t.entries ∧ fits (join path name) = true ∧
        file.format.Marks name := by
  obtain ⟨format, text?⟩ := file
  simp only [documentsIn, List.mem_filterMap, List.mem_filter, Option.map_eq_some_iff,
    Prod.mk.injEq, DocumentFile.mk.injEq]
  constructor
  · rintro ⟨⟨other, content⟩, ⟨member, reached⟩, marked, form, rfl, rfl, rfl⟩
    exact ⟨mem_filesIn_iff.mp member, reached, DocumentFormat.ofName?_eq_some_iff.mp form⟩
  · rintro ⟨member, reached, form⟩
    exact ⟨(name, text?), ⟨mem_filesIn_iff.mpr member, reached⟩, format,
      DocumentFormat.ofName?_eq_some_iff.mpr form, rfl, rfl, rfl⟩

/-- The documents of a directory have ascending names. -/
theorem ascending_documentsIn (t : FileTree) (path : String) (location : List String) :
    (t.documentsIn path location).Ascending := by
  have files : (List.filter (fun file ↦ fits (join path file.1)) (t.filesIn location)).Pairwise
      (fun a b ↦ a.1 < b.1) :=
    List.pairwise_map.mp ((Table.ascending_sorted (t.listing location)).filter _)
  rw [Table.Ascending, Table.names, documentsIn, List.pairwise_map, List.pairwise_filterMap]
  apply List.Pairwise.imp _ files
  rintro a b less document first other second
  obtain ⟨format, -, rfl⟩ := Option.map_eq_some_iff.mp first
  obtain ⟨format', -, rfl⟩ := Option.map_eq_some_iff.mp second
  exact less

/-- The content of a file is what stands at its location. -/
theorem fileAt?_eq_some_iff :
    t.fileAt? location = some text? ↔ (location, .file text?) ∈ t.entries := by
  have at_iff (entry : List String × Entry) (content : Option String) :
      (if entry.1 = location then entry.2.content? else none) = some content ↔
        entry = (location, .file content) := by
    obtain ⟨spot, entry⟩ := entry
    cases entry <;> simp [Entry.content?]
  constructor
  · intro found
    obtain ⟨entry, member, here⟩ := List.exists_of_findSome?_eq_some found
    rw [at_iff] at here
    exact here ▸ member
  · intro member
    -- there is an entry of that location, and no other one
    have present : (t.fileAt? location).isSome = true :=
      List.findSome?_isSome_iff.mpr ⟨_, member, by simp [Entry.content?]⟩
    obtain ⟨content, found⟩ := Option.isSome_iff_exists.mp present
    obtain ⟨entry, member', here⟩ := List.exists_of_findSome?_eq_some found
    rw [at_iff] at here
    subst here
    have same := List.inj_on_of_nodup_map t.distinct member member' rfl
    cases same
    exact found

private theorem isDirectoryAt_or_file_of_follow? {start steps : List String}
    (leads : t.follow? start steps = some location) :
    t.isDirectoryAt location = true ∨ (t.fileAt? location).isSome = true := by
  induction steps generalizing start with
  | nil =>
    rw [follow?, Option.ite_none_right_eq_some] at leads
    obtain ⟨present, same⟩ := leads
    cases same
    exact Bool.or_eq_true_iff.mp present
  | cons step rest ih =>
    rw [follow?, Option.ite_none_right_eq_some] at leads
    exact ih leads.2

/-- What a path leads to is a directory or a file. -/
theorem isDirectoryAt_or_file_of_resolve? (leads : t.resolve? path = some location) :
    t.isDirectoryAt location = true ∨ (t.fileAt? location).isSome = true := by
  rw [resolve?, Option.ite_none_left_eq_some] at leads
  exact isDirectoryAt_or_file_of_follow? leads.2

/-- The documents that a path contributes. A file that is named outright is one document, whatever
its name; a directory contributes the files in it whose names mark them, in the order of their
names. A file whose own path is too long to lead to it is not seen to be one. -/
inductive Contributes (t : FileTree) (path : String) : List DocumentFile → Prop
  | file {location : List String} {file : DocumentFile} (leads : t.resolve? path = some location)
      (plain : t.isDirectoryAt location = false)
      (content : (location, .file file.text?) ∈ t.entries)
      (form : file.format = .yaml ↔ DocumentFormat.yaml.Marks (nameOf path)) :
      t.Contributes path [file]
  | directory {location : List String} {files : Table DocumentFile}
      (leads : t.resolve? path = some location) (inside : t.isDirectoryAt location = true)
      (ascending : files.Ascending)
      (members : ∀ name file, (name, file) ∈ files ↔
        (location ++ [name], .file file.text?) ∈ t.entries ∧ fits (join path name) = true ∧
          file.format.Marks name) :
      t.Contributes path (files.map Prod.snd)

/-- A path has the documents that it contributes. -/
theorem documents_eq_ok_iff {files : List DocumentFile} :
    t.documents path = .ok files ↔ t.Contributes path files := by
  rw [documents]
  constructor
  · intro h
    cases leads : t.resolve? path with
    | none => simp [leads] at h
    | some location =>
      simp only [leads] at h
      split at h
      · next inside =>
        cases h
        exact .directory leads inside (t.ascending_documentsIn path location)
          fun name file ↦ mem_documentsIn_iff
      · next plain =>
        cases h
        have present := (isDirectoryAt_or_file_of_resolve? leads).resolve_left plain
        obtain ⟨text?, found⟩ := Option.isSome_iff_exists.mp present
        rw [found]
        exact .file leads (Bool.eq_false_iff.mpr plain) (fileAt?_eq_some_iff.mp found)
          (DocumentFormat.getD_ofName?_eq_iff.mp rfl)
  · intro h
    cases h with
    | @file location file leads plain content form =>
      obtain ⟨format, text?⟩ := file
      simp only [leads, plain, Bool.false_eq_true, ↓reduceIte, fileAt?_eq_some_iff.mpr content,
        DocumentFormat.getD_ofName?_eq_iff.mpr form, Option.join_some]
    | @directory location files leads inside ascending members =>
      have only : t.documentsIn path location = files := by
        apply (t.ascending_documentsIn path location).ext_mem ascending
        rintro ⟨name, file⟩
        rw [mem_documentsIn_iff, members]
      simp only [leads, inside, ↓reduceIte, only]

/-- A path contributes no documents only if it leads nowhere. -/
theorem documents_eq_error_iff {e : SchemaError} :
    t.documents path = .error e ↔ t.resolve? path = none ∧ e = .missingPath path := by
  rw [documents]
  cases t.resolve? path with
  | none => simp [eq_comm]
  | some location => by_cases inside : t.isDirectoryAt location = true <;> simp [inside]

/-- The same entries, listed in another order. -/
def Relisted (t u : FileTree) : Prop := t.entries.Perm u.entries

namespace Relisted

/-- Trees that list one another in another order do so both ways. -/
theorem symm (h : t.Relisted u) : u.Relisted t := List.Perm.symm h

/-- Relisting keeps the directories where they are. -/
theorem isDirectoryAt_eq (h : t.Relisted u) (location : List String) :
    t.isDirectoryAt location = u.isDirectoryAt location := by
  rw [isDirectoryAt, isDirectoryAt, List.Perm.any_eq h]

/-- Relisting keeps the files where they are. -/
theorem fileAt?_eq (h : t.Relisted u) (location : List String) :
    t.fileAt? location = u.fileAt? location := by
  apply Option.ext
  intro text?
  rw [fileAt?_eq_some_iff, fileAt?_eq_some_iff, List.Perm.mem_iff h]

/-- Relisting keeps where the steps of a path lead. -/
theorem follow?_eq (h : t.Relisted u) (start steps : List String) :
    t.follow? start steps = u.follow? start steps := by
  induction steps generalizing start with
  | nil => rw [follow?, follow?, h.isDirectoryAt_eq, h.fileAt?_eq]
  | cons step rest ih => rw [follow?, follow?, h.isDirectoryAt_eq, ih]

/-- A path leads to the same location. -/
theorem resolve?_eq (h : t.Relisted u) (path : String) : t.resolve? path = u.resolve? path := by
  simp only [resolve?, h.follow?_eq]

/-- A path contributes the same documents. -/
theorem contributes (h : t.Relisted u) {files : List DocumentFile}
    (given : t.Contributes path files) : u.Contributes path files := by
  cases given with
  | file leads plain content form =>
    rw [h.resolve?_eq] at leads
    rw [h.isDirectoryAt_eq] at plain
    exact .file leads plain ((List.Perm.mem_iff h).mp content) form
  | directory leads inside ascending members =>
    rw [h.resolve?_eq] at leads
    rw [h.isDirectoryAt_eq] at inside
    exact .directory leads inside ascending fun name file ↦ by
      rw [members, List.Perm.mem_iff h]

/-- Relisting keeps what a path contributes. -/
theorem contributes_iff (h : t.Relisted u) {files : List DocumentFile} :
    t.Contributes path files ↔ u.Contributes path files :=
  ⟨h.contributes, h.symm.contributes⟩

end Relisted

end FileTree

end Fieldwise
