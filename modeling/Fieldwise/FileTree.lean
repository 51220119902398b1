import Fieldwise.Table

/-!
# File trees

The files and directories that a command sees, by the components of their paths. A path is written
with slashes and resolved step by step: every step but the last must lead to a directory, and two
points lead back to the enclosing one. Names and paths have a greatest length. Each location has one
entry at most, and entries are listed in no particular order.
-/

namespace Fieldwise

/-- What stands at a location: a directory, or a file with its text. A file that may not be read, or
whose bytes are no text, has none. -/
inductive FileTree.Entry where
  | directory
  | file (text? : Option String)
  deriving DecidableEq, Repr

/-- The content of an entry, if it is a file. -/
def FileTree.Entry.content? : Entry → Option (Option String)
  | directory => none
  | file text? => some text?

/-- Files and directories by location. Whatever lies above an entry is a directory too. -/
structure FileTree where
  entries : List (List String × FileTree.Entry)
  distinct : (entries.map Prod.fst).Nodup

namespace FileTree

/-- The tree with nothing in it. -/
def empty : FileTree := ⟨[], List.nodup_nil⟩

/-- The content of the file with given components. -/
def fileAt? (t : FileTree) (location : List String) : Option (Option String) :=
  t.entries.findSome? fun entry ↦ if entry.1 = location then entry.2.content? else none

/-- The most bytes that a name may have. -/
def longestName : Nat := 255

/-- The most bytes that a path may have. -/
def longestPath : Nat := 4095

/-- Whether a path is short enough to lead anywhere. -/
def fits (path : String) : Bool := decide (path.utf8ByteSize ≤ longestPath)

/-- The location of everything. -/
def top : List String := ["/"]

/-- Whether a location is that of the tree itself or of a directory around it. -/
def surrounds (location : List String) : Bool := location.all (· == "..")

/-- Whether given components lead to a directory. The tree itself is one, and so is every directory
around it. -/
def isDirectoryAt (t : FileTree) (location : List String) : Bool :=
  surrounds location || location == top || t.entries.any fun entry ↦
    (entry.1 == location && entry.2 == .directory) ||
      (location.length < entry.1.length && entry.1.take location.length == location)

/-- Whether a step leads nowhere else. -/
def isIdle (step : String) : Bool := step == "" || step == "."

/-- Where a step leads from a directory. Two points lead out of it, and from the top nowhere. -/
def enter (location : List String) (step : String) : List String :=
  if isIdle step then location
  else if step != ".." then location ++ [step]
  else if location == top then top
  else if surrounds location then location ++ [".."]
  else location.dropLast

/-- Follow the steps of a path from a location. -/
def follow? (t : FileTree) (location : List String) : List String → Option (List String)
  | [] =>
    if t.isDirectoryAt location || (t.fileAt? location).isSome then some location else none
  | step :: rest =>
    if t.isDirectoryAt location then t.follow? (enter location step) rest else none

/-- Where the steps of a path begin, and the steps. A leading slash begins at the top. -/
def steps (path : String) : List String × List String :=
  match path.splitOn "/" with
  | "" :: rest => (top, rest)
  | steps => ([], steps)

/-- The location that a path leads to; the empty path leads nowhere, and neither does a path that is
too long. -/
def resolve? (t : FileTree) (path : String) : Option (List String) :=
  if path = "" || !fits path then none
  else
    let (start, steps) := steps path
    t.follow? start steps

/-- The text of the file that a path leads to. -/
def read? (t : FileTree) (path : String) : Option String :=
  (t.resolve? path).bind fun location ↦ (t.fileAt? location).join

/-- The file that an entry is directly inside a directory, by its name there. -/
def childIn? (location : List String) (entry : List String × Entry) :
    Option (String × Option String) := do
  let content ← entry.2.content?
  let name ← entry.1.getLast?
  if entry.1.dropLast = location then some (name, content) else none

/-- The files directly inside a directory by name, in the order in which the tree lists them. -/
def listing (t : FileTree) (location : List String) : Table (Option String) :=
  t.entries.filterMap (childIn? location)

/-- The files directly inside a directory by name, names ascending. -/
def filesIn (t : FileTree) (location : List String) : Table (Option String) :=
  Table.sorted (t.listing location)

/-- The tree with an entry at a location, in place of what stood there. -/
def place (t : FileTree) (location : List String) (entry : Entry) : FileTree where
  entries := (t.entries.filter (·.1 != location)) ++ [(location, entry)]
  distinct := by
    rw [List.map_append, List.nodup_append]
    refine ⟨t.distinct.sublist (List.filter_sublist.map Prod.fst), by simp, ?_⟩
    rintro other member same hsame rfl
    obtain ⟨old, kept, rfl⟩ := List.mem_map.1 member
    simp_all

/-- The tree with a file of a given text, or else with a directory, at a location. -/
def set (t : FileTree) (location : List String) (text : Option String) : FileTree :=
  t.place location (match text with
    | some text => .file (some text)
    | none => .directory)

/-- The tree after a text has been written to the file of a path, which may be new. Its directory
must exist, and it must not be a directory itself. Neither path nor name may be too long. -/
def write? (t : FileTree) (path text : String) : Option FileTree :=
  let (start, steps) := steps path
  match steps.getLast? with
  | none => none
  | some name =>
    if isIdle name || name == ".." || !fits path || longestName < name.utf8ByteSize then none
    else do
      let directory ← t.follow? start steps.dropLast
      let location := directory ++ [name]
      if !t.isDirectoryAt directory || t.isDirectoryAt location then none
      else some (t.set location (some text))

/-- The part of a file name after its last point, unless the name begins there. -/
def extension? (name : String) : Option String :=
  let reversed := name.toList.reverse
  match reversed.dropWhile (· != '.') with
  | _ :: _ :: _ => some (String.ofList (reversed.takeWhile (· != '.')).reverse)
  | _ => none

/-- The last step of a path that names something. -/
def nameOf (path : String) : String :=
  ((steps path).2.filter (!isIdle ·)).getLastD ""

/-- The path of the directory around a named entry, as it is written: empty for a bare name. -/
def parentOf (path : String) : String :=
  let (start, steps) := steps path
  let outer := ((steps.reverse.dropWhile isIdle).drop 1).dropWhile isIdle
  let inner := String.intercalate "/" outer.reverse
  if !start.isEmpty then "/" ++ inner
  else if outer.isEmpty && steps.head? == some "." then "."
  else inner

/-- A path as seen from a directory; a path from the top stays as it is. -/
def join (directory path : String) : String :=
  if path.startsWith "/" || directory.isEmpty then path
  else if directory.endsWith "/" then directory ++ path
  else directory ++ "/" ++ path

end FileTree

end Fieldwise
