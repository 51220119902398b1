import Fieldwise.CommandLine

/-!
# The program

The outer layer: it gathers the files that an invocation names into a file tree, runs the command
line on it, and puts the outcome onto the terminal and the disk.
-/

namespace Fieldwise.CommandLine

/-- What reading gives, unless it fails. -/
def attempt (reading : IO String) : IO (Option String) :=
  try return some (← reading)
  catch _ => return none

/-- The tree with what is found on disk at a path: directories on the way, a file's text, or the
documents inside a directory. What cannot be read has no text. -/
def gather (t : FileTree) (path : String) : IO FileTree := do
  let here ← IO.currentDir
  let (start, steps) := FileTree.steps path
  let mut tree := t
  let mut location := start
  let mut reached := if start.isEmpty then here else here / "/"
  for step in steps do
    if ← reached.isDir then tree := tree.set location none
    location := FileTree.enter location step
    unless FileTree.isIdle step do reached := reached / step
  if ← reached.isDir then
    tree := tree.set location none
    for entry in ← reached.readDir do
      if (DocumentFormat.ofName? entry.fileName).isSome && !(← entry.path.isDir) then
        let text? ← attempt (IO.FS.readFile entry.path)
        tree := tree.place (location ++ [entry.fileName]) (.file text?)
  else if ← reached.pathExists then
    tree := tree.place location (.file (← attempt (IO.FS.readFile reached)))
  return tree

/-- The tree of all files that an invocation names. -/
def gatherAll (i : Invocation) : IO FileTree := do
  let t ← i.config.toList.foldlM gather .empty
  let schemas := match i.settings t with
    | .ok settings => settings.schemaPaths
    | .error _ => []
  let t ← schemas.foldlM gather t
  match i.command with
  | .plan _ _ => return t
  | .map _ input _ _ output =>
    let t ← gather t input
    output.toList.foldlM gather t

/-- The terminal's account of an error and its causes. -/
def report (errors : List String) : String :=
  match errors with
  | [] => ""
  | [top] => s!"Error: {top}"
  | [top, cause] => s!"Error: {top}\n\nCaused by:\n    {cause}"
  | top :: causes =>
    let numbered := causes.zipIdx.map fun (cause, index) ↦ s!"    {index}: {cause}"
    s!"Error: {top}\n\nCaused by:\n" ++ String.intercalate "\n" numbered

end Fieldwise.CommandLine

open Fieldwise CommandLine in
/-- Run the program. -/
def main (arguments : List String) : IO UInt32 := do
  let (tree, output) ← match parse arguments with
    | .ok i => do
      let output := match i.command with
        | .map _ _ _ _ output => output
        | .plan _ _ => none
      pure (← gatherAll i, output)
    | .error _ => pure (FileTree.empty, none)
  let outcome := run arguments tree
  IO.print outcome.output
  if let some path := output then
    if outcome.code = 0 then
      if let some text := outcome.files.read? path then IO.FS.writeFile path text
  unless outcome.errors.isEmpty do IO.eprintln (report outcome.errors)
  return UInt32.ofNat outcome.code
