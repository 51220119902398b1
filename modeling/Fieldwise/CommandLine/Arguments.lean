/-!
# Arguments

What a command line asks for. Options come in long and short spellings, with their value attached or
as the next argument; the options of a subcommand come after its name and those of the program
before it. Arguments are taken from left to right, so the first one at fault decides, as does the
first that asks for help or for the version.
-/

namespace Fieldwise.CommandLine

/-- What the program is to do. -/
inductive Command where
  | plan (target : String) (fields : List String)
  | map (target input : String) (fields : List String) (asInstance : Bool)
      (output : Option String)
  deriving DecidableEq, Repr

/-- A well-formed command line. -/
structure Invocation where
  config : Option String
  schemas : List String
  command : Command
  deriving DecidableEq, Repr

/-- Why a command line is not an invocation. -/
inductive Halt where
  | misuse
  | version
  | help
  deriving DecidableEq, Repr

/-- An option: its spellings, and whether it takes a value. -/
structure OptionName where
  long : String
  short : Option Char := none
  takesValue : Bool := false
  deriving DecidableEq, Repr

/-- A part of an argument by its role. A fault only counts when nothing before it ends the
reading. -/
inductive Part where
  | option (name : String) (value : String)
  | flag (name : String)
  | positional (text : String)
  | fault
  deriving DecidableEq, Repr

/-- Whether an argument looks like an option, so that it is nobody's value. -/
def looksLikeOption (argument : String) : Bool := argument.startsWith "-" && argument != "-"

/-- An option with the next argument as its value, and the arguments that remain. -/
private def withNext (option : OptionName) : List String → Part × List String
  | [] => (.fault, [])
  | value :: rest =>
    if looksLikeOption value then (.fault, value :: rest) else (.option option.long value, rest)

/-- The part that a long option makes, given without its dashes, and the arguments that remain. -/
private def longPart (options : List OptionName) (text : String) (rest : List String) :
    Part × List String :=
  let chars := text.toList
  let name := String.ofList (chars.takeWhile (· != '='))
  let attached := match chars.dropWhile (· != '=') with
    | _ :: value => some (String.ofList value)
    | [] => none
  match options.find? (·.long == name), attached with
  | none, _ => (.fault, rest)
  | some option, some value => (if option.takesValue then .option name value else .fault, rest)
  | some option, none => if option.takesValue then withNext option rest else (.flag name, rest)

/-- The parts of short options written together, given without their dash, and the arguments that
remain. An option that takes a value takes all that follows it. -/
private def shortParts (options : List OptionName) (rest : List String) :
    List Char → List Part × List String
  | [] => ([], rest)
  | c :: more =>
    match options.find? (·.short == some c) with
    | none => ([.fault], rest)
    | some option =>
      if option.takesValue then
        match more with
        | [] =>
          let (part, rest) := withNext option rest
          ([part], rest)
        | '=' :: value => ([.option option.long (String.ofList value)], rest)
        | value => ([.option option.long (String.ofList value)], rest)
      else
        let (parts, rest) := shortParts options rest more
        (.flag option.long :: parts, rest)

/-- The parts that the first argument makes, and the arguments that remain. -/
private def firstParts (options : List OptionName) (argument : String) (rest : List String) :
    List Part × List String :=
  match argument.toList with
  | '-' :: '-' :: name =>
    let (part, rest) := longPart options (String.ofList name) rest
    ([part], rest)
  | '-' :: c :: more => shortParts options rest (c :: more)
  | _ => ([.positional argument], rest)

private theorem length_withNext_le (option : OptionName) (arguments : List String) :
    (withNext option arguments).2.length ≤ arguments.length := by
  cases arguments with
  | nil => exact Nat.le_refl _
  | cons value rest =>
    simp only [withNext]
    split
    · exact Nat.le_refl _
    · exact Nat.le_succ _

private theorem length_longPart_le (options : List OptionName) (text : String)
    (rest : List String) : (longPart options text rest).2.length ≤ rest.length := by
  simp only [longPart]
  split
  · exact Nat.le_refl _
  · exact Nat.le_refl _
  · split
    · exact length_withNext_le _ rest
    · exact Nat.le_refl _

private theorem length_shortParts_le (options : List OptionName) (rest : List String)
    (letters : List Char) : (shortParts options rest letters).2.length ≤ rest.length := by
  induction letters with
  | nil => exact Nat.le_refl _
  | cons c more ih =>
    simp only [shortParts]
    split
    · exact Nat.le_refl _
    · split
      · split
        · exact length_withNext_le _ rest
        · exact Nat.le_refl _
        · exact Nat.le_refl _
      · exact ih

private theorem length_firstParts_le (options : List OptionName) (argument : String)
    (rest : List String) : (firstParts options argument rest).2.length ≤ rest.length := by
  simp only [firstParts]
  split
  · exact length_longPart_le options _ rest
  · exact length_shortParts_le options rest _
  · exact Nat.le_refl _

/-- Take every argument in turn, for a parser whose state takes parts. Two dashes make positionals
of all that follows. -/
private def takeAll {σ : Type} (options : List OptionName) (step : σ → Part → Except Halt σ)
    (state : σ) (arguments : List String) : Except Halt σ :=
  match arguments with
  | [] => .ok state
  | "--" :: rest => rest.foldlM (fun state text ↦ step state (.positional text)) state
  | argument :: rest => do
    have := Nat.lt_succ_of_le (length_firstParts_le options argument rest)
    let state ← (firstParts options argument rest).1.foldlM step state
    takeAll options step state (firstParts options argument rest).2
termination_by arguments.length
decreasing_by assumption

/-- Set a value that may be given once. -/
private def once {α : Type} (old : Option α) (new : α) : Except Halt (Option α) :=
  if old.isSome then .error .misuse else .ok (some new)

/-- A path, which may not be empty. -/
private def path (text : String) : Except Halt String :=
  if text.isEmpty then .error .misuse else .ok text

/-- Names between commas, empty ones included. -/
private def names (text : String) : List String := text.splitOn ","

/-- What a subcommand has been given so far. -/
private structure Given where
  positionals : List String := []
  fields : List String := []
  asInstance : Bool := false
  output : Option String := none

/-- A subcommand given one more part, of at most `limit` positionals. -/
private def Given.step (limit : Nat) (g : Given) : Part → Except Halt Given
  | .positional text =>
    if g.positionals.length < limit then do
      -- The first positional is a name, the second a path.
      let text ← if g.positionals.isEmpty then pure text else path text
      .ok { g with positionals := g.positionals ++ [text] }
    else .error .misuse
  | .option "fields" text => .ok { g with fields := g.fields ++ names text }
  | .option "output" text => do
    let output ← path text
    .ok { g with output := ← once g.output output }
  | .flag "instance" => if g.asInstance then .error .misuse else .ok { g with asInstance := true }
  | .flag "help" => .error .help
  | _ => .error .misuse

/-- The options that every part of the program knows. -/
private def helpOption : OptionName := ⟨"help", some 'h', false⟩

/-- The options of the subcommand that prints a plan. -/
private def planOptions : List OptionName := [⟨"fields", none, true⟩, helpOption]

/-- The options of the subcommand that maps records. -/
private def mapOptions : List OptionName :=
  [⟨"fields", none, true⟩, ⟨"instance", none, false⟩, ⟨"output", some 'o', true⟩, helpOption]

/-- The command that a subcommand's name and arguments ask for. Help may be about a subcommand. -/
private def command (name : String) (arguments : List String) : Except Halt Command := do
  match name with
  | "plan" =>
    let given ← takeAll planOptions (Given.step 1) {} arguments
    match given.positionals with
    | [target] => .ok (.plan target given.fields)
    | _ => .error .misuse
  | "map" =>
    let given ← takeAll mapOptions (Given.step 2) {} arguments
    match given.positionals with
    | [target, input] => .ok (.map target input given.fields given.asInstance given.output)
    | _ => .error .misuse
  | "help" =>
    if arguments = [] ∨ arguments ∈ [["plan"], ["map"], ["help"]] then .error .help
    else .error .misuse
  | _ => .error .misuse

/-- The options of the program itself. -/
private def programOptions : List OptionName :=
  [⟨"config", some 'c', true⟩, ⟨"schema", some 's', true⟩, ⟨"version", some 'V', false⟩, helpOption]

/-- The program's own arguments so far. -/
private structure Own where
  config : Option String := none
  schemas : List String := []

/-- The program given one more of its own parts. -/
private def Own.step (o : Own) : Part → Except Halt Own
  | .option "config" text => do
    let config ← path text
    .ok { o with config := ← once o.config config }
  | .option "schema" text => do
    let schema ← path text
    .ok { o with schemas := o.schemas ++ [schema] }
  | .flag "version" => .error .version
  | .flag "help" => .error .help
  | _ => .error .misuse

/-- Take the program's own arguments up to the subcommand's name. -/
private def fromOwn (o : Own) (arguments : List String) : Except Halt Invocation :=
  match arguments with
  | [] => .error .misuse
  | argument :: rest =>
    if argument = "--" then .error .misuse
    else if !looksLikeOption argument then do
      let command ← command argument rest
      .ok { config := o.config, schemas := o.schemas, command }
    else do
      have := Nat.lt_succ_of_le (length_firstParts_le programOptions argument rest)
      let o ← (firstParts programOptions argument rest).1.foldlM Own.step o
      fromOwn o (firstParts programOptions argument rest).2
termination_by arguments.length
decreasing_by assumption

/-- The invocation that the arguments of a command line spell. -/
def parse (arguments : List String) : Except Halt Invocation := fromOwn {} arguments

end Fieldwise.CommandLine
