import Fieldwise.Text.Digit
import Fieldwise.Yaml.Place

/-!
# Scalars

The text of plain, quoted and block scalars. Inside a scalar a single line break reads as a space
and further ones as themselves; block scalars keep their line breaks unless they are folded.
-/

namespace Fieldwise.Yaml

open Text (hexDigit?)

/-- The written styles of a scalar. -/
inductive Style where
  | plain
  | quoted
  | literal
  | folded
  deriving DecidableEq, Repr

/-- The white space since the last word: blanks of one line, or a line break and further ones. -/
structure Gap where
  blanks : List Char := []
  broken : Bool := false
  first : List Char := []
  further : List Char := []

namespace Gap

/-- Whether there has been any white space. -/
def isEmpty (g : Gap) : Bool := g.blanks.isEmpty && !g.broken

/-- One more blank; blanks after a line break are indentation. -/
def addBlank (g : Gap) (c : Char) : Gap :=
  if g.broken then g else { g with blanks := g.blanks ++ [c] }

/-- One more line break; blanks before it are dropped. -/
def addBreak (g : Gap) (c : Char) : Gap :=
  if g.broken then { g with further := g.further ++ [c] } else { broken := true, first := [c] }

/-- The gap after a line break that has been escaped. -/
def escaped : Gap := { broken := true }

/-- What a gap contributes between two words. -/
def text (g : Gap) : List Char :=
  if !g.broken then g.blanks
  else if g.first = ['\n'] then if g.further.isEmpty then [' '] else g.further
  else g.first ++ g.further

end Gap

/-- A mark that separates parts of a collection between brackets. -/
def isFlowMark (c : Char) : Bool := c == ',' || c == '[' || c == ']' || c == '{' || c == '}'

/-- A plain scalar: its text, whether white space with a line break follows it, and what comes
after that. Lines must be indented by `indent`, except between brackets. The characters so far are
given in reverse. -/
def plainScalar (inFlow : Bool) (indent : Int) (done : List Char) (gap : Gap) :
    List Place → Option (List Char × Bool × List Place)
  | [] => some (done.reverse, gap.broken, [])
  | p :: rest =>
    if isBlank p.char then
      if gap.broken && p.char == '\t' && decide ((p.column : Int) < indent) then none
      else plainScalar inFlow indent done (gap.addBlank p.char) rest
    else if isBreak p.char then plainScalar inFlow indent done (gap.addBreak p.char) rest
    else
      let opensLine := !gap.isEmpty &&
        ((!inFlow && decide ((p.column : Int) < indent)) || atDocumentMarker (p :: rest)
          || p.char == '#')
      let beforeMark := match rest with
        | q :: _ => isFlowMark q.char || q.char == '?'
        | [] => false
      if opensLine then some (done.reverse, gap.broken, p :: rest)
      else if inFlow && p.char == ':' && beforeMark then none
      else if (p.char == ':' && atGap rest) || (inFlow && isFlowMark p.char) then
        some (done.reverse, gap.broken, p :: rest)
      else plainScalar inFlow indent (p.char :: gap.text.reverse ++ done) {} rest

/-- What follows a plain scalar is no longer than the text from it on. -/
theorem length_le_of_plainScalar {inFlow broken : Bool} {indent : Int} {done found : List Char}
    {gap : Gap} {rest after : List Place}
    (h : plainScalar inFlow indent done gap rest = some (found, broken, after)) :
    after.length ≤ rest.length := by
  fun_induction plainScalar inFlow indent done gap rest <;> grind

/-- The number spelled by a given count of hexadecimal digits. -/
def hexNumber? (count : Nat) (rest : List Place) : Option Nat :=
  if rest.length < count then none
  else (rest.take count).foldlM (fun n p ↦ (hexDigit? p.char).map (16 * n + ·)) 0

/-- The characters that follow a backslash for one character each. -/
def shortEscape? : Char → Option Char
  | '0' => some '\x00'
  | 'a' => some '\x07'
  | 'b' => some '\x08'
  | 't' => some '\t'
  | '\t' => some '\t'
  | 'n' => some '\n'
  | 'v' => some '\x0b'
  | 'f' => some '\x0c'
  | 'r' => some '\r'
  | 'e' => some '\x1b'
  | ' ' => some ' '
  | '"' => some '"'
  | '/' => some '/'
  | '\\' => some '\\'
  | 'N' => some '\u0085'
  | '_' => some '\u00a0'
  | 'L' => some '\u2028'
  | 'P' => some '\u2029'
  | _ => none

/-- The number of digits that follow a backslash and a letter. -/
def longEscape? : Char → Option Nat
  | 'x' => some 2
  | 'u' => some 4
  | 'U' => some 8
  | _ => none

/-- A quoted scalar after its opening quote, up to and without its closing quote. The characters
so far are given in reverse. -/
def quotedScalar (quote : Char) (done : List Char) (gap : Gap) (rest : List Place) :
    Option (List Char × List Place) :=
  match rest with
  | [] => none
  | p :: rest =>
    if isBlank p.char then quotedScalar quote done (gap.addBlank p.char) rest
    else if isBreak p.char then quotedScalar quote done (gap.addBreak p.char) rest
    else if atDocumentMarker (p :: rest) then none
    else
      let done := gap.text.reverse ++ done
      if p.char = quote then
        match rest with
        | q :: rest =>
          if quote = '\'' ∧ q.char = quote then quotedScalar quote (quote :: done) {} rest
          else some (done.reverse, q :: rest)
        | [] => some (done.reverse, [])
      else if quote = '"' ∧ p.char = '\\' then
        match rest with
        | [] => none
        | q :: rest =>
          if isBreak q.char then quotedScalar quote done Gap.escaped rest
          else match shortEscape? q.char, longEscape? q.char with
            | some c, _ => quotedScalar quote (c :: done) {} rest
            | none, some count =>
              match hexNumber? count rest with
              | none => none
              | some code =>
                if code.isValidChar then
                  quotedScalar quote (Char.ofNat code :: done) {} (rest.drop count)
                else none
            | none, none => none
      else quotedScalar quote (p.char :: done) {} rest
termination_by rest.length
decreasing_by all_goals simp_all <;> omega

/-- What follows a quoted scalar is no longer than the text after its opening quote. -/
theorem length_le_of_quotedScalar {quote : Char} {done found : List Char} {gap : Gap}
    {rest after : List Place} (h : quotedScalar quote done gap rest = some (found, after)) :
    after.length ≤ rest.length := by
  fun_induction quotedScalar quote done gap rest <;> grind

/-- What happens to the line breaks at the end of a block scalar. -/
inductive Chomping where
  | strip
  | clip
  | keep
  deriving DecidableEq, Repr

/-- Indentation and empty lines before a line of a block scalar: the widest indentation, the line
breaks, and the rest. Without a known `indent` all leading spaces count as indentation. -/
def blockGap (indent : Option Nat) (widest : Nat) (breaks : List Char) :
    List Place → Option (Nat × List Char × List Place)
  | [] => some (widest, breaks, [])
  | p :: rest =>
    let inside := match indent with
      | none => true
      | some indent => p.column < indent
    if inside && p.char == ' ' then blockGap indent widest breaks rest
    else if inside && p.char == '\t' then none
    else if isBreak p.char then blockGap indent (max widest p.column) (breaks ++ [p.char]) rest
    else some (max widest p.column, breaks, p :: rest)

/-- The lines of a block scalar as they are put together. -/
structure BlockText where
  /-- The characters so far in reverse. -/
  done : List Char := []
  /-- The break that ended the last line. -/
  lastBreak : List Char := []
  /-- The breaks of the empty lines after it. -/
  further : List Char := []
  /-- Whether the last line began with a blank. -/
  blankLine : Bool := false

/-- The block scalar with one more line, which begins with a blank or not. -/
def BlockText.addLine (b : BlockText) (folded : Bool) (line : List Char) : BlockText :=
  let blankLine := line.head?.any isBlank
  let joint :=
    if folded && b.lastBreak == ['\n'] && !b.blankLine && !blankLine then
      if b.further.isEmpty then [' '] else []
    else b.lastBreak
  { done := line.reverse ++ b.further.reverse ++ joint.reverse ++ b.done, blankLine }

/-- The end of the present line, from its line break on. -/
def toLineEnd (rest : List Place) : List Place := rest.dropWhile fun p ↦ !isBreak p.char

/-- What follows the blanks that come next. -/
def skipBlanks (rest : List Place) : List Place := rest.dropWhile fun p ↦ isBlank p.char

/-- What follows a comment, if one comes next. -/
def skipComment : List Place → List Place
  | [] => []
  | p :: rest => if p.char == '#' then toLineEnd rest else p :: rest

/-- The next line, if a line break comes next; at the end of the text it is empty. -/
def nextLine? : List Place → Option (List Place)
  | [] => some []
  | p :: rest => if isBreak p.char then some rest else none

/-- The lines of a block scalar with a known indentation, at most `lines` of them. -/
def blockLines (folded : Bool) (indent : Nat) (b : BlockText) (rest : List Place) :
    Nat → Option (BlockText × List Place)
  | 0 => some (b, rest)
  | lines + 1 =>
    match rest with
    | [] => some (b, [])
    | p :: _ =>
      if p.column = indent then do
        let line := rest.takeWhile (fun p ↦ !isBreak p.char)
        let after := toLineEnd rest
        let b := b.addLine folded (line.map Place.char)
        let (_, further, next) ← blockGap (some indent) 0 [] (after.drop 1)
        blockLines folded indent
          { b with lastBreak := (after.take 1).map Place.char, further } next lines
      else some (b, rest)

/-- The marks after a block scalar's indicator: chomping and indentation, in either order. -/
def blockHeader (chomping : Option Chomping) (width : Option Nat) :
    List Place → Option (Chomping × Option Nat × List Place)
  | [] => some (chomping.getD .clip, width, [])
  | p :: rest =>
    if p.char == '+' || p.char == '-' then
      if chomping.isSome then some (chomping.getD .clip, width, p :: rest)
      else blockHeader (some (if p.char == '+' then .keep else .strip)) width rest
    else if Text.isDigit p.char then
      if width.isSome then some (chomping.getD .clip, width, p :: rest)
      else if p.char == '0' then none
      else blockHeader chomping (some (p.char.toNat - '0'.toNat)) rest
    else some (chomping.getD .clip, width, p :: rest)

/-- A block scalar after its indicator, inside a block of the given indentation. -/
def blockScalar (folded : Bool) (parent : Int) (rest : List Place) :
    Option (List Char × List Place) := do
  let (chomping, width, rest) ← blockHeader none none rest
  let rest ← nextLine? (skipComment (skipBlanks rest))
  let given := width.map fun width ↦ (max parent 0).toNat + width
  let (widest, further, rest) ← blockGap given 0 [] rest
  let indent := given.getD (max widest (max (parent + 1) 1).toNat)
  let (b, rest) ← blockLines folded indent { further } rest rest.length
  let ending := match chomping with
    | .strip => []
    | .clip => b.lastBreak
    | .keep => b.lastBreak ++ b.further
  some (b.done.reverse ++ ending, rest)

/-- Leaving out places makes a text no longer. -/
theorem length_dropPlaces_le (p : Place → Bool) (rest : List Place) :
    (rest.dropWhile p).length ≤ rest.length :=
  (List.dropWhile_sublist p).length_le

/-- What follows a comment is no longer than the text from it on. -/
theorem length_skipComment_le (rest : List Place) :
    (skipComment rest).length ≤ rest.length := by
  cases rest with
  | nil => exact Nat.le_refl _
  | cons p rest =>
    simp only [skipComment]
    split
    · exact Nat.le_succ_of_le (length_dropPlaces_le _ rest)
    · exact Nat.le_refl _

private theorem length_le_of_blockGap {indent : Option Nat} {widest found : Nat}
    {breaks further : List Char} {rest after : List Place}
    (h : blockGap indent widest breaks rest = some (found, further, after)) :
    after.length ≤ rest.length := by
  fun_induction blockGap indent widest breaks rest <;> grind

private theorem length_le_of_blockHeader {chomping : Option Chomping} {width found : Option Nat}
    {ending : Chomping} {rest after : List Place}
    (h : blockHeader chomping width rest = some (ending, found, after)) :
    after.length ≤ rest.length := by
  fun_induction blockHeader chomping width rest <;> grind

private theorem length_le_of_blockLines {folded : Bool} {indent lines : Nat}
    {b found : BlockText} {rest after : List Place}
    (h : blockLines folded indent b rest lines = some (found, after)) :
    after.length ≤ rest.length := by
  induction lines generalizing b rest with
  | zero => simp_all [blockLines]
  | succ lines ih =>
    cases rest with
    | nil => simp_all [blockLines]
    | cons p rest =>
      simp only [blockLines] at h
      split at h
      · obtain ⟨⟨_, further, next⟩, hg, hl⟩ := Option.bind_eq_some_iff.1 h
        have := ih hl
        have := length_le_of_blockGap hg
        have := length_dropPlaces_le (fun p ↦ !isBreak p.char) (p :: rest)
        simp only [toLineEnd, List.length_drop] at *
        omega
      · simp_all

/-- The next line is no longer than the text before its line break. -/
theorem length_le_of_nextLine {rest after : List Place}
    (h : nextLine? rest = some after) : after.length ≤ rest.length := by
  cases rest <;> grind [nextLine?]

/-- What follows a block scalar is no longer than the text after its indicator. -/
theorem length_le_of_blockScalar {folded : Bool} {parent : Int} {found : List Char}
    {rest after : List Place} (h : blockScalar folded parent rest = some (found, after)) :
    after.length ≤ rest.length := by
  simp only [blockScalar, Option.bind_eq_bind, Option.bind_eq_some_iff] at h
  obtain ⟨⟨chomping, width, headed⟩, hh, body, hb, ⟨widest, further, gapped⟩, hg,
    ⟨lines, last⟩, hl, he⟩ := h
  have := length_le_of_blockHeader hh
  have := length_dropPlaces_le (fun p ↦ isBlank p.char) headed
  have := length_skipComment_le (skipBlanks headed)
  have := length_le_of_nextLine hb
  have := length_le_of_blockGap hg
  have := length_le_of_blockLines hl
  simp only [skipBlanks, Option.some.injEq, Prod.mk.injEq] at *
  grind

end Fieldwise.Yaml
