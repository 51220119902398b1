import Fieldwise.Text.Digit
import Fieldwise.Value

/-!
# Templates

A template is text in which an index between braces stands for an argument. How a template splits
into literal characters and placeholders depends on the number of arguments alone, so whatever an
argument's text looks like, it is never read as a placeholder.
-/

namespace Fieldwise.Template

open Text (isDigit digitsValue)

/-- A part of a template: a character that stands for itself, or an index as it is spelled. -/
inductive Segment where
  | literal (c : Char)
  | argument (spelling : List Char) (index : Nat)
  deriving DecidableEq, Repr

/-- The characters of a template that a segment was read from. -/
def Segment.source : Segment → List Char
  | .literal c => [c]
  | .argument spelling _ => '{' :: spelling ++ ['}']

/-- The index spelled between two braces: digits, after a plus sign or not. -/
def index? (spelling : List Char) : Option Nat :=
  let digits := match spelling with
    | '+' :: rest => rest
    | digits => digits
  if !digits.isEmpty && digits.all isDigit then some (digitsValue digits) else none

/-- The placeholder whose opening brace has just been passed, if it names one of `arity`
arguments: its spelling, its index, and what follows its closing brace. -/
def placeholder? (arity : Nat) (text : List Char) : Option (List Char × Nat × List Char) :=
  match text.dropWhile (· != '}') with
  | [] => none
  | _ :: rest =>
    let spelling := text.takeWhile (· != '}')
    match index? spelling with
    | some index => if index < arity then some (spelling, index, rest) else none
    | none => none

/-- A placeholder's spelling, its closing brace and what follows make up the text. -/
theorem eq_of_placeholder? {arity : Nat} {text spelling rest : List Char} {index : Nat}
    (h : placeholder? arity text = some (spelling, index, rest)) :
    text = spelling ++ '}' :: rest := by
  unfold placeholder? at h
  split at h
  · simp at h
  · next c tail hdrop =>
    have hc : c = '}' := by
      have := List.head_dropWhile_not (· != '}') (l := text) (by simp [hdrop])
      simpa [hdrop] using this
    have hsplit := List.takeWhile_append_dropWhile (p := (· != '}')) (l := text)
    simp only at h
    split at h
    · split at h
      · simp only [Option.some.injEq, Prod.mk.injEq] at h
        obtain ⟨rfl, rfl, rfl⟩ := h
        rw [hdrop, hc] at hsplit
        exact hsplit.symm
      · simp at h
    · simp at h

/-- What follows a placeholder is shorter than the text after its opening brace. -/
theorem length_lt_of_placeholder? {arity : Nat} {text spelling rest : List Char} {index : Nat}
    (h : placeholder? arity text = some (spelling, index, rest)) :
    rest.length < text.length := by
  simp only [eq_of_placeholder? h, List.length_append, List.length_cons]
  omega

/-- The segments of a template for a given number of arguments. -/
def segments (arity : Nat) (text : List Char) : List Segment :=
  match text with
  | [] => []
  | c :: rest =>
    if c = '{' then
      match h : placeholder? arity rest with
      | some (spelling, index, after) =>
        have := length_lt_of_placeholder? h
        .argument spelling index :: segments arity after
      | none => .literal c :: segments arity rest
    else .literal c :: segments arity rest
termination_by text.length
decreasing_by all_goals simp_all <;> omega

/-- The text of a segment: a placeholder takes the text of its argument. -/
def Segment.render (args : List Value) : Segment → List Char
  | .literal c => [c]
  | .argument _ index => ((args[index]?.map Value.textOrEmpty).getD "").toList

/-- The template with every placeholder replaced by its argument's text. -/
def render (template : String) (args : List Value) : String :=
  String.ofList ((segments args.length template.toList).flatMap (Segment.render args))

end Fieldwise.Template
