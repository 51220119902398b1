import Fieldwise.SchemaDocument.Reading
import Fieldwise.Yaml.Node

/-!
# Schema documents in YAML

Structures are mappings. Every scalar reads as a text; only plain ones read as numbers or omitted
members, and as flags unless they are tagged. An empty plain scalar is an empty list or mapping.
Aliases are followed where the document's shape asks for a node, but only so many of them.
-/

namespace Fieldwise.Yaml.Node

/-- A word for the omitted value. -/
private def isNullWord (text : String) : Bool := ["null", "Null", "NULL", "~"].contains text

/-- A word for a flag. -/
private def flagWord? (text : String) : Option Bool :=
  if ["true", "True", "TRUE"].contains text then some true
  else if ["false", "False", "FALSE"].contains text then some false
  else none

/-- The text of a scalar. -/
private def text? : Node → Option String
  | .scalar _ text _ => some text
  | _ => none

/-- The number that digits of a base denote, if it fits 64 bits. -/
private def numberIn? (base : Nat) (digits : List Char) : Option Nat := do
  if digits.isEmpty then none
  let value ← digits.foldlM (fun n c ↦ do
    let digit ← Text.hexDigit? c
    if digit < base then some (base * n + digit) else none) 0
  if value < UInt64.size then some value else none

/-- A count: digits of base ten without leading zeros, or of another base after its mark. -/
private def count? (text : String) : Option Nat :=
  let body := match text.toList with
    | '+' :: rest => rest
    | body => body
  match body with
  | '0' :: 'x' :: digits => numberIn? 16 digits
  | '0' :: 'o' :: digits => numberIn? 8 digits
  | '0' :: 'b' :: digits => numberIn? 2 digits
  | '0' :: _ :: _ => none
  | digits => numberIn? 10 digits

/-- The construction that a node names, by its local tag if it has one and else by its text. -/
private def construction? : Node → Option Construction
  | .scalar { tag, .. } text style =>
    match tag.bind Tag.localName? with
    | none =>
      if text = "default" then some .blank
      else if text = "private" then some .inaccessible
      else none
    | some name =>
      if style ≠ .plain then none
      else if name = "requires_args" then (count? text).map .requires
      else if !text.isEmpty && !isNullWord text then none
      else if name = "default" then some .blank
      else if name = "private" then some .inaccessible
      else none
  | _ => none

/-- The node that a node stands for: for an alias, the one found under its number. -/
private def follow (targets : List (Nat × Node)) : Node → Reading Node
  | .alias number => do
    match ← get with
    | 0 => failure
    | left + 1 =>
      set left
      targets.lookup number
  | node => pure node

/-- How nodes are read, where aliases stand for the given nodes. -/
def reading (targets : List (Nat × Node)) : NodeReading Node where
  follow := follow targets
  text? := text?
  flag?
    | .scalar _ text .plain => flagWord? text
    | .scalar { tag, .. } text .literal => if tag = some .flag then flagWord? text else none
    | _ => none
  items?
    | .sequence _ items => some items
    | .scalar _ "" .plain => some []
    | _ => none
  entries?
    | .mapping _ entries => some entries
    | .scalar _ "" .plain => some []
    | _ => none
  positional? _ := none
  absent?
    | .scalar { tag, .. } text .plain =>
      if tag = some .null then if isNullWord text then some true else none
      else some (tag.isNone && (text.isEmpty || isNullWord text))
    | _ => some false
  construction? := construction?

/-- What is read from the document of a text. An alias stands for the last node of its number, and a
hundred aliases may be followed for each unit of the document's size. -/
def readText? {α : Type} (read : NodeReading Node → Node → Reading α) (text : String) :
    Option α := do
  let root ← ofText? text
  (read (reading root.anchored.reverse) root).run' (100 * root.size)

/-- The schema document of a text. -/
def schemaDocument? (text : String) : Option SchemaDocument :=
  readText? NodeReading.document text

end Fieldwise.Yaml.Node
