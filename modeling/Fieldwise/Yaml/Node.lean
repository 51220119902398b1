import Fieldwise.Yaml.Token

/-!
# Nodes

The tree of a YAML text that holds one document. A part that is left out is an empty plain scalar,
and so is an empty document. An anchor is kept as a number: the count of different names in front of
it. Two anchors share a number when a name is used again, and an alias then stands for the last node
with the number that its name had last.
-/

namespace Fieldwise.Yaml

/-- What may be written in front of a node's content. -/
structure Properties where
  anchor : Option Nat := none
  tag : Option Tag := none
  deriving DecidableEq, Repr, Inhabited

/-- A node. -/
inductive Node where
  | alias (number : Nat)
  | scalar (properties : Properties) (text : String) (style : Style)
  | sequence (properties : Properties) (items : List Node)
  | mapping (properties : Properties) (entries : List (Node × Node))
  deriving Inhabited

namespace Node

/-- The node of a part that is left out. -/
def omitted (properties : Properties) : Node := .scalar properties "" .plain

/-- An anchored node under its number. -/
private def under (properties : Properties) (node : Node) : List (Nat × Node) :=
  properties.anchor.toList.map (·, node)

mutual

/-- The anchored nodes of a tree with their numbers, in the order of the text. -/
def anchored : Node → List (Nat × Node)
  | .alias _ => []
  | .scalar properties text style => under properties (.scalar properties text style)
  | .sequence properties items =>
    under properties (.sequence properties items) ++ anchoredItems items
  | .mapping properties entries =>
    under properties (.mapping properties entries) ++ anchoredEntries entries

/-- The anchored nodes of items. -/
def anchoredItems : List Node → List (Nat × Node)
  | [] => []
  | item :: rest => anchored item ++ anchoredItems rest

/-- The anchored nodes of entries. -/
def anchoredEntries : List (Node × Node) → List (Nat × Node)
  | [] => []
  | (key, value) :: rest => anchored key ++ anchored value ++ anchoredEntries rest

end

mutual

/-- The size of a tree: one for a scalar or alias, and two for a collection besides its parts. -/
def size : Node → Nat
  | .alias _ | .scalar _ _ _ => 1
  | .sequence _ items => sizeOfItems items + 2
  | .mapping _ entries => sizeOfEntries entries + 2

/-- The size of items. -/
def sizeOfItems : List Node → Nat
  | [] => 0
  | item :: rest => size item + sizeOfItems rest

/-- The size of entries. -/
def sizeOfEntries : List (Node × Node) → Nat
  | [] => 0
  | (key, value) :: rest => size key + size value + sizeOfEntries rest

end

/-- The tokens that are left, the declared handles, and the number of each anchor's name. -/
private structure State where
  tokens : List Token
  handles : Table (List UInt8) := []
  numbers : Table Nat := []

/-- A reading of nodes from tokens. -/
private abbrev Reader := StateT State Option

/-- The next token. -/
private def peek : Reader (Option Token) := do return (← get).tokens.head?

/-- Leave out the next token. -/
private def skip : Reader Unit := modify fun s ↦ { s with tokens := s.tokens.drop 1 }

/-- Whether the next token is one of the given ones. -/
private def comes (tokens : List Token) : Reader Bool := do
  return (← peek).any tokens.contains

/-- Take the next token if it is the given one. -/
private def take (token : Token) : Reader Bool := do
  if ← comes [token] then
    skip
    return true
  else return false

/-- The name of an anchor, if one comes next. -/
private def anchor? : Reader (Option String) := do
  match ← peek with
  | some (.anchor name) =>
    skip
    return some name
  | _ => return none

/-- A tag, if one comes next. -/
private def tag? : Reader (Option Tag) := do
  match ← peek with
  | some (.tag handle suffix) =>
    skip
    return some (← Tag.resolve? (← get).handles handle suffix)
  | _ => return none

/-- The number of a new anchor. -/
private def number (name : String) : Reader Nat :=
  modifyGet fun s ↦ (s.numbers.length, { s with numbers := s.numbers.put name s.numbers.length })

/-- The properties that come next: an anchor and a tag in either order. -/
private def properties : Reader Properties := do
  let before ← anchor?
  let tag ← tag?
  let name ← if before.isSome then pure before else anchor?
  return { anchor := ← name.mapM number, tag }

mutual

/-- A node. Block collections, and items without indentation of their own, are allowed or not. -/
private def node (block items : Bool) : Nat → Reader Node
  | 0 => failure
  | fuel + 1 => do
    if let some (.alias name) ← peek then
      skip
      return .alias (← (← get).numbers.find? name)
    let properties ← properties
    match ← peek with
    | some (.scalar text style) =>
      skip
      return .scalar properties text style
    | some .flowSequenceStart =>
      skip
      return .sequence properties (← flowItems true fuel)
    | some .flowMappingStart =>
      skip
      return .mapping properties (← flowEntries true fuel)
    | some .blockSequenceStart =>
      guard block
      skip
      return .sequence properties (← blockItems fuel)
    | some .blockMappingStart =>
      guard block
      skip
      return .mapping properties (← blockEntries fuel)
    | next =>
      if items && next == some .blockEntry then
        return .sequence properties (← plainItems fuel)
      else
        guard (properties != {})
        return omitted properties

/-- A node that may be left out before the given tokens. -/
private def nodeBefore (tokens : List Token) (block items : Bool) : Nat → Reader Node
  | 0 => failure
  | fuel + 1 => do if ← comes tokens then pure (omitted {}) else node block items fuel

/-- A value after its colon, which may be left out before the given tokens, as may the colon. -/
private def valueBefore (tokens : List Token) (block : Bool) : Nat → Reader Node
  | 0 => failure
  | fuel + 1 => do
    if ← take .value then nodeBefore tokens block block fuel else pure (omitted {})

/-- The items of a block sequence and its end. -/
private def blockItems : Nat → Reader (List Node)
  | 0 => failure
  | fuel + 1 => do
    if ← take .blockEnd then return []
    guard (← take .blockEntry)
    let item ← nodeBefore [.blockEntry, .blockEnd] true false fuel
    return item :: (← blockItems fuel)

/-- The items of a sequence that has no indentation of its own. -/
private def plainItems : Nat → Reader (List Node)
  | 0 => failure
  | fuel + 1 => do
    if !(← take .blockEntry) then return []
    let item ← nodeBefore [.blockEntry, .key, .value, .blockEnd] true false fuel
    return item :: (← plainItems fuel)

/-- The entries of a block mapping and its end. -/
private def blockEntries : Nat → Reader (List (Node × Node))
  | 0 => failure
  | fuel + 1 => do
    if ← take .blockEnd then return []
    guard (← take .key)
    let key ← nodeBefore [.key, .value, .blockEnd] true true fuel
    let value ← valueBefore [.key, .value, .blockEnd] true fuel
    return (key, value) :: (← blockEntries fuel)

/-- A key between brackets. When it is left out, so is the token after its mark. -/
private def bracketKey : Nat → Reader Node
  | 0 => failure
  | fuel + 1 => do
    if ← comes [.value, .flowEntry, .flowSequenceEnd] then
      skip
      return omitted {}
    else node false false fuel

/-- The items of a sequence between brackets and its end. A key makes a mapping of one entry. -/
private def flowItems (first : Bool) : Nat → Reader (List Node)
  | 0 => failure
  | fuel + 1 => do
    if ← take .flowSequenceEnd then return []
    unless first do guard (← take .flowEntry)
    if ← take .key then
      let key ← bracketKey fuel
      let value ← valueBefore [.flowEntry, .flowSequenceEnd] false fuel
      return .mapping {} [(key, value)] :: (← flowItems false fuel)
    if ← take .flowSequenceEnd then return []
    let item ← node false false fuel
    return item :: (← flowItems false fuel)

/-- The entries of a mapping between braces and its end. An entry may be a key alone. -/
private def flowEntries (first : Bool) : Nat → Reader (List (Node × Node))
  | 0 => failure
  | fuel + 1 => do
    if ← take .flowMappingEnd then return []
    unless first do guard (← take .flowEntry)
    if ← take .key then
      let key ← nodeBefore [.value, .flowEntry, .flowMappingEnd] false false fuel
      let value ← valueBefore [.flowEntry, .flowMappingEnd] false fuel
      return (key, value) :: (← flowEntries false fuel)
    if ← take .flowMappingEnd then return []
    let key ← node false false fuel
    return (key, omitted {}) :: (← flowEntries false fuel)

end

/-- Take the directives in front of a document. The version may be given once, and each handle. -/
private def directives : Reader Bool := do
  let directives := (← get).tokens.takeWhile Token.isDirective
  let handles := directives.filterMap Token.handle?
  guard (directives.count .version ≤ 1 ∧ (Table.names handles).Nodup)
  modify fun s ↦ { s with tokens := s.tokens.drop directives.length, handles }
  return !directives.isEmpty

/-- A single document: directives need a start marker, and end markers may follow. -/
private def document (fuel : Nat) : Reader Node := do
  let directed ← directives
  let started ← take .documentStart
  if directed && !started then failure
  let marked := (← peek).all fun token ↦
    token.isDirective || token == .documentStart || token == .documentEnd
  let ended := (← get).tokens.isEmpty || (started && marked)
  let root ← if ended then pure (omitted {}) else node true false fuel
  modify fun s ↦ { s with tokens := s.tokens.dropWhile (· == .documentEnd) }
  if (← get).tokens.isEmpty then return root else failure

/-- The document that a row of tokens makes up. Between two tokens at most three readings begin. -/
def ofTokens? (tokens : List Token) : Option Node :=
  (document (3 * tokens.length + 4)).run' { tokens }

/-- The document of a text. -/
def ofText? (text : String) : Option Node := (Token.scan text).bind ofTokens?

end Node

end Fieldwise.Yaml
