import Fieldwise.Yaml.Tag

/-!
# Tokens

The tokens of a YAML text. Indentation turns into marks around block collections, and a colon after
a text on one line turns that text into a key, so a key's mark is placed before tokens that have
been read already.
-/

namespace Fieldwise.Yaml

/-- A token. -/
inductive Token where
  | version
  | handle (name : String) (beginning : List UInt8)
  | documentStart
  | documentEnd
  | blockSequenceStart
  | blockMappingStart
  | blockEnd
  | flowSequenceStart
  | flowSequenceEnd
  | flowMappingStart
  | flowMappingEnd
  | blockEntry
  | flowEntry
  | key
  | value
  | alias (name : String)
  | anchor (name : String)
  | tag (handle : Option String) (suffix : List UInt8)
  | scalar (text : String) (style : Style)
  deriving DecidableEq, Repr

/-- Whether a token is a directive. -/
def Token.isDirective : Token → Bool
  | version | handle _ _ => true
  | _ => false

/-- The handle that a token declares. -/
def Token.handle? : Token → Option (String × List UInt8)
  | handle name beginning => some (name, beginning)
  | _ => none

/-- A place that a later colon may turn into the start of a key. It is required to be one where
nothing else may stand. -/
structure PossibleKey where
  required : Bool
  token : Nat
  line : Nat
  column : Nat
  offset : Nat

/-- The state of a scanner: the open blocks, the possible keys of the open collections from the
innermost out, and the tokens so far. -/
structure Scanner where
  indent : Int := -1
  outer : List Int := []
  keyAllowed : Bool := true
  key : Option PossibleKey := none
  outerKeys : List (Option PossibleKey) := []
  /-- The tokens so far in reverse. -/
  done : List Token := []
  count : Nat := 0

namespace Scanner

/-- Whether the scanner is between brackets. -/
def inFlow (s : Scanner) : Bool := !s.outerKeys.isEmpty

/-- Append a token. -/
def emit (s : Scanner) (token : Token) : Scanner :=
  { s with done := token :: s.done, count := s.count + 1 }

/-- Put a token before the token of a given number. -/
def insert (s : Scanner) (number : Nat) (token : Token) : Scanner :=
  let later := s.count - number
  { s with done := s.done.take later ++ token :: s.done.drop later, count := s.count + 1 }

/-- Give up the present possible key, unless it is required. -/
def dropKey? (s : Scanner) : Option Scanner :=
  if s.key.any (·.required) then none else some { s with key := none }

/-- Note that a key may start here. -/
def saveKey? (s : Scanner) (p : Place) : Option Scanner :=
  if s.keyAllowed then do
    let required := !s.inFlow && s.indent == p.column
    let key := { required, token := s.count, line := p.line, column := p.column,
                 offset := p.offset }
    some { ← s.dropKey? with key := some key }
  else some s

/-- Close the blocks that are indented further than a column. -/
def closeBlocks (s : Scanner) (column : Int) : Scanner :=
  if s.inFlow then s
  else
    let open_ := s.indent :: s.outer
    let closed := open_.takeWhile (column < ·)
    let kept := open_.dropWhile (column < ·)
    { s with
      indent := kept.headD (-1)
      outer := kept.drop 1
      done := closed.map (fun _ ↦ Token.blockEnd) ++ s.done
      count := s.count + closed.length }

/-- Open a block at a column, unless one is open there, with its mark before a given token. -/
def openBlock (s : Scanner) (column : Nat) (mark : Token) (number : Nat) : Scanner :=
  if !s.inFlow && s.indent < column then
    { s.insert number mark with indent := column, outer := s.indent :: s.outer }
  else s

/-- Leave out white space, comments and line breaks, and a mark of the byte order where a line
begins. A line break outside brackets allows a key. -/
def skipGap (inFlow keyAllowed : Bool) (rest : List Place) : Bool × List Place :=
  match rest with
  | [] => (keyAllowed, [])
  | p :: rest =>
    if p.char == ' ' || (p.char == '\t' && (inFlow || !keyAllowed))
        || (p.char == '\ufeff' && p.column == 0) then skipGap inFlow keyAllowed rest
    else if p.char == '#' then skipGap inFlow keyAllowed (toLineEnd rest)
    else if isBreak p.char then skipGap inFlow (keyAllowed || !inFlow) rest
    else (keyAllowed, p :: rest)
termination_by rest.length
decreasing_by
  · simp
  · have : (toLineEnd rest).length ≤ rest.length := (List.dropWhile_sublist _).length_le
    simp only [List.length_cons]
    omega
  · simp

/-- A marker between documents, or the end of the text, closes everything. -/
def closeAll? (s : Scanner) : Option Scanner := do
  some { ← (s.closeBlocks (-1)).dropKey? with keyAllowed := false }

/-- The start of a collection between brackets. -/
def openFlow? (s : Scanner) (p : Place) (token : Token) : Option Scanner := do
  let s ← s.saveKey? p
  some { s.emit token with keyAllowed := true, key := none, outerKeys := s.key :: s.outerKeys }

/-- The end of a collection between brackets. -/
def closeFlow? (s : Scanner) (token : Token) : Option Scanner := do
  let s ← s.dropKey?
  some { s.emit token with
    keyAllowed := false, key := s.outerKeys.headD none, outerKeys := s.outerKeys.drop 1 }

/-- The dash before an item. -/
def blockEntry? (s : Scanner) (p : Place) : Option Scanner := do
  if !s.inFlow && !s.keyAllowed then none
  let s ← (s.openBlock p.column .blockSequenceStart s.count).dropKey?
  some { s.emit .blockEntry with keyAllowed := true }

/-- The question mark before a key. -/
def key? (s : Scanner) (p : Place) : Option Scanner := do
  if !s.inFlow && !s.keyAllowed then none
  let s ← (s.openBlock p.column .blockMappingStart s.count).dropKey?
  some { s.emit .key with keyAllowed := !s.inFlow }

/-- The colon before a value. It makes a key of the possible key, if that began on the same line
and not too many bytes ago. -/
def value? (s : Scanner) (p : Place) : Option Scanner :=
  match s.key with
  | some key =>
    if key.line = p.line ∧ p.offset ≤ key.offset + 1024 then
      let s := (s.insert key.token .key).openBlock key.column .blockMappingStart key.token
      some { s.emit .value with key := none, keyAllowed := false }
    else if key.required then none
    else withoutKey
  | none => withoutKey
where
  withoutKey : Option Scanner :=
    if !s.inFlow && !s.keyAllowed then none
    else
      let s := s.openBlock p.column .blockMappingStart s.count
      some { s.emit .value with key := none, keyAllowed := !s.inFlow }

/-- Take a block scalar. The line ends with it, so that a key may follow. -/
def takeBlock? (s : Scanner) (folded : Bool) (text : List Char) : Option Scanner := do
  let token := Token.scalar (String.ofList text) (if folded then .folded else .literal)
  some { (← s.dropKey?).emit token with keyAllowed := true }

/-- The comma between members. -/
def flowEntry? (s : Scanner) : Option Scanner := do
  some { (← s.dropKey?).emit .flowEntry with keyAllowed := true }

/-- The name after an ampersand or asterisk, which must be followed by a gap or a mark. -/
def name? (rest : List Place) : Option (String × List Place) :=
  let name := rest.takeWhile fun p ↦ isWordChar p.char
  let after := rest.dropWhile fun p ↦ isWordChar p.char
  let ended := match after with
    | p :: _ => atGap after || "?:,]\x7d%@`".contains p.char
    | [] => true
  if name.isEmpty || !ended then none else some (String.ofList (name.map Place.char), after)

/-- A tag, which must be followed by a gap, or between brackets by a comma. -/
def tag? (inFlow : Bool) (rest : List Place) : Option (Token × List Place) :=
  ((tagParts? rest).filter fun (_, after) ↦
    atGap after || (inFlow && after.head?.any (·.char == ','))).map fun (parts, after) ↦
      (.tag parts.1 parts.2, after)

/-- A number of at most nine digits. -/
def versionNumber? (rest : List Place) : Option (Nat × List Place) :=
  let digits := rest.takeWhile fun p ↦ Text.isDigit p.char
  if digits.isEmpty || 9 < digits.length then none
  else some (Text.digitsValue (digits.map Place.char), rest.dropWhile fun p ↦ Text.isDigit p.char)

/-- A version of the format, which must be a known one. -/
def version? (rest : List Place) : Option (Token × List Place) := do
  let (major, rest) ← versionNumber? rest
  match rest with
  | [] => none
  | p :: rest =>
    let (minor, rest) ← versionNumber? rest
    if p.char == '.' && major == 1 && (minor == 1 || minor == 2) then some (.version, rest)
    else none

/-- The declaration of a handle: the handle, a blank, and the beginning that it stands for. The
single exclamation mark can be declared too. -/
def declaration? (rest : List Place) : Option (Token × List Place) :=
  match rest with
  | [] => none
  | p :: rest => do
    if p.char != '!' then none
    let (name, rest) := (handle? rest).getD ("!", rest)
    if !rest.head?.any (isBlank ·.char) then none
    let (beginning, rest) ← tagPart? true (skipBlanks rest)
    if atGap rest then some (.handle name beginning, rest) else none

/-- The directive of a name, with what it is about. -/
def named? (name : List Char) (rest : List Place) : Option (Token × List Place) :=
  if name = "YAML".toList then version? rest
  else if name = "TAG".toList then declaration? rest
  else none

/-- The directive after a percent sign, and what follows its line. -/
def directive? (rest : List Place) : Option (Token × List Place) := do
  let name := (rest.takeWhile fun p ↦ isWordChar p.char).map Place.char
  let body := rest.dropWhile fun p ↦ isWordChar p.char
  if !atGap body then none
  let (token, body) ← named? name (skipBlanks body)
  some (token, ← nextLine? (skipComment (skipBlanks body)))

/-- A scalar of plain style may start with this character before that rest. -/
def startsPlain (inFlow : Bool) (c : Char) (after : List Place) : Bool :=
  if c == '-' then !atGap after
  else if c == '?' || c == ':' then !inFlow && !atGap after
  else !isBlank c && !",[]\x7b\x7d#&*!|>'\"%@`".contains c

/-- A token that a key may start with: whether another key may follow it, and what comes after. -/
structure Word where
  token : Token
  keyAllowed : Bool := false
  rest : List Place

/-- The word that starts here: an alias, an anchor, a tag, or a scalar in one of two styles. -/
def word? (inFlow : Bool) (indent : Int) (c : Char) (after : List Place) : Option Word :=
  if c == '*' then (name? after).map fun (name, rest) ↦ { token := .alias name, rest }
  else if c == '&' then (name? after).map fun (name, rest) ↦ { token := .anchor name, rest }
  else if c == '!' then (tag? inFlow after).map fun (token, rest) ↦ { token, rest }
  else if c == '\'' || c == '"' then
    (quotedScalar c [] {} after).map fun (text, rest) ↦
      { token := .scalar (String.ofList text) .quoted, rest }
  else if startsPlain inFlow c after then
    (plainScalar inFlow (indent + 1) [c] {} after).map fun (text, keyAllowed, rest) ↦
      { token := .scalar (String.ofList text) .plain, keyAllowed, rest }
  else none

/-- Take a word, which may turn out to start a key. -/
def takeWord? (s : Scanner) (p : Place) (w : Word) : Option Scanner := do
  some { (← s.saveKey? p).emit w.token with keyAllowed := w.keyAllowed }

/-- What a mark of one character makes of the scanner, if one starts here. It may be out of
place. -/
def mark? (s : Scanner) (p : Place) (after : List Place) : Option (Option Scanner) :=
  match p.char with
  | '[' => some (s.openFlow? p .flowSequenceStart)
  | '{' => some (s.openFlow? p .flowMappingStart)
  | ']' => some (s.closeFlow? .flowSequenceEnd)
  | '}' => some (s.closeFlow? .flowMappingEnd)
  | ',' => some s.flowEntry?
  | '-' => if atGap after then some (s.blockEntry? p) else none
  | '?' => if s.inFlow || atGap after then some (s.key? p) else none
  | ':' => if s.inFlow || atGap after then some (s.value? p) else none
  | _ => none

/-- Take the token that starts here, where neither a gap nor the end of the text is. -/
def next? (s : Scanner) (p : Place) (after : List Place) : Option (Scanner × List Place) :=
  if p.column == 0 && p.char == '%' then
    (directive? after).bind fun (token, rest) ↦ s.closeAll?.map fun s ↦ (s.emit token, rest)
  else if atMarker '-' (p :: after) then
    s.closeAll?.map fun s ↦ (s.emit .documentStart, after.drop 2)
  else if atMarker '.' (p :: after) then
    s.closeAll?.map fun s ↦ (s.emit .documentEnd, after.drop 2)
  else match s.mark? p after with
    | some marked => marked.map (·, after)
    | none =>
      if (p.char == '|' || p.char == '>') && !s.inFlow then
        (blockScalar (p.char == '>') s.indent after).bind fun (text, rest) ↦
          (s.takeBlock? (p.char == '>') text).map (·, rest)
      else (word? s.inFlow s.indent p.char after).bind fun w ↦ (s.takeWord? p w).map (·, w.rest)

private theorem length_skipGap_le (inFlow keyAllowed : Bool) (rest : List Place) :
    (skipGap inFlow keyAllowed rest).2.length ≤ rest.length := by
  fun_induction skipGap inFlow keyAllowed rest <;> grind [toLineEnd, length_dropPlaces_le]

private theorem length_le_of_name {rest after : List Place} {name : String}
    (h : name? rest = some (name, after)) : after.length ≤ rest.length := by
  have := length_dropPlaces_le (fun p ↦ isWordChar p.char) rest
  grind [name?]

private theorem length_le_of_tag {inFlow : Bool} {rest after : List Place} {token : Token}
    (h : tag? inFlow rest = some (token, after)) : after.length ≤ rest.length := by
  obtain ⟨_, hp, he⟩ := Option.map_eq_some_iff.1 h
  cases he
  exact length_le_of_tagParts (Option.filter_eq_some_iff.1 hp).1

private theorem length_le_of_versionNumber {rest after : List Place} {number : Nat}
    (h : versionNumber? rest = some (number, after)) : after.length ≤ rest.length := by
  have := length_dropPlaces_le (fun p ↦ Text.isDigit p.char) rest
  grind [versionNumber?]

private theorem length_le_of_version {rest after : List Place} {token : Token}
    (h : version? rest = some (token, after)) : after.length ≤ rest.length := by
  obtain ⟨⟨major, dotted⟩, hm, h⟩ := Option.bind_eq_some_iff.1 h
  have := length_le_of_versionNumber hm
  cases dotted with
  | nil => cases h
  | cons p minor =>
    obtain ⟨_, hn, h⟩ := Option.bind_eq_some_iff.1 h
    have := length_le_of_versionNumber hn
    grind

private theorem length_le_of_declaration {rest after : List Place} {token : Token}
    (h : declaration? rest = some (token, after)) : after.length ≤ rest.length := by
  cases rest with
  | nil => cases h
  | cons p inner =>
    have hh : ((handle? inner).getD ("!", inner)).2.length ≤ inner.length := by
      cases hf : handle? inner with
      | none => exact Nat.le_refl _
      | some found => exact length_le_of_handle hf
    simp only [declaration?] at h
    split at h
    · cases h
    · split at h
      · cases h
      · obtain ⟨_, hp, h⟩ := Option.bind_eq_some_iff.1 h
        have := length_le_of_tagPart hp
        have := length_dropPlaces_le (fun p ↦ isBlank p.char) ((handle? inner).getD ("!", inner)).2
        grind [skipBlanks]

private theorem length_le_of_named {name : List Char} {rest after : List Place} {token : Token}
    (h : named? name rest = some (token, after)) : after.length ≤ rest.length := by
  simp only [named?] at h
  repeat' split at h
  · exact length_le_of_version h
  · exact length_le_of_declaration h
  · cases h

private theorem length_le_of_directive {rest after : List Place} {token : Token}
    (h : directive? rest = some (token, after)) : after.length ≤ rest.length := by
  simp only [directive?] at h
  split at h
  · cases h
  · obtain ⟨⟨_, found⟩, hd, h⟩ := Option.bind_eq_some_iff.1 h
    obtain ⟨_, hn, h⟩ := Option.bind_eq_some_iff.1 h
    cases h
    have := length_dropPlaces_le (fun p ↦ isWordChar p.char) rest
    have := length_dropPlaces_le (fun p ↦ isBlank p.char)
      (rest.dropWhile fun p ↦ isWordChar p.char)
    have := length_le_of_named hd
    have := length_dropPlaces_le (fun p ↦ isBlank p.char) found
    have := length_skipComment_le (skipBlanks found)
    have := length_le_of_nextLine hn
    simp only [skipBlanks] at *
    omega

private theorem length_le_of_word {inFlow : Bool} {indent : Int} {c : Char} {after : List Place}
    {w : Word} (h : word? inFlow indent c after = some w) : w.rest.length ≤ after.length := by
  simp only [word?] at h
  repeat' split at h
  · obtain ⟨_, hr, rfl⟩ := Option.map_eq_some_iff.1 h
    exact length_le_of_name hr
  · obtain ⟨_, hr, rfl⟩ := Option.map_eq_some_iff.1 h
    exact length_le_of_name hr
  · obtain ⟨_, hr, rfl⟩ := Option.map_eq_some_iff.1 h
    exact length_le_of_tag hr
  · obtain ⟨_, hr, rfl⟩ := Option.map_eq_some_iff.1 h
    exact length_le_of_quotedScalar hr
  · obtain ⟨_, hr, rfl⟩ := Option.map_eq_some_iff.1 h
    exact length_le_of_plainScalar hr
  · cases h

private theorem length_le_of_next {s found : Scanner} {p : Place} {after rest : List Place}
    (h : s.next? p after = some (found, rest)) : rest.length ≤ after.length := by
  have mapped {α : Type} {x : Option α} {f : α → Scanner} {left : List Place}
      (h : x.map (fun a ↦ (f a, left)) = some (found, rest)) : rest = left := by
    obtain ⟨_, _, he⟩ := Option.map_eq_some_iff.1 h
    exact (Prod.mk.inj he).2.symm
  have dropped : (after.drop 2).length ≤ after.length := (List.drop_sublist 2 after).length_le
  unfold next? at h
  repeat' split at h
  · obtain ⟨_, hd, h⟩ := Option.bind_eq_some_iff.1 h
    exact mapped h ▸ length_le_of_directive hd
  · exact mapped h ▸ dropped
  · exact mapped h ▸ dropped
  · exact Nat.le_of_eq (congrArg List.length (mapped h))
  · obtain ⟨_, hr, h⟩ := Option.bind_eq_some_iff.1 h
    exact mapped h ▸ length_le_of_blockScalar hr
  · obtain ⟨_, hr, h⟩ := Option.bind_eq_some_iff.1 h
    exact mapped h ▸ length_le_of_word hr

/-- All tokens from here on. -/
def tokens? (s : Scanner) (rest : List Place) : Option (List Token) :=
  match h : skipGap s.inFlow s.keyAllowed rest with
  | (_, []) => s.closeAll?.map (·.done.reverse)
  | (keyAllowed, p :: after) =>
    match hn : ({ s with keyAllowed }.closeBlocks p.column).next? p after with
    | none => none
    | some (next, rest') =>
      have : rest'.length < rest.length := by
        have := length_skipGap_le s.inFlow s.keyAllowed rest
        have := length_le_of_next hn
        simp only [h, List.length_cons] at *
        omega
      tokens? next rest'
termination_by rest.length
decreasing_by assumption

end Scanner

/-- The tokens of a text. -/
def Token.scan (text : String) : Option (List Token) :=
  (places? text).bind fun rest ↦ Scanner.tokens? {} rest

end Fieldwise.Yaml
