import Fieldwise.Json.Numeral

/-!
# Tokens of documents

A document's text is a row of punctuation marks, words, strings and numbers with white space in
between. A string or number may be spelled well and still denote nothing: a string with half of a
surrogate pair, or a number that is too large. Such tokens are kept, since a reader may skip them.
-/

namespace Fieldwise.Json

/-- A token; `none` inside one stands for a well-spelled part without a value. -/
inductive Token where
  | openBracket
  | closeBracket
  | openBrace
  | closeBrace
  | comma
  | colon
  | null
  | boolean (value : Bool)
  | string (value : Option String)
  | number (value : Option Number)
  deriving DecidableEq, Repr

namespace Token

open Text (isDigit hexDigit?)

/-- A unit of text inside a string: a character, or half of a surrogate pair. -/
private inductive TextUnit where
  | char (c : Char)
  | half (code : Nat)

/-- The characters that follow a backslash for one character each. -/
private def shortEscape? : Char → Option Char
  | '"' => some '"'
  | '\\' => some '\\'
  | '/' => some '/'
  | 'b' => some '\x08'
  | 'f' => some '\x0c'
  | 'n' => some '\n'
  | 'r' => some '\r'
  | 't' => some '\t'
  | _ => none

/-- The units of a string up to its closing quote, and what follows the quote. -/
private def stringUnits : List Char → Option (List TextUnit × List Char)
  | [] => none
  | '"' :: rest => some ([], rest)
  | '\\' :: 'u' :: a :: b :: c :: d :: rest => do
    let code := (← hexDigit? a) * 4096 + (← hexDigit? b) * 256 + (← hexDigit? c) * 16
      + (← hexDigit? d)
    let (units, after) ← stringUnits rest
    let unit := if 0xD800 ≤ code ∧ code < 0xE000 then .half code else .char (Char.ofNat code)
    some (unit :: units, after)
  | '\\' :: mark :: rest => do
    let c ← shortEscape? mark
    let (units, after) ← stringUnits rest
    some (.char c :: units, after)
  | c :: rest =>
    if c = '\\' ∨ c.toNat < 0x20 then none
    else (stringUnits rest).map fun (units, after) ↦ (.char c :: units, after)

private theorem length_le_of_stringUnits {text after : List Char} {units : List TextUnit}
    (h : stringUnits text = some (units, after)) : after.length ≤ text.length := by
  fun_induction stringUnits text generalizing units after with
  | case1 => simp at h
  | case2 rest =>
    obtain ⟨rfl, rfl⟩ : [] = units ∧ rest = after := by simpa using h
    simp
  | case3 a b c d rest ih =>
    simp only [Option.bind_eq_bind, Option.bind_eq_some_iff] at h
    obtain ⟨_, _, _, _, _, _, _, _, ⟨_, found⟩, hs, he⟩ := h
    simp only [Option.some.injEq, Prod.mk.injEq] at he
    have := ih hs
    simp only [List.length_cons, ← he.2]
    omega
  | case4 mark rest _ ih =>
    simp only [Option.bind_eq_bind, Option.bind_eq_some_iff] at h
    obtain ⟨_, _, ⟨_, found⟩, hs, he⟩ := h
    simp only [Option.some.injEq, Prod.mk.injEq] at he
    have := ih hs
    simp only [List.length_cons, ← he.2]
    omega
  | case5 => simp at h
  | case6 c rest _ _ _ _ ih =>
    obtain ⟨⟨_, _⟩, hs, he⟩ := Option.map_eq_some_iff.1 h
    have := ih hs
    simp only [Prod.mk.injEq] at he
    simp only [List.length_cons, ← he.2]
    omega

/-- The characters of a string; a leading half must be followed by a trailing one. -/
private def characters? : List TextUnit → Option (List Char)
  | [] => some []
  | .char c :: rest => (characters? rest).map (c :: ·)
  | .half lead :: .half trail :: rest =>
    if lead < 0xDC00 ∧ 0xDC00 ≤ trail then
      (characters? rest).map
        (Char.ofNat (0x10000 + (lead - 0xD800) * 0x400 + (trail - 0xDC00)) :: ·)
    else none
  | .half _ :: _ => none

/-- The fraction that starts here, if one does, and what follows; a point needs digits. -/
private def fraction? : List Char → Option (Option (List Char) × List Char)
  | '.' :: rest =>
    if (rest.takeWhile isDigit).isEmpty then none
    else some (some (rest.takeWhile isDigit), rest.dropWhile isDigit)
  | rest => some (none, rest)

/-- The exponent that starts here, if one does, and what follows; its mark needs digits. -/
private def exponent? : List Char → Option (Option (Bool × List Char) × List Char)
  | [] => some (none, [])
  | mark :: rest =>
    if mark = 'e' ∨ mark = 'E' then
      let (down, rest) := Decimal.splitSign rest
      if (rest.takeWhile isDigit).isEmpty then none
      else some (some (down, rest.takeWhile isDigit), rest.dropWhile isDigit)
    else some (none, mark :: rest)

/-- The spelling of a number whose sign has been read, and what follows it. -/
private def unsigned? (negative : Bool) (text : List Char) : Option (Spelling × List Char) :=
  let whole := text.takeWhile isDigit
  if whole.isEmpty ∨ (whole.head? = some '0' ∧ 1 < whole.length) then none
  else (fraction? (text.dropWhile isDigit)).bind fun (fraction, rest) ↦
    (exponent? rest).map fun (exponent, rest) ↦ (⟨negative, whole, fraction, exponent⟩, rest)

/-- The spelling of a number that starts here, and what follows it. -/
private def spelling? : List Char → Option (Spelling × List Char)
  | '-' :: rest => unsigned? true rest
  | text => unsigned? false text

private theorem length_dropWhile_le (p : Char → Bool) (text : List Char) :
    (text.dropWhile p).length ≤ text.length :=
  (List.dropWhile_sublist p).length_le

private theorem length_le_of_fraction {text after : List Char} {fraction : Option (List Char)}
    (h : fraction? text = some (fraction, after)) : after.length ≤ text.length := by
  fun_cases fraction? text with
  | case1 => simp_all [fraction?]
  | case2 rest hd =>
    have := length_dropWhile_le isDigit rest
    simp_all [fraction?]
    omega
  | case3 => simp_all [fraction?]

private theorem length_splitSign_le (text : List Char) :
    (Decimal.splitSign text).2.length ≤ text.length := by
  fun_cases Decimal.splitSign text <;> simp

private theorem length_le_of_exponent {text after : List Char}
    {exponent : Option (Bool × List Char)}
    (h : exponent? text = some (exponent, after)) : after.length ≤ text.length := by
  fun_cases exponent? text with
  | case1 => simp_all [exponent?]
  | case2 mark rest hm down digits hs hd => simp_all [exponent?]
  | case3 mark rest hm down digits hs hd =>
    have := length_splitSign_le rest
    have := length_dropWhile_le isDigit digits
    simp_all [exponent?]
    omega
  | case4 => simp_all [exponent?]

private theorem length_lt_of_unsigned {negative : Bool} {text after : List Char} {s : Spelling}
    (h : unsigned? negative text = some (s, after)) : after.length < text.length := by
  simp only [unsigned?] at h
  split at h
  · simp at h
  · obtain ⟨⟨fraction, rest⟩, hf, he⟩ := Option.bind_eq_some_iff.1 h
    obtain ⟨⟨exponent, last⟩, he, hl⟩ := Option.map_eq_some_iff.1 he
    have := length_le_of_fraction hf
    have := length_le_of_exponent he
    have : (text.takeWhile isDigit).length + (text.dropWhile isDigit).length = text.length := by
      rw [← List.length_append, List.takeWhile_append_dropWhile]
    have : 0 < (text.takeWhile isDigit).length := by grind
    simp only [Prod.mk.injEq] at hl
    grind

private theorem length_lt_of_spelling {text after : List Char} {s : Spelling}
    (h : spelling? text = some (s, after)) : after.length < text.length := by
  fun_cases spelling? text with
  | case1 rest => exact Nat.lt_succ_of_lt (length_lt_of_unsigned h)
  | case2 => exact length_lt_of_unsigned (by simpa [spelling?] using h)

/-- The first token of a text that starts with neither white space nor an end. -/
private def next? : List Char → Option (Token × List Char)
  | '[' :: rest => some (.openBracket, rest)
  | ']' :: rest => some (.closeBracket, rest)
  | '{' :: rest => some (.openBrace, rest)
  | '}' :: rest => some (.closeBrace, rest)
  | ',' :: rest => some (.comma, rest)
  | ':' :: rest => some (.colon, rest)
  | 'n' :: 'u' :: 'l' :: 'l' :: rest => some (.null, rest)
  | 't' :: 'r' :: 'u' :: 'e' :: rest => some (.boolean true, rest)
  | 'f' :: 'a' :: 'l' :: 's' :: 'e' :: rest => some (.boolean false, rest)
  | '"' :: rest => (stringUnits rest).map fun (units, after) ↦
      (.string ((characters? units).map String.ofList), after)
  | text => (spelling? text).map fun (s, after) ↦ (.number s.value?, after)

private theorem length_lt_of_next {text after : List Char} {token : Token}
    (h : next? text = some (token, after)) : after.length < text.length := by
  unfold next? at h
  split at h
  case h_10 rest =>
    obtain ⟨⟨_, _⟩, hs, he⟩ := Option.map_eq_some_iff.1 h
    have := length_le_of_stringUnits hs
    simp only [Prod.mk.injEq] at he
    simp only [List.length_cons, ← he.2]
    omega
  case h_11 =>
    obtain ⟨⟨_, _⟩, hs, he⟩ := Option.map_eq_some_iff.1 h
    simp only [Prod.mk.injEq] at he
    exact he.2 ▸ length_lt_of_spelling hs
  all_goals
    simp only [Option.some.injEq, Prod.mk.injEq] at h
    simp only [List.length_cons, h.2]
    omega

/-- The white space that may stand between tokens. -/
def isGap (c : Char) : Bool := c == ' ' || c == '\t' || c == '\n' || c == '\r'

/-- The tokens of a text, if it consists of tokens. -/
def scan (text : List Char) : Option (List Token) :=
  match text with
  | [] => some []
  | c :: rest =>
    if isGap c then scan rest
    else match h : next? (c :: rest) with
      | none => none
      | some (token, after) =>
        have := length_lt_of_next h
        (scan after).map (token :: ·)
termination_by text.length
decreasing_by
  · simp
  · assumption

end Token

end Fieldwise.Json
