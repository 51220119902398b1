/-!
# Places in a text

The characters of a text with their lines and columns, after line endings have been made uniform.
Indentation is a matter of columns, so the scanner works on places and not on bare characters.
-/

namespace Fieldwise.Yaml

/-- A character and where it stands, counted from zero. The offset counts the bytes before it. -/
structure Place where
  char : Char
  line : Nat
  column : Nat
  offset : Nat

/-- A character that ends a line once line endings are uniform. -/
def isBreak (c : Char) : Bool := c == '\n' || c == '\u2028' || c == '\u2029'

/-- A character between words of one line. -/
def isBlank (c : Char) : Bool := c == ' ' || c == '\t'

/-- A character that may occur in a text at all. -/
def isAllowed (c : Char) : Bool :=
  let code := c.toNat
  c == '\t' || c == '\n' || c == '\r' || (0x20 ≤ code && code ≤ 0x7E) || code == 0x85
    || (0xA0 ≤ code && code ≤ 0xFFFD) || 0x10000 ≤ code

/-- A character of an anchor's name. -/
def isWordChar (c : Char) : Bool :=
  ('0' ≤ c && c ≤ '9') || ('A' ≤ c && c ≤ 'Z') || ('a' ≤ c && c ≤ 'z') || c == '_' || c == '-'

/-- The text with every ordinary line ending as one line feed. -/
def uniformBreaks : List Char → List Char
  | '\r' :: '\n' :: rest => '\n' :: uniformBreaks rest
  | '\r' :: rest => '\n' :: uniformBreaks rest
  | '\u0085' :: rest => '\n' :: uniformBreaks rest
  | c :: rest => c :: uniformBreaks rest
  | [] => []

/-- The places of characters from a given position on. -/
def placesFrom (line column offset : Nat) : List Char → List Place
  | [] => []
  | c :: rest =>
    ⟨c, line, column, offset⟩ ::
      if isBreak c then placesFrom (line + 1) 0 (offset + c.utf8Size) rest
      else placesFrom line (column + 1) (offset + c.utf8Size) rest

/-- The places of a text, if all its characters are allowed. -/
def places? (text : String) : Option (List Place) :=
  if text.toList.all isAllowed then some (placesFrom 0 0 0 (uniformBreaks text.toList)) else none

/-- Whether a word has ended here: at a blank, a line break or the end of the text. -/
def atGap : List Place → Bool
  | [] => true
  | p :: _ => isBlank p.char || isBreak p.char

/-- Whether a line begins here with a marker between documents, made of three equal characters. -/
def atMarker (mark : Char) : List Place → Bool
  | a :: b :: c :: rest =>
    a.column == 0 && a.char == mark && b.char == mark && c.char == mark && atGap rest
  | _ => false

/-- Whether a line begins here with either marker between documents. -/
def atDocumentMarker (rest : List Place) : Bool := atMarker '-' rest || atMarker '.' rest

end Fieldwise.Yaml
