import Fieldwise.Json
import Fieldwise.Decimal.Notation

/-!
# Writing documents

Two layouts of a document: compact, and indented with one member to a line. Numbers that are not
finite have no written form and appear as `null`.
-/

namespace Fieldwise.Json

/-- A character inside a string; quotes, backslashes and controls are escaped, nothing else. -/
private def stringChar (c : Char) : String :=
  match c with
  | '"' => "\\\""
  | '\\' => "\\\\"
  | '\x08' => "\\b"
  | '\x0c' => "\\f"
  | '\n' => "\\n"
  | '\r' => "\\r"
  | '\t' => "\\t"
  | c =>
    if c.toNat < 0x20 then
      let digits := Nat.toDigits 16 c.toNat
      "\\u" ++ String.ofList (List.replicate (4 - digits.length) '0' ++ digits)
    else c.toString

/-- A string between quotes. -/
def quote (s : String) : String := "\"" ++ String.join (s.toList.map stringChar) ++ "\""

/-- A number. -/
def Number.text : Number → String
  | .integer value => toString value.toInt
  | .large value => toString value.toNat
  | .decimal value => if value.isFinite then value.documentText else "null"

mutual

/-- The document without any white space. -/
def compact : Json → String
  | .null => "null"
  | .boolean b => if b then "true" else "false"
  | .number n => n.text
  | .string s => quote s
  | .array items => "[" ++ String.intercalate "," (compactItems items) ++ "]"
  | .object entries => "\x7b" ++ String.intercalate "," (compactEntries entries) ++ "\x7d"

/-- The items of an array. -/
def compactItems : List Json → List String
  | [] => []
  | item :: rest => compact item :: compactItems rest

/-- The entries of an object. -/
def compactEntries : List (String × Json) → List String
  | [] => []
  | (key, value) :: rest => (quote key ++ ":" ++ compact value) :: compactEntries rest

end

/-- Members of an array or object on lines of their own, two columns further in. -/
private def block (opening closing : String) (margin : String) (members : List String) : String :=
  if members.isEmpty then opening ++ closing
  else
    let inner := margin ++ "  "
    opening ++ "\n" ++ String.intercalate ",\n" (members.map (inner ++ ·)) ++ "\n" ++ margin ++
      closing

mutual

/-- The document over several lines, whose lines after the first begin with a margin. -/
def indented (margin : String) : Json → String
  | .array items => block "[" "]" margin (indentedItems (margin ++ "  ") items)
  | .object entries => block "\x7b" "\x7d" margin (indentedEntries (margin ++ "  ") entries)
  | .null => "null"
  | .boolean b => if b then "true" else "false"
  | .number n => n.text
  | .string s => quote s

/-- The items of an array. -/
def indentedItems (margin : String) : List Json → List String
  | [] => []
  | item :: rest => indented margin item :: indentedItems margin rest

/-- The entries of an object. -/
def indentedEntries (margin : String) : List (String × Json) → List String
  | [] => []
  | (key, value) :: rest =>
    (quote key ++ ": " ++ indented margin value) :: indentedEntries margin rest

end

/-- The document over several lines. -/
def pretty (document : Json) : String := indented "" document

end Fieldwise.Json
