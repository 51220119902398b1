import Fieldwise.Text.Upper
import Fieldwise.Text.Lower
import Fieldwise.Text.Cased
import Fieldwise.Text.CaseIgnorable

/-!
# Case of texts

Full case mapping of whole texts, where one character may become several. Lower case depends on
context in one place: a capital sigma that ends a word takes its final form.
-/

namespace Fieldwise.Text

/-- The text in upper case. -/
def upper (s : String) : String := String.ofList (s.toList.flatMap upperOf)

/-- A cased letter comes next, ignorable characters apart. -/
private def casedNext (cs : List Char) : Bool :=
  match cs.dropWhile isCaseIgnorable with
  | c :: _ => isCased c
  | [] => false

/-- Lower case of the characters that follow `before`, which is read backwards. -/
private def lowerAfter (before : List Char) : List Char → List Char
  | [] => []
  | c :: rest =>
    let mapped :=
      if c = 'Σ' then if casedNext before && !casedNext rest then ['ς'] else ['σ']
      else lowerOf c
    mapped ++ lowerAfter (c :: before) rest

/-- The text in lower case. -/
def lower (s : String) : String := String.ofList (lowerAfter [] s.toList)

/-- The text with its first character in upper case. -/
def capitalize (s : String) : String :=
  match s.toList with
  | [] => ""
  | c :: rest => String.ofList (upperOf c ++ rest)

/-- The text with its first character in lower case. -/
def uncapitalize (s : String) : String :=
  match s.toList with
  | [] => ""
  | c :: rest => String.ofList (lowerOf c ++ rest)

end Fieldwise.Text
