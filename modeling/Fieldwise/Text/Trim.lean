import Fieldwise.Text.Blank

/-!
# Trimming

A text without the blank characters at its two ends.
-/

namespace Fieldwise.Text

/-- The characters without the blanks at either end. -/
def trimChars (cs : List Char) : List Char :=
  ((cs.dropWhile isBlank).reverse.dropWhile isBlank).reverse

/-- The text without the blanks at either end. -/
def trim (s : String) : String := String.ofList (trimChars s.toList)

end Fieldwise.Text
