import Fieldwise.Text.CodeRange

/-!
# Blank characters

The code points with the `White_Space` property, as ascending disjoint ranges.
-/

namespace Fieldwise.Text

/-- The ranges of the `White_Space` property, ascending and disjoint. -/
def blankRanges : List CodeRange := [
  (9, 13), (32, 32), (133, 133), (160, 160), (5760, 5760), (8192, 8202), (8232, 8233),
  (8239, 8239), (8287, 8287), (12288, 12288)]

/-- A character that counts as white space around a name. -/
def isBlank (c : Char) : Bool := CodeRange.covers blankRanges c

end Fieldwise.Text
