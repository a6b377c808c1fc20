import SqlSharding.Text.CodePoints

/-!
# Blank characters

The Unicode property `White_Space`, and the trimming of texts by it.
-/

namespace SqlSharding.Text

/-- The blank characters, as ascending inclusive ranges of code points. -/
def blankRanges : List (Nat × Nat) := [
  (0x0009, 0x000D), (0x0020, 0x0020), (0x0085, 0x0085), (0x00A0, 0x00A0), (0x1680, 0x1680),
  (0x2000, 0x200A), (0x2028, 0x2029), (0x202F, 0x202F), (0x205F, 0x205F), (0x3000, 0x3000)]

/-- Whether a character is blank. -/
def isBlank (c : Char) : Bool :=
  CodePoints.covers blankRanges c

/-- The characters without the blank ones at either end. -/
def trimChars (characters : List Char) : List Char :=
  ((characters.dropWhile isBlank).reverse.dropWhile isBlank).reverse

/-- The text without the blank characters at either end. -/
def trim (text : String) : String :=
  String.ofList (trimChars text.toList)

end SqlSharding.Text
