import SharedTables.Text.CodeRange

/-!
# Blank characters

`isBlank` is the Unicode notion of white space together with the four ASCII separators
U+001C to U+001F.  `trim` cuts blanks off both ends of a text.
-/

namespace SharedTables.Text

/-- The code points of blank characters. -/
def blankRanges : List CodeRange :=
  [
    (0x9, 0xd), (0x1c, 0x20), (0x85, 0x85), (0xa0, 0xa0), (0x1680, 0x1680), (0x2000, 0x200a),
    (0x2028, 0x2029), (0x202f, 0x202f), (0x205f, 0x205f), (0x3000, 0x3000)]

/-- White space in the sense of Unicode, and the ASCII separators. -/
def isBlank (c : Char) : Bool :=
  CodeRange.covers blankRanges c

/-- The text without the blanks at its two ends. -/
def trim (cs : List Char) : List Char :=
  ((cs.dropWhile isBlank).reverse.dropWhile isBlank).reverse

end SharedTables.Text
