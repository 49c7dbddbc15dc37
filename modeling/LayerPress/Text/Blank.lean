import LayerPress.Text.CodeRange

/-!
# Blank characters

The characters with the Unicode property White_Space, and the removal of blanks at both ends
of a text.
-/

namespace LayerPress.Text

/-- The code points with the property White_Space. -/
def blanks : CodeRanges := [
  (0x9, 0xd), (0x20, 0x20), (0x85, 0x85), (0xa0, 0xa0), (0x1680, 0x1680), (0x2000, 0x200a),
  (0x2028, 0x2029), (0x202f, 0x202f), (0x205f, 0x205f), (0x3000, 0x3000)]

/-- A character is blank when its code point has the property. -/
def isBlank (c : Char) : Bool :=
  blanks.has c

/-- The text without the blanks it starts and ends with. -/
def trimChars (cs : List Char) : List Char :=
  ((cs.dropWhile isBlank).reverse.dropWhile isBlank).reverse

/-- The text without the blanks it starts and ends with. -/
def trim (s : String) : String :=
  String.ofList (trimChars s.toList)

end LayerPress.Text
