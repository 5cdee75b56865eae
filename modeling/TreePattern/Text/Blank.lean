/-!
# Blank characters

The characters with the Unicode property White_Space: tab to carriage return, the space, next line,
no-break space, the Ogham space mark, the quads and spaces from U+2000 to U+200A, the line and
paragraph separators, the narrow and the mathematical space, and the ideographic space. A text is
blank when it has no other characters.
-/

namespace TreePattern

/-- Whether a character has the property White_Space. -/
def isBlank (c : Char) : Bool :=
  let n := c.toNat
  (0x9 ≤ n && n ≤ 0xD) || n == 0x20 || n == 0x85 || n == 0xA0 || n == 0x1680 ||
    (0x2000 ≤ n && n ≤ 0x200A) || n == 0x2028 || n == 0x2029 || n == 0x202F || n == 0x205F ||
    n == 0x3000

/-- Whether a text has no characters but blank ones. -/
def isBlankText (text : List Char) : Bool := text.all isBlank

end TreePattern
