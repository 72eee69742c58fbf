/-!
# Blank characters

A field counts as missing when nothing but blank characters stand in it, and several settings are read
with the blanks around them removed. A character is blank when it has the Unicode property White_Space:
25 characters in 10 ranges, stable since Unicode 6.3. The ASCII sets that single formats use (JSON,
header values) are kept where those formats are.
-/

set_option autoImplicit false

namespace Phrasebook.Text

/-- The code points with the property White_Space, as closed ranges, ascending and apart. -/
def blankRanges : List (Nat × Nat) :=
  [(0x09, 0x0D), (0x20, 0x20), (0x85, 0x85), (0xA0, 0xA0), (0x1680, 0x1680), (0x2000, 0x200A),
   (0x2028, 0x2029), (0x202F, 0x202F), (0x205F, 0x205F), (0x3000, 0x3000)]

/-- Whether the character is white space. -/
def isBlank (c : Char) : Bool := blankRanges.any fun r => r.1 ≤ c.toNat && c.toNat ≤ r.2

/-- Removes the characters with the property `p` from both ends. -/
def trimWhile (p : Char → Bool) (l : List Char) : List Char :=
  ((l.dropWhile p).reverse.dropWhile p).reverse

/-- The text without the white space around it. -/
def trim (s : String) : String := String.ofList (trimWhile isBlank s.toList)

/-- Whether the text consists of white space only. -/
def isBlankText (s : String) : Bool := s.toList.all isBlank

end Phrasebook.Text
