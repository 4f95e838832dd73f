/-!
# Blank text

The characters with the Unicode property `White_Space`, and trimming by them.
-/

namespace PrismaZod.Text

/-- The character has the property `White_Space`. -/
def isBlank (c : Char) : Bool :=
  let code := c.toNat
  (decide (0x09 ≤ code) && decide (code ≤ 0x0D)) || code == 0x20 || code == 0x85 ||
    code == 0xA0 || code == 0x1680 || (decide (0x2000 ≤ code) && decide (code ≤ 0x200A)) ||
    code == 0x2028 || code == 0x2029 || code == 0x202F || code == 0x205F || code == 0x3000

def isBlankText (text : String) : Bool :=
  text.toList.all isBlank

/-- The characters without the blanks before the first and after the last that
is not blank. -/
def trimChars (chars : List Char) : List Char :=
  ((chars.dropWhile isBlank).reverse.dropWhile isBlank).reverse

end PrismaZod.Text
