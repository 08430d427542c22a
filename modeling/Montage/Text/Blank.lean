/-!
# Blanks

Blank characters are those with the Unicode property `White_Space`, and
trimming removes them from the ends of a text.
-/

namespace Montage.Text

/-- A character with the Unicode property `White_Space`. -/
def isBlank (c : Char) : Bool :=
  let n := c.toNat
  (9 ≤ n && n ≤ 13) || n == 0x20 || n == 0x85 || n == 0xa0 || n == 0x1680 ||
    (0x2000 ≤ n && n ≤ 0x200a) || n == 0x2028 || n == 0x2029 || n == 0x202f ||
    n == 0x205f || n == 0x3000

/-- Characters without the leading blanks. -/
def trimLeft (cs : List Char) : List Char := cs.dropWhile isBlank

/-- Characters without the trailing blanks. -/
def trimRight (cs : List Char) : List Char := (cs.reverse.dropWhile isBlank).reverse

/-- Characters without blanks at either end. -/
def trimChars (cs : List Char) : List Char := trimRight (trimLeft cs)

/-- A text without blanks at either end. -/
def trim (text : String) : String := String.ofList (trimChars text.toList)

/-- A text with nothing but blanks in it. -/
def isBlankText (text : String) : Bool := text.toList.all isBlank

end Montage.Text
