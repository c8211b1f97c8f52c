/-!
# Blank — the characters that separate words

A blank is a character that a reader of numbers skips at both ends of a text.  The words of a table have the four
separators of the ASCII range between them too.
-/
namespace Regrid.Text

/-- **A character is blank**: the space, what moves a line or a page, and the space characters of Unicode. -/
def isBlank (c : Char) : Bool :=
  let n := c.toNat
  (0x9 ≤ n && n ≤ 0xd) || n == 0x20 || n == 0x85 || n == 0xa0 || n == 0x1680
    || (0x2000 ≤ n && n ≤ 0x200a) || n == 0x2028 || n == 0x2029 || n == 0x202f || n == 0x205f || n == 0x3000

/-- **A character separates words**: a blank, or one of the four separators. -/
def isSeparator (c : Char) : Bool := isBlank c || (0x1c ≤ c.toNat && c.toNat ≤ 0x1f)

/-- **A text without the blanks at its ends.** -/
def trim (cs : List Char) : List Char := ((cs.dropWhile isBlank).reverse.dropWhile isBlank).reverse

end Regrid.Text
