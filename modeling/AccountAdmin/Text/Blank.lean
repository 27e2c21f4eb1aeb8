/-!
# Blank characters

Words of a shell line and the text of a user id are delimited by *blank* characters.  Blank
means the Unicode property `White_Space`, which has twenty-five members; core's
`Char.isWhitespace` knows six of them, so the property is listed here.

* `isBlank`: membership in the property, as a Boolean.
* `trim`: a text without its leading and trailing blanks.
-/

namespace AccountAdmin.Text

/-- The characters with the Unicode property `White_Space`. -/
def isBlank (c : Char) : Bool :=
  let n := c.toNat
  (0x09 ≤ n && n ≤ 0x0D) || n == 0x20 || n == 0x85 || n == 0xA0 || n == 0x1680 ||
    (0x2000 ≤ n && n ≤ 0x200A) || n == 0x2028 || n == 0x2029 || n == 0x202F || n == 0x205F ||
    n == 0x3000

/-- The text from its first character that is not blank on. -/
def trimLeft (s : List Char) : List Char := s.dropWhile isBlank

/-- The text up to its last character that is not blank. -/
def trimRight (s : List Char) : List Char := (s.reverse.dropWhile isBlank).reverse

/-- The text without its leading and trailing blanks. -/
def trim (s : List Char) : List Char := trimRight (trimLeft s)

end AccountAdmin.Text
