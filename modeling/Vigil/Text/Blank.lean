/-!
# Blank characters

The characters with the White_Space property, of which core's `Char.isWhitespace` knows four, and
texts with such characters removed from both ends.
-/

set_option autoImplicit false

namespace Vigil.Text

/-- The White_Space property. -/
def isBlank (c : Char) : Bool :=
  let n := c.toNat
  (9 ≤ n && n ≤ 13) || n == 0x20 || n == 0x85 || n == 0xA0 || n == 0x1680 ||
    (0x2000 ≤ n && n ≤ 0x200A) || n == 0x2028 || n == 0x2029 || n == 0x202F ||
    n == 0x205F || n == 0x3000

/-- The characters between the first and the last one that is not blank. -/
def trimChars (s : List Char) : List Char :=
  ((s.dropWhile isBlank).reverse.dropWhile isBlank).reverse

/-- The text without blank characters at its ends. -/
def trim (s : String) : String :=
  String.ofList (trimChars s.toList)

/-- Whether nothing but blank characters occurs. -/
def allBlank (s : String) : Bool :=
  s.toList.all isBlank

end Vigil.Text
