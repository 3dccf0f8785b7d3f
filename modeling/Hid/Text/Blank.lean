/-!
Blank characters and the trimming of text. The class is the one of white space and
line ends in Unicode text together with the byte-order mark; it holds every character
of the core library's own class.
-/

namespace Hid.Text

/-- White space, line ends and the byte-order mark. -/
def isBlank (c : Char) : Bool :=
  let n := c.toNat
  (0x09 ≤ n && n ≤ 0x0D) || n == 0x20 || n == 0xA0 || n == 0x1680 ||
  (0x2000 ≤ n && n ≤ 0x200A) || n == 0x2028 || n == 0x2029 || n == 0x202F ||
  n == 0x205F || n == 0x3000 || n == 0xFEFF

/-- The text without the blanks at its two ends. -/
def trim (text : List Char) : List Char :=
  ((text.dropWhile isBlank).reverse.dropWhile isBlank).reverse

/-- Lower case for the letters A to Z. Keywords are compared after it; no character
outside that range has a lower-case form among the letters of a keyword. -/
def lower (text : List Char) : List Char := text.map Char.toLower

/-- The keyword that a text spells: trimmed and in lower case. -/
def keyword (text : String) : String := String.ofList (lower (trim text.toList))

/-- Whether a text holds nothing but blanks. -/
def isBlankText (text : String) : Bool := (trim text.toList).isEmpty

end Hid.Text
