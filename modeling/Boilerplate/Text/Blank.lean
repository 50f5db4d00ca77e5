/-!
# Blank characters

The characters that separate words are those to which Unicode gives the property `White_Space`.
This is more than the blanks of ASCII: a no-break space or an ideographic space separates words
too, while a zero-width space does not.

## Main definitions

* `Text.isBlank` — the property, read off a table of code point ranges
* `Text.trim` — a text without the blanks at its two ends
-/

namespace Boilerplate.Text

/-- The ranges of code points, ends included, that have the property `White_Space`. -/
def blankRanges : List (Nat × Nat) :=
  [(0x0009, 0x000d), (0x0020, 0x0020), (0x0085, 0x0085), (0x00a0, 0x00a0), (0x1680, 0x1680),
    (0x2000, 0x200a), (0x2028, 0x2029), (0x202f, 0x202f), (0x205f, 0x205f), (0x3000, 0x3000)]

/-- A blank separates words and may be trimmed off the ends of a text. -/
def isBlank (c : Char) : Bool :=
  blankRanges.any fun range => range.1 ≤ c.toNat && c.toNat ≤ range.2

/-- A list of characters without the blanks at its two ends. -/
def trimmed (cs : List Char) : List Char :=
  ((cs.dropWhile isBlank).reverse.dropWhile isBlank).reverse

/-- A text without the blanks at its two ends. -/
def trim (s : String) : String := String.ofList (trimmed s.toList)

end Boilerplate.Text
