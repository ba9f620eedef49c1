/-!
# Words between blanks

A class of characters is given by the closed ranges that hold their code points. The blanks are
the characters with the Unicode property White_Space. A value read from the environment is
compared without the blanks at its two ends, and without regard to the case of the ASCII letters.
-/

namespace DurableRefs.Text

/-! ### Ranges of code points -/

/-- Closed ranges of code points. -/
abbrev Ranges := List (Nat × Nat)

/-- Whether one of the ranges holds the code point of a character. -/
def Ranges.holds (ranges : Ranges) (c : Char) : Bool :=
  ranges.any fun range => range.1 ≤ c.toNat && c.toNat ≤ range.2

/-! ### Blanks -/

/-- The code points with the property White_Space, as closed ranges in increasing order. -/
def blankRanges : Ranges :=
  [(0x09, 0x0D), (0x20, 0x20), (0x85, 0x85), (0xA0, 0xA0), (0x1680, 0x1680), (0x2000, 0x200A),
    (0x2028, 0x2029), (0x202F, 0x202F), (0x205F, 0x205F), (0x3000, 0x3000)]

/-- A character is blank when one of the ranges holds its code point. -/
def isBlank (c : Char) : Bool :=
  blankRanges.holds c

/-- A list of characters without the blanks at its end. -/
def trimEnd (cs : List Char) : List Char :=
  (cs.reverse.dropWhile isBlank).reverse

/-- A list of characters without the blanks at its two ends. -/
def trimChars (cs : List Char) : List Char :=
  trimEnd (cs.dropWhile isBlank)

/-- A text without the blanks at its two ends. -/
def trim (s : String) : String :=
  String.ofList (trimChars s.toList)

/-! ### Letter case -/

/-- A text with every ASCII capital letter in its small form. -/
def foldCase (s : String) : String :=
  String.ofList (s.toList.map Char.toLower)

end DurableRefs.Text
