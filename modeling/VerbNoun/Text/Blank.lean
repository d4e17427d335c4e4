import VerbNoun.Text.Ranges
set_option autoImplicit false

/-!
# Text: blanks (SPEC §4.1)

The characters that separate words: the White_Space property, in which every line
ending is a blank as well.
-/

namespace VerbNoun.Text

/-- The blank characters. -/
def blankRanges : Ranges :=
  [(0x0009, 0x000D), (0x0020, 0x0020), (0x0085, 0x0085), (0x00A0, 0x00A0), (0x1680, 0x1680),
   (0x2000, 0x200A), (0x2028, 0x2029), (0x202F, 0x202F), (0x205F, 0x205F), (0x3000, 0x3000)]

/-- A blank character. -/
def isBlank (c : Char) : Bool := covers blankRanges c.toNat

/-- The characters from the first that is not blank on. -/
def skipBlanks (cs : List Char) : List Char := cs.dropWhile isBlank

/-- The characters up to the last that is not blank. -/
def trimEnd (cs : List Char) : List Char := (cs.reverse.dropWhile isBlank).reverse

/-- The text without blanks at its ends. -/
def trim (s : String) : String := String.ofList (trimEnd (skipBlanks s.toList))

/-- Whether a text has no character but blanks. -/
def isAllBlank (s : String) : Bool := s.toList.all isBlank

end VerbNoun.Text
