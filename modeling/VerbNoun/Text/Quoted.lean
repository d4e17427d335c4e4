import VerbNoun.Text.Printable
set_option autoImplicit false

/-!
# Text: a text in quotes for a message

A text is put between double quotes with everything escaped that would not show as it is:
double quotes and backslashes, line ends and tabs, characters that are not printable and
marks that would merge with the character before them.
-/

namespace VerbNoun.Text

/-- A character by its code point in hexadecimal. -/
def codePointEscape (c : Char) : List Char :=
  ['\\', 'u', '\x7b'] ++ Nat.toDigits 16 c.toNat ++ ['\x7d']

/-- Whether a mark merges with the character before it.  The two halfwidth sound marks
extend it as well, but take a place of their own. -/
def mergesBefore (c : Char) : Bool := isExtender c && c ≠ '\uff9e' && c ≠ '\uff9f'

/-- How a character stands between quotes. -/
def escapeChar (c : Char) : List Char :=
  if c = '\x00' then ['\\', '0']
  else if c = '\t' then ['\\', 't']
  else if c = '\r' then ['\\', 'r']
  else if c = '\n' then ['\\', 'n']
  else if c = '\\' || c = '"' then ['\\', c]
  else if mergesBefore c || !isPrintable c then codePointEscape c
  else [c]

/-- A text in double quotes. -/
def quote (s : String) : String :=
  String.ofList ('"' :: s.toList.flatMap escapeChar ++ ['"'])

end VerbNoun.Text
