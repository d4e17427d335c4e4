import VerbNoun.Reader
import VerbNoun.Text.Letter
import VerbNoun.Text.Numeral
import VerbNoun.Number.Reading
import VerbNoun.Statement.Basic
set_option autoImplicit false

/-!
# Statement: reading the smallest parts (SPEC §4.1)

Identifiers, texts in quotes and numbers, each as long as it goes on.
-/

namespace VerbNoun

open Number Text

/-! ## Identifiers -/

/-- A character that an identifier may begin with. -/
def startsIdentifier (c : Char) : Bool := isLetter c || c = '_'

/-- A character that an identifier may go on with. -/
def continuesIdentifier (c : Char) : Bool :=
  isLetter c || isNumeral c || c = '_' || c = '-'

/-- An identifier, as long as it goes on. -/
def identifier : Reader String
  | [] => none
  | c :: cs =>
    if startsIdentifier c then
      some (String.ofList (c :: cs.takeWhile continuesIdentifier),
        cs.dropWhile continuesIdentifier)
    else none

/-- A variable: a dollar sign and an identifier. -/
def variableName : Reader String := identifier.after '$'

/-- A flag: a dash and an identifier. -/
def flagName : Reader String := identifier.after '-'

/-! ## Texts -/

/-- Whether a character opens and closes a text. -/
def isQuote (c : Char) : Bool := c = '"' || c = '\x27'

/-- A text between two quotes of one sort; nothing inside it is special. -/
def quotedText : Reader String
  | [] => none
  | q :: cs =>
    if isQuote q then
      match cs.dropWhile (· ≠ q) with
      | [] => none
      | _ :: rest => some (String.ofList (cs.takeWhile (· ≠ q)), rest)
    else none

/-! ## Numbers -/

/-- Digits before and after the point of an unsigned number. -/
structure Numerals where
  whole : List Char
  fraction : List Char

/-- Digits with a point and more digits, or either part alone.  A point is read only if
a digit follows it. -/
def numerals : Reader Numerals := fun cs =>
  let whole := cs.takeWhile Char.isDigit
  match cs.dropWhile Char.isDigit with
  | '.' :: d :: rest =>
    if d.isDigit then
      some (⟨whole, d :: rest.takeWhile Char.isDigit⟩, rest.dropWhile Char.isDigit)
    else if whole.isEmpty then none else some (⟨whole, []⟩, '.' :: d :: rest)
  | rest => if whole.isEmpty then none else some (⟨whole, []⟩, rest)

/-- The floating-point number nearest to what the digits write. -/
def Numerals.toDouble (n : Numerals) (negative : Bool) : Double :=
  Binary.ofDecimal .binary64 negative (digitsValue (n.whole ++ n.fraction)) (-n.fraction.length)

/-- A number with or without a sign. -/
def signedNumber : Reader Double
  | '-' :: cs => numerals.map (·.toDouble true) cs
  | '+' :: cs => numerals.map (·.toDouble false) cs
  | cs => numerals.map (·.toDouble false) cs

end VerbNoun
