import VerbNoun.Number.Binary
set_option autoImplicit false

/-!
# Number: reading decimal text (SPEC §4.1)

The decimal notations of a number: digits with or without a point, a sign and an exponent,
and the words for the infinities and for not-a-number, in any case.  The number nearest to
what is written is read, so the text that a number is written as reads back to it.
-/

namespace VerbNoun.Number

/-- The natural number that decimal digits write. -/
def digitsValue (ds : List Char) : Nat :=
  ds.foldl (fun n d => 10 * n + (d.toNat - '0'.toNat)) 0

/-- Splits a sign off the front: whether it is a minus, and the rest. -/
def takeSign : List Char → Bool × List Char
  | '-' :: cs => (true, cs)
  | '+' :: cs => (false, cs)
  | cs => (false, cs)

/-- The integer that a text writes in decimal, with or without a sign. -/
def integerOfText? (text : String) : Option Int :=
  let (negative, ds) := takeSign text.toList
  if !ds.isEmpty && ds.all Char.isDigit then some (signed negative (digitsValue ds)) else none

/-- The exponent after the digits: nothing, or a mark and a number. -/
def exponent? : List Char → Option Int
  | [] => some 0
  | mark :: cs => if mark = 'e' || mark = 'E' then integerOfText? (String.ofList cs) else none

/-- The number that a text writes, rounded to the format. -/
def Binary.ofText? (f : Format) (text : String) : Option (Binary f) :=
  let (negative, cs) := takeSign text.toList
  let word := cs.map Char.toLower
  if word = "nan".toList then some .nan
  else if word = "inf".toList || word = "infinity".toList then some (.infinite negative)
  else
    let whole := cs.takeWhile Char.isDigit
    let (fraction, rest) :=
      match cs.dropWhile Char.isDigit with
      | '.' :: ds => (ds.takeWhile Char.isDigit, ds.dropWhile Char.isDigit)
      | rest => ([], rest)
    if whole.isEmpty && fraction.isEmpty then none
    else
      (exponent? rest).map fun e =>
        ofDecimal f negative (digitsValue (whole ++ fraction)) (e - fraction.length)

end VerbNoun.Number
