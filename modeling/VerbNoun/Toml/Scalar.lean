import VerbNoun.Toml.Node
import VerbNoun.Toml.Text
import VerbNoun.Number.Reading
set_option autoImplicit false

/-!
# Toml: numbers, truth values and dates (SPEC §17)

A scalar without quotes is a run of letters, digits and a few signs; its form decides what
it is.
-/

namespace VerbNoun.Toml

open Number

/-- A character of a scalar without quotes. -/
def isScalar (c : Char) : Bool :=
  c.isAlphanum || c = '_' || c = '+' || c = '-' || c = '.' || c = ':'

/-- The digits of a number with single underscores only between digits. -/
def groupedDigits? (isDigit : Char → Bool) : List Char → Option (List Char)
  | [] => none
  | [d] => if isDigit d then some [d] else none
  | d :: '_' :: rest =>
    if isDigit d then (groupedDigits? isDigit rest).map (d :: ·) else none
  | d :: rest => if isDigit d then (groupedDigits? isDigit rest).map (d :: ·) else none

/-- Decimal digits without a zero in front of others. -/
def decimal? (cs : List Char) : Option (List Char) :=
  match groupedDigits? Char.isDigit cs with
  | some ('0' :: _ :: _) => none
  | ds => ds

/-- The digits of a base after its mark. -/
def based? (base : Nat) (cs : List Char) : Option Nat :=
  let isDigit (c : Char) : Bool := (hexValue? c).any (· < base)
  (groupedDigits? isDigit cs).map fun ds =>
    (ds.filterMap hexValue?).foldl (fun n v => base * n + v) 0

/-- An integer in decimal, or in another base without a sign. -/
def integer? (cs : List Char) : Option Int :=
  match cs with
  | '0' :: 'x' :: ds => (based? 16 ds).map Int.ofNat
  | '0' :: 'o' :: ds => (based? 8 ds).map Int.ofNat
  | '0' :: 'b' :: ds => (based? 2 ds).map Int.ofNat
  | _ =>
    let (negative, ds) := takeSign cs
    (decimal? ds).map fun ds => signed negative (digitsValue ds)

/-- Whether an integer can be held in sixteen bytes. -/
def isHeld (n : Int) : Bool :=
  -170141183460469231731687303715884105728 ≤ n
    && n ≤ 340282366920938463463374607431768211455

/-- The power of ten after its mark. -/
def power? (cs : List Char) : Option Int :=
  let (negative, ds) := takeSign cs
  (groupedDigits? Char.isDigit ds).map fun ds => signed negative (digitsValue ds)

/-- A number with a fraction or an exponent, or a word for one that is not finite. -/
def float? (cs : List Char) : Option Double :=
  let (negative, ds) := takeSign cs
  if ds = "inf".toList then some (.infinite negative)
  else if ds = "nan".toList then some .nan
  else
    let isMark (c : Char) : Bool := c = 'e' || c = 'E'
    let mantissa := ds.takeWhile fun c => !isMark c
    let power := match ds.dropWhile fun c => !isMark c with
      | [] => some 0
      | _ :: rest => power? rest
    let whole := mantissa.takeWhile (· ≠ '.')
    let fraction := match mantissa.dropWhile (· ≠ '.') with
      | [] => if mantissa.length = ds.length then none else some []
      | _ :: rest => groupedDigits? Char.isDigit rest
    match decimal? whole, fraction, power with
    | some w, some f, some p =>
      some (Binary.ofDecimal .binary64 negative (digitsValue (w ++ f)) (p - f.length))
    | _, _, _ => none

/-! ## Dates and times -/

/-- The number of exactly `width` decimal digits. -/
def fixedDigits? (width : Nat) (cs : List Char) : Option Nat :=
  if cs.length = width && cs.all Char.isDigit then some (digitsValue cs) else none

/-- How many days a month has. -/
def daysIn (year month : Nat) : Nat :=
  if month = 2 then
    if year % 4 = 0 && (year % 100 ≠ 0 || year % 400 = 0) then 29 else 28
  else if month = 4 || month = 6 || month = 9 || month = 11 then 30 else 31

/-- Whether the characters write a day of the calendar. -/
def isDate (cs : List Char) : Bool :=
  match fixedDigits? 4 (cs.take 4), cs.drop 4 with
  | some year, '-' :: m₁ :: m₂ :: '-' :: day =>
    match fixedDigits? 2 [m₁, m₂], fixedDigits? 2 day with
    | some month, some day =>
      1 ≤ month && month ≤ 12 && 1 ≤ day && day ≤ daysIn year month
    | _, _ => false
  | _, _ => false

/-- Whether the characters write hours and minutes. -/
def isHourMinute (h₁ h₂ m₁ m₂ : Char) : Bool :=
  match fixedDigits? 2 [h₁, h₂], fixedDigits? 2 [m₁, m₂] with
  | some hour, some minute => hour ≤ 23 && minute ≤ 59
  | _, _ => false

/-- Whether the characters write a time of day; seconds may be left out, and may have a
fraction. -/
def isTime : List Char → Bool
  | h₁ :: h₂ :: ':' :: m₁ :: m₂ :: [] => isHourMinute h₁ h₂ m₁ m₂
  | h₁ :: h₂ :: ':' :: m₁ :: m₂ :: ':' :: s₁ :: s₂ :: rest =>
    let second := (fixedDigits? 2 [s₁, s₂]).any (· ≤ 60)
    let fraction := match rest with
      | [] => true
      | '.' :: ds => !ds.isEmpty && ds.all Char.isDigit
      | _ => false
    isHourMinute h₁ h₂ m₁ m₂ && second && fraction
  | _ => false

/-- Whether the characters write an offset from universal time. -/
def isOffset : List Char → Bool
  | [z] => z = 'Z' || z = 'z'
  | sign :: h₁ :: h₂ :: ':' :: m₁ :: m₂ :: [] =>
    (sign = '+' || sign = '-') && isHourMinute h₁ h₂ m₁ m₂
  | _ => false

/-- Whether the characters write a time with an offset or without. -/
def isTimeAndOffset (cs : List Char) : Bool :=
  let isTimeChar (c : Char) : Bool := c.isDigit || c = ':' || c = '.'
  isTime (cs.takeWhile isTimeChar)
    && (cs.all isTimeChar || isOffset (cs.dropWhile isTimeChar))

/-- Whether the characters write a date, a time, or a date and a time. -/
def isMoment (cs : List Char) : Bool :=
  isDate cs || isTime cs
    || (isDate (cs.take 10)
      && match cs.drop 10 with
        | mark :: rest => (mark = 'T' || mark = 't' || mark = ' ') && isTimeAndOffset rest
        | [] => false)

/-- The characters of a scalar.  After a date, a blank and a digit a time follows. -/
def scalarText : Reader (List Char) := fun cs =>
  let first := cs.takeWhile isScalar
  match cs.dropWhile isScalar with
  | ' ' :: d :: rest =>
    if isDate first && d.isDigit then
      some (first ++ ' ' :: (d :: rest).takeWhile isScalar, (d :: rest).dropWhile isScalar)
    else some (first, ' ' :: d :: rest)
  | rest => some (first, rest)

/-- Whether a number is finite, or written as the word for an infinite one. -/
def isInRange (cs : List Char) : Double → Bool
  | .infinite _ => (takeSign cs).2 = "inf".toList
  | _ => true

/-- The value that the characters of a scalar write. -/
def scalarValue? (cs : List Char) : Option Node :=
  if cs = "true".toList then some (.boolean true)
  else if cs = "false".toList then some (.boolean false)
  else if isMoment cs then some .moment
  else
    match integer? cs with
    | some n => some (.number (isHeld n))
    | none => (float? cs).map fun x => .number (isInRange cs x)

/-- A scalar without quotes. -/
def scalar : Reader Node := fun cs =>
  match scalarText cs with
  | none => none
  | some (text, rest) => (scalarValue? text).map fun v => (v, rest)

end VerbNoun.Toml
