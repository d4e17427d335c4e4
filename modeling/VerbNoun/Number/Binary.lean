import VerbNoun.Number.Format
set_option autoImplicit false

/-!
# Number: binary floating-point numbers (SPEC §11)

A number of a format is not-a-number, an infinity or a finite number with a sign
and a rank; zero has both signs.  Each operation takes the exact result and rounds
it once, to nearest with halves to even, and too large a result is an infinity.
-/

namespace VerbNoun.Number

/-- A binary floating-point number of format `f`. -/
inductive Binary (f : Format) where
  | nan
  | infinite (negative : Bool)
  | finite (negative : Bool) (rank : Fin f.finiteCount)
  deriving DecidableEq, Repr

/-- Numbers of the eight-byte format. -/
abbrev Double := Binary .binary64

/-- The integer with this sign and absolute value. -/
def signed (negative : Bool) (n : Nat) : Int := if negative then -(n : Int) else n

namespace Binary

variable {f g : Format}

/-- The number nearest to `num / den` with the given sign; beyond the largest finite
number by half a step or more it is the infinity. -/
def nearest (f : Format) (negative : Bool) (num den : Nat) : Binary f :=
  if h : f.nearestRank num den < f.finiteCount then .finite negative ⟨_, h⟩
  else .infinite negative

/-- The number nearest to an integer. -/
def ofInt (f : Format) (n : Int) : Binary f := nearest f (decide (n < 0)) n.natAbs 1

/-- The number nearest to `digits * 10 ^ exponent` with the given sign.

The power of ten is only formed where it can matter.  From `10 ^ scale` on every number is
too large.  An exponent that outweighs the scale and the binary digits of `digits` leaves
less than half of the least positive number. -/
def ofDecimal (f : Format) (negative : Bool) (digits : Nat) (exponent : Int) : Binary f :=
  if digits = 0 || exponent + f.scale + digits.log2 + 2 ≤ 0 then nearest f negative 0 1
  else if f.scale ≤ exponent then .infinite negative
  else nearest f negative (digits * Nat.pow 10 exponent.toNat) (Nat.pow 10 (-exponent).toNat)

/-- The number of format `g` nearest to a number of format `f`. -/
def convert (g : Format) : Binary f → Binary g
  | .nan => .nan
  | .infinite negative => .infinite negative
  | .finite negative rank => nearest g negative (f.units rank) f.unitsInOne

/-! ## Integers -/

/-- Whether a number is neither not-a-number nor an infinity. -/
def isFinite : Binary f → Bool
  | .nan => false
  | .infinite _ => false
  | .finite _ _ => true

/-- Whether the absolute value of a number is below that of another. -/
def absLess : Binary f → Binary f → Bool
  | .finite _ m, .finite _ n => f.units m < f.units n
  | .finite _ _, .infinite _ => true
  | _, _ => false

/-- The integral number nearest to a number, a half going to the even one. -/
def rounded : Binary f → Binary f
  | .nan => .nan
  | .infinite negative => .infinite negative
  | .finite negative rank => nearest f negative (roundHalfEven (f.units rank) f.unitsInOne) 1

/-- The least integer of sixteen bytes. -/
def wideLeast : Int := -170141183460469231731687303715884105728

/-- The greatest integer of sixteen bytes. -/
def wideGreatest : Int := 170141183460469231731687303715884105727

/-- The integer of sixteen bytes that a number is cut to: the part before the point, outside
the range the end that is nearer, and zero for not-a-number. -/
def toWide : Binary f → Int
  | .nan => 0
  | .infinite negative => if negative then wideLeast else wideGreatest
  | .finite negative rank =>
    let n := signed negative (f.units rank / f.unitsInOne)
    if n < wideLeast then wideLeast else if wideGreatest < n then wideGreatest else n

/-- Numbers from here on are not taken as integers. -/
def wideBound : Double := ofDecimal .binary64 false 1 38

/-- Whether a number is finite and below the bound. -/
def isBelowWideBound (x : Double) : Bool := x.isFinite && x.absLess wideBound

/-- The integer nearest to a number, a half going to the even one, if it is below the bound
up to which sixteen bytes are enough. -/
def toInt? (x : Double) : Option Int :=
  if x.rounded.isBelowWideBound then some x.rounded.toWide else none

/-! ## Arithmetic -/

/-- The same number with the other sign. -/
def neg : Binary f → Binary f
  | .nan => .nan
  | .infinite negative => .infinite !negative
  | .finite negative rank => .finite (!negative) rank

/-- The sum; a sum of zero is negative only if both summands are. -/
def add : Binary f → Binary f → Binary f
  | .nan, _ => .nan
  | _, .nan => .nan
  | .infinite s, .infinite t => if s = t then .infinite s else .nan
  | .infinite s, .finite _ _ => .infinite s
  | .finite _ _, .infinite t => .infinite t
  | .finite s m, .finite t n =>
    let total := signed s (f.units m) + signed t (f.units n)
    nearest f (if total = 0 then s && t else decide (total < 0)) total.natAbs f.unitsInOne

/-- The difference. -/
def sub (x y : Binary f) : Binary f := x.add y.neg

/-- The product; zero times infinity is not a number. -/
def mul : Binary f → Binary f → Binary f
  | .nan, _ => .nan
  | _, .nan => .nan
  | .infinite s, .infinite t => .infinite (s ^^ t)
  | .infinite s, .finite t n => if f.units n = 0 then .nan else .infinite (s ^^ t)
  | .finite s m, .infinite t => if f.units m = 0 then .nan else .infinite (s ^^ t)
  | .finite s m, .finite t n => nearest f (s ^^ t) (f.units m * f.units n)
      (f.unitsInOne * f.unitsInOne)

/-- The quotient; dividing by zero gives an infinity, except zero by zero. -/
def div : Binary f → Binary f → Binary f
  | .nan, _ => .nan
  | _, .nan => .nan
  | .infinite _, .infinite _ => .nan
  | .infinite s, .finite t _ => .infinite (s ^^ t)
  | .finite s _, .infinite t => nearest f (s ^^ t) 0 1
  | .finite s m, .finite t n =>
    if f.units n = 0 then
      if f.units m = 0 then .nan else .infinite (s ^^ t)
    else nearest f (s ^^ t) (f.units m) (f.units n)

end Binary

end VerbNoun.Number
