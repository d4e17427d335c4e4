import VerbNoun.Number.Binary
set_option autoImplicit false

/-!
# Number: the shortest decimal text (SPEC §11)

A number is written with the fewest decimal digits that read back to it.  The exact
value and the middles between it and its two neighbours are natural numbers when
counted in units of `10 ^ (-scale)`, so the search for the coarsest power of ten with
a multiple in the interval needs no approximation.
-/

namespace VerbNoun.Number

/-- Decimal digits and a power of ten: the number `digits * 10 ^ power`. -/
structure Decimal where
  digits : Nat
  power : Int
  deriving DecidableEq, Repr

namespace Decimal

/-- The text without an exponent: zeros fill up to the point, and no point stands
after a whole number. -/
def render (d : Decimal) : String :=
  let ds := Nat.toDigits 10 d.digits
  if 0 ≤ d.power then String.ofList (ds ++ List.replicate d.power.toNat '0')
  else
    let places := (-d.power).toNat
    let padded := List.replicate (places + 1 - ds.length) '0' ++ ds
    let whole := padded.length - places
    String.ofList (padded.take whole ++ '.' :: padded.drop whole)

end Decimal

namespace Format

/-- The exact value of a rank in units of `10 ^ (-scale)`. -/
def tenths (f : Format) (rank : Nat) : Nat := f.units rank * Nat.pow 5 f.scale

/-- Whether the multiple `c` of `10 ^ n` reads back to `rank`: it lies between the
middles towards the neighbours, the middles included for an even rank. -/
def readsBack (f : Format) (rank c n : Nat) : Bool :=
  let low := f.tenths (rank - 1) + f.tenths rank
  let high := f.tenths rank + f.tenths (rank + 1)
  let x := 2 * (c * Nat.pow 10 n)
  if rank % 2 = 0 then low ≤ x && x ≤ high else low < x && x < high

/-- The multiple of `10 ^ n` that stands for `rank`, if one of the two around its value
reads back; of two that do, the nearer, and the upper one at equal distance. -/
def multiple? (f : Format) (rank n : Nat) : Option Nat :=
  let value := f.tenths rank
  let step := Nat.pow 10 n
  let below := value / step
  let rest := value % step
  match f.readsBack rank below n, f.readsBack rank (below + 1) n with
  | true, true => some (if 2 * rest < step then below else below + 1)
  | true, false => some below
  | false, true => some (below + 1)
  | false, false => none

/-- The coarsest multiple at `10 ^ n` or below.  At `10 ^ 0` the value itself is one. -/
def coarsest (f : Format) (rank : Nat) : Nat → Nat × Nat
  | 0 => (f.tenths rank, 0)
  | n + 1 =>
    match f.multiple? rank (n + 1) with
    | some c => (c, n + 1)
    | none => coarsest f rank n

/-- The shortest decimal that reads back to the number of a positive rank.  The search
starts at a power of ten above the value. -/
def shortest (f : Format) (rank : Nat) : Decimal :=
  let (c, n) := f.coarsest rank ((f.tenths rank).log2 * 302 / 1000 + 1)
  ⟨c, n - f.scale⟩

end Format

/-- The text of a number: the shortest digits that read back, never an exponent, with
the sign kept on zero and dropped from not-a-number. -/
def Binary.render {f : Format} : Binary f → String
  | .nan => "NaN"
  | .infinite negative => if negative then "-inf" else "inf"
  | .finite negative rank =>
    let text := if rank.val = 0 then "0" else (f.shortest rank).render
    if negative then "-" ++ text else text

end VerbNoun.Number
