set_option autoImplicit false

/-!
# Number: binary floating-point formats (SPEC §11)

A format is fixed by two widths.  Its non-negative finite numbers are counted
upwards from zero by their *rank*: rank `0` is zero, rank `1` the least positive
number, and so on without gaps, first the numbers of the lowest binade one unit
apart, then each binade with twice the spacing of the one below.  Every such
number is a whole count of the least unit, so all of the arithmetic below is done
exactly on natural numbers and rounded once at the end.
-/

namespace VerbNoun.Number

/-- The nearest natural number to `n / d`; a half goes to the even neighbour. -/
def roundHalfEven (n d : Nat) : Nat :=
  let q := n / d
  let r := n % d
  if 2 * r < d then q else if d < 2 * r then q + 1 else q + q % 2

/-- A binary format: how many bits hold the fraction and how many the exponent. -/
structure Format where
  fractionBits : Nat
  exponentBits : Nat
  deriving DecidableEq, Repr

namespace Format

/-- The four-byte format. -/
def binary32 : Format := ⟨23, 8⟩

/-- The eight-byte format. -/
def binary64 : Format := ⟨52, 11⟩

/-- How many numbers a binade holds. -/
def binade (f : Format) : Nat := Nat.pow 2 f.fractionBits

/-- The least positive number is `2 ^ (-scale)`. -/
def scale (f : Format) : Nat := Nat.pow 2 (f.exponentBits - 1) - 2 + f.fractionBits

/-- How many of the least positive number make one. -/
def unitsInOne (f : Format) : Nat := Nat.pow 2 f.scale

/-- How many non-negative finite numbers there are: ranks below this are finite. -/
def finiteCount (f : Format) : Nat := (Nat.pow 2 f.exponentBits - 1) * f.binade

/-- The number of rank `rank`, counted in least units. -/
def units (f : Format) (rank : Nat) : Nat :=
  if rank < f.binade then rank
  else (f.binade + rank % f.binade) * Nat.pow 2 (rank / f.binade - 1)

/-- The rank of the number nearest to `num / den`, a half going to the even rank,
as if there were no largest finite number.

The quotient is taken in least units.  Where it has more bits than a number can
hold, the surplus `k` gives the binade, in which neighbours are `2 ^ k` units apart;
rounding up to the end of a binade lands on the first rank of the next one. -/
def nearestRank (f : Format) (num den : Nat) : Nat :=
  let u := num * f.unitsInOne
  let k := (u / den).log2 - f.fractionBits
  k * f.binade + roundHalfEven u (den * Nat.pow 2 k)

end Format

end VerbNoun.Number
