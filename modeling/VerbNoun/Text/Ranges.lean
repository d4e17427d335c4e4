set_option autoImplicit false

/-!
# Text: sets of code points

A property of characters is held as the list of its maximal ranges of code points, in
ascending order.
-/

namespace VerbNoun.Text

/-- Ranges of code points, ends included, in ascending order. -/
abbrev Ranges := List (Nat × Nat)

/-- Whether a code point lies in one of the ranges. -/
def covers : Ranges → Nat → Bool
  | [], _ => false
  | (first, last) :: rest, n => if n < first then false else n ≤ last || covers rest n

end VerbNoun.Text
