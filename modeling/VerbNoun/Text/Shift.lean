set_option autoImplicit false

/-!
# Text: case mappings

A case mapping is held as runs of characters that all move by one offset, beside the
few characters that become several.
-/

namespace VerbNoun.Text

/-- The characters from `first` to `last`, every `step`-th, move by `offset`. -/
structure Shift where
  first : Nat
  last : Nat
  step : Nat
  offset : Int

/-- Whether a code point is one of the run. -/
def Shift.has (s : Shift) (n : Nat) : Bool :=
  s.first ≤ n && n ≤ s.last && (n - s.first) % s.step = 0

/-- The characters that a mapping gives for one; a character it does not name stays. -/
def mapped (shifts : List Shift) (expansions : List (Nat × List Nat)) (c : Char) : List Char :=
  match shifts.find? (·.has c.toNat) with
  | some s => [Char.ofNat (c.toNat + s.offset).toNat]
  | none =>
    match expansions.find? (·.1 = c.toNat) with
    | some (_, cs) => cs.map Char.ofNat
    | none => [c]

end VerbNoun.Text
