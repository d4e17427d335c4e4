import VerbNoun.Text.Blank
set_option autoImplicit false

/-!
# Reader: reading from the front of a text (SPEC §4.1, §9)

A reader takes characters and gives what it read with the characters that follow, or
nothing if they do not begin with what it reads.
-/

namespace VerbNoun

open Text

/-- Reads from the front of the characters and returns the rest. -/
abbrev Reader (α : Type) := List Char → Option (α × List Char)

namespace Reader

variable {α β : Type}

/-- What `r` reads, changed by `g`. -/
def map (g : α → β) (r : Reader α) : Reader β := fun cs =>
  (r cs).map fun (a, rest) => (g a, rest)

/-- What the first reader reads, else what the second reads from the same place. -/
def orElse (r s : Reader α) : Reader α := fun cs =>
  match r cs with
  | some result => some result
  | none => s cs

/-- Reads as long as `r` reads something, at most so many times. -/
def upTo (r : Reader α) : Nat → List Char → List α × List Char
  | 0, cs => ([], cs)
  | n + 1, cs =>
    match r cs with
    | none => ([], cs)
    | some (a, rest) =>
      let (as, rest') := upTo r n rest
      (a :: as, rest')

/-- Reads as long as `r` reads something.  A reader that takes a character each time cannot
do so more often than there are characters. -/
def many (r : Reader α) (cs : List Char) : List α × List Char := upTo r cs.length cs

/-- Reads after blanks. -/
def spaced (r : Reader α) : Reader α := fun cs => r (skipBlanks cs)

/-- Reads after one given character. -/
def after (mark : Char) (r : Reader α) : Reader α
  | [] => none
  | c :: cs => if c = mark then r cs else none

end Reader

end VerbNoun
