import VerbNoun.Text.Cluster
set_option autoImplicit false

/-!
# Terminal: lines as they are typed (SPEC §16)

A backspace in a line takes back what was typed before it: the latest cluster that has not
been taken back yet.  What is taken back is measured in bytes, and the measure of a cluster
is kept in one byte; a long cluster may therefore be cut within a character, and then there
is no line.
-/

namespace VerbNoun.Terminal

/-- The character that takes back another. -/
def backspace : Char := '\x08'

/-- How many bytes characters take. -/
def byteCount : List Char → Nat
  | [] => 0
  | c :: cs => c.utf8Size + byteCount cs

/-- Characters without the first so many bytes, if these are bytes of whole characters. -/
def dropBytes? : Nat → List Char → Option (List Char)
  | 0, cs => some cs
  | _ + 1, [] => none
  | n + 1, c :: cs => if c.utf8Size ≤ n + 1 then dropBytes? (n + 1 - c.utf8Size) cs else none

/-- A line that is being typed. -/
structure Typing where
  /-- Its characters, the latest first. -/
  characters : List Char := []
  /-- The measures of its clusters, the latest first. -/
  measures : List UInt8 := []

namespace Typing

/-- Takes back the latest cluster, if its measure is that of whole characters. -/
def takeBack? (t : Typing) : Option Typing :=
  match t.measures with
  | [] => some t
  | n :: measures => (dropBytes? n.toNat t.characters).map (⟨·, measures⟩)

/-- Enters a cluster. -/
def enter? (t : Typing) (cluster : List Char) : Option Typing :=
  if cluster = [backspace] then t.takeBack?
  else some ⟨cluster.reverse ++ t.characters, (byteCount cluster).toUInt8 :: t.measures⟩

/-- Enters clusters in order. -/
def enterAll? (t : Typing) : List (List Char) → Option Typing
  | [] => some t
  | cluster :: rest => (t.enter? cluster).bind (·.enterAll? rest)

end Typing

/-- The line that is left after its backspaces, if each of them takes back whole characters. -/
def typed? (line : List Char) : Option (List Char) :=
  (Typing.enterAll? {} (Text.clusters line)).map (·.characters.reverse)

end VerbNoun.Terminal
