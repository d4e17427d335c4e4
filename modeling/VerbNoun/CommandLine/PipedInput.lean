import VerbNoun.CommandLine.Conversation
import VerbNoun.Terminal.Typing
set_option autoImplicit false

/-!
# CommandLine: lines of an input that is not a terminal (SPEC §16)

The reader that the program uses.  An input is cut at its line ends, and each line is taken as it
was typed.
-/

namespace VerbNoun.CommandLine

open Terminal

/-- The lines of a text.  A carriage return before a line end belongs to it, and a last line
needs none. -/
def inputLines : List Char → List (List Char)
  | [] => []
  | '\n' :: rest => [] :: inputLines rest
  | '\r' :: '\n' :: rest => [] :: inputLines rest
  | c :: rest =>
    match inputLines rest with
    | [] => [[c]]
    | first :: others => (c :: first) :: others

/-- What comes of a line of the input. -/
def readTyped (line : List Char) : Reading :=
  match typed? line with
  | some cs => .line (String.ofList cs)
  | none => .broken

/-- The lines of an input that is not a terminal. -/
def readPiped : LineReader := fun input => (inputLines input.toList).map readTyped

end VerbNoun.CommandLine
