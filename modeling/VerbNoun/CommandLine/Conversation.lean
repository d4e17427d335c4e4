import VerbNoun.Terminal.Session
set_option autoImplicit false

/-!
# CommandLine: the loop of a conversation (SPEC §16)

A conversation asks a reader for one line after the other and runs what it gets, until it is told
to stop or no more lines come.  How a reader makes lines of an input is for the reader to say.
-/

namespace VerbNoun.CommandLine

open Terminal

/-- What comes of asking for a line. -/
inductive Reading where
  | line (text : String)
  /-- The line was given up half-way. -/
  | interrupted
  /-- There is no telling what the line is. -/
  | failed (cause : String)
  /-- The reader broke down, and the program with it. -/
  | broken
  deriving DecidableEq, Repr

/-- How a reader answers when it is asked again and again, up to the end of its input. -/
abbrev LineReader := String → List Reading

/-- How a conversation ends. -/
inductive Ending where
  | endOfInput
  | farewell
  | failed (cause : String)
  | broken
  deriving DecidableEq, Repr

/-- Whether a line ends the conversation. -/
def isFarewell (line : String) : Bool :=
  let word := (Text.trim line).toList.map Char.toLower
  word = "exit".toList || word = "quit".toList

/-- Runs lines as they come, until the conversation ends.  A line that was given up is left out. -/
def converse (s : Session) : List Reading → Reply × Ending
  | [] => (⟨true, [], s⟩, .endOfInput)
  | .interrupted :: rest => converse s rest
  | .failed cause :: _ => (⟨true, [], s⟩, .failed cause)
  | .broken :: _ => (⟨true, [], s⟩, .broken)
  | .line line :: rest =>
    if isFarewell line then (⟨true, [], s⟩, .farewell)
    else
      let first := s.execute line
      let last := converse first.session rest
      (⟨first.succeeded && last.1.succeeded, first.printed ++ last.1.printed, last.1.session⟩,
        last.2)

end VerbNoun.CommandLine
