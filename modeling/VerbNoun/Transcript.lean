import VerbNoun.Terminal.Style
set_option autoImplicit false

/-!
# Transcript: the record of a session (SPEC §19)

A transcript holds each line of a session with what was printed for it and whether it
failed, and can be written out as a log.
-/

namespace VerbNoun

/-- A line with what was printed for it. -/
structure Entry where
  input : String
  output : List String := []
  failed : Bool := false
  deriving DecidableEq, Repr

/-- When a transcript is written out. -/
inductive Strategy where
  | always
  | errorOnly
  | never
  deriving DecidableEq, Repr

/-- The texts of the times in a log. -/
structure Times where
  started : String
  duration : String
  ended : String

/-- The entries of a session, oldest first. -/
structure Transcript where
  entries : List Entry := []
  deriving DecidableEq, Repr

namespace Transcript

/-- Changes the latest entry, if there is one. -/
def mapLast (change : Entry → Entry) : List Entry → List Entry
  | [] => []
  | [e] => [change e]
  | e :: es => e :: mapLast change es

/-- A new line. -/
def begin (t : Transcript) (input : String) : Transcript := ⟨t.entries ++ [{ input := input }]⟩

/-- Something printed for the current line; before the first line it is dropped. -/
def record (t : Transcript) (line : String) : Transcript :=
  ⟨mapLast (fun e => { e with output := e.output ++ [line] }) t.entries⟩

/-- The end of the current line. -/
def finish (t : Transcript) (failed : Bool) : Transcript :=
  ⟨mapLast (fun e => { e with failed }) t.entries⟩

/-- How many lines failed. -/
def failures (t : Transcript) : Nat := t.entries.countP (·.failed)

/-- Whether the transcript is to be written out. -/
def isDue (t : Transcript) : Strategy → Bool
  | .always => true
  | .errorOnly => t.failures ≠ 0
  | .never => false

/-- An entry in a log: the line after a mark, then what was printed. -/
def entryText (e : Entry) : String :=
  "> " ++ e.input ++ "\n" ++ String.join (e.output.map (· ++ "\n"))

/-- The part of a log between its header and its footer. -/
def body (t : Transcript) (plain : Bool) : String :=
  let text := String.join (t.entries.map entryText)
  if plain then Terminal.strip text else text

/-- The line that sets off the parts of a log. -/
def rule : String := "===============================\n"

/-- The whole text of a log; a plain one is without styles. -/
def log (t : Transcript) (plain : Bool) (times : Times) : String :=
  "=== VNSH SESSION TRANSCRIPT ===\n"
    ++ "Started: " ++ times.started ++ "\n"
    ++ "Lines: " ++ t.entries.length.repr ++ "\n"
    ++ rule ++ "\n"
    ++ t.body plain
    ++ "\n" ++ rule
    ++ "Failures: " ++ t.failures.repr ++ "\n"
    ++ "Duration: " ++ times.duration ++ "\n"
    ++ "End Time: " ++ times.ended ++ "\n"
    ++ rule

end Transcript

end VerbNoun
