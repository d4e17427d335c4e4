import VerbNoun.Statement.Lexeme
import VerbNoun.Fault
set_option autoImplicit false

/-!
# Statement: reading a line (SPEC §4.1)

A line is one statement, with blanks around it.  The sorts of statement are tried in a
fixed order from the same place, and each reads as far as it can.
-/

namespace VerbNoun

open Text

/-- An argument of a command: a word, a flag, a variable, a text or a number. -/
def argument : Reader Statement :=
  (identifier.map Statement.word)
    |>.orElse (flagName.map .flag)
    |>.orElse (variableName.map .var)
    |>.orElse (quotedText.map .quoted)
    |>.orElse (signedNumber.map .number)

/-- A command: an identifier and the arguments after it. -/
def call : Reader Call := fun cs =>
  match identifier cs with
  | none => none
  | some (name, rest) =>
    let (args, rest') := argument.spaced.many rest
    some (⟨name, args⟩, rest')

/-- Two or more commands with bars between them. -/
def pipeChain : Reader Statement := fun cs =>
  match call cs with
  | none => none
  | some (first, rest) =>
    match (call.spaced.after '|').spaced.many rest with
    | ([], _) => none
    | (calls, rest') => some (.pipe (first :: calls), rest')

/-- A variable and one or more members with points before them. -/
def reflection : Reader Statement := fun cs =>
  match variableName cs with
  | none => none
  | some (name, rest) =>
    match (identifier.spaced.after '.').spaced.many rest with
    | ([], _) => none
    | (members, rest') => some (.reflect name members, rest')

/-- What may stand by itself or on the right of an assignment. -/
def operand : Reader Statement :=
  pipeChain
    |>.orElse reflection
    |>.orElse (call.map .command)
    |>.orElse (variableName.map .var)
    |>.orElse (quotedText.map .quoted)
    |>.orElse (signedNumber.map .number)

/-- A variable, an equals sign and an operand. -/
def assignment : Reader Statement := fun cs =>
  match variableName cs with
  | none => none
  | some (name, rest) => (operand.spaced.after '=').spaced.map (.assign name) rest

/-- A statement without blanks around it. -/
def statement : Reader Statement := assignment.orElse operand

/-- The fault of stopping before `rest` in the characters of a line. -/
def stoppedAt (line rest : List Char) : Fault :=
  .incompleteParse (String.ofList (trimEnd rest)) (line.length - rest.length)

/-- The statement that a line holds. -/
def Statement.parse (line : String) : Except Fault Statement :=
  let cs := line.toList
  if cs.all isBlank then .error .emptyInput
  else
    match statement (skipBlanks cs) with
    | none => .error (stoppedAt cs (skipBlanks cs))
    | some (result, rest) =>
      match skipBlanks rest with
      | [] => .ok result
      | rest' => .error (stoppedAt cs rest')

end VerbNoun
