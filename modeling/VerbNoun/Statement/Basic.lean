import VerbNoun.Number.Shortest
set_option autoImplicit false

/-!
# Statement: what a line says (SPEC §3)

One type holds both whole statements and the arguments of commands, since a console
evaluates any of them and a command may be handed any of them.
-/

namespace VerbNoun

open Number

/-- A command name with its arguments. -/
structure Invocation (α : Type) where
  name : String
  args : List α

/-- A statement, or an argument of a command. -/
inductive Statement where
  /-- A bare word. -/
  | word (text : String)
  /-- A text in quotes. -/
  | quoted (text : String)
  /-- A number. -/
  | number (value : Double)
  /-- A variable, named without its mark. -/
  | var (name : String)
  /-- The name of a parameter, without its dash. -/
  | flag (name : String)
  /-- One command. -/
  | command (call : Invocation Statement)
  /-- Commands, each fed with the result of the one before. -/
  | pipe (calls : List (Invocation Statement))
  /-- A variable that takes the value of a statement. -/
  | assign (name : String) (value : Statement)
  /-- A path of members of a variable. -/
  | reflect (name : String) (members : List String)

/-- A call of a command. -/
abbrev Call := Invocation Statement

/-- The text by which a message mentions an argument. -/
def Statement.mention : Statement → String
  | .word text => text
  | .quoted text => text
  | .number value => value.render
  | .var name => "$" ++ name
  | .flag name => "-" ++ name
  | .command call => call.name
  | .pipe _ => "pipe chain"
  | .assign name _ => "$" ++ name ++ " = ..."
  | .reflect name members => "$" ++ name ++ "." ++ String.intercalate "." members

end VerbNoun
