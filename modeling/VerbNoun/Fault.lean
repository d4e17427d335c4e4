import VerbNoun.Value.Kind
set_option autoImplicit false

/-!
# Fault: what can go wrong (SPEC §7, §20)

Every way in which reading a line, adding a command, binding its arguments or running
it can fail, with the wording of each in one place.
-/

namespace VerbNoun

/-- The cause of a failure. -/
inductive Fault where
  /-- The line has no character but blanks. -/
  | emptyInput
  /-- Reading stopped before the end of the line. -/
  | incompleteParse (remainder : String) (offset : Nat)
  /-- A command was declared without a verb and a noun. -/
  | unnamedCommand (typeName : String)
  /-- The name of a command is taken. -/
  | duplicateCommand (name : String)
  /-- The positions of a command's parameters are not 0, 1, 2 and so on. -/
  | invalidPosition (command parameter : String) (position : Int)
  /-- A truth-valued parameter was declared mandatory. -/
  | mandatorySwitch (command parameter : String)
  /-- No command has the name. -/
  | unknownCommand (name : String)
  /-- The command has no named parameter of that name. -/
  | unknownParameter (command parameter : String)
  /-- All positional parameters are taken. -/
  | unexpectedArgument (command : String) (arity : Nat) (argument : String)
  /-- A named parameter is not followed by a value. -/
  | missingValue (command parameter : String) (kind : Kind)
  /-- An argument cannot be moved to the kind of its parameter. -/
  | invalidArgument (parameter : String) (expected : Kind) (received : String)
  /-- No parameter takes the piped value. -/
  | invalidPipe (command received : String)
  /-- A parameter that the pipe already bound is named again. -/
  | boundByPipe (command parameter : String)
  /-- A mandatory parameter got no value. -/
  | missingMandatory (command parameter : String)
  /-- The variable with the reserved name was assigned. -/
  | readOnlyVariable (name : String)
  /-- The command itself failed. -/
  | failed (message : String)
  deriving DecidableEq, Repr

/-- The text that reports a fault. -/
def Fault.message : Fault → String
  | .emptyInput => "Nothing to parse: the input is empty"
  | .incompleteParse _ offset => "Unexpected input at offset " ++ offset.repr
  | .unnamedCommand typeName =>
    "The command type '" ++ typeName ++ "' does not declare a verb and noun"
  | .duplicateCommand name => "A command named '" ++ name ++ "' is already registered"
  | .invalidPosition command parameter position =>
    "Invalid position " ++ position.repr ++ " for parameter '" ++ parameter ++ "' of '"
      ++ command ++ "'"
  | .mandatorySwitch command parameter =>
    "Boolean parameter '" ++ parameter ++ "' of '" ++ command ++ "' cannot be mandatory"
  | .unknownCommand name => "The command '" ++ name ++ "' does not exist"
  | .unknownParameter command parameter =>
    "The named parameter '" ++ parameter ++ "' is not recognized by '" ++ command ++ "'"
  | .unexpectedArgument command arity argument =>
    "'" ++ command ++ "' accepts " ++ arity.repr ++ " positional arguments; '" ++ argument
      ++ "' is one too many"
  | .missingValue command parameter kind =>
    "The named parameter '" ++ parameter ++ "' of '" ++ command
      ++ "' is missing a value of type " ++ kind.name
  | .invalidArgument parameter expected received =>
    "Parameter '" ++ parameter ++ "' expects " ++ expected.name ++ " but received " ++ received
  | .invalidPipe command received =>
    "'" ++ command ++ "' has no parameter accepting a piped " ++ received
  | .boundByPipe command parameter =>
    "The parameter '" ++ parameter ++ "' of '" ++ command ++ "' is already bound by the pipe"
  | .missingMandatory command parameter =>
    "The mandatory parameter '" ++ parameter ++ "' of '" ++ command ++ "' is missing"
  | .readOnlyVariable name => "The variable '" ++ name ++ "' is read-only"
  | .failed message => message

end VerbNoun
