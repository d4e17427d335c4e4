set_option autoImplicit false

/-!
# CommandLine: what the arguments ask for (SPEC §16)

The options stand before or after the name of what is to be done.  The lines of `run` may
begin with a dash: an argument after `run` that is no known option is its first line, and
everything after the first line is a line too.
-/

namespace VerbNoun.CommandLine

/-- What is to be done. -/
inductive Action where
  /-- Read lines from the standard input and run them. -/
  | converse
  /-- Run the given lines. -/
  | run (lines : List String)
  /-- List the commands. -/
  | list
  deriving DecidableEq, Repr

/-- The options, which stand for every action. -/
structure Options where
  /-- The settings file to use. -/
  settingsPath? : Option String := none
  /-- Whether styles are turned off. -/
  noColor : Bool := false
  deriving DecidableEq, Repr

/-- What the arguments ask for. -/
inductive Request where
  | perform (options : Options) (action : Action)
  | help
  | version
  /-- The arguments make no sense. -/
  | misuse
  deriving DecidableEq, Repr

/-- The form of an argument. -/
inductive Form where
  /-- Two dashes alone: no option follows. -/
  | terminator
  /-- A long option and the value attached to it. -/
  | long (name : String) (value? : Option String)
  /-- Short options after one dash. -/
  | short (letters : List Char)
  /-- Anything else. -/
  | plain

/-- The form of an argument. -/
def Form.of (argument : String) : Form :=
  match argument.toList with
  | ['-', '-'] => .terminator
  | '-' :: '-' :: cs =>
    let name := String.ofList (cs.takeWhile (· ≠ '='))
    match cs.dropWhile (· ≠ '=') with
    | [] => .long name none
    | _ :: value => .long name (some (String.ofList value))
  | '-' :: c :: cs => .short (c :: cs)
  | _ => .plain

/-- Where an argument stands. -/
inductive Place where
  /-- Before the name of an action. -/
  | top
  /-- After `list`. -/
  | list
  /-- After `run`, before its first line. -/
  | run
  deriving DecidableEq

namespace Place

/-- The long options known at a place. -/
def longOptions : Place → List String
  | .top => ["config", "no-color", "help", "version"]
  | _ => ["config", "no-color", "help"]

/-- The short options known at a place. -/
def shortOptions : Place → List Char
  | .top => ['c', 'h', 'V']
  | _ => ['c', 'h']

/-- Whether an argument is taken for options there.  Lines may look like options that are
not known. -/
def takesAsOption (place : Place) : Form → Bool
  | .terminator => true
  | .long name _ => place ≠ .run || place.longOptions.contains name
  | .short letters => place ≠ .run || letters.all place.shortOptions.contains
  | .plain => false

end Place

namespace Options

/-- The options with a settings file, which may be given once and has a name. -/
def withSettings? (o : Options) (path : String) : Option Options :=
  if path.isEmpty || o.settingsPath?.isSome then none
  else some { o with settingsPath? := some path }

/-- The options with styles turned off, which may be said once. -/
def withoutColor? (o : Options) : Option Options :=
  if o.noColor then none else some { o with noColor := true }

/-- Options of an inner place, with those of an outer one where it has none. -/
def within (inner outer : Options) : Options where
  settingsPath? := inner.settingsPath?.or outer.settingsPath?
  noColor := inner.noColor || outer.noColor

end Options

/-- What an argument turned out to be. -/
inductive Step where
  /-- An option that is complete. -/
  | goOn (options : Options)
  /-- An option whose value is the next argument. -/
  | needsPath
  /-- A request that settles everything. -/
  | done (request : Request)

/-- The step after trying to set an option. -/
def Step.ofOption : Option Options → Step
  | some o => .goOn o
  | none => .done .misuse

/-- The meaning of a long option. -/
def longStep (place : Place) (o : Options) (name : String) (value? : Option String) : Step :=
  if !place.longOptions.contains name then .done .misuse
  else if name = "config" then
    match value? with
    | some path => .ofOption (o.withSettings? path)
    | none => .needsPath
  else if value?.isSome then .done .misuse
  else if name = "no-color" then .ofOption o.withoutColor?
  else if name = "help" then .done .help
  else .done .version

/-- The meaning of short options.  The letters after that of the settings file are its
value, perhaps after an equals sign. -/
def shortStep (place : Place) (o : Options) : List Char → Step
  | [] => .done .misuse
  | c :: rest =>
    if !place.shortOptions.contains c then .done .misuse
    else if c = 'c' then
      match rest with
      | [] => .needsPath
      | '=' :: path => .ofOption (o.withSettings? (String.ofList path))
      | path => .ofOption (o.withSettings? (String.ofList path))
    else if c = 'h' then .done .help
    else .done .version

/-- The meaning of an argument that is taken for options. -/
def optionStep (place : Place) (o : Options) (argument : String) : Step :=
  match Form.of argument with
  | .long name value? => longStep place o name value?
  | .short letters => shortStep place o letters
  | _ => .done .misuse

/-- What came of reading the options of a place. -/
inductive Gathered where
  /-- The options and the arguments after them; `closed` if a terminator ended them. -/
  | stopped (options : Options) (rest : List String) (closed : Bool)
  /-- A request that settles everything. -/
  | settled (request : Request)

/-- Reads the options of a place, up to the first argument that is none. -/
def gather (place : Place) : Options → List String → Gathered
  | o, [] => .stopped o [] false
  | o, argument :: rest =>
    if Form.of argument matches .terminator then .stopped o rest true
    else if !place.takesAsOption (Form.of argument) then .stopped o (argument :: rest) false
    else
      match optionStep place o argument with
      | .goOn o' => gather place o' rest
      | .done request => .settled request
      | .needsPath =>
        match rest with
        | [] => .settled .misuse
        | path :: rest' =>
          if place.takesAsOption (Form.of path) then .settled .misuse
          else
            match o.withSettings? path with
            | some o' => gather place o' rest'
            | none => .settled .misuse

/-- The request of the arguments after `run`: what follows the options is its lines, of which
there is at least one. -/
def afterRun (outer : Options) (arguments : List String) : Request :=
  match gather .run {} arguments with
  | .settled request => request
  | .stopped _ [] _ => .misuse
  | .stopped inner lines _ => .perform (inner.within outer) (.run lines)

/-- The request of the arguments after `list`, which has options only. -/
def afterList (outer : Options) (arguments : List String) : Request :=
  match gather .list {} arguments with
  | .settled request => request
  | .stopped inner [] _ => .perform (inner.within outer) .list
  | .stopped _ _ _ => .misuse

/-- The request of the arguments after `help`, which may name one action. -/
def afterHelp : List String → Request
  | [] => .help
  | [name] => if ["run", "r", "list", "ls", "help"].contains name then .help else .misuse
  | _ => .misuse

/-- What the arguments ask for. -/
def Request.ofArguments (arguments : List String) : Request :=
  match gather .top {} arguments with
  | .settled request => request
  | .stopped options [] _ => .perform options .converse
  | .stopped _ _ true => .misuse
  | .stopped options (name :: rest) false =>
    if name = "run" || name = "r" then afterRun options rest
    else if name = "list" || name = "ls" then afterList options rest
    else if name = "help" then afterHelp rest
    else .misuse

end VerbNoun.CommandLine
