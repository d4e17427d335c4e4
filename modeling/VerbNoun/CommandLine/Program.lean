import VerbNoun.CommandLine.Conversation
import VerbNoun.CommandLine.Request
import VerbNoun.Files
import VerbNoun.Text.Quoted
set_option autoImplicit false

/-!
# CommandLine: the program (SPEC §16, §17, §19)

What the program prints and leaves behind, as a function of its arguments and of what it
finds around it: files, the standard input, and what the environment says on colours.
-/

namespace VerbNoun.CommandLine

open Terminal
open Files (Disk Refusal)

/-- What the environment says on colours.  A variable that is set may be empty. -/
structure ColorVariables where
  noColor? : Option String := none
  colorForce? : Option String := none
  color? : Option String := none
  /-- Whether the standard output is a terminal. -/
  terminal : Bool := false

/-- Whether styles are shown where nothing turns them off: they can be forced, and are shown
at a terminal otherwise. -/
def ColorVariables.wanted (v : ColorVariables) : Bool :=
  v.colorForce?.any (· ≠ "0") || (v.terminal && v.color?.all (· ≠ "0"))

/-- Whether styles are shown: the settings, the options and the environment can each turn
them off. -/
def stylesShown (settings : Settings) (options : Options) (v : ColorVariables) : Bool :=
  settings.console.color && !options.noColor && v.noColor?.isNone && v.wanted

/-- The name of the settings file that is used if none is given. -/
def settingsFile : String := "vnsh.toml"

/-- A report with its cause. -/
def withCause (report cause : String) : String := report ++ "\n\nCaused by:\n    " ++ cause

/-- The settings of a file, from what came of reading it. -/
def settingsOfFile (path : String) : Except Refusal String → Except String Settings
  | .error .isDirectory =>
    .error (withCause ("Failed to read " ++ path) Refusal.isDirectory.message)
  | .error _ => .error ("❌ Config file " ++ Text.quote path ++ " not found.")
  | .ok content =>
    match Settings.parse content with
    | .ok s => .ok s
    | .error fault => .error (withCause ("Failed to parse " ++ path) fault.message)

/-- The settings to use, from what comes of reading files.  A file that is asked for has to
be there; the usual one need not. -/
def loadSettings (read : String → Except Refusal String) (path? : Option String) :
    Except String Settings :=
  match path? with
  | some path => settingsOfFile path (read path)
  | none =>
    match read settingsFile with
    | .ok content => settingsOfFile settingsFile (.ok content)
    | .error r =>
      if r = .isDirectory then settingsOfFile settingsFile (.error r) else .ok {}

/-! ## Texts of the program -/

/-- The version of the program. -/
def version : String := "0.1.0-preview.1"

/-- What the program prints when asked for help. -/
def helpText : String :=
  "vnsh: Verb-Noun Command Console\n\n"
    ++ "Usage: vnsh [OPTIONS] [COMMAND]\n\n"
    ++ "Commands:\n"
    ++ "  run   Evaluate each line in order within one session [aliases: r]\n"
    ++ "  list  List all available commands [aliases: ls]\n"
    ++ "  help  Print this message or the help of the given subcommand(s)\n\n"
    ++ "Options:\n"
    ++ "  -c, --config <CONFIG>  Config file to use instead of ./vnsh.toml\n"
    ++ "      --no-color         Disable colored output\n"
    ++ "  -h, --help             Print help\n"
    ++ "  -V, --version          Print version"

/-- What the program prints when its arguments make no sense. -/
def misuseText : String := "error: wrong usage\n\nFor more information, try '--help'."

/-- The line that greets at the start of a conversation. -/
def banner (shown : Bool) : Printed :=
  ⟨.error, styledIf shown "1" "vnsh" ++ " " ++ styledIf shown "2" version ++ " "
    ++ styledIf shown "2" "(type 'exit' to leave)"⟩

/-- The line that says where a log went. -/
def savedNotice (shown : Bool) (path : String) : Printed :=
  ⟨.error, styledIf shown "36" "📝" ++ " Transcript saved to: " ++ path⟩

/-- The list of commands: their names in one column, their parameters in another. -/
def listing (shown : Bool) : List Printed :=
  let descriptors := Stock.registry.descriptors
  let width := (descriptors.map (·.displayName.utf8ByteSize)).foldl max 0
  let row (d : Descriptor) : Printed :=
    let padding := String.ofList (List.replicate (width - d.displayName.utf8ByteSize + 2) ' ')
    ⟨.output, "  " ++ styledIf shown "36" d.displayName ++ padding
      ++ styledIf shown "3" (String.intercalate " " d.usageParts)⟩
  ⟨.output, styledIf shown "1;4" "Available Commands:"⟩ :: descriptors.map row

/-! ## Plans -/

/-- The last that is printed, and the exit code. -/
structure Closing where
  exit : Nat
  printed : List Printed

/-- The text of a failure that ends the program. -/
def failureNotice (message : String) : Printed := ⟨.error, "Error: " ++ message⟩

/-- What the program is about to do. -/
inductive Plan where
  /-- To say something and be done. -/
  | answer (closing : Closing)
  /-- To act with settings, showing styles or not. -/
  | act (settings : Settings) (shown : Bool) (action : Action)

/-- The path of the settings that a request needs. -/
def Request.settingsPath? : Request → Option String
  | .perform options _ => some (options.settingsPath?.getD settingsFile)
  | _ => none

/-- What the program makes of a request, from what comes of reading files and from what the
environment says on colours. -/
def plan (read : String → Except Refusal String) (colors : ColorVariables) : Request → Plan
  | .misuse => .answer ⟨2, [⟨.error, misuseText⟩]⟩
  | .help => .answer ⟨0, [⟨.output, helpText⟩]⟩
  | .version => .answer ⟨0, [⟨.output, "vnsh " ++ version⟩]⟩
  | .perform options action =>
    match loadSettings read options.settingsPath? with
    | .error message => .answer ⟨1, [failureNotice message]⟩
    | .ok settings => .act settings (stylesShown settings options colors) action

/-! ## Running -/

/-- What the program finds around it. -/
structure Surroundings where
  disk : Disk
  input : String
  /-- What makes lines of the input. -/
  reader : LineReader
  colors : ColorVariables
  /-- The texts of the times for a log. -/
  times : Times
  /-- The date, for the directory of a log. -/
  day : String
  /-- The time of day, for the name of a log. -/
  clock : String

/-- A log that was saved. -/
structure SavedLog where
  path : String
  place : Files.Place
  content : String

/-- What the program does: what it prints, the log it leaves, the files after it and its exit
code. -/
structure Report where
  exit : Nat
  printed : List Printed
  log? : Option SavedLog := none
  disk : Disk

/-- The directory of a log. -/
def logDirectory (directory day : String) : String := Files.join directory day

/-- The name of a log. -/
def logName (clock : String) : String := clock ++ "_session.log"

/-- The report that the directory of a log cannot be made. -/
def directoryFailure (cause : String) : String :=
  withCause "Failed to create transcript directory" cause

/-- The report that a log cannot be written. -/
def writeFailure (cause : String) : String := withCause "Failed to write transcript" cause

/-- Saves a log, or says why this cannot be done. -/
def saveLog (around : Surroundings) (log : LogFile) : Except String SavedLog × Disk :=
  let directory := logDirectory log.directory around.day
  match around.disk.makeDirectories directory with
  | (.error r, disk) => (.error (directoryFailure r.message), disk)
  | (.ok (), disk) =>
    let name := logName around.clock
    match disk.write directory name log.content with
    | (.error r, disk') => (.error (writeFailure r.message), disk')
    | (.ok place, disk') => (.ok ⟨Files.join directory name, place, log.content⟩, disk')

/-- The end of a session.  Its log may have been saved under a path or may not have been saved;
after that comes the verdict, an exit code or the cause of a failure. -/
def closing (shown : Bool) (verdict : Except String Nat) : Option (Except String String) → Closing
  | some (.error message) => ⟨1, [failureNotice message]⟩
  | some (.ok path) =>
    match verdict with
    | .ok exit => ⟨exit, [savedNotice shown path]⟩
    | .error cause => ⟨1, [savedNotice shown path, failureNotice cause]⟩
  | none =>
    match verdict with
    | .ok exit => ⟨exit, []⟩
    | .error cause => ⟨1, [failureNotice cause]⟩

/-- The report of a session that is over, with its verdict. -/
def closingReport (around : Surroundings) (settings : Settings) (shown : Bool)
    (verdict : Except String Nat) (reply : Reply) : Report :=
  let saving? := (reply.session.log? settings.transcript around.times).map (saveLog around)
  let last := closing shown verdict (saving?.map fun saving => saving.1.map (·.path))
  { exit := last.exit
    printed := reply.printed ++ last.printed
    log? := saving?.bind (·.1.toOption)
    disk := (saving?.map (·.2)).getD around.disk }

/-- The exit code of a run; it says whether all lines succeeded. -/
def runExit (succeeded : Bool) : Nat := if succeeded then 0 else 1

/-- The exit code of a program that breaks down. -/
def breakdownExit : Nat := 101

/-- The verdict on a conversation from the way it ended; there is none if the program broke down. -/
def Ending.verdict? : Ending → Option (Except String Nat)
  | .endOfInput => some (.ok 0)
  | .farewell => some (.ok 0)
  | .failed cause => some (.error cause)
  | .broken => none

/-- The report of an action.  Lines that fail show in the exit code only if they were given
as arguments. -/
def perform (around : Surroundings) (settings : Settings) (shown : Bool) : Action → Report
  | .list => { exit := 0, printed := listing shown, disk := around.disk }
  | .run lines =>
    let reply := (Session.start settings shown).executeAll lines
    closingReport around settings shown (.ok (runExit reply.succeeded)) reply
  | .converse =>
    let talk := converse (Session.start settings shown) (around.reader around.input)
    let report :=
      match talk.2.verdict? with
      | some verdict => closingReport around settings shown verdict talk.1
      | none => { exit := breakdownExit, printed := talk.1.printed, disk := around.disk }
    { report with printed := banner shown :: report.printed }

/-- The report of the program on its arguments. -/
def run (around : Surroundings) (arguments : List String) : Report :=
  match plan around.disk.read around.colors (Request.ofArguments arguments) with
  | .answer last => { exit := last.exit, printed := last.printed, disk := around.disk }
  | .act settings shown action => perform around settings shown action

end VerbNoun.CommandLine
