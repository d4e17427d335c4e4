import Std.Time.Format
import Std.Time.Zoned
import VerbNoun.CommandLine.PipedInput
import VerbNoun.CommandLine.Program
set_option autoImplicit false

/-!
# The command line (SPEC §16)

Reads the arguments, the settings file and the standard input, prints what the program
reports, and writes the log of a session.  What is reported is decided elsewhere.  Here and in
the other modules `SPEC` is the specification of the verb-noun shell.
-/

namespace VerbNoun.CommandLine

open Terminal

/-- Prints texts to their streams. -/
def printAll (texts : List Printed) : IO Unit := do
  for p in texts do
    match p.stream with
    | .output => IO.println p.text
    | .error => IO.eprintln p.text
  (← IO.getStdout).flush

/-- The content of a file. -/
def readFile (path : String) : IO (Except Files.Refusal String) := do
  try
    return .ok (← IO.FS.readFile path)
  catch
    | .inappropriateType _ 21 _ => return .error .isDirectory
    | _ => return .error .missing

/-- What the environment says on colours. -/
def colorVariables : IO ColorVariables := do
  return {
    noColor? := ← IO.getEnv "NO_COLOR"
    colorForce? := ← IO.getEnv "CLICOLOR_FORCE"
    color? := ← IO.getEnv "CLICOLOR"
    terminal := ← (← IO.getStdout).isTty }

/-- The next line of the standard input, if there is one. -/
def nextLine (prompt : String) : IO (List Reading) := do
  let input ← IO.getStdin
  if ← input.isTty then
    IO.print prompt
    (← IO.getStdout).flush
  try
    return readPiped (← input.getLine)
  catch e => return [.failed (toString e)]

/-- Does something, or gives the report of why it cannot be done. -/
def attempt (report : String → String) (action : IO Unit) : IO (Except String Unit) := do
  try
    action
    return .ok ()
  catch e => return .error (report (toString e))

/-- When a session began. -/
structure Beginning where
  date : Std.Time.DateTime
  milliseconds : Nat

/-- Writes a log, and says where it went. -/
def writeLog (log : LogFile) (now : Std.Time.DateTime) : IO (Except String String) := do
  let directory := logDirectory log.directory (now.format "uuuu-MM-dd")
  let path := Files.join directory (logName (now.format "HHmmss"))
  match ← attempt directoryFailure (IO.FS.createDirAll directory) with
  | .error message => return .error message
  | .ok () =>
    let written ← attempt writeFailure (IO.FS.writeFile path log.content)
    return written.map fun () => path

/-- Prints what is printed last. -/
def conclude (last : Closing) : IO UInt32 := do
  printAll last.printed
  return last.exit.toUInt32

/-- Ends a session, with its verdict. -/
def close (settings : Settings) (beginning : Beginning) (verdict : Except String Nat)
    (session : Session) : IO UInt32 := do
  let now ← Std.Time.DateTime.now
  let stamp (t : Std.Time.DateTime) : String := t.format "uuuu-MM-dd'T'HH:mm:ss.SSSSSSSSSxxx"
  let elapsed := (← IO.monoMsNow) - beginning.milliseconds
  let times : Times := ⟨stamp beginning.date, elapsed.repr ++ " ms", stamp now⟩
  let saving ← match session.log? settings.transcript times with
    | none => pure none
    | some log => some <$> writeLog log now
  conclude (closing session.shown verdict saving)

/-- Goes on with a conversation line by line, and ends it. -/
partial def talk (settings : Settings) (beginning : Beginning) (session : Session) :
    IO UInt32 := do
  let readings ← nextLine settings.console.prompt
  let (reply, ending) := converse session readings
  printAll reply.printed
  if ending = .endOfInput && !readings.isEmpty then talk settings beginning reply.session
  else
    match ending.verdict? with
    | some verdict => close settings beginning verdict reply.session
    | none => return breakdownExit.toUInt32

/-- Performs an action. -/
def performAction (settings : Settings) (shown : Bool) (action : Action) : IO UInt32 := do
  let beginning : Beginning := ⟨← Std.Time.DateTime.now, ← IO.monoMsNow⟩
  match action with
  | .list => conclude ⟨0, listing shown⟩
  | .run lines =>
    let reply := (Session.start settings shown).executeAll lines
    printAll reply.printed
    close settings beginning (.ok (runExit reply.succeeded)) reply.session
  | .converse =>
    printAll [banner shown]
    talk settings beginning (Session.start settings shown)

/-- Does what the arguments ask for. -/
def act (arguments : List String) : IO UInt32 := do
  let request := Request.ofArguments arguments
  let found ← match request.settingsPath? with
    | none => pure (.error .missing)
    | some path => readFile path
  match plan (fun _ => found) (← colorVariables) request with
  | .answer last => conclude last
  | .act settings shown action => performAction settings shown action

end VerbNoun.CommandLine

/-- The program. -/
def main (arguments : List String) : IO UInt32 := VerbNoun.CommandLine.act arguments
