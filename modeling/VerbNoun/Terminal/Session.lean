import VerbNoun.Terminal.Style
import VerbNoun.Command.Stock
import VerbNoun.Settings
set_option autoImplicit false

/-!
# Terminal: a session at a terminal (SPEC §15, §16)

What a console writes is printed line by line: the output and debug channels to the
standard output, the error channel to the standard error, the latter two with a tag in
front.  A session can keep a transcript of its lines and of all that was printed.
-/

namespace VerbNoun

/-- The codes of the style that shows a role. -/
def Role.codes : Role → String
  | .standard => "37"
  | .accented => "33"
  | .debug => "90"
  | .error => "31"
  | .text => "91"
  | .number => "94"

namespace Terminal

/-- The two streams that are printed to. -/
inductive Stream where
  | output
  | error
  deriving DecidableEq, Repr

/-- A text printed to a stream; a line end follows it. -/
structure Printed where
  stream : Stream
  text : String
  deriving DecidableEq, Repr

/-- The text that went to one stream. -/
def textOn (stream : Stream) (ps : List Printed) : String :=
  String.join ((ps.filter (·.stream = stream)).map (·.text ++ "\n"))

/-- A host that shows roles as styles, or not at all. -/
def host (shown : Bool) : Host := ⟨shown, fun role text => styledIf shown role.codes text⟩

/-- A text after a tag, both in the style of a role. -/
def tagged (shown : Bool) (role : Role) (tag text : String) : String :=
  (host shown).paint role tag ++ " " ++ (host shown).paint role text

/-- How a text written to a channel is printed. -/
def print (shown : Bool) (w : Write) : Printed :=
  match w.channel with
  | .output => ⟨.output, w.text⟩
  | .error => ⟨.error, tagged shown .error "[ERROR]" w.text⟩
  | .debug => ⟨.output, tagged shown .debug "[DEBUG]" w.text⟩

end Terminal

open Terminal

/-- A console at a terminal. -/
structure Session where
  console : Console
  /-- Whether styles are shown. -/
  shown : Bool
  /-- The transcript, if one is kept. -/
  transcript? : Option Transcript

/-- What came of a line: whether it succeeded, what was printed, and the session after it. -/
structure Reply where
  succeeded : Bool
  printed : List Printed
  session : Session

/-- The text of a log and the directory that it goes to. -/
structure LogFile where
  directory : String
  content : String

namespace Session

/-- A new session with the stock commands. -/
def start (settings : Settings) (shown : Bool) : Session where
  console := Console.new Stock.registry settings.options
  shown
  transcript? := if settings.transcript.strategy = .never then none else some {}

/-- Runs a line. -/
def execute (s : Session) (line : String) : Reply :=
  let turn := s.console.execute (host s.shown) line
  let printed := turn.writes.map (print s.shown)
  let succeeded := turn.result.toBool
  let noted := s.transcript?.map fun t =>
    (printed.foldl (fun t p => t.record p.text) (t.begin line)).finish !succeeded
  ⟨succeeded, printed, { s with console := turn.console, transcript? := noted }⟩

/-- Runs lines in order; a line that fails does not stop those after it. -/
def executeAll (s : Session) : List String → Reply
  | [] => ⟨true, [], s⟩
  | line :: rest =>
    let first := s.execute line
    let last := first.session.executeAll rest
    ⟨first.succeeded && last.succeeded, first.printed ++ last.printed, last.session⟩

/-- The log that a session leaves, if its transcript is due. -/
def log? (s : Session) (settings : TranscriptSettings) (times : Times) : Option LogFile :=
  match s.transcript? with
  | none => none
  | some t =>
    if t.isDue settings.strategy then some ⟨settings.directory, t.log settings.plain times⟩
    else none

end Session

end VerbNoun
