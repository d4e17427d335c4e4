import VerbNoun.Statement.Parser
import VerbNoun.Evaluation
set_option autoImplicit false

/-!
# Console: a session (SPEC §4.5, §14)

A console keeps the commands, the variables and every line it was given.  A line is read,
run and reported: a value goes to the output channel, a fault to the error channel.
-/

namespace VerbNoun

/-- Whether the latest result can be read under a name, and under which. -/
structure ConsoleOptions where
  useLatest : Bool := true
  latestName : String := "last"
  deriving DecidableEq, Repr

/-- A session. -/
structure Console where
  registry : Registry
  store : Store
  /-- The lines given so far, oldest first. -/
  lines : List String := []

/-- What came of a line: a value or a fault, the texts written, and the session after it. -/
structure Turn where
  result : Except Fault Value
  writes : List Write
  console : Console

namespace Console

/-- A new session. -/
def new (registry : Registry) (options : ConsoleOptions) : Console :=
  { registry
    store := { reserved? := if options.useLatest then some options.latestName else none } }

/-- The last `count` lines, oldest first; all of them for zero. -/
def history (c : Console) (count : Nat) : List String :=
  if count = 0 then c.lines else c.lines.drop (c.lines.length - count)

/-- Runs a statement, without noting its result. -/
def run (c : Console) (host : Host) (s : Statement) : Turn :=
  let e := Evaluation.ofStatement c.registry host s c.store
  ⟨e.result, e.writes, { c with store := e.store }⟩

/-- Reads and runs a line.  The line is kept even if it fails; its value is noted as the
latest result. -/
def evaluate (c : Console) (host : Host) (line : String) : Turn :=
  let c := { c with lines := c.lines ++ [line] }
  match Statement.parse line with
  | .error fault => ⟨.error fault, [], c⟩
  | .ok s =>
    let turn := c.run host s
    match turn.result with
    | .error _ => turn
    | .ok v =>
      { turn with console := { turn.console with store := turn.console.store.record v } }

/-- The role of a value's text. -/
def roleOf : Value → Role
  | .null => .accented
  | .of .string _ => .text
  | .of .bool _ => .standard
  | .of _ _ => .number

/-- The text that reports a fault; where reading stopped, the rest of the line follows. -/
def faultText (host : Host) : Fault → String
  | .incompleteParse remainder offset =>
    (Fault.incompleteParse remainder offset).message ++ "\n"
      ++ host.paint .standard ("Remainder: " ++ remainder)
  | fault => fault.message

/-- The report of a result. -/
def report (host : Host) : Except Fault Value → Write
  | .ok v => ⟨.output, host.paint (roleOf v) v.render⟩
  | .error fault => ⟨.error, faultText host fault⟩

/-- Reads, runs and reports a line. -/
def execute (c : Console) (host : Host) (line : String) : Turn :=
  let turn := c.evaluate host line
  { turn with writes := turn.writes ++ [report host turn.result] }

end Console

end VerbNoun
