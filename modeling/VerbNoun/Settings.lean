import VerbNoun.Toml.Document
import VerbNoun.Console
import VerbNoun.Transcript
set_option autoImplicit false

/-!
# Settings: what a settings file says (SPEC §17)

A settings file is a TOML document with a table for the console and one for transcripts.
Whatever it leaves out has a default, and what it says beyond is ignored.
-/

namespace VerbNoun

/-- The settings of the console. -/
structure ConsoleSettings where
  prompt : String := "PS> "
  lastResult : String := "last"
  useLastResult : Bool := true
  color : Bool := true
  deriving DecidableEq, Repr

/-- The settings of transcripts. -/
structure TranscriptSettings where
  strategy : Strategy := .never
  directory : String := ".vnsh/transcripts"
  plain : Bool := true
  deriving DecidableEq, Repr

/-- All settings. -/
structure Settings where
  console : ConsoleSettings := {}
  transcript : TranscriptSettings := {}
  deriving DecidableEq, Repr

/-- Why a settings file cannot be used. -/
inductive SettingsFault where
  /-- It is not a TOML document, or a value is not of the sort it should be. -/
  | malformed
  /-- The latest result is to be read under a blank name. -/
  | blankLastResult
  deriving DecidableEq, Repr

/-- The text that reports the fault. -/
def SettingsFault.message : SettingsFault → String
  | .malformed => "invalid TOML document"
  | .blankLastResult => "[console] last_result must not be empty while use_last_result is on"

namespace Settings

open Toml (Node Entries)

/-- A section of the file: its fields by name, or by place if it is given as a list.  A date
in its stead has no fields.  What is ignored in it may be anything in range. -/
def section? (names : List String) : Node → Option Entries
  | .table _ entries =>
    if entries.all fun e => names.contains e.1 || e.2.isHeld then some entries else none
  | .array _ items => some (names.zip items)
  | .moment => some []
  | _ => none

/-- A field of a section: its default if it is left out. -/
def field? {α : Type} (read : Node → Option α) (entries : Entries) (name : String)
    (default : α) : Option α :=
  match entries.find? name with
  | none => some default
  | some v => read v

/-- A text. -/
def text? : Node → Option String
  | .string s => some s
  | _ => none

/-- A truth value. -/
def truth? : Node → Option Bool
  | .boolean b => some b
  | _ => none

/-- The strategy of a name. -/
def strategyOfName? : String → Option Strategy
  | "always" => some .always
  | "error-only" => some .errorOnly
  | "none" => some .never
  | _ => none

/-- A strategy: its name, or its name over nothing. -/
def strategy? : Node → Option Strategy
  | .string s => strategyOfName? s
  | .table _ [(s, .table _ [])] => strategyOfName? s
  | .table _ [(s, .array _ [])] => strategyOfName? s
  | _ => none

/-- The settings of the console from their section. -/
def console? (v : Node) : Option ConsoleSettings := do
  let defaults : ConsoleSettings := {}
  let es ← section? ["prompt", "last_result", "use_last_result", "color"] v
  return {
    prompt := ← field? text? es "prompt" defaults.prompt
    lastResult := ← field? text? es "last_result" defaults.lastResult
    useLastResult := ← field? truth? es "use_last_result" defaults.useLastResult
    color := ← field? truth? es "color" defaults.color }

/-- The settings of transcripts from their section. -/
def transcript? (v : Node) : Option TranscriptSettings := do
  let defaults : TranscriptSettings := {}
  let es ← section? ["strategy", "dir", "plain"] v
  return {
    strategy := ← field? strategy? es "strategy" defaults.strategy
    directory := ← field? text? es "dir" defaults.directory
    plain := ← field? truth? es "plain" defaults.plain }

/-- The settings that a document holds. -/
def ofEntries? (entries : Entries) : Option Settings := do
  let es ← section? ["console", "transcript"] (.table .header entries)
  return {
    console := ← field? console? es "console" {}
    transcript := ← field? transcript? es "transcript" {} }

/-- The settings that the text of a file holds. -/
def parse (text : String) : Except SettingsFault Settings :=
  match (Toml.parse text).bind ofEntries? with
  | none => .error .malformed
  | some s =>
    if s.console.useLastResult && Text.isAllBlank s.console.lastResult then
      .error .blankLastResult
    else .ok s

/-- The options of a console with these settings. -/
def options (s : Settings) : ConsoleOptions :=
  ⟨s.console.useLastResult, s.console.lastResult⟩

end Settings

end VerbNoun
