import VerbNoun.Value.Basic
set_option autoImplicit false

/-!
# Host: where a console writes (SPEC §6, §15)

A console and its commands write texts to three channels and mark texts with the role
they play.  What a mark looks like is for the host to say.
-/

namespace VerbNoun

/-- The roles that a text can be marked with. -/
inductive Role where
  | standard
  | accented
  | debug
  | error
  | text
  | number
  deriving DecidableEq, Repr

/-- The channels of a host. -/
inductive Channel where
  | output
  | error
  | debug
  deriving DecidableEq, Repr

/-- A text written to a channel. -/
structure Write where
  channel : Channel
  text : String
  deriving DecidableEq, Repr

/-- What a command may ask of its host. -/
structure Host where
  /-- Whether marks show as colours. -/
  supportsColor : Bool
  /-- How a text is marked with its role. -/
  paint : Role → String → String

/-- The host that marks nothing. -/
def Host.plain : Host := ⟨false, fun _ text => text⟩

/-- What a command did: the texts it wrote, in order, and its result or the message it
failed with. -/
structure Outcome where
  writes : List Write := []
  result : Except String Value

end VerbNoun
