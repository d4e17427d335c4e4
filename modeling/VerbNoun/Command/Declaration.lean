import VerbNoun.Command.Parameter
import VerbNoun.Host
set_option autoImplicit false

/-!
# Command: declarations (SPEC §6, §12)

A command is declared by its verb and noun, its parameters, and what it does.  Every run starts
from the same state, takes its parameters into fields of that state, and then processes it.  A
field is known by the way to it alone: nothing keeps two parameters from having one field.
-/

namespace VerbNoun

/-- A parameter with its field in states of type `σ`.  Reaching the field gives its contents, and
the state that comes of putting given contents in their place. -/
structure Field (σ : Type) extends Attributes where
  kind : Kind
  reach : σ → kind.Content × (kind.Content → σ)

namespace Field

variable {σ : Type}

/-- The contents of a field. -/
def contents (f : Field σ) (s : σ) : f.kind.Content := (f.reach s).1

/-- The state with given contents put into a field. -/
def put (f : Field σ) (x : f.kind.Content) (s : σ) : σ := (f.reach s).2 x

/-- The state with a value offered to a field, which takes it if it is of its kind. -/
def offer (f : Field σ) (v : Value) (s : σ) : σ :=
  match v.content? f.kind with
  | some x => f.put x s
  | none => s

/-- The state with a value offered to each of the fields in order. -/
def offerAll (fields : List (Field σ)) (values : List Value) (s : σ) : σ :=
  (fields.zip values).foldl (fun s e => e.1.offer e.2 s) s

/-- The parameter of a field, with the contents of the field as its initial value. -/
def parameter (f : Field σ) (s : σ) : Parameter :=
  { toAttributes := f.toAttributes, kind := f.kind, initial := .of f.kind (f.contents s) }

/-- The parameters of fields.  The fields are read in order, each in the state that reading those
before it left. -/
def parameters : List (Field σ) → σ → List Parameter
  | [], _ => []
  | f :: fields, s => f.parameter s :: parameters fields (f.put (f.contents s) s)

end Field

/-- A command as it is declared. -/
structure Declaration where
  /-- What the command is called where it has no verb and noun. -/
  typeName : String
  /-- Verb and noun, if they were given. -/
  name? : Option (String × String)
  /-- What a run of the command works on. -/
  State : Type
  /-- The state that every run starts from. -/
  initial : State
  fields : List (Field State)
  process : State → Host → Outcome

namespace Declaration

/-- The parameters of a declaration, with the contents of the initial state. -/
def parameters (d : Declaration) : List Parameter := Field.parameters d.fields d.initial

/-- Runs the command on values for its fields. -/
def invoke (d : Declaration) (slots : List Value) (host : Host) : Outcome :=
  d.process (Field.offerAll d.fields slots d.initial) host

end Declaration

end VerbNoun
