import VerbNoun.Store
import VerbNoun.Statement.Basic
import VerbNoun.Command.Parameter
set_option autoImplicit false

/-!
# Command: binding arguments (SPEC §4.3)

The arguments of a call are split into items from left to right: a switch stands alone, any
other flag takes the argument after it, and all else is positional.  The piped value is
bound first, to the first parameter that takes it, and then the items in order; a
positional item goes to the first positional parameter that neither the pipe nor an
earlier positional item has taken.  At the end no mandatory parameter may be left.
-/

namespace VerbNoun

/-- A part of an argument list. -/
inductive Item where
  /-- An argument by position. -/
  | positional (argument : Statement)
  /-- A switch that is named. -/
  | switch (parameter : Slot)
  /-- A named parameter and its argument. -/
  | named (parameter : Slot) (argument : Statement)
  /-- A named parameter that no argument follows. -/
  | dangling (parameter : Slot)
  /-- A flag that names no parameter. -/
  | unknown (name : String)

/-- The items of an argument list. -/
def Descriptor.items (d : Descriptor) : List Statement → List Item
  | [] => []
  | .flag name :: rest =>
    match d.findNamed? name with
    | none => .unknown name :: d.items rest
    | some p =>
      if p.isSwitch then .switch p :: d.items rest
      else
        match rest with
        | [] => [.dangling p]
        | .flag next :: rest' => .dangling p :: d.items (.flag next :: rest')
        | argument :: rest' => .named p argument :: d.items rest'
  | argument :: rest => .positional argument :: d.items rest

/-- The value that an argument stands for.  Reading a variable may make it. -/
def Statement.resolve (s : Statement) (p : Slot) (store : Store) : Except Fault Value × Store :=
  match s with
  | .word text => (.ok (.ofText text), store)
  | .quoted text => (.ok (.ofText text), store)
  | .number x => (.ok (.ofDouble x), store)
  | .var name => let (v, store') := store.read name; (.ok v, store')
  | other => (.error (.invalidArgument p.name p.kind other.mention), store)

/-- A value moved to the kind of a parameter. -/
def Slot.fit (p : Slot) (v : Value) : Except Fault Value :=
  match v.coerce? p.kind with
  | some w => .ok w
  | none => .error (.invalidArgument p.name p.kind v.describe)

/-- The value that an argument gives to a parameter. -/
def Statement.argumentFor (s : Statement) (p : Slot) (store : Store) :
    Except Fault Value × Store :=
  match s.resolve p store with
  | (.error fault, store') => (.error fault, store')
  | (.ok v, store') => (p.fit v, store')

/-- How far the binding of a call has come. -/
structure Binding where
  /-- The values of the slots. -/
  slots : List Value
  /-- The positional parameters still to be taken, in order. -/
  vacant : List Slot
  /-- The mandatory parameters without a value, in order. -/
  unmet : List Slot
  /-- The parameter that the pipe bound. -/
  fromPipe? : Option Slot

namespace Binding

/-- Nothing bound yet. -/
def start (d : Descriptor) : Binding :=
  ⟨d.initialSlots, d.positional, d.parameters.filter (·.mandatory), none⟩

/-- A parameter bound to a value. -/
def put (b : Binding) (p : Slot) (v : Value) : Binding :=
  { b with
    slots := b.slots.set p.index v
    unmet := b.unmet.filter (·.index ≠ p.index) }

/-- Whether the pipe bound a parameter. -/
def isFromPipe (b : Binding) (p : Slot) : Bool := b.fromPipe?.any (·.index = p.index)

/-- The first parameter that takes a piped value, with the value as it takes it. -/
def pipeTarget? (d : Descriptor) (v : Value) : Option (Slot × Value) :=
  d.parameters.findSome? fun p => if p.piped then (v.coerce? p.kind).map (p, ·) else none

/-- The binding of a piped value, if there is one (SPEC §4.3, step 3). -/
def ofPipe (d : Descriptor) : Option Value → Except Fault Binding
  | none => .ok (start d)
  | some v =>
    match pipeTarget? d v with
    | none => .error (.invalidPipe d.displayName v.describe)
    | some (p, w) =>
      let b := (start d).put p w
      .ok { b with vacant := b.vacant.filter (·.index ≠ p.index), fromPipe? := some p }

/-- A parameter bound to what an argument gives. -/
def putArgument (b : Binding) (p : Slot) (argument : Statement) (store : Store) :
    Except Fault Binding × Store :=
  match argument.argumentFor p store with
  | (.error fault, store') => (.error fault, store')
  | (.ok v, store') => (.ok (b.put p v), store')

/-- One item bound (SPEC §4.3, step 4). -/
def step (d : Descriptor) (b : Binding) (item : Item) (store : Store) :
    Except Fault Binding × Store :=
  match item with
  | .unknown name => (.error (.unknownParameter d.displayName name), store)
  | .switch p =>
    if b.isFromPipe p then (.error (.boundByPipe d.displayName p.name), store)
    else (.ok (b.put p (.ofBool true)), store)
  | .dangling p =>
    if b.isFromPipe p then (.error (.boundByPipe d.displayName p.name), store)
    else (.error (.missingValue d.displayName p.name p.kind), store)
  | .named p argument =>
    if b.isFromPipe p then (.error (.boundByPipe d.displayName p.name), store)
    else b.putArgument p argument store
  | .positional argument =>
    match b.vacant with
    | [] =>
      (.error (.unexpectedArgument d.displayName d.positional.length argument.mention), store)
    | p :: vacant => { b with vacant }.putArgument p argument store

/-- The items bound in order, up to the first fault. -/
def steps (d : Descriptor) (b : Binding) : List Item → Store → Except Fault Binding × Store
  | [], store => (.ok b, store)
  | item :: rest, store =>
    match b.step d item store with
    | (.error fault, store') => (.error fault, store')
    | (.ok b', store') => b'.steps d rest store'

/-- The slots of a binding that leaves no mandatory parameter unmet (SPEC §4.3, step 5). -/
def finish (d : Descriptor) (b : Binding) : Except Fault (List Value) :=
  match b.unmet with
  | [] => .ok b.slots
  | p :: _ => .error (.missingMandatory d.displayName p.name)

end Binding

/-- The values of a command's slots for a list of arguments and perhaps a piped value.  The
store keeps the variables that reading made, also when binding fails. -/
def Descriptor.bind (d : Descriptor) (args : List Statement) (piped? : Option Value)
    (store : Store) : Except Fault (List Value) × Store :=
  match Binding.ofPipe d piped? with
  | .error fault => (.error fault, store)
  | .ok b =>
    match b.steps d (d.items args) store with
    | (.error fault, store') => (.error fault, store')
    | (.ok b', store') => (b'.finish d, store')

end VerbNoun
