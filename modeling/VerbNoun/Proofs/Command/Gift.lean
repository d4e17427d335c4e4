import VerbNoun.Command.Binding
import VerbNoun.Proofs.Store
set_option autoImplicit false

/-!
# Command: what a call gives to its parameters (SPEC §4.3)

What a list of arguments means to a command, said without binding anything: how the list falls
into parts, which parameter takes the piped value, which argument each of the others is given,
and when all of this goes well.  Variables stand for what the store held at first.
-/

namespace VerbNoun

open Text

/-! ## Arguments -/

/-- Whether an argument is a flag. -/
def Statement.isFlag : Statement → Bool
  | .flag _ => true
  | _ => false

/-- What an argument stands for.  Words and texts are texts, a variable that is not set is null,
and anything but an argument by itself stands for nothing. -/
def Statement.value? (store : Store) : Statement → Option Value
  | .word text => some (.ofText text)
  | .quoted text => some (.ofText text)
  | .number x => some (.ofDouble x)
  | .var name => some (store.value name)
  | _ => none

/-- The store after an argument was looked at: a variable is there then. -/
def Statement.visit (store : Store) : Statement → Store
  | .var name => (store.read name).2
  | _ => store

/-- An argument given to a parameter, or none, which turns a switch on. -/
structure Gift where
  parameter : Slot
  argument? : Option Statement

/-- What a gift leaves in the slot of its parameter, if the argument has a value that fits. -/
def Gift.value? (store : Store) (g : Gift) : Option Value :=
  match g.argument? with
  | none => some (.ofBool true)
  | some argument => (argument.value? store).bind (·.coerce? g.parameter.kind)

/-- The store after the argument of a gift was looked at. -/
def Gift.visit (store : Store) (g : Gift) : Store :=
  match g.argument? with
  | none => store
  | some argument => argument.visit store

/-! ## Parts -/

/-- A part of an argument list. -/
inductive Part where
  /-- An argument by position. -/
  | positional (argument : Statement)
  /-- A flag that stands alone. -/
  | lone (name : String)
  /-- A flag with the argument after it, if there is one. -/
  | valued (name : String) (argument? : Option Statement)

/-- The argument of a part by position. -/
def Part.argument? : Part → Option Statement
  | .positional argument => some argument
  | _ => none

/-- The name and the argument of a part by name. -/
def Part.flag? : Part → Option (String × Option Statement)
  | .positional _ => none
  | .lone name => some (name, none)
  | .valued name argument? => some (name, argument?)

namespace Descriptor

/-- The parameter that a flag names: the first of those by name whose name is the same in lower
case. -/
def called? (d : Descriptor) (name : String) : Option Slot :=
  (d.named.filter fun p => lower p.name = lower name).head?

/-- The parts of an argument list.  A flag that names a truth value stands alone, any other takes
the argument after it, whatever that is, and all else is by position. -/
def parts (d : Descriptor) : List Statement → List Part
  | [] => []
  | .flag name :: rest =>
    if (d.called? name).any (·.kind = .bool) then .lone name :: d.parts rest
    else
      match rest with
      | [] => [.valued name none]
      | argument :: rest' => .valued name (some argument) :: d.parts rest'
  | argument :: rest => .positional argument :: d.parts rest

/-- The parameter that takes a piped value, with the value as it takes it: the first that may be
piped to and whose kind the value moves to. -/
def taker? (d : Descriptor) (piped? : Option Value) : Option (Slot × Value) :=
  piped?.bind fun v =>
    ((d.parameters.filter (·.piped)).filterMap fun p => (v.coerce? p.kind).map (p, ·)).head?

/-- Whether a parameter is the one that takes the piped value. -/
def takes (taker? : Option (Slot × Value)) (p : Slot) : Bool :=
  taker?.any (·.1.index = p.index)

/-- The parameters by position that arguments may go to. -/
def vacant (d : Descriptor) (taker? : Option (Slot × Value)) : List Slot :=
  d.positional.filter fun p => !takes taker? p

/-- The arguments by position, given to the vacant parameters in order. -/
def giftsByPosition (vacant : List Slot) (parts : List Part) : List Gift :=
  (vacant.zip (parts.filterMap Part.argument?)).map fun (p, argument) => ⟨p, some argument⟩

/-- The arguments by name, given to the parameters that are named. -/
def giftsByName (d : Descriptor) (parts : List Part) : List Gift :=
  (parts.filterMap Part.flag?).filterMap fun (name, argument?) =>
    (d.called? name).map (⟨·, argument?⟩)

/-- The gifts of an argument list. -/
def gifts (d : Descriptor) (vacant : List Slot) (parts : List Part) : List Gift :=
  giftsByPosition vacant parts ++ d.giftsByName parts

/-- What the slot of a parameter holds in the end: the piped value, or what the last gift leaves,
or else the initial value. -/
def heldBy (taker? : Option (Slot × Value)) (gifts : List Gift) (store : Store) (p : Slot) :
    Option Value :=
  if takes taker? p then taker?.map (·.2)
  else
    match (gifts.filter (·.parameter.index = p.index)).getLast? with
    | some g => g.value? store
    | none => some p.initial

/-- The flags and arguments of a list can be told apart and handed out. -/
structure Allots (d : Descriptor) (taker? : Option (Slot × Value)) (vacant : List Slot)
    (parts : List Part) : Prop where
  /-- Every flag names a parameter, and not the one that takes the piped value. -/
  known : ∀ flag ∈ parts.filterMap Part.flag?,
    ∃ p, d.called? flag.1 = some p ∧ takes taker? p = false
  /-- Every flag that does not stand alone is followed by an argument, and not by a flag. -/
  followed : ∀ name argument?, .valued name argument? ∈ parts →
    ∃ argument, argument? = some argument ∧ argument.isFlag = false
  /-- There are parameters for all arguments by position. -/
  room : (parts.filterMap Part.argument?).length ≤ vacant.length

/-- The slots that a call leaves its command. -/
structure Binds (d : Descriptor) (args : List Statement) (piped? : Option Value) (store : Store)
    (slots : List Value) : Prop where
  /-- A piped value is taken. -/
  taken : piped?.isSome = true → (d.taker? piped?).isSome = true
  allots : d.Allots (d.taker? piped?) (d.vacant (d.taker? piped?)) (d.parts args)
  /-- Every argument has a value that fits its parameter. -/
  fits : ∀ g ∈ d.gifts (d.vacant (d.taker? piped?)) (d.parts args), (g.value? store).isSome = true
  /-- Every mandatory parameter takes the piped value or is given something. -/
  met : ∀ p ∈ d.parameters, p.mandatory = true → takes (d.taker? piped?) p = true ∨
    ∃ g ∈ d.gifts (d.vacant (d.taker? piped?)) (d.parts args), g.parameter.index = p.index
  /-- There is one slot for each parameter. -/
  length_eq : slots.length = d.slotCount
  /-- The slot of each parameter holds what is left there. -/
  held : ∀ p ∈ d.parameters, slots[p.index]? =
    heldBy (d.taker? piped?) (d.gifts (d.vacant (d.taker? piped?)) (d.parts args)) store p

end Descriptor

end VerbNoun
