import VerbNoun.Value.Basic
import VerbNoun.Text.UpperCase
import VerbNoun.Text.LowerCase
set_option autoImplicit false

/-!
# Command: parameters and descriptors (SPEC §3, §12)

A command takes its parameters by position or by name.  A descriptor holds both lists,
the positional ones in the order of their positions, and each parameter knows the slot
that its value goes to, which is its place in the declaration.
-/

namespace VerbNoun

open Text

/-- How a parameter is called. -/
structure Attributes where
  name : String
  /-- The place among the positional parameters; a negative one means by name only. -/
  position : Int := -1
  mandatory : Bool := false
  /-- Whether the parameter may take a piped value. -/
  piped : Bool := false

/-- A parameter of a command. -/
structure Parameter extends Attributes where
  kind : Kind
  /-- What the parameter holds when nothing is given. -/
  initial : Value

namespace Parameter

/-- Whether the parameter is taken by position. -/
def isPositional (p : Parameter) : Bool := 0 ≤ p.position

/-- Whether naming the parameter is enough to set it. -/
def isSwitch (p : Parameter) : Bool := p.kind = .bool

end Parameter

/-- A parameter with the slot for its value. -/
structure Slot extends Parameter where
  index : Nat

/-- A parameter put in front of the first that has no lower position. -/
def Slot.insertByPosition (p : Slot) : List Slot → List Slot
  | [] => [p]
  | q :: qs => if p.position ≤ q.position then p :: q :: qs else q :: insertByPosition p qs

/-- Parameters in the order of their positions; equal positions stay in order. -/
def Slot.sortByPosition (ps : List Slot) : List Slot := ps.foldr Slot.insertByPosition []

/-- What is known of a command for calling it. -/
structure Descriptor where
  verb : String
  noun : String
  /-- The name under which commands are told apart. -/
  canonicalName : String
  positional : List Slot
  named : List Slot

namespace Descriptor

/-- The name as declared. -/
def displayName (d : Descriptor) : String := d.verb ++ "-" ++ d.noun

/-- All parameters, the positional ones first. -/
def parameters (d : Descriptor) : List Slot := d.positional ++ d.named

/-- How many slots the parameters have. -/
def slotCount (d : Descriptor) : Nat := d.positional.length + d.named.length

/-- The slots before anything is given. -/
def initialSlots (d : Descriptor) : List Value :=
  d.parameters.foldl (fun slots p => slots.set p.index p.initial)
    (List.replicate d.slotCount .null)

/-- The first named parameter of that name, whatever the case of its letters. -/
def findNamed? (d : Descriptor) (name : String) : Option Slot :=
  d.named.find? fun p => lower p.name = lower name

/-- A part of the usage, in brackets if it may be left out. -/
def usagePart (p : Slot) (text : String) : String :=
  if p.mandatory then text else "[" ++ text ++ "]"

/-- The parameters as the usage of a command shows them. -/
def usageParts (d : Descriptor) : List String :=
  let byPosition := d.positional.map fun p =>
    usagePart p ("<" ++ p.name ++ ":" ++ p.kind.name ++ ">")
  let byName := d.named.map fun p =>
    usagePart p (if p.isSwitch then "-" ++ p.name else "-" ++ p.name ++ " <" ++ p.kind.name ++ ">")
  byPosition ++ byName

/-- The usage of a command in one line. -/
def usage (d : Descriptor) : String := String.intercalate " " (d.displayName :: d.usageParts)

/-- The descriptor of a command with these parameters: its canonical name is in upper case,
slots are numbered in the order of declaration, and positional parameters sorted by
position, equal positions staying in that order. -/
def ofParameters (verb noun : String) (parameters : List Parameter) : Descriptor :=
  let slots := parameters.zipIdx.map fun (p, i) => ({ toParameter := p, index := i } : Slot)
  let (positional, named) := slots.partition (·.isPositional)
  ⟨verb, noun, upper verb ++ "-" ++ upper noun, Slot.sortByPosition positional, named⟩

end Descriptor

end VerbNoun
