import VerbNoun.Table
import VerbNoun.Fault
import VerbNoun.Text.Blank
import VerbNoun.Command.Declaration
set_option autoImplicit false

/-!
# Command: the registry (SPEC §4.2, §12)

A registry holds the commands of a console under their canonical names.  A declaration is
checked when it is added: it must have a name that is free, its positions must run from
zero without gaps or repeats, and a switch may not be mandatory, since it could then never
be off.
-/

namespace VerbNoun

open Text

/-- A command of a registry. -/
structure Command where
  descriptor : Descriptor
  declaration : Declaration

/-- Runs a command on the values of its slots. -/
def Command.invoke (c : Command) (slots : List Value) (host : Host) : Outcome :=
  c.declaration.invoke slots host

/-- The verb and noun of a declaration; neither may be blank. -/
def Declaration.names (d : Declaration) : Except Fault (String × String) :=
  match d.name? with
  | none => .error (.unnamedCommand d.typeName)
  | some (verb, noun) =>
    if isAllBlank verb || isAllBlank noun then .error (.unnamedCommand d.typeName)
    else .ok (verb, noun)

namespace Descriptor

/-- The first positional parameter whose position is not its place, if there is one. -/
def misplaced? (d : Descriptor) : Option Slot :=
  (d.positional.zipIdx.find? fun (p, i) => p.position ≠ i).map (·.1)

/-- The first mandatory switch, if there is one. -/
def mandatorySwitch? (d : Descriptor) : Option Slot :=
  d.parameters.find? fun p => p.isSwitch && p.mandatory

/-- Whether the parameters can be called as they are declared. -/
def check (d : Descriptor) : Except Fault Unit :=
  match d.misplaced? with
  | some p => .error (.invalidPosition d.displayName p.name p.position)
  | none =>
    match d.mandatorySwitch? with
    | some p => .error (.mandatorySwitch d.displayName p.name)
    | none => .ok ()

end Descriptor

/-- The commands of a console, by canonical name. -/
structure Registry where
  commands : Table Command := .empty

namespace Registry

/-- Adds a command, and gives its descriptor (SPEC §4.2). -/
def register (r : Registry) (d : Declaration) : Registry × Except Fault Descriptor :=
  match d.names with
  | .error fault => (r, .error fault)
  | .ok (verb, noun) =>
    let descriptor := Descriptor.ofParameters verb noun d.parameters
    if r.commands.contains descriptor.canonicalName then
      (r, .error (.duplicateCommand descriptor.displayName))
    else
      match descriptor.check with
      | .error fault => (r, .error fault)
      | .ok () => (⟨r.commands.insert descriptor.canonicalName ⟨descriptor, d⟩⟩, .ok descriptor)

/-- Adds commands up to the first that cannot be added; those before it stay. -/
def registerAll (r : Registry) : List Declaration → Registry × Except Fault Unit
  | [] => (r, .ok ())
  | d :: ds =>
    match r.register d with
    | (r', .error fault) => (r', .error fault)
    | (r', .ok _) => r'.registerAll ds

/-- The command of that name, whatever the case of its letters. -/
def find? (r : Registry) (name : String) : Option Command := r.commands.find? (upper name)

/-- The command of that name, or the fault that there is none. -/
def resolve (r : Registry) (name : String) : Except Fault Command :=
  match r.find? name with
  | some c => .ok c
  | none => .error (.unknownCommand name)

/-- Whether there is a command of that name. -/
def contains (r : Registry) (name : String) : Bool := (r.find? name).isSome

/-- How many commands there are. -/
def size (r : Registry) : Nat := r.commands.size

/-- The descriptors in the order of the canonical names. -/
def descriptors (r : Registry) : List Descriptor := r.commands.values.map (·.descriptor)

end Registry

end VerbNoun
