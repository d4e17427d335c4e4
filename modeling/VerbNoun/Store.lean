import VerbNoun.Table
import VerbNoun.Value.Basic
import VerbNoun.Fault
set_option autoImplicit false

/-!
# Store: the variables of a session (SPEC §3, §14)

Variables are made by assigning or by reading them; one that was only read is null.  A
store may reserve one name for the latest result, which can be read under that name and
not assigned.
-/

namespace VerbNoun

/-- Variables, the reserved name if there is one, and the latest result. -/
structure Store where
  vars : Table Value := .empty
  reserved? : Option String := none
  latest : Value := .null

namespace Store

/-- Whether a name is the reserved one. -/
def isReserved (s : Store) (name : String) : Bool := s.reserved? = some name

/-- The value under a name, if there is one. -/
def get? (s : Store) (name : String) : Option Value :=
  if s.isReserved name then some s.latest else s.vars.find? name

/-- The value under a name, with a variable made for it if there was none. -/
def read (s : Store) (name : String) : Value × Store :=
  match s.get? name with
  | some v => (v, s)
  | none => (.null, { s with vars := s.vars.insert name .null })

/-- Sets a variable. -/
def assign (s : Store) (name : String) (v : Value) : Except Fault Unit × Store :=
  if s.isReserved name then (.error (.readOnlyVariable name), s)
  else (.ok (), { s with vars := s.vars.insert name v })

/-- The store with a value noted as the latest result. -/
def record (s : Store) (v : Value) : Store := { s with latest := v }

/-- Whether a variable of that name was made; the reserved name is none. -/
def contains (s : Store) (name : String) : Bool := s.vars.contains name

end Store

end VerbNoun
