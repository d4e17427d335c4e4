import VerbNoun.Number.Shortest
set_option autoImplicit false

/-!
# Value: kinds (SPEC §11)

Every value but the null value has one of twelve kinds: truth values, texts, eight
widths of integers and two of floating-point numbers.  A kind fixes the type of its
contents.
-/

namespace VerbNoun

open Number

/-- The integer kinds: signed and unsigned, of one to eight bytes. -/
inductive IntKind where
  | i8
  | i16
  | i32
  | i64
  | u8
  | u16
  | u32
  | u64
  deriving DecidableEq, Repr

namespace IntKind

/-- The least integer of the kind. -/
def least : IntKind → Int
  | .i8 => -128
  | .i16 => -32768
  | .i32 => -2147483648
  | .i64 => -9223372036854775808
  | .u8 => 0
  | .u16 => 0
  | .u32 => 0
  | .u64 => 0

/-- The greatest integer of the kind. -/
def greatest : IntKind → Int
  | .i8 => 127
  | .i16 => 32767
  | .i32 => 2147483647
  | .i64 => 9223372036854775807
  | .u8 => 255
  | .u16 => 65535
  | .u32 => 4294967295
  | .u64 => 18446744073709551615

/-- The integers of the kind. -/
abbrev Number (k : IntKind) : Type := { n : Int // k.least ≤ n ∧ n ≤ k.greatest }

/-- An integer as one of the kind, if it is in range. -/
def ofInt? (k : IntKind) (n : Int) : Option k.Number :=
  if h : k.least ≤ n ∧ n ≤ k.greatest then some ⟨n, h⟩ else none

theorem ofInt?_val (k : IntKind) (n : k.Number) : k.ofInt? n.val = some n := by
  simp [ofInt?, n.property]

theorem zero_mem (k : IntKind) : k.least ≤ 0 ∧ 0 ≤ k.greatest := by
  cases k <;> decide

/-- The name of the kind. -/
def name : IntKind → String
  | .i8 => "i8"
  | .i16 => "i16"
  | .i32 => "i32"
  | .i64 => "i64"
  | .u8 => "u8"
  | .u16 => "u16"
  | .u32 => "u32"
  | .u64 => "u64"

end IntKind

/-- The floating-point kinds: of four and of eight bytes. -/
inductive FloatKind where
  | f32
  | f64
  deriving DecidableEq, Repr

namespace FloatKind

/-- The format of the kind. -/
def format : FloatKind → Format
  | .f32 => .binary32
  | .f64 => .binary64

/-- A number of the kind in eight bytes, which hold all of both kinds. -/
def widen : (k : FloatKind) → Binary k.format → Double
  | .f32, x => x.convert .binary64
  | .f64, x => x

/-- The name of the kind. -/
def name : FloatKind → String
  | .f32 => "f32"
  | .f64 => "f64"

end FloatKind

/-- The kind of a value or of a parameter. -/
inductive Kind where
  | bool
  | string
  | int (kind : IntKind)
  | float (kind : FloatKind)
  deriving DecidableEq, Repr

namespace Kind

/-- The contents of values of a kind. -/
@[reducible]
def Content : Kind → Type
  | .bool => Bool
  | .string => String
  | .int k => k.Number
  | .float k => Binary k.format

/-- Contents of one kind can be compared. -/
instance : (k : Kind) → DecidableEq k.Content
  | .bool => inferInstanceAs (DecidableEq Bool)
  | .string => inferInstanceAs (DecidableEq String)
  | .int k => inferInstanceAs (DecidableEq k.Number)
  | .float k => inferInstanceAs (DecidableEq (Binary k.format))

/-- The name of the kind. -/
def name : Kind → String
  | .bool => "bool"
  | .string => "string"
  | .int k => k.name
  | .float k => k.name

/-- All kinds. -/
def all : List Kind :=
  [.bool, .string, .int .i8, .int .i16, .int .i32, .int .i64, .int .u8, .int .u16, .int .u32,
   .int .u64, .float .f32, .float .f64]

/-- The kind with a name. -/
def ofName? (s : String) : Option Kind := all.find? (·.name = s)

/-- Whether values of the kind are numbers. -/
def isNumeric : Kind → Bool
  | .bool => false
  | .string => false
  | .int _ => true
  | .float _ => true

/-- Whether a parameter of the kind may take a value of the other one at all: the same
kind, or any number for a number. -/
def accepts (k other : Kind) : Bool := k = other || (k.isNumeric && other.isNumeric)

/-- The contents of a field that nothing was put into: false, the empty text or zero. -/
def blank : (k : Kind) → k.Content
  | .bool => false
  | .string => ""
  | .int k => ⟨0, k.zero_mem⟩
  | .float k => Binary.ofInt k.format 0

/-- The text of contents: truth values by name, texts as they are, integers in decimal,
floating-point numbers with the shortest digits that read back. -/
def render : (k : Kind) → k.Content → String
  | .bool, b => if b then "true" else "false"
  | .string, s => s
  | .int _, n => n.val.repr
  | .float _, x => x.render

end Kind

end VerbNoun
