import VerbNoun.Value.Kind
set_option autoImplicit false

/-!
# Value: values and their coercion (SPEC §11)

A value is the null value or contents of some kind.  Coercion moves a value to a wanted
kind: a value of that kind stays as it is, and numbers move between the numeric kinds,
to an integer by rounding with halves to even and only within its range, to a
floating-point number by rounding to nearest.  A number of four bytes goes to an integer
by way of eight.
-/

namespace VerbNoun

open Number

namespace Kind

/-- Contents of one kind as contents of another. -/
def convert? : (k target : Kind) → k.Content → Option target.Content
  | .bool, .bool, b => some b
  | .string, .string, s => some s
  | .int _, .int t, n => t.ofInt? n.val
  | .int _, .float t, n => some (Binary.ofInt t.format n.val)
  | .float k, .int t, x => (k.widen x).toInt?.bind t.ofInt?
  | .float k, .float t, x => some (if h : k = t then h ▸ x else x.convert t.format)
  | _, _, _ => none

theorem convert?_self (k : Kind) (x : k.Content) : k.convert? k x = some x := by
  cases k with
  | bool => rfl
  | string => rfl
  | int k => exact k.ofInt?_val x
  | float k => simp [convert?]

end Kind

/-- A value: null, or contents of a kind. -/
inductive Value where
  | null
  | of (kind : Kind) (content : kind.Content)
  deriving DecidableEq

namespace Value

/-- A text. -/
abbrev ofText (s : String) : Value := .of .string s

/-- A floating-point number of the wide kind. -/
abbrev ofDouble (x : Double) : Value := .of (.float .f64) x

/-- A truth value. -/
abbrev ofBool (b : Bool) : Value := .of .bool b

/-- The kind of a value; the null value has none. -/
def kind? : Value → Option Kind
  | .null => none
  | .of k _ => some k

/-- Whether the value is null. -/
def isNull : Value → Bool
  | .null => true
  | .of _ _ => false

/-- The contents of a value of a given kind. -/
def content? (k : Kind) : Value → Option k.Content
  | .null => none
  | .of k' x => if h : k' = k then some (h ▸ x) else none

/-- The number a numeric value is nearest to. -/
def toDouble? : Value → Option Double
  | .of (.int _) n => some (Binary.ofInt .binary64 n.val)
  | .of (.float k) x => some (k.widen x)
  | _ => none

/-- The text of a value. -/
def render : Value → String
  | .null => "NULL"
  | .of k x => k.render x

/-- The value with its kind, as messages mention it. -/
def describe : Value → String
  | .null => "NULL"
  | .of k x => k.name ++ " '" ++ k.render x ++ "'"

/-- The value as one of the wanted kind; the null value has no kind to move from. -/
def coerce? (target : Kind) : Value → Option Value
  | .null => none
  | .of k x => (k.convert? target x).map (.of target)

theorem coerce?_self (k : Kind) (x : k.Content) : (Value.of k x).coerce? k = some (.of k x) := by
  simp [coerce?, Kind.convert?_self]

end Value

end VerbNoun
