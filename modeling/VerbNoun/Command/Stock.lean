import VerbNoun.Command.Registry
set_option autoImplicit false

/-!
# Command: the stock commands (SPEC §13)

The seven commands that every console starts with: arithmetic, texts, and writing to the
host.
-/

namespace VerbNoun.Stock

open Number

variable {σ : Type}

/-- A field for a number. -/
abbrev numberField (name : String) (position : Int) (mandatory piped : Bool)
    (reach : σ → Double × (Double → σ)) : Field σ :=
  { name, position, mandatory, piped, kind := .float .f64, reach }

/-- A field for a text. -/
abbrev textField (name : String) (position : Int) (mandatory piped : Bool)
    (reach : σ → String × (String → σ)) : Field σ :=
  { name, position, mandatory, piped, kind := .string, reach }

/-- A field for an integer that is taken by name. -/
abbrev integerField (name : String)
    (reach : σ → IntKind.i32.Number × (IntKind.i32.Number → σ)) : Field σ :=
  { name, kind := .int .i32, reach }

/-- A switch. -/
abbrev switchField (name : String) (reach : σ → Bool × (Bool → σ)) : Field σ :=
  { name, kind := .bool, reach }

/-- A command that does nothing but give a value. -/
def giving (v : Value) : Outcome := { result := .ok v }

/-! ## Numbers -/

/-- The numbers that an operation takes. -/
structure Operands where
  a : Double := Kind.blank (.float .f64)
  b : Double := Kind.blank (.float .f64)

/-- The numbers of an operation by position; the first can be piped in. -/
def operands (mandatory : Bool) : List (Field Operands) :=
  [numberField "A" 0 mandatory true fun s => (s.a, fun a => { s with a }),
   numberField "B" 1 mandatory false fun s => (s.b, fun b => { s with b })]

/-- The sum of two numbers. -/
def addNumber : Declaration where
  typeName := "AddNumber"
  name? := some ("Add", "Number")
  State := Operands
  initial := {}
  fields := operands true
  process := fun s _ => giving (.ofDouble (Binary.add s.a s.b))

/-- The difference of two numbers. -/
def subtractNumber : Declaration where
  typeName := "SubtractNumber"
  name? := some ("Subtract", "Number")
  State := Operands
  initial := {}
  fields := operands true
  process := fun s _ => giving (.ofDouble (Binary.sub s.a s.b))

/-- The product of two numbers. -/
def multiplyNumber : Declaration where
  typeName := "MultiplyNumber"
  name? := some ("Multiply", "Number")
  State := Operands
  initial := {}
  fields := operands false
  process := fun s _ => giving (.ofDouble (Binary.mul s.a s.b))

/-- The numbers of a division, and whether it goes the other way round. -/
structure Division extends Operands where
  flip : Bool := false

/-- The quotient of two numbers, either way round. -/
def divideNumber : Declaration where
  typeName := "DivideNumber"
  name? := some ("Divide", "Number")
  State := Division
  initial := {}
  fields :=
    [numberField "A" 0 false true fun s => (s.a, fun a => { s with a }),
     numberField "B" 1 false false fun s => (s.b, fun b => { s with b }),
     switchField "Flip" fun s => (s.flip, fun flip => { s with flip })]
  process := fun s _ =>
    giving (.ofDouble (if s.flip then Binary.div s.b s.a else Binary.div s.a s.b))

/-! ## Texts -/

/-- The characters of a text from an index on, at most `length` of them, or all if that is
negative. -/
def substring (text : String) (index length : Int) : Except String String :=
  let cs := text.toList
  if 0 ≤ index ∧ index ≤ cs.length then
    let rest := cs.drop index.toNat
    .ok (String.ofList (if 0 ≤ length then rest.take length.toNat else rest))
  else
    .error ("Index " ++ index.repr ++ " is outside of '" ++ text ++ "' (" ++ cs.length.repr
      ++ " characters)")

/-- A text, and which part of it is meant. -/
structure Excerpt where
  text : String := ""
  index : IntKind.i32.Number := Kind.blank (.int .i32)
  length : IntKind.i32.Number := ⟨-1, by decide⟩

/-- A part of a text. -/
def getSubstring : Declaration where
  typeName := "GetSubstring"
  name? := some ("Get", "Substring")
  State := Excerpt
  initial := {}
  fields :=
    [textField "Text" 0 true true fun s => (s.text, fun text => { s with text }),
     integerField "Index" fun s => (s.index, fun index => { s with index }),
     integerField "Length" fun s => (s.length, fun length => { s with length })]
  process := fun s _ => { result := (substring s.text s.index.val s.length.val).map .ofText }

/-- Two texts, and what goes between them. -/
structure Junction where
  a : String := ""
  b : String := ""
  separator : String := ""

/-- Two texts with a separator between them. -/
def joinText : Declaration where
  typeName := "JoinText"
  name? := some ("Join", "Text")
  State := Junction
  initial := {}
  fields :=
    [textField "A" 0 true true fun s => (s.a, fun a => { s with a }),
     textField "B" 1 true false fun s => (s.b, fun b => { s with b }),
     textField "Separator" (-1) false false fun s =>
       (s.separator, fun separator => { s with separator })]
  process := fun s _ => giving (.ofText (s.a ++ s.separator ++ s.b))

/-! ## Writing -/

/-- A message, and the switches that pick its channel. -/
structure Message where
  message : String := ""
  debug : Bool := false
  error : Bool := false

/-- Writes a message to the host, to the channel that a switch picks. -/
def writeHost : Declaration where
  typeName := "WriteHost"
  name? := some ("Write", "Host")
  State := Message
  initial := {}
  fields :=
    [textField "Message" 0 true true fun s => (s.message, fun message => { s with message }),
     switchField "Debug" fun s => (s.debug, fun debug => { s with debug }),
     switchField "Error" fun s => (s.error, fun error => { s with error })]
  process := fun s host =>
    let write : Write :=
      if s.error then ⟨.error, s.message⟩
      else if s.debug then ⟨.debug, s.message⟩
      else ⟨.output, host.paint .text s.message⟩
    { writes := [write], result := .ok .null }

/-- The stock commands in the order in which they are added. -/
def all : List Declaration :=
  [addNumber, subtractNumber, multiplyNumber, divideNumber, getSubstring, joinText, writeHost]

/-- The registry of the stock commands. -/
def registry : Registry := (Registry.registerAll {} all).1

end VerbNoun.Stock
