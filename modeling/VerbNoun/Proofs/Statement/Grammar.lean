import VerbNoun.Statement.Parser
import VerbNoun.Proofs.Reader
set_option autoImplicit false

/-!
# Grammar: the language of lines (SPEC §4.1)

The productions of a line, without an order among them and without a rule on how much a part
takes.  Two parts may touch, since blanks between them may be left out, so that a text can be
taken apart in more than one way: `a-1.5` is the command `a-1` with the argument `.5`, the
command `a` with the argument `-1.5`, and more.
-/

namespace VerbNoun

open Lang Number Text

namespace Grammar

/-! ## The smallest parts -/

/-- Identifier = (Letter | '_') (Letter | Digit | '_' | '-')* -/
inductive Identifier : Lang String
  | mk {c : Char} {cs : List Char} (hc : isLetter c = true ∨ c = '_')
      (hcs : ∀ d ∈ cs, isLetter d = true ∨ isNumeral d = true ∨ d = '_' ∨ d = '-') :
      Identifier (c :: cs) (String.ofList (c :: cs))

/-- Variable = '$' Identifier -/
def Variable : Lang String := After '$' Identifier

/-- ParameterFlag = '-' Identifier -/
def ParameterFlag : Lang String := After '-' Identifier

/-- QuotedString = '"' [^"]* '"' | ''' [^']* ''' -/
inductive QuotedString : Lang String
  | double {cs : List Char} (h : '"' ∉ cs) : QuotedString ('"' :: (cs ++ ['"'])) (String.ofList cs)
  | single {cs : List Char} (h : '\x27' ∉ cs) :
      QuotedString ('\x27' :: (cs ++ ['\x27'])) (String.ofList cs)

/-- Digit+ -/
def Digits (cs : List Char) : Prop := cs ≠ [] ∧ ∀ c ∈ cs, c.isDigit = true

/-- Decimal = Digit+ ('.' Digit+)? | '.' Digit+ -/
inductive Decimal : List Char → Prop
  | whole {ds : List Char} (hds : Digits ds) : Decimal ds
  | mixed {ds fs : List Char} (hds : Digits ds) (hfs : Digits fs) : Decimal (ds ++ '.' :: fs)
  | fraction {fs : List Char} (hfs : Digits fs) : Decimal ('.' :: fs)

/-- '-' Decimal | '+' Decimal | Decimal -/
inductive NumberLiteral : List Char → Prop
  | minus {cs : List Char} (h : Decimal cs) : NumberLiteral ('-' :: cs)
  | plus {cs : List Char} (h : Decimal cs) : NumberLiteral ('+' :: cs)
  | unsigned {cs : List Char} (h : Decimal cs) : NumberLiteral cs

/-- A number is a literal, and its value the number nearest to what the literal writes. -/
inductive Number : Lang Double
  | mk {cs : List Char} {x : Double} (h : NumberLiteral cs)
      (hx : Binary.ofText? .binary64 (String.ofList cs) = some x) : Number cs x

/-! ## Commands and statements -/

/-- Identifier | ParameterFlag | Variable | QuotedString | Number -/
inductive Argument : Lang Statement
  | word {cs : List Char} {text : String} (h : Identifier cs text) : Argument cs (.word text)
  | flag {cs : List Char} {name : String} (h : ParameterFlag cs name) : Argument cs (.flag name)
  | var {cs : List Char} {name : String} (h : Variable cs name) : Argument cs (.var name)
  | quoted {cs : List Char} {text : String} (h : QuotedString cs text) : Argument cs (.quoted text)
  | number {cs : List Char} {x : Double} (h : Number cs x) : Argument cs (.number x)

/-- The arguments of a command, each after blanks or none. -/
def Arguments : Lang (List Statement) := Star (Spaced Argument)

/-- Command = Identifier (Identifier | ParameterFlag | Variable | QuotedString | Number)* -/
inductive Command : Lang Call
  | mk {cs rest : List Char} {name : String} {args : List Statement} (hname : Identifier cs name)
      (hargs : Arguments rest args) : Command (cs ++ rest) ⟨name, args⟩

/-- '|' Command, with blanks or none around the bar. -/
def Stage : Lang Call := Marked '|' Command

/-- PipeChain = Command ('|' Command)+ -/
inductive PipeChain : Lang Statement
  | mk {cs rest : List Char} {first : Call} {calls : List Call} (hfirst : Command cs first)
      (hcalls : Star Stage rest calls) (hne : calls ≠ []) :
      PipeChain (cs ++ rest) (.pipe (first :: calls))

/-- '.' Identifier, with blanks or none around the point. -/
def Member : Lang String := Marked '.' Identifier

/-- Reflection = Variable ('.' Identifier)+ -/
inductive Reflection : Lang Statement
  | mk {cs rest : List Char} {name : String} {members : List String} (hname : Variable cs name)
      (hmembers : Star Member rest members) (hne : members ≠ []) :
      Reflection (cs ++ rest) (.reflect name members)

/-- PipeChain | Reflection | Command | Variable | QuotedString | Number -/
inductive Operand : Lang Statement
  | pipe {cs : List Char} {s : Statement} (h : PipeChain cs s) : Operand cs s
  | reflection {cs : List Char} {s : Statement} (h : Reflection cs s) : Operand cs s
  | command {cs : List Char} {call : Call} (h : Command cs call) : Operand cs (.command call)
  | var {cs : List Char} {name : String} (h : Variable cs name) : Operand cs (.var name)
  | quoted {cs : List Char} {text : String} (h : QuotedString cs text) : Operand cs (.quoted text)
  | number {cs : List Char} {x : Double} (h : Number cs x) : Operand cs (.number x)

/-- Assignment = Variable '=' (PipeChain | Reflection | Command | Variable | QuotedString |
Number) -/
inductive Assignment : Lang Statement
  | mk {cs rest : List Char} {name : String} {value : Statement} (hname : Variable cs name)
      (hvalue : Marked '=' Operand rest value) :
      Assignment (cs ++ rest) (.assign name value)

/-- Statement = Assignment | PipeChain | Reflection | Command | Variable | QuotedString |
Number -/
inductive Sentence : Lang Statement
  | assignment {cs : List Char} {s : Statement} (h : Assignment cs s) : Sentence cs s
  | operand {cs : List Char} {s : Statement} (h : Operand cs s) : Sentence cs s

/-- A line is a statement with blanks or none at both ends. -/
inductive Line : Lang Statement
  | mk {before cs after : List Char} {s : Statement} (hbefore : Blanks before)
      (h : Sentence cs s) (hafter : Blanks after) : Line (before ++ cs ++ after) s

end Grammar

end VerbNoun
