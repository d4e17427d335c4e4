import VerbNoun.Toml.Scalar
set_option autoImplicit false

/-!
# Toml: documents (SPEC §17)

A document is read line by line into pairs and headers, and the table of its values is built
from them in order.
-/

namespace VerbNoun.Toml

/-- How deep arrays and inline tables may be nested. -/
def maxDepth : Nat := 80

/-- A key, an equals sign and a value, with what `skip` passes over between them. -/
def pair (skip : List Char → List Char) (value : Reader Node) :
    Reader ((List String × String) × Node) := fun cs =>
  match key cs with
  | none => none
  | some (k, rest) =>
    match skip rest with
    | '=' :: rest' => (value (skip rest')).map fun (v, rest'') => ((k, v), rest'')
    | _ => none

/-- Items with commas between them, and perhaps one after the last, up to the closing
character.  Blanks, comments and line ends may stand anywhere among them. -/
def listed {α : Type} (item : Reader α) (closing : Char) : Reader (List α) := fun cs =>
  let finish (items : List α) (rest : List Char) : Option (List α × List Char) :=
    match skipFiller rest with
    | c :: rest' => if c = closing then some (items, rest') else none
    | [] => none
  match item (skipFiller cs) with
  | none => finish [] cs
  | some (first, rest) =>
    let next : Reader α := fun cs =>
      Reader.after ',' (fun cs => item (skipFiller cs)) (skipFiller cs)
    let (items, rest') := next.many rest
    match skipFiller rest' with
    | ',' :: rest'' => finish (first :: items) rest''
    | _ => finish (first :: items) rest'

/-- The inline table of pairs. -/
def inlineTable (pairs : List ((List String × String) × Node)) : Option Node :=
  (pairs.foldlM (fun es ((path, k), v) => addPair path k v .inline es) []).map (.table .inline)

/-- A value that holds no others. -/
def simpleValue : Reader Node := (anyText.map .string).orElse scalar

/-- A value, nested at most so deep. -/
def value : Nat → Reader Node
  | 0 => simpleValue
  | depth + 1 => fun cs =>
    match cs with
    | '[' :: rest => ((listed (value depth) ']').map (.array false)) rest
    | '\x7b' :: rest =>
      match listed (pair skipFiller (value depth)) '\x7d' rest with
      | none => none
      | some (pairs, rest') => (inlineTable pairs).map fun t => (t, rest')
    | _ => simpleValue cs

/-- What a line of a document says. -/
inductive Line where
  | empty
  /-- A value under a key. -/
  | pair (path : List String) (key : String) (value : Node)
  /-- The header of a table. -/
  | table (path : List String) (key : String)
  /-- The header of a table in an array. -/
  | item (path : List String) (key : String)

/-- A header between brackets. -/
def header (opening closing : List Char) (make : List String → String → Line) : Reader Line :=
  fun cs =>
    if opening.isPrefixOf cs then
      match key (skipSpace (cs.drop opening.length)) with
      | none => none
      | some ((path, k), rest) =>
        let rest' := skipSpace rest
        if closing.isPrefixOf rest' then some (make path k, rest'.drop closing.length) else none
    else none

/-- What stands on a line before its comment. -/
def content : Reader Line :=
  (header ['[', '['] [']', ']'] .item)
    |>.orElse (header ['['] [']'] .table)
    |>.orElse ((pair skipSpace (value maxDepth)).map fun ((path, k), v) => .pair path k v)

/-- A line up to its end. -/
def line : Reader Line := fun cs =>
  let start := skipSpace cs
  let (said, rest) := (content start).getD (.empty, start)
  let rest' := skipSpace rest
  match comment rest' with
  | some ((), rest'') => some (said, rest'')
  | none => some (said, rest')

/-- A line with its line end. -/
def endedLine : Reader Line := fun cs =>
  match line cs with
  | none => none
  | some (said, rest) => (lineEnd rest).map fun (_, rest') => (said, rest')

/-- The lines of a document. -/
def lines (cs : List Char) : Option (List Line) :=
  let (before, rest) := endedLine.many cs
  match line rest with
  | some (last, []) => some (before ++ [last])
  | _ => none

/-- The table that pairs go to, and the document so far. -/
structure Builder where
  current : List String := []
  entries : Entries := []

/-- The document with a line added. -/
def Builder.add (b : Builder) : Line → Option Builder
  | .empty => some b
  | .pair path k v =>
    (descend false (addPair path k v) b.current .header b.entries).map fun es =>
      { b with entries := es }
  | .table path k =>
    (descend false (fun _ es => openTable k es) path .header b.entries).map fun es =>
      ⟨path ++ [k], es⟩
  | .item path k =>
    (descend false (fun _ es => openItem k es) path .header b.entries).map fun es =>
      ⟨path ++ [k], es⟩

/-- The entries of a document, after a byte order mark if there is one. -/
def parse (text : String) : Option Entries :=
  let cs := match text.toList with
    | '\ufeff' :: rest => rest
    | cs => cs
  match lines cs with
  | none => none
  | some ls => (ls.foldlM Builder.add {}).map (·.entries)

end VerbNoun.Toml
