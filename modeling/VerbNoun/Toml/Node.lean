set_option autoImplicit false

/-!
# Toml: the values of a document (SPEC §17)

A document is a table of values.  A table remembers how it came about, since that decides
whether a later part of the document may add to it.
-/

namespace VerbNoun.Toml

/-- How a table came about. -/
inductive Origin where
  /-- A header names a table inside it. -/
  | implied
  /-- A dotted key goes through it. -/
  | dotted
  /-- A header names it, or it is the document. -/
  | header
  /-- It is written in braces, and complete. -/
  | inline
  deriving DecidableEq, Repr

/-- A value of a document.  Nothing here depends on which number a number is, only on
whether it is in range. -/
inductive Node where
  | string (text : String)
  | boolean (truth : Bool)
  /-- An integer or a floating-point number, `held` if it is in range. -/
  | number (held : Bool)
  /-- A date, a time or both. -/
  | moment
  /-- A list of values; `extensible` if headers make its tables. -/
  | array (extensible : Bool) (items : List Node)
  /-- Values by their keys, in the order of the document. -/
  | table (origin : Origin) (entries : List (String × Node))

mutual

/-- Whether every number in a value is in range. -/
def Node.isHeld : Node → Bool
  | .number held => held
  | .array _ items => areHeld items
  | .table _ entries => entriesAreHeld entries
  | _ => true

/-- Whether every number in a list of values is in range. -/
def areHeld : List Node → Bool
  | [] => true
  | v :: rest => v.isHeld && areHeld rest

/-- Whether every number in the values of a table is in range. -/
def entriesAreHeld : List (String × Node) → Bool
  | [] => true
  | (_, v) :: rest => v.isHeld && entriesAreHeld rest

end

/-- The entries of a table. -/
abbrev Entries := List (String × Node)

namespace Entries

/-- The entry of a key. -/
def find? (es : Entries) (key : String) : Option Node := List.lookup key es

/-- The entries with the value of a key changed. -/
def replace (es : Entries) (key : String) (v : Node) : Entries :=
  es.map fun e => if e.1 = key then (key, v) else e

end Entries

/-- Goes along a path of tables and changes the last one.  Tables on the way that are not
there are made.  The way goes through the latest table of an extensible array; a dotted key
goes through no other table that a header opened, and nothing goes into an inline table. -/
def descend (dotted : Bool) (change : Origin → Entries → Option Entries) :
    List String → Origin → Entries → Option Entries
  | [], origin, es => change origin es
  | key :: path, _, es =>
    match es.find? key with
    | none =>
      let origin := if dotted then .dotted else .implied
      (descend dotted change path origin []).map fun inner =>
        es ++ [(key, .table origin inner)]
    | some (.table origin inner) =>
      if origin = .inline || (dotted && origin = .header) then none
      else
        (descend dotted change path origin inner).map fun inner' =>
          es.replace key (.table origin inner')
    | some (.array true items) =>
      match items.getLast? with
      | some (.table origin inner) =>
        (descend dotted change path origin inner).map fun inner' =>
          es.replace key (.array true (items.dropLast ++ [.table origin inner']))
      | _ => none
    | some _ => none

/-- Adds a value under a dotted key to a table.  A key of one part may not go into a table
that dotted keys made, nor one of more parts into one that they did not make. -/
def addPair (path : List String) (key : String) (v : Node) (origin : Origin) (es : Entries) :
    Option Entries :=
  descend true
    (fun last inner =>
      if decide (last = .dotted) = path.isEmpty || (inner.find? key).isSome then none
      else some (inner ++ [(key, v)]))
    path origin es

/-- Opens the table of a header: it may have been implied before, and not more. -/
def openTable (key : String) (es : Entries) : Option Entries :=
  match es.find? key with
  | none => some (es ++ [(key, .table .header [])])
  | some (.table .implied inner) => some (es.replace key (.table .header inner))
  | some _ => none

/-- Opens a new table at the end of an extensible array. -/
def openItem (key : String) (es : Entries) : Option Entries :=
  match es.find? key with
  | none => some (es ++ [(key, .array true [.table .header []])])
  | some (.array true items) =>
    some (es.replace key (.array true (items ++ [.table .header []])))
  | some _ => none

end VerbNoun.Toml
