set_option autoImplicit false

/-!
# Files: a tree of files and what is done with it (SPEC §17, §19)

A path is followed name by name through directories that have to be there.  Nothing is said
of links or of rights: whatever is there can be read, and every directory can be written to.
-/

namespace VerbNoun.Files

/-- Where something is: the names that lead to it from the root. -/
abbrev Place := List String

/-- A file, or a directory with what is in it by name. -/
inductive Tree where
  | file (content : String)
  | directory (entries : List (String × Tree))

namespace Tree

/-- Whether a tree is a directory. -/
def isDirectory : Tree → Bool
  | .directory _ => true
  | .file _ => false

/-- What is found below a directory under the names of a place. -/
def find? : Tree → Place → Option Tree
  | t, [] => some t
  | .file _, _ :: _ => none
  | .directory entries, name :: rest =>
    match List.lookup name entries with
    | none => none
    | some t => t.find? rest

/-- The tree with something put at a place below it.  Directories on the way that are not
there are made; below a file there is no place. -/
def put : Tree → Place → Tree → Tree
  | _, [], new => new
  | .file content, _ :: _, _ => .file content
  | .directory entries, name :: rest, new =>
    match List.lookup name entries with
    | none => .directory (entries ++ [(name, put (.directory []) rest new)])
    | some t =>
      .directory (entries.map fun e => if e.1 = name then (name, t.put rest new) else e)

end Tree

/-- All files, and the directory that a path starts from if it does not start from the root. -/
structure Disk where
  root : Tree := .directory []
  home : Place := []

/-- Why an operation is refused. -/
inductive Refusal where
  | missing
  | alreadyThere
  | notDirectory
  | isDirectory
  | nameTooLong
  | nullCharacter
  deriving DecidableEq, Repr

/-- The text that reports a refusal. -/
def Refusal.message : Refusal → String
  | .missing => "No such file or directory (os error 2)"
  | .alreadyThere => "File exists (os error 17)"
  | .notDirectory => "Not a directory (os error 20)"
  | .isDirectory => "Is a directory (os error 21)"
  | .nameTooLong => "File name too long (os error 36)"
  | .nullCharacter => "file name contained an unexpected NUL byte"

/-! ## Paths -/

/-- How many bytes a name may have. -/
def maxName : Nat := 255

/-- How many bytes a path may have. -/
def maxPath : Nat := 4095

/-- The stretches between the slashes of a path. -/
def stretches : List Char → List (List Char)
  | [] => [[]]
  | '/' :: cs => [] :: stretches cs
  | c :: cs =>
    match stretches cs with
    | [] => [[c]]
    | first :: others => (c :: first) :: others

/-- The steps of a path, one for each stretch between slashes. -/
def steps (path : String) : List String := (stretches path.toList).map String.ofList

/-- Whether a step stays in its directory. -/
def isIdle (step : String) : Bool := step = "" || step = "."

/-- The path of a name in a directory. -/
def join (directory name : String) : String :=
  match directory.toList.getLast? with
  | none => name
  | some '/' => directory ++ name
  | some _ => directory ++ "/" ++ name

/-- What is wrong with a path wherever it leads. -/
def objection? (path : String) : Option Refusal :=
  if path.toList.contains '\x00' then some .nullCharacter
  else if path.isEmpty then some .missing
  else if maxPath < path.utf8ByteSize then some .nameTooLong
  else none

namespace Disk

variable (d : Disk)

/-- What is found at a place. -/
def find? (place : Place) : Option Tree := d.root.find? place

/-- Whether a directory is at a place. -/
def hasDirectory (place : Place) : Bool := (d.find? place).any (·.isDirectory)

/-- The disk with something put at a place. -/
def put (place : Place) (new : Tree) : Disk := { d with root := d.root.put place new }

/-- Where a path starts from. -/
def origin (path : String) : Place :=
  match path.toList with
  | '/' :: _ => []
  | _ => d.home

/-- The place that steps lead to.  Every step is taken in a directory, also one that stays
there. -/
def follow : Place → List String → Except Refusal Place
  | here, [] => .ok here
  | here, step :: rest =>
    if !d.hasDirectory here then .error .notDirectory
    else if isIdle step then follow here rest
    else if step = ".." then follow here.dropLast rest
    else if maxName < step.utf8ByteSize then .error .nameTooLong
    else if (d.find? (here ++ [step])).isNone then .error .missing
    else follow (here ++ [step]) rest

/-- The content of the file under a path. -/
def read (path : String) : Except Refusal String :=
  match objection? path with
  | some r => .error r
  | none =>
    match d.follow (d.origin path) (steps path) with
    | .error r => .error r
    | .ok place =>
      match d.find? place with
      | some (.file content) => .ok content
      | _ => .error .isDirectory

/-- Makes the directories that steps lead to from a directory, `making` if one has been made
before.  A file on the way is in the way: as long as nothing has been made it is taken for a
directory that it is not, and then for one that should be made.  What was made before stays. -/
def makeFrom (d : Disk) (making : Bool) : Place → List String → Except Refusal Unit × Disk
  | _, [] => (.ok (), d)
  | here, step :: rest =>
    if isIdle step then makeFrom d making here rest
    else if step = ".." then makeFrom d making here.dropLast rest
    else if maxName < step.utf8ByteSize then (.error .nameTooLong, d)
    else
      match d.find? (here ++ [step]) with
      | none => makeFrom (d.put (here ++ [step]) (.directory [])) true (here ++ [step]) rest
      | some (.directory _) => makeFrom d making (here ++ [step]) rest
      | some (.file _) =>
        (.error (if making || rest.all isIdle then .alreadyThere else .notDirectory), d)

/-- Makes the directory under a path, with all those that it is in. -/
def makeDirectories (path : String) : Except Refusal Unit × Disk :=
  match objection? path with
  | some r => (.error r, d)
  | none => d.makeFrom false (d.origin path) (steps path)

/-- Writes a file under a name in a directory that is there, and says where. -/
def write (directory name content : String) : Except Refusal Place × Disk :=
  match objection? (join directory name) with
  | some r => (.error r, d)
  | none =>
    match d.follow (d.origin directory) (steps directory ++ [""]) with
    | .error r => (.error r, d)
    | .ok here =>
      let place := here ++ [name]
      if d.hasDirectory place then (.error .isDirectory, d)
      else (.ok place, d.put place (.file content))

end Disk

end VerbNoun.Files
