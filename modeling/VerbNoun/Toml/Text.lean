import VerbNoun.Reader
set_option autoImplicit false

/-!
# Toml: blanks, comments, texts and keys (SPEC §17)

The small parts of a document.  No control character may stand in it, but for tabs and line
ends, and a carriage return only as part of a line end.
-/

namespace VerbNoun.Toml

/-- A blank within a line. -/
def isSpace (c : Char) : Bool := c = ' ' || c = '\t'

/-- A character that may stand in a comment or a text. -/
def isVisible (c : Char) : Bool := c = '\t' || (' ' ≤ c && c ≠ '\x7f')

/-- The characters after the blanks of a line. -/
def skipSpace (cs : List Char) : List Char := cs.dropWhile isSpace

/-- A line end. -/
def lineEnd : Reader (List Char)
  | '\n' :: cs => some (['\n'], cs)
  | '\r' :: '\n' :: cs => some (['\r', '\n'], cs)
  | _ => none

/-- A comment, up to the end of its line. -/
def comment : Reader Unit
  | '#' :: cs => some ((), cs.dropWhile isVisible)
  | _ => none

/-- The characters after blanks and line ends. -/
def skipSpaceAndLineEnds : List Char → List Char
  | '\n' :: cs => skipSpaceAndLineEnds cs
  | '\r' :: '\n' :: cs => skipSpaceAndLineEnds cs
  | c :: cs => if isSpace c then skipSpaceAndLineEnds cs else c :: cs
  | [] => []

/-- The characters after blanks, line ends and comments, `commented` if they begin within a
comment. -/
def skipFillerFrom : Bool → List Char → List Char
  | _, '\n' :: cs => skipFillerFrom false cs
  | _, '\r' :: '\n' :: cs => skipFillerFrom false cs
  | commented, c :: cs =>
    if commented && isVisible c then skipFillerFrom true cs
    else if commented then c :: cs
    else if c = '#' then skipFillerFrom true cs
    else if isSpace c then skipFillerFrom false cs
    else c :: cs
  | _, [] => []

/-- The characters after blanks, line ends and comments. -/
def skipFiller (cs : List Char) : List Char := skipFillerFrom false cs

/-! ## Texts -/

/-- The value of a hexadecimal digit. -/
def hexValue? (c : Char) : Option Nat :=
  if c.isDigit then some (c.toNat - '0'.toNat)
  else if 'a' ≤ c && c ≤ 'f' then some (c.toNat - 'a'.toNat + 10)
  else if 'A' ≤ c && c ≤ 'F' then some (c.toNat - 'A'.toNat + 10)
  else none

/-- The character with a code point in hexadecimal digits. -/
def codePoint? (ds : List Char) : Option Char :=
  match ds.mapM hexValue? with
  | none => none
  | some vs =>
    let n := vs.foldl (fun n v => 16 * n + v) 0
    if n < 0xD800 || (0xDFFF < n && n < 0x110000) then some (Char.ofNat n) else none

/-- The character with a code point in a fixed number of hexadecimal digits. -/
def codePoint (width : Nat) : Reader Char := fun cs =>
  if cs.length < width then none
  else (codePoint? (cs.take width)).map fun c => (c, cs.drop width)

/-- An escape, after its backslash. -/
def escaped : Reader Char
  | 'b' :: cs => some ('\x08', cs)
  | 't' :: cs => some ('\t', cs)
  | 'n' :: cs => some ('\n', cs)
  | 'f' :: cs => some ('\x0c', cs)
  | 'r' :: cs => some ('\r', cs)
  | 'e' :: cs => some ('\x1b', cs)
  | '"' :: cs => some ('"', cs)
  | '\\' :: cs => some ('\\', cs)
  | 'x' :: cs => codePoint 2 cs
  | 'u' :: cs => codePoint 4 cs
  | 'U' :: cs => codePoint 8 cs
  | _ => none

/-- Reads parts up to the closing characters, and gives their characters. -/
def enclosed (part : Reader (List Char)) (closing : List Char) : Reader String := fun cs =>
  let (parts, rest) := part.many cs
  if closing.isPrefixOf rest then some (String.ofList parts.flatten, rest.drop closing.length)
  else none

/-- A character that stands for itself between quotes of one sort. -/
def plainPart (isSpecial : Char → Bool) : Reader (List Char)
  | c :: cs => if isVisible c && !isSpecial c then some ([c], cs) else none
  | [] => none

/-- An escape with its backslash. -/
def escapePart : Reader (List Char) := (escaped.map fun c => [c]).after '\\'

/-- A text between double quotes on one line. -/
def basicText : Reader String :=
  (enclosed (escapePart.orElse (plainPart fun c => c = '"' || c = '\\')) ['"']).after '"'

/-- A text between single quotes on one line, without escapes. -/
def literalText : Reader String :=
  (enclosed (plainPart (· = '\x27')) ['\x27']).after '\x27'

/-- A quote inside a text of several lines.  Three in a row close the text, and up to two
more before them belong to it. -/
def quotePart (quote : Char) : Reader (List Char) := fun cs =>
  let run := (cs.takeWhile (· = quote)).length
  if run = 1 || run = 2 || run = 4 || run = 5 then some ([quote], cs.drop 1) else none

/-- A backslash at the end of a line, which joins the next line that is not blank. -/
def joinPart : Reader (List Char) := Reader.after '\\' fun cs =>
  match lineEnd (skipSpace cs) with
  | none => none
  | some (_, rest) => some ([], skipSpaceAndLineEnds rest)

/-- The characters after a line end that directly follows the opening quotes. -/
def skipFirstLineEnd (cs : List Char) : List Char :=
  match lineEnd cs with
  | some (_, rest) => rest
  | none => cs

/-- A text of several lines between three quotes. -/
def longText (quote : Char) (part : Reader (List Char)) : Reader String := fun cs =>
  let marks := [quote, quote, quote]
  if marks.isPrefixOf cs then
    enclosed (part.orElse (lineEnd.orElse (quotePart quote))) marks (skipFirstLineEnd (cs.drop 3))
  else none

/-- A text of any form. -/
def anyText : Reader String :=
  (longText '"' (joinPart.orElse (escapePart.orElse (plainPart fun c => c = '"' || c = '\\'))))
    |>.orElse (longText '\x27' (plainPart (· = '\x27')))
    |>.orElse basicText
    |>.orElse literalText

/-! ## Keys -/

/-- A character of a key without quotes. -/
def isBareKey (c : Char) : Bool := c.isAlphanum || c = '_' || c = '-'

/-- One part of a key. -/
def keyPart : Reader String := fun cs =>
  match cs.takeWhile isBareKey with
  | [] => (basicText.orElse literalText) cs
  | name => some (String.ofList name, cs.dropWhile isBareKey)

/-- How many parts a key may have. -/
def maxKeyParts : Nat := 80

/-- A key: its parts with points between them, the last one apart. -/
def key : Reader (List String × String) := fun cs =>
  match keyPart cs with
  | none => none
  | some (first, rest) =>
    let next : Reader String := fun cs =>
      Reader.after '.' (fun cs => keyPart (skipSpace cs)) (skipSpace cs)
    let (parts, rest') := next.upTo maxKeyParts rest
    let all := first :: parts
    if all.length ≤ maxKeyParts then some ((all.dropLast, all.getLastD first), rest') else none

end VerbNoun.Toml
