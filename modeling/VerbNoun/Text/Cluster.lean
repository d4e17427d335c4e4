import VerbNoun.Text.Joining
set_option autoImplicit false

/-!
# Text: clusters

A text is cut into clusters, the stretches that a reader takes for one character each.
Whether a cluster goes on at a character depends on the one before it, and in a few cases
on what led up to that one: the joined pictographs, the linked consonants and the flags.
-/

namespace VerbNoun.Text

/-- What precedes a place in a text, as far as it decides whether a cluster goes on there. -/
structure Context where
  /-- The part of the latest character. -/
  last : Joining
  /-- A pictograph with extenders after it ends here, perhaps with a joiner after those. -/
  pictured : Bool
  /-- A consonant with marks after it ends here. -/
  conjoined : Bool
  /-- Among these marks is a linker. -/
  linked : Bool
  /-- An odd number of halves of flags ends here. -/
  halved : Bool

namespace Context

/-- After the first character of a text. -/
def first (j : Joining) : Context where
  last := j
  pictured := j = .pictograph
  conjoined := j = .consonant
  linked := false
  halved := j = .indicator

/-- After one more character. -/
def push (ctx : Context) (j : Joining) : Context where
  last := j
  pictured := j = .pictograph || (ctx.pictured && ctx.last ≠ .joiner
    && (j = .extender || j = .linker || j = .nonJoiner || j = .joiner))
  conjoined := j = .consonant || (ctx.conjoined
    && (j = .extender || j = .linker || j = .joiner))
  linked := ctx.conjoined && (j = .linker || (ctx.linked && (j = .extender || j = .joiner)))
  halved := j = .indicator && !ctx.halved

/-- Whether a character goes on with the cluster before it. -/
def joins (ctx : Context) (j : Joining) : Bool :=
  match ctx.last, j with
  | .carriageReturn, .lineFeed => true
  | .carriageReturn, _ | .lineFeed, _ | .control, _ => false
  | _, .carriageReturn | _, .lineFeed | _, .control => false
  | .leading, .leading | .leading, .vowel | .leading, .openBlock | .leading, .closedBlock => true
  | .openBlock, .vowel | .openBlock, .trailing | .vowel, .vowel | .vowel, .trailing => true
  | .closedBlock, .trailing | .trailing, .trailing => true
  | _, .extender | _, .linker | _, .nonJoiner | _, .joiner | _, .spacing => true
  | .prepended, _ => true
  | _, .consonant => ctx.linked
  | .joiner, .pictograph => ctx.pictured
  | .indicator, .indicator => ctx.halved
  | _, _ => false

end Context

/-- The rest of a cluster, and the clusters after it. -/
def clustersFrom (ctx : Context) : List Char → List Char × List (List Char)
  | [] => ([], [])
  | c :: cs =>
    let (rest, others) := clustersFrom (ctx.push (joining c)) cs
    if ctx.joins (joining c) then (c :: rest, others) else ([], (c :: rest) :: others)

/-- The clusters of a text. -/
def clusters : List Char → List (List Char)
  | [] => []
  | c :: cs =>
    let (rest, others) := clustersFrom (.first (joining c)) cs
    (c :: rest) :: others

end VerbNoun.Text
