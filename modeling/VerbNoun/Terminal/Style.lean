set_option autoImplicit false

/-!
# Terminal: colours and other styles (SPEC §15, §19)

A styled text stands between a start sequence with the codes of the style and the reset
sequence.  Where the text holds a reset itself, the start sequence follows it, so that the
style goes on.  Stripping removes every sequence that sets a style and nothing else.
-/

namespace VerbNoun.Terminal

/-- The character that opens a control sequence. -/
def escape : Char := '\x1b'

/-- The sequence that ends every style. -/
def reset : List Char := [escape, '[', '0', 'm']

/-- The sequence that starts a style. -/
def start (codes : String) : List Char := escape :: '[' :: codes.toList ++ ['m']

/-- The characters with the start sequence after every reset among them. -/
def reopen (opening : List Char) : List Char → List Char
  | '\x1b' :: '[' :: '0' :: 'm' :: rest => reset ++ opening ++ reopen opening rest
  | c :: rest => c :: reopen opening rest
  | [] => []

/-- A text in a style. -/
def styled (codes text : String) : String :=
  String.ofList (start codes ++ reopen (start codes) text.toList ++ reset)

/-- A text in a style where styles are shown, and as it is elsewhere. -/
def styledIf (shown : Bool) (codes text : String) : String :=
  if shown then styled codes text else text

/-! ## Stripping -/

/-- A character that may stand between the opening and the end of a style sequence. -/
def isCode (c : Char) : Bool := c.isDigit || c = ';'

/-- What follows a style sequence, if the characters begin with one. -/
def afterSequence? : List Char → Option (List Char)
  | '\x1b' :: '[' :: rest =>
    match rest.dropWhile isCode with
    | 'm' :: rest' => some rest'
    | _ => none
  | _ => none

theorem length_dropWhile_le (p : Char → Bool) (cs : List Char) :
    (cs.dropWhile p).length ≤ cs.length :=
  (List.dropWhile_sublist p).length_le

theorem length_afterSequence?_lt {cs rest : List Char} (h : afterSequence? cs = some rest) :
    rest.length < cs.length := by
  unfold afterSequence? at h
  split at h
  · rename_i tail
    split at h
    · rename_i rest' hdrop
      obtain rfl := Option.some.inj h
      have := length_dropWhile_le isCode tail
      rw [hdrop] at this
      simp only [List.length_cons] at this ⊢
      omega
    · exact absurd h (by simp)
  · exact absurd h (by simp)

/-- The characters without style sequences. -/
def stripChars (cs : List Char) : List Char :=
  match _h : afterSequence? cs with
  | some rest => stripChars rest
  | none =>
    match cs with
    | [] => []
    | c :: rest => c :: stripChars rest
termination_by cs.length
decreasing_by
  · exact length_afterSequence?_lt _h
  · simp

/-- A text without style sequences. -/
def strip (text : String) : String := String.ofList (stripChars text.toList)

end VerbNoun.Terminal
