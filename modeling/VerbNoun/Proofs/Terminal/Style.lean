import VerbNoun.Terminal.Style
import VerbNoun.Proofs.Reader
set_option autoImplicit false

/-!
# Terminal: stripping styled texts (SPEC §15, §19)

A style sequence holds one escape, its first character, and no blank or line end.  So a text can
be stripped part by part wherever the next part starts with a character that is not found further
on in a sequence.  A style adds whole sequences, and adds them only in front of a text, behind it,
and behind a reset in it, which is a sequence too.  Stripping takes out what the style added, and
the text itself is stripped as if it had none, whatever escapes it holds.
-/

namespace VerbNoun.Terminal

/-! ## One step -/

/-- The style sequence with these codes. -/
def sequence (codes : List Char) : List Char := escape :: '[' :: codes ++ ['m']

/-- The characters of a style sequence between its opening and its end. -/
def Codes (cs : List Char) : Prop := ∀ c ∈ cs, isCode c = true

theorem afterSequence?_sequence {codes : List Char} (h : Codes codes) (rest : List Char) :
    afterSequence? (sequence codes ++ rest) = some rest := by
  have hdrop : (codes ++ ['m'] ++ rest).dropWhile isCode = 'm' :: rest := by
    rw [List.append_assoc, List.dropWhile_append_of_pos h]
    rfl
  have hopen : sequence codes ++ rest = '\x1b' :: '[' :: (codes ++ ['m'] ++ rest) := rfl
  rw [hopen, afterSequence?, hdrop]
  rfl

/-- What follows a style sequence is found exactly where one stands in front. -/
theorem afterSequence?_eq_some_iff {cs rest : List Char} :
    afterSequence? cs = some rest ↔ ∃ codes, Codes codes ∧ cs = sequence codes ++ rest := by
  constructor
  · intro h
    unfold afterSequence? at h
    split at h
    · rename_i tail
      split at h
      · rename_i rest' hdrop
        obtain rfl := Option.some.inj h
        refine ⟨tail.takeWhile isCode, List.all_eq_true.1 List.all_takeWhile, ?_⟩
        have htail : tail.takeWhile isCode ++ 'm' :: rest' = tail := by
          rw [← hdrop, List.takeWhile_append_dropWhile]
        simp only [sequence, List.cons_append, List.append_assoc, List.nil_append, htail, escape]
      · cases h
    · cases h
  · rintro ⟨codes, hcodes, rfl⟩
    exact afterSequence?_sequence hcodes rest

theorem afterSequence?_of_ne {c : Char} (h : c ≠ escape) (cs : List Char) :
    afterSequence? (c :: cs) = none := by
  refine Option.eq_none_iff_forall_ne_some.2 fun rest hsome => ?_
  obtain ⟨codes, -, heq⟩ := afterSequence?_eq_some_iff.1 hsome
  exact h (List.cons.inj heq).1

theorem stripChars_nil : stripChars [] = [] := by
  rw [stripChars]
  rfl

theorem stripChars_of_some {cs rest : List Char} (h : afterSequence? cs = some rest) :
    stripChars cs = stripChars rest := by
  rw [stripChars]
  split
  · rename_i heq
    rw [h] at heq
    rw [Option.some.inj heq]
  · rename_i heq
    rw [h] at heq
    cases heq

theorem stripChars_of_none {c : Char} {cs : List Char} (h : afterSequence? (c :: cs) = none) :
    stripChars (c :: cs) = c :: stripChars cs := by
  rw [stripChars]
  split
  · rename_i heq
    rw [h] at heq
    cases heq
  · rfl

/-! ## Part by part -/

/-- A character that can stand in a style sequence after its first. -/
def continuesSequence (c : Char) : Bool := c = '[' || isCode c || c = 'm'

theorem continuesSequence_of_mem {codes : List Char} (h : Codes codes) {c : Char}
    (hc : c ∈ '[' :: codes ++ ['m']) : continuesSequence c = true := by
  simp only [List.cons_append, List.mem_cons, List.mem_append, List.not_mem_nil, or_false] at hc
  rcases hc with rfl | hcode | rfl
  · rfl
  · simp [continuesSequence, h c hcode]
  · rfl

/-- What cannot continue a sequence does not complete one that begins before it. -/
theorem afterSequence?_append {c : Char} {xs ys : List Char} (hys : Stops continuesSequence ys) :
    afterSequence? (c :: xs ++ ys) = (afterSequence? (c :: xs)).map (· ++ ys) := by
  cases hxs : afterSequence? (c :: xs) with
  | some rest =>
      obtain ⟨codes, hcodes, heq⟩ := afterSequence?_eq_some_iff.1 hxs
      rw [heq, List.append_assoc, afterSequence?_sequence hcodes]
      rfl
  | none =>
      refine Option.eq_none_iff_forall_ne_some.2 fun rest hsome => ?_
      obtain ⟨codes, hcodes, heq⟩ := afterSequence?_eq_some_iff.1 hsome
      -- The sequence ends within the first part, or the second part would continue it.
      rcases List.append_eq_append_iff.1 heq with ⟨as, hseq, hys'⟩ | ⟨as, hseq, -⟩
      · cases as with
        | nil =>
            rw [List.append_nil] at hseq
            rw [← hseq, ← List.append_nil (sequence codes), afterSequence?_sequence hcodes] at hxs
            cases hxs
        | cons a as =>
            have htail : '[' :: codes ++ ['m'] = xs ++ a :: as := (List.cons.inj hseq).2
            have ha := continuesSequence_of_mem hcodes (c := a) (by rw [htail]; simp)
            rw [hys a _ hys'] at ha
            cases ha
      · rw [hseq, afterSequence?_sequence hcodes] at hxs
        cases hxs

theorem stripChars_append {ys : List Char} (hys : Stops continuesSequence ys) (xs : List Char) :
    stripChars (xs ++ ys) = stripChars xs ++ stripChars ys := by
  fun_induction stripChars xs with
  | case1 xs rest hsome ih =>
      cases xs with
      | nil => cases hsome
      | cons c xs =>
          rw [← ih]
          refine stripChars_of_some ?_
          rw [afterSequence?_append hys, hsome]
          rfl
  | case2 hnone => rfl
  | case3 c xs hnone ih =>
      rw [List.cons_append, List.cons_append, ← ih]
      refine stripChars_of_none ?_
      rw [← List.cons_append, afterSequence?_append hys, hnone]
      rfl

theorem stripChars_sequence {codes : List Char} (h : Codes codes) (rest : List Char) :
    stripChars (sequence codes ++ rest) = stripChars rest :=
  stripChars_of_some (afterSequence?_sequence h rest)

theorem stripChars_append_sequence {codes : List Char} (h : Codes codes) (xs ys : List Char) :
    stripChars (xs ++ (sequence codes ++ ys)) = stripChars xs ++ stripChars ys := by
  have hstops : Stops continuesSequence (sequence codes ++ ys) := stops_cons rfl _
  rw [stripChars_append hstops, stripChars_sequence h]

/-! ## Styled texts -/

theorem codes_zero : Codes ['0'] := by
  intro c hc
  rw [List.mem_singleton.1 hc]
  rfl

/-- The induction is on the text from its front.  What was passed is stripped by itself wherever a
reset follows, since no sequence that began before goes on in it. -/
theorem stripChars_append_reopen {codes : List Char} (h : Codes codes) (passed cs : List Char) :
    stripChars (passed ++ reopen (sequence codes) cs) = stripChars (passed ++ cs) := by
  fun_induction reopen (sequence codes) cs generalizing passed with
  | case1 rest ih =>
      have hrest : stripChars (reopen (sequence codes) rest) = stripChars rest := ih []
      calc
        stripChars (passed ++ (reset ++ sequence codes ++ reopen (sequence codes) rest))
          = stripChars (passed ++
              (sequence ['0'] ++ (sequence codes ++ reopen (sequence codes) rest))) := by
              rw [List.append_assoc]
              rfl
        _ = stripChars passed ++ stripChars rest := by
              rw [stripChars_append_sequence codes_zero, stripChars_sequence h, hrest]
        _ = stripChars (passed ++ (sequence ['0'] ++ rest)) :=
              (stripChars_append_sequence codes_zero passed rest).symm
  | case2 c rest _ ih =>
      have hpassed := ih (passed ++ [c])
      rwa [List.append_assoc, List.append_assoc] at hpassed
  | case3 => rfl

/-- A style is taken out again, and the text is stripped as if it had none. -/
theorem strip_styled {codes : String} (h : Codes codes.toList) (text : String) :
    strip (styled codes text) = strip text := by
  have hchars : (styled codes text).toList = sequence codes.toList ++
      (reopen (sequence codes.toList) text.toList ++ (sequence ['0'] ++ [])) := by
    rw [styled, String.toList_ofList, List.append_assoc]
    rfl
  unfold strip
  rw [hchars, stripChars_sequence h, stripChars_append_sequence codes_zero, stripChars_nil,
    List.append_nil]
  exact congrArg String.ofList (stripChars_append_reopen h [] text.toList)

theorem strip_styledIf (shown : Bool) {codes : String} (h : Codes codes.toList) (text : String) :
    strip (styledIf shown codes text) = strip text := by
  cases shown with
  | false => rfl
  | true => exact strip_styled h text

/-! ## Blanks and line ends -/

theorem strip_empty : strip "" = "" := by
  rw [strip, String.toList_empty, stripChars_nil]

/-- A character that stands in no style sequence parts a text in two. -/
theorem strip_apart {mark : String} {c : Char} (hmark : mark.toList = [c]) (hescape : c ≠ escape)
    (hc : continuesSequence c = false) (s t : String) :
    strip (s ++ mark ++ t) = strip s ++ mark ++ strip t := by
  have hmark' : mark = String.ofList [c] := by rw [← hmark, String.ofList_toList]
  unfold strip
  rw [String.append_assoc, String.toList_append, String.toList_append, hmark,
    List.singleton_append, stripChars_append (stops_cons hc _),
    stripChars_of_none (afterSequence?_of_ne hescape _), String.append_assoc, hmark',
    ← String.ofList_append, ← String.ofList_append, List.singleton_append]

theorem strip_space (s t : String) : strip (s ++ " " ++ t) = strip s ++ " " ++ strip t :=
  strip_apart rfl (by decide) rfl s t

theorem strip_line (s t : String) : strip (s ++ "\n" ++ t) = strip s ++ "\n" ++ strip t :=
  strip_apart rfl (by decide) rfl s t

/-- Lines are stripped one by one. -/
theorem strip_lines (ls : List String) :
    strip (String.join (ls.map (· ++ "\n"))) = String.join (ls.map fun l => strip l ++ "\n") := by
  induction ls with
  | nil => exact strip_empty
  | cons l ls ih =>
      rw [List.map_cons, String.join_cons, strip_line, ih, List.map_cons, String.join_cons]

end VerbNoun.Terminal
