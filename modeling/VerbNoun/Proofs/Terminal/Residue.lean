import VerbNoun.Proofs.Transcript
set_option autoImplicit false

/-!
# Terminal: what stripping leaves (SPEC §19)

Stripping goes through a text once.  A style sequence that has others inside is not seen on the way,
since an escape comes before its end, but it stands there whole when the others are out.  That is
the only way in which a stripped text comes to have a sequence, and so the only way in which a plain
log does.
-/

namespace VerbNoun.Terminal

/-- A style sequence stands somewhere in the characters. -/
def HasSequence (cs : List Char) : Prop :=
  ∃ before codes after, Codes codes ∧ cs = before ++ (sequence codes ++ after)

/-- The second characters are the first with whole style sequences put anywhere among them. -/
inductive Padded : List Char → List Char → Prop
  | nil : Padded [] []
  | char {cs xs : List Char} (c : Char) (h : Padded cs xs) : Padded (c :: cs) (c :: xs)
  | sequence {codes cs xs : List Char} (hcodes : Codes codes) (h : Padded cs xs) :
      Padded cs (sequence codes ++ xs)

/-- Somewhere in the characters stands a style sequence with others inside: between its first
character and its last there is more than its own. -/
def HasBroken (cs : List Char) : Prop :=
  ∃ before codes inner after, Codes codes ∧ Padded ('[' :: codes) inner ∧ inner ≠ '[' :: codes ∧
    cs = before ++ escape :: (inner ++ 'm' :: after)

/-! ## Characters of a sequence -/

theorem escape_not_mem {codes : List Char} (h : Codes codes) : escape ∉ '[' :: codes ++ ['m'] := by
  intro hmem
  exact absurd (continuesSequence_of_mem h hmem) (by decide)

theorem end_not_mem {codes : List Char} (h : Codes codes) : 'm' ∉ '[' :: codes := by
  intro hmem
  rcases List.mem_cons.1 hmem with heq | hcode
  · exact absurd heq (by decide)
  · exact absurd (h 'm' hcode) (by decide)

/-- In front of what cannot be inside a sequence, characters without an escape stay. -/
theorem stripChars_append_of_not_mem {cs : List Char} (h : escape ∉ cs) (ys : List Char) :
    stripChars (cs ++ ys) = cs ++ stripChars ys := by
  induction cs with
  | nil => rfl
  | cons c cs ih =>
      have hc : c ≠ escape := (List.ne_of_not_mem_cons h).symm
      rw [List.cons_append, stripChars_of_none (afterSequence?_of_ne hc _),
        ih (List.not_mem_of_not_mem_cons h), List.cons_append]

/-! ## Padded texts -/

namespace Padded

variable {as bs cs xs ys : List Char}

theorem refl (cs : List Char) : Padded cs cs := by
  induction cs with
  | nil => exact .nil
  | cons c cs ih => exact .char c ih

theorem append (h : Padded as xs) (h' : Padded bs ys) : Padded (as ++ bs) (xs ++ ys) := by
  induction h with
  | nil => exact h'
  | char c _ ih => exact .char c ih
  | sequence hcodes _ ih =>
      rw [List.append_assoc]
      exact .sequence hcodes ih

/-- Where the characters are cut, the padded ones can be cut too. -/
theorem split (h : Padded (as ++ bs) xs) :
    ∃ ys zs, xs = ys ++ zs ∧ Padded as ys ∧ Padded bs zs := by
  generalize hcs : as ++ bs = cs at h
  induction h generalizing as with
  | nil =>
      obtain ⟨rfl, rfl⟩ := List.append_eq_nil_iff.1 hcs
      exact ⟨[], [], rfl, .nil, .nil⟩
  | @char cs xs c h ih =>
      cases as with
      | nil =>
          rw [List.nil_append] at hcs
          exact ⟨[], c :: xs, rfl, .nil, hcs ▸ .char c h⟩
      | cons a as =>
          obtain ⟨rfl, hrest⟩ := List.cons.inj hcs
          obtain ⟨ys, zs, rfl, hys, hzs⟩ := ih hrest
          exact ⟨a :: ys, zs, rfl, .char a hys, hzs⟩
  | sequence hcodes _ ih =>
      obtain ⟨ys, zs, rfl, hys, hzs⟩ := ih hcs
      exact ⟨_, zs, (List.append_assoc _ _ _).symm, .sequence hcodes hys, hzs⟩

/-- In front of the first character there are whole sequences. -/
theorem uncons {c : Char} (h : Padded (c :: cs) xs) :
    ∃ front rest, xs = front ++ c :: rest ∧ Padded [] front ∧ Padded cs rest := by
  generalize hcs : c :: cs = cs' at h
  induction h with
  | nil => cases hcs
  | char d h _ =>
      cases hcs
      exact ⟨[], _, rfl, .nil, h⟩
  | sequence hcodes _ ih =>
      obtain ⟨front, rest, rfl, hfront, hrest⟩ := ih hcs
      exact ⟨_, rest, (List.append_assoc _ _ _).symm, .sequence hcodes hfront, hrest⟩

/-- Padding starts with an escape. -/
theorem exists_escape (h : Padded cs xs) (hne : xs ≠ cs) :
    ∃ front rest, xs = front ++ escape :: rest ∧ front ⊆ cs := by
  induction h with
  | nil => exact absurd rfl hne
  | @char cs xs c _ ih =>
      obtain ⟨front, rest, rfl, hfront⟩ := ih fun heq => hne (congrArg (c :: ·) heq)
      exact ⟨c :: front, rest, rfl, List.cons_subset_cons c hfront⟩
  | @sequence codes cs xs _ _ _ => exact ⟨[], _, rfl, List.nil_subset cs⟩

/-- Padding is taken out again from characters without an escape. -/
theorem stripChars_append (h : Padded cs xs) (hcs : escape ∉ cs) (ys : List Char) :
    stripChars (xs ++ ys) = cs ++ stripChars ys := by
  induction h with
  | nil => rfl
  | char c _ ih =>
      have hc : c ≠ escape := (List.ne_of_not_mem_cons hcs).symm
      rw [List.cons_append, stripChars_of_none (afterSequence?_of_ne hc _),
        ih (List.not_mem_of_not_mem_cons hcs), List.cons_append]
  | sequence hcodes _ ih => rw [List.append_assoc, stripChars_sequence hcodes, ih hcs]

/-- Stripping takes out the padding at least. -/
theorem length_stripChars_le (h : Padded cs xs) : (stripChars xs).length ≤ cs.length := by
  induction h with
  | nil => exact Nat.le_of_eq (congrArg List.length stripChars_nil)
  | sequence hcodes _ ih => rwa [stripChars_sequence hcodes]
  | @char cs xs c _ ih =>
      cases hafter : afterSequence? (c :: xs) with
      | none =>
          rw [stripChars_of_none hafter, List.length_cons, List.length_cons]
          omega
      | some rest =>
          -- The character opens a sequence, which stripping would have left if it were not there.
          obtain ⟨codes, hcodes, heq⟩ := afterSequence?_eq_some_iff.1 hafter
          have hxs : xs = '[' :: codes ++ ['m'] ++ rest := (List.cons.inj heq).2
          rw [hxs, stripChars_append_of_not_mem (escape_not_mem hcodes), List.length_append] at ih
          rw [stripChars_of_some hafter, List.length_cons]
          omega

end Padded

/-- A text is what stripping leaves of it, with whole sequences put in. -/
theorem padded_stripChars (xs : List Char) : Padded (stripChars xs) xs := by
  fun_induction stripChars xs with
  | case1 xs rest hsome ih =>
      obtain ⟨codes, hcodes, rfl⟩ := afterSequence?_eq_some_iff.1 hsome
      exact .sequence hcodes ih
  | case2 _ => exact .nil
  | case3 c xs _ ih => exact .char c ih

theorem length_stripChars_le (xs : List Char) : (stripChars xs).length ≤ xs.length :=
  (Padded.refl xs).length_stripChars_le

/-! ## Sequences that are left -/

/-- Stripping changes nothing exactly where there is no sequence. -/
theorem stripChars_eq_self_iff {xs : List Char} : stripChars xs = xs ↔ ¬ HasSequence xs := by
  constructor
  · rintro heq ⟨before, codes, after, hcodes, rfl⟩
    rw [stripChars_append_sequence hcodes] at heq
    have hlength := congrArg List.length heq
    have hbefore := length_stripChars_le before
    have hafter := length_stripChars_le after
    simp only [sequence, List.length_append, List.length_cons] at hlength
    omega
  · intro hnone
    fun_induction stripChars xs with
    | case1 xs rest hsome _ =>
        obtain ⟨codes, hcodes, heq⟩ := afterSequence?_eq_some_iff.1 hsome
        exact absurd ⟨[], codes, rest, hcodes, heq⟩ hnone
    | case2 _ => rfl
    | case3 c xs _ ih =>
        rw [ih]
        rintro ⟨before, codes, after, hcodes, rfl⟩
        exact hnone ⟨c :: before, codes, after, hcodes, rfl⟩

/-- A sequence is not seen if an escape comes before its end. -/
theorem afterSequence?_of_padded {codes inner : List Char} (hcodes : Codes codes)
    (h : Padded ('[' :: codes) inner) (hne : inner ≠ '[' :: codes) (ys : List Char) :
    afterSequence? (escape :: (inner ++ ys)) = none := by
  obtain ⟨front, rest, rfl, hfront⟩ := h.exists_escape hne
  have hopen : afterSequence? (escape :: front) = none := by
    refine Option.eq_none_iff_forall_ne_some.2 fun rest' hsome => ?_
    obtain ⟨codes', -, heq⟩ := afterSequence?_eq_some_iff.1 hsome
    have htail : front = '[' :: codes' ++ ['m'] ++ rest' := (List.cons.inj heq).2
    have hmem : 'm' ∈ front := by simp [htail]
    exact end_not_mem hcodes (hfront hmem)
  have hstops : Stops continuesSequence (escape :: (rest ++ ys)) := stops_cons rfl _
  have happend := @afterSequence?_append escape front _ hstops
  rw [hopen, Option.map_none] at happend
  rwa [List.append_assoc, List.cons_append]

/-- Stripping leaves a sequence exactly where there was one with others inside. -/
theorem hasSequence_stripChars_iff {xs : List Char} :
    HasSequence (stripChars xs) ↔ HasBroken xs := by
  constructor
  · rintro ⟨p, codes, q, hcodes, heq⟩
    have hpadded := padded_stripChars xs
    have hshape : p ++ (sequence codes ++ q) = p ++ escape :: ('[' :: codes ++ 'm' :: q) := by
      simp [sequence]
    rw [heq, hshape] at hpadded
    obtain ⟨before, xs', rfl, hbefore, hxs'⟩ := hpadded.split
    obtain ⟨front, rest, rfl, hfront, hrest⟩ := hxs'.uncons
    obtain ⟨inner, tail, rfl, hinner, htail⟩ := hrest.split
    obtain ⟨gap, after, rfl, hgap, hafter⟩ := htail.uncons
    have hpad : Padded ('[' :: codes) (inner ++ gap) := by
      have happend := hinner.append hgap
      rwa [List.append_nil] at happend
    refine ⟨before ++ front, codes, inner ++ gap, after, hcodes, hpad, fun hwhole => ?_, by simp⟩
    -- Were the sequence there as a whole, stripping would have taken it out.
    have hcut : before ++ (front ++ escape :: (inner ++ (gap ++ 'm' :: after))) =
        (before ++ front) ++ (sequence codes ++ after) := by
      have hmiddle : inner ++ (gap ++ 'm' :: after) = '[' :: codes ++ 'm' :: after := by
        rw [← hwhole, List.append_assoc]
      rw [hmiddle]
      simp [sequence]
    have hlength := congrArg List.length heq
    rw [hcut, stripChars_append_sequence hcodes] at hlength
    have hpadded' := hbefore.append hfront
    rw [List.append_nil] at hpadded'
    have hp := hpadded'.length_stripChars_le
    have hq := hafter.length_stripChars_le
    simp only [sequence, List.length_append, List.length_cons] at hlength hp hq
    omega
  · rintro ⟨before, codes, inner, after, hcodes, hpadded, hne, rfl⟩
    have hescape : escape ∉ '[' :: codes := fun hmem =>
      escape_not_mem hcodes (List.mem_append_left _ hmem)
    refine ⟨stripChars before, codes, stripChars after, hcodes, ?_⟩
    rw [Terminal.stripChars_append (stops_cons rfl _),
      stripChars_of_none (afterSequence?_of_padded hcodes hpadded hne _),
      hpadded.stripChars_append hescape, stripChars_of_none (afterSequence?_of_ne (by decide) _)]
    simp [sequence]

/-! ## Stripped texts -/

theorem toList_strip (s : String) : (strip s).toList = stripChars s.toList := by
  rw [strip, String.toList_ofList]

theorem strip_eq_self_iff {s : String} : strip s = s ↔ ¬ HasSequence s.toList := by
  rw [← stripChars_eq_self_iff, ← toList_strip, String.toList_inj]

/-- Stripping twice is stripping once unless a sequence had others inside. -/
theorem strip_strip_iff {s : String} : strip (strip s) = strip s ↔ ¬ HasBroken s.toList := by
  rw [strip_eq_self_iff, toList_strip, hasSequence_stripChars_iff]

/-- A line end parts a text in two that are stripped apart. -/
theorem strip_line_eq_self_iff {s t : String} :
    strip (s ++ "\n" ++ t) = s ++ "\n" ++ t ↔ strip s = s ∧ strip t = t := by
  rw [strip_line]
  constructor
  · intro heq
    have hlists := congrArg String.toList heq
    simp only [String.toList_append, List.append_assoc, toList_strip] at hlists
    have hlength := congrArg List.length hlists
    have hs := length_stripChars_le s.toList
    have ht := length_stripChars_le t.toList
    simp only [List.length_append] at hlength
    obtain ⟨hfirst, hrest⟩ := List.append_inj hlists (by omega)
    obtain ⟨-, hsecond⟩ := List.append_inj hrest rfl
    exact ⟨String.toList_inj.1 (by rw [toList_strip, hfirst]),
      String.toList_inj.1 (by rw [toList_strip, hsecond])⟩
  · rintro ⟨hs, ht⟩
    rw [hs, ht]

theorem strip_lines_eq_self_iff {ls : List String} :
    strip (String.join (ls.map (· ++ "\n"))) = String.join (ls.map (· ++ "\n")) ↔
      ∀ l ∈ ls, strip l = l := by
  induction ls with
  | nil => exact iff_of_true strip_empty (by simp)
  | cons l ls ih =>
      rw [List.map_cons, String.join_cons, strip_line_eq_self_iff, ih, List.forall_mem_cons]

theorem strip_append_of_not_mem {s : String} (h : escape ∉ s.toList) (t : String) :
    strip (s ++ t) = s ++ strip t := by
  rw [strip, String.toList_append, stripChars_append_of_not_mem h, String.ofList_append,
    String.ofList_toList, strip]

end VerbNoun.Terminal

namespace VerbNoun

open Terminal

namespace Transcript

/-- The mark in front of an input makes no difference to whether stripping again does something. -/
theorem strip_entryLines_iff {e : Entry} :
    (∀ l ∈ entryLines e, strip (strip l) = strip l) ↔
      ∀ text ∈ e.input :: e.output, ¬ HasBroken text.toList := by
  have hmark := strip_append_of_not_mem (s := "> ") (by decide)
  have hinput : strip (strip ("> " ++ e.input)) = strip ("> " ++ e.input) ↔
      strip (strip e.input) = strip e.input := by
    rw [hmark, hmark, String.append_right_inj]
  rw [entryLines, List.forall_mem_cons, List.forall_mem_cons, hinput, strip_strip_iff]
  simp only [strip_strip_iff]

end Transcript

/-- The body of a plain log is free of style sequences exactly if no line of the session and no text
that was printed for it holds a sequence with others inside, and a text can be stripped once more
exactly if it holds one. -/
theorem plain_body_is_free_iff (t : Transcript) :
    (¬ HasSequence (t.body true).toList ↔
      ∀ e ∈ t.entries, ∀ text ∈ e.input :: e.output, ¬ HasBroken text.toList) ∧
    ∀ text : String, strip (strip text) = strip text ↔ ¬ HasBroken text.toList := by
  refine ⟨?_, fun text => strip_strip_iff⟩
  rw [← strip_eq_self_iff, Transcript.body_plain, strip_lines_eq_self_iff, List.forall_mem_map,
    List.forall_mem_flatMap]
  exact forall₂_congr fun e _ => Transcript.strip_entryLines_iff

/-- A reset inside another reset: the outer one is left in the log, and stripping the log again
would take it out. -/
theorem plain_body_keeps_outer_reset :
    (Transcript.begin {} "\x1b\x1b[0m[0m").body true = "> \x1b[0m\n" ∧
      HasSequence ((Transcript.begin {} "\x1b\x1b[0m[0m").body true).toList ∧
      strip (strip "\x1b\x1b[0m[0m") ≠ strip "\x1b\x1b[0m[0m" := by
  have hbody : (Transcript.begin {} "\x1b\x1b[0m[0m").body true = "> \x1b[0m\n" := by
    decide +kernel
  refine ⟨hbody, ?_, by decide +kernel⟩
  rw [hbody]
  exact ⟨['>', ' '], ['0'], ['\n'], codes_zero, rfl⟩

end VerbNoun
