import VerbNoun.Proofs.Terminal.Residue
set_option autoImplicit false

/-!
# Terminal: which characters stripping removes (SPEC §19)

A style sequence that stands in a text takes up the positions from its escape to its end.  Two of
them have no position in common, since the only escape of a sequence is its first character.
Stripping removes the characters at these positions and keeps all others in order.  A line end is in
no sequence, so the lines of a log can be stripped one by one.
-/

namespace VerbNoun.Terminal

/-! ## Positions -/

/-- A style sequence stands in the characters from position `i` up to position `j`, which is past
its end. -/
def Stands (cs : List Char) (i j : Nat) : Prop :=
  ∃ before codes after, Codes codes ∧ cs = before ++ (sequence codes ++ after) ∧
    i = before.length ∧ j = before.length + (sequence codes).length

/-- The position is inside a style sequence. -/
def Covered (cs : List Char) (k : Nat) : Prop := ∃ i j, Stands cs i j ∧ i ≤ k ∧ k < j

theorem length_sequence_pos (codes : List Char) : 0 < (sequence codes).length :=
  List.length_pos_of_mem List.mem_cons_self

theorem stands_sequence {codes : List Char} (h : Codes codes) (rest : List Char) :
    Stands (sequence codes ++ rest) 0 (sequence codes).length :=
  ⟨[], codes, rest, h, rfl, rfl, (Nat.zero_add _).symm⟩

/-- A sequence stands at a position exactly if it is seen when the characters are read from
there. -/
theorem stands_iff {cs : List Char} {i j : Nat} :
    Stands cs i j ↔
      ∃ rest, afterSequence? (cs.drop i) = some rest ∧ j + rest.length = cs.length := by
  constructor
  · rintro ⟨before, codes, after, hcodes, rfl, rfl, rfl⟩
    refine ⟨after, ?_, ?_⟩
    · rw [List.drop_left, afterSequence?_sequence hcodes]
    · simp only [List.length_append]
      omega
  · rintro ⟨rest, hafter, hj⟩
    obtain ⟨codes, hcodes, hdrop⟩ := afterSequence?_eq_some_iff.1 hafter
    have hlength := congrArg List.length hdrop
    have hpos := length_sequence_pos codes
    rw [List.length_drop, List.length_append] at hlength
    refine ⟨cs.take i, codes, rest, hcodes, ?_, ?_, ?_⟩
    · rw [← hdrop, List.take_append_drop]
    · rw [List.length_take]
      omega
    · rw [List.length_take]
      omega

theorem covered_iff {cs : List Char} {k : Nat} :
    Covered cs k ↔ ((List.range (k + 1)).any fun i =>
      (afterSequence? (cs.drop i)).any fun rest => k + rest.length < cs.length) = true := by
  simp only [Covered, stands_iff, List.any_eq_true, List.mem_range, Option.any_eq_true,
    decide_eq_true_eq]
  constructor
  · rintro ⟨i, j, ⟨rest, hafter, hj⟩, hi, hk⟩
    exact ⟨i, by omega, rest, hafter, by omega⟩
  · rintro ⟨i, hi, rest, hafter, hk⟩
    exact ⟨i, cs.length - rest.length, ⟨rest, hafter, by omega⟩, by omega, by omega⟩

instance (cs : List Char) (k : Nat) : Decidable (Covered cs k) :=
  decidable_of_iff _ covered_iff.symm

/-- The characters outside all style sequences, in order. -/
def outside (cs : List Char) : List Char :=
  ((List.range cs.length).filter fun k => ¬ Covered cs k).filterMap fun k => cs[k]?

/-! ## Sequences apart -/

namespace Stands

variable {cs : List Char} {i j i' j' : Nat}

theorem lt (h : Stands cs i j) : i < j := by
  obtain ⟨before, codes, after, -, -, rfl, rfl⟩ := h
  have hpos := length_sequence_pos codes
  omega

theorem getElem?_first (h : Stands cs i j) : cs[i]? = some escape := by
  obtain ⟨before, codes, after, -, rfl, rfl, -⟩ := h
  rw [List.getElem?_append_right (Nat.le_refl _), Nat.sub_self]
  rfl

/-- After its first character there is no escape in a sequence. -/
theorem getElem?_ne_escape (h : Stands cs i j) {k : Nat} (hi : i < k) (hj : k < j) :
    cs[k]? ≠ some escape := by
  obtain ⟨before, codes, after, hcodes, rfl, rfl, rfl⟩ := h
  intro hescape
  obtain ⟨m, rfl⟩ := Nat.exists_eq_add_of_lt hi
  rw [List.getElem?_append_right (by omega), List.getElem?_append_left (by omega)] at hescape
  have hplace : before.length + m + 1 - before.length = m + 1 := by omega
  rw [hplace] at hescape
  exact escape_not_mem hcodes (List.mem_of_getElem? (i := m) hescape)

theorem end_eq (h : Stands cs i j) (h' : Stands cs i j') : j = j' := by
  obtain ⟨rest, hafter, hj⟩ := stands_iff.1 h
  obtain ⟨rest', hafter', hj'⟩ := stands_iff.1 h'
  rw [hafter] at hafter'
  obtain rfl := Option.some.inj hafter'
  omega

theorem le_of_lt (h : Stands cs i j) (h' : Stands cs i' j') (hlt : i < i') : j ≤ i' :=
  Nat.le_of_not_lt fun hinside => h.getElem?_ne_escape hlt hinside h'.getElem?_first

/-- Two sequences in a text are the same or have no position in common. -/
theorem same_or_apart (h : Stands cs i j) (h' : Stands cs i' j') :
    (i = i' ∧ j = j') ∨ j ≤ i' ∨ j' ≤ i := by
  rcases Nat.lt_trichotomy i i' with hlt | rfl | hlt
  · exact .inr (.inl (h.le_of_lt h' hlt))
  · exact .inl ⟨rfl, h.end_eq h'⟩
  · exact .inr (.inr (h'.le_of_lt h hlt))

end Stands

/-! ## Part by part -/

theorem stands_append_iff {front rest : List Char} {i j : Nat} :
    Stands (front ++ rest) (front.length + i) (front.length + j) ↔ Stands rest i j := by
  have hdrop : (front ++ rest).drop (front.length + i) = rest.drop i := by
    rw [List.drop_append, List.drop_eq_nil_of_le (by omega), List.nil_append,
      Nat.add_sub_cancel_left]
  simp only [stands_iff, hdrop, List.length_append, Nat.add_assoc, Nat.add_left_cancel_iff]

/-- No sequence goes across the place between the two parts. -/
def Parted (front rest : List Char) : Prop :=
  ∀ i j, Stands (front ++ rest) i j → j ≤ front.length ∨ front.length ≤ i

theorem parted_sequence {codes : List Char} (h : Codes codes) (rest : List Char) :
    Parted (sequence codes) rest := by
  intro i j hstands
  have hlt := hstands.lt
  rcases (stands_sequence h rest).same_or_apart hstands with ⟨-, rfl⟩ | hafter | hbefore
  · exact .inl (Nat.le_refl _)
  · exact .inr hafter
  · omega

theorem not_stands_zero {cs : List Char} (h : afterSequence? cs = none) (j : Nat) :
    ¬ Stands cs 0 j := by
  intro hstands
  obtain ⟨rest, hafter, -⟩ := stands_iff.1 hstands
  rw [List.drop_zero, h] at hafter
  cases hafter

theorem parted_char {c : Char} {cs : List Char} (h : afterSequence? (c :: cs) = none) :
    Parted [c] cs := by
  intro i j hstands
  refine .inr (Nat.one_le_iff_ne_zero.2 ?_)
  rintro rfl
  exact not_stands_zero h j hstands

theorem Parted.covered_iff {front rest : List Char} (h : Parted front rest) (k : Nat) :
    Covered (front ++ rest) (front.length + k) ↔ Covered rest k := by
  constructor
  · rintro ⟨i, j, hstands, hi, hj⟩
    have hle : front.length ≤ i := (h i j hstands).resolve_left (by omega)
    obtain ⟨i, rfl⟩ := Nat.exists_eq_add_of_le hle
    obtain ⟨j, rfl⟩ := Nat.exists_eq_add_of_le (Nat.le_trans hle (Nat.le_of_lt hstands.lt))
    exact ⟨i, j, stands_append_iff.1 hstands, by omega, by omega⟩
  · rintro ⟨i, j, hstands, hi, hj⟩
    exact ⟨_, _, stands_append_iff.2 hstands, by omega, by omega⟩

/-- What is outside behind such a place is found in the second part alone. -/
theorem Parted.outside_append {front rest : List Char} (h : Parted front rest) :
    outside (front ++ rest) =
      (((List.range front.length).filter fun k => ¬ Covered (front ++ rest) k).filterMap fun k =>
        (front ++ rest)[k]?) ++ outside rest := by
  have hcovered : (fun k => decide ¬ Covered (front ++ rest) k) ∘ (front.length + ·) =
      fun k => decide ¬ Covered rest k := by
    funext k
    simp only [Function.comp_apply, h.covered_iff]
  have hchars : (fun k => (front ++ rest)[k]?) ∘ (front.length + ·) = fun k => rest[k]? := by
    funext k
    rw [Function.comp_apply, List.getElem?_append_right (Nat.le_add_right _ _),
      Nat.add_sub_cancel_left]
  unfold outside
  rw [List.length_append, List.range_add, List.filter_append, List.filterMap_append,
    List.filter_map, List.filterMap_map, hcovered, hchars]

/-- Stripping keeps the characters outside all sequences.  The induction is on the scan: what it has
passed is a sequence or a single character, and no sequence goes across the place after it. -/
theorem stripChars_eq_outside (cs : List Char) : stripChars cs = outside cs := by
  fun_induction stripChars cs with
  | case1 cs rest hsome ih =>
      obtain ⟨codes, hcodes, rfl⟩ := afterSequence?_eq_some_iff.1 hsome
      have hnone : ((List.range (sequence codes).length).filter fun k =>
          ¬ Covered (sequence codes ++ rest) k) = [] := by
        rw [List.filter_eq_nil_iff]
        intro k hk
        have hcovered : Covered (sequence codes ++ rest) k :=
          ⟨_, _, stands_sequence hcodes rest, Nat.zero_le k, List.mem_range.1 hk⟩
        simpa using hcovered
      rw [(parted_sequence hcodes rest).outside_append, hnone, ih]
      rfl
  | case2 _ => rfl
  | case3 c cs hnone ih =>
      have hfree : ¬ Covered (c :: cs) 0 := by
        rintro ⟨i, j, hstands, hi, -⟩
        obtain rfl := Nat.le_zero.1 hi
        exact not_stands_zero hnone j hstands
      have hkept : ((List.range [c].length).filter fun k => ¬ Covered ([c] ++ cs) k) = [0] := by
        have hrange : List.range [c].length = [0] := rfl
        rw [hrange, List.filter_cons_of_pos (by simpa using hfree), List.filter_nil]
      have hsplit := (parted_char hnone).outside_append
      rw [hkept, ← ih] at hsplit
      exact hsplit.symm

end VerbNoun.Terminal

namespace VerbNoun

open Terminal

/-! ## Logs -/

/-- An entry with each of its texts stripped. -/
def Entry.plain (e : Entry) : Entry :=
  { e with input := strip e.input, output := e.output.map strip }

theorem Transcript.entryLines_plain (e : Entry) :
    entryLines e.plain = (entryLines e).map strip := by
  rw [entryLines, entryLines, List.map_cons, strip_append_of_not_mem (s := "> ") (by decide)]
  rfl

/-- A plain body is the body of the stripped entries. -/
theorem Transcript.body_map_plain (t : Transcript) :
    t.body true = Transcript.body ⟨t.entries.map Entry.plain⟩ false := by
  have hlines : (t.entries.map Entry.plain).flatMap entryLines =
      (t.entries.flatMap entryLines).map strip := by
    rw [List.flatMap_map, List.map_flatMap]
    exact congrArg (List.flatMap · t.entries) (funext entryLines_plain)
  rw [body_plain, ← hlines]
  exact (join_entryText _).symm

/-- Stripping removes the characters inside the style sequences of a text, and keeps all others in
order.  The sequences of a text are apart from each other.  A line end is in none of them, and so
the body of a plain log is made of the texts of the session, each stripped by itself. -/
theorem strip_removes_exactly_sequences :
    (∀ text : String, (strip text).toList = outside text.toList) ∧
    (∀ (text : String) (i j i' j' : Nat), Stands text.toList i j → Stands text.toList i' j' →
      (i = i' ∧ j = j') ∨ j ≤ i' ∨ j' ≤ i) ∧
    (∀ s t : String, strip (s ++ "\n" ++ t) = strip s ++ "\n" ++ strip t) ∧
    ∀ t : Transcript, t.body true = Transcript.body ⟨t.entries.map Entry.plain⟩ false := by
  refine ⟨fun text => ?_, fun text i j i' j' h h' => h.same_or_apart h', strip_line,
    Transcript.body_map_plain⟩
  rw [toList_strip, stripChars_eq_outside]

/-- Two sequences in a text with an escape before the first, one that is broken off before the
second, and an opening at its end. -/
theorem strip_removes_exactly_sequences_broken_off :
    Stands "\x1b\x1b[1;31mred\x1b[3\x1b[0m\x1b[".toList 1 8 ∧
    Stands "\x1b\x1b[1;31mred\x1b[3\x1b[0m\x1b[".toList 14 18 ∧
    ((1 = 14 ∧ 8 = 18) ∨ 8 ≤ 14 ∨ 18 ≤ 1) ∧
    (strip "\x1b\x1b[1;31mred\x1b[3\x1b[0m\x1b[").toList = "\x1bred\x1b[3\x1b[".toList := by
  have hfirst : Stands "\x1b\x1b[1;31mred\x1b[3\x1b[0m\x1b[".toList 1 8 :=
    stands_iff.2 ⟨"red\x1b[3\x1b[0m\x1b[".toList, rfl, rfl⟩
  have hsecond : Stands "\x1b\x1b[1;31mred\x1b[3\x1b[0m\x1b[".toList 14 18 :=
    stands_iff.2 ⟨"\x1b[".toList, rfl, rfl⟩
  obtain ⟨hstrip, hapart, -⟩ := strip_removes_exactly_sequences
  refine ⟨hfirst, hsecond, hapart _ _ _ _ _ hfirst hsecond, ?_⟩
  rw [hstrip]
  decide +kernel

end VerbNoun
