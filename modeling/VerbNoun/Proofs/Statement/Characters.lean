import VerbNoun.Statement.Parser
set_option autoImplicit false

/-!
# Characters: the classes that tell the parts of a line apart (SPEC §4.1)

A reader stops where a character of another class begins, so everything that is said about
lines rests on which classes have no character in common.  The classes of letters, numerals
and blanks are tables of ranges, and two tables are apart if no range of one meets a range
of the other.
-/

namespace VerbNoun

namespace Text

/-! ## Tables of ranges -/

/-- A code point that a table covers lies in one of its ranges. -/
theorem exists_range_of_covers {rs : Ranges} {n : Nat} (h : covers rs n = true) :
    ∃ r ∈ rs, r.1 ≤ n ∧ n ≤ r.2 := by
  induction rs with
  | nil => simp [covers] at h
  | cons r rs ih =>
      obtain ⟨first, last⟩ := r
      simp only [covers] at h
      split at h
      · simp at h
      · rename_i hfirst
        rcases Bool.or_eq_true_iff.1 h with hlast | hrest
        · exact ⟨(first, last), List.mem_cons_self, by simpa using hfirst, by simpa using hlast⟩
        · obtain ⟨r, hr, hn⟩ := ih hrest
          exact ⟨r, List.mem_cons_of_mem _ hr, hn⟩

/-- No range of one table meets a range of the other. -/
def apart (rs ss : Ranges) : Bool :=
  rs.all fun r => ss.all fun s => r.2 < s.1 || s.2 < r.1

theorem covers_eq_false_of_apart {rs ss : Ranges} {n : Nat} (h : apart rs ss = true)
    (hn : covers rs n = true) : covers ss n = false := by
  obtain ⟨r, hr, hr₁, hr₂⟩ := exists_range_of_covers hn
  cases hs : covers ss n with
  | false => rfl
  | true =>
      obtain ⟨s, hs, hs₁, hs₂⟩ := exists_range_of_covers hs
      have hrs := List.all_eq_true.1 (List.all_eq_true.1 h r hr) s hs
      simp only [Bool.or_eq_true, decide_eq_true_eq] at hrs
      omega

/-! ## The basic alphabet -/

theorem isAlpha_iff {c : Char} :
    c.isAlpha = true ↔ (65 ≤ c.toNat ∧ c.toNat ≤ 90) ∨ (97 ≤ c.toNat ∧ c.toNat ≤ 122) := by
  have halpha : c.isAlpha = (decide (c.val ≥ 'A'.val ∧ c.val ≤ 'Z'.val) ||
      (decide (c.val ≥ 'a'.val) && decide (c.val ≤ 'z'.val))) := rfl
  simp [halpha, UInt32.le_iff_toNat_le, ← Char.toNat_val]

theorem isDigit_iff {c : Char} : c.isDigit = true ↔ 48 ≤ c.toNat ∧ c.toNat ≤ 57 := by
  simp [Char.isDigit, UInt32.le_iff_toNat_le, ← Char.toNat_val]

theorem isNumeral_of_isDigit {c : Char} (h : c.isDigit = true) : isNumeral c = true := by
  have hbasic : c.toNat < 0x80 := by have := isDigit_iff.1 h; omega
  simp [isNumeral, hbasic, h]

theorem isLetter_eq_false_of_isDigit {c : Char} (h : c.isDigit = true) : isLetter c = false := by
  have hcode := isDigit_iff.1 h
  have hbasic : c.toNat < 0x80 := by omega
  have halpha : ¬ c.isAlpha = true := fun ha => by have := isAlpha_iff.1 ha; omega
  simp [isLetter, hbasic, halpha]

theorem toLower_of_isDigit {c : Char} (h : c.isDigit = true) : c.toLower = c := by
  have hcode := isDigit_iff.1 h
  have hA : 'A'.val.toNat = 65 := rfl
  unfold Char.toLower
  rw [dif_neg]
  simp only [ge_iff_le, UInt32.le_iff_toNat_le, ← Char.toNat_val] at hcode ⊢
  omega

theorem isLower_iff {c : Char} : c.isLower = true ↔ 'a'.val ≤ c.val ∧ c.val ≤ 'z'.val := by
  have hlower : c.isLower = (decide ('a'.val ≤ c.val) && decide (c.val ≤ 'z'.val)) := rfl
  rw [hlower, Bool.and_eq_true, decide_eq_true_iff, decide_eq_true_iff]

theorem val_toLower (c : Char) :
    c.toLower.val =
      if 'A'.val ≤ c.val ∧ c.val ≤ 'Z'.val then c.val + ('a'.val - 'A'.val) else c.val := by
  unfold Char.toLower
  split <;> rfl

theorem toLower_eq_iff {c small : Char} (h : small.isLower = true) :
    c.toLower = small ↔ c = small ∨ c = small.toUpper := by
  have hsmall := isLower_iff.1 h
  have hupper : small.toUpper.val = small.val + ('A'.val - 'a'.val) := by
    delta Char.toUpper
    rw [dif_pos hsmall]
  have hbound := c.val.toNat_lt
  rw [← Char.val_inj, ← Char.val_inj, ← Char.val_inj, hupper, val_toLower]
  simp only [UInt32.le_iff_toNat_le, ← UInt32.toNat_inj, UInt32.toNat_add, apply_ite UInt32.toNat,
    Char.reduceVal, UInt32.reduceSub, UInt32.reduceToNat] at hsmall ⊢
  split <;> omega

/-! ## Blanks -/

theorem isLetter_eq_false_of_isBlank {c : Char} (h : isBlank c = true) : isLetter c = false := by
  have hbasic : covers [(65, 90), (97, 122)] c.toNat = false :=
    covers_eq_false_of_apart (by decide) h
  have halpha : ¬ c.isAlpha = true := fun ha => by
    rcases isAlpha_iff.1 ha with hc | hc <;> simp [covers] at hbasic <;> omega
  unfold isLetter
  split
  · simpa using halpha
  · exact covers_eq_false_of_apart (by decide +kernel) h

/-- A letter of either case is not a blank. -/
theorem isBlank_of_isLower_toLower {c : Char} (h : c.toLower.isLower = true) :
    isBlank c = false := by
  cases hblank : isBlank c with
  | false => rfl
  | true =>
      have hapart : covers [(65, 90), (97, 122)] c.toNat = false :=
        covers_eq_false_of_apart (by decide) hblank
      rw [isLower_iff, val_toLower] at h
      simp only [UInt32.le_iff_toNat_le, covers, ← Char.toNat_val] at h hapart
      grind

theorem isNumeral_eq_false_of_isBlank {c : Char} (h : isBlank c = true) : isNumeral c = false := by
  have hbasic : covers [(48, 57)] c.toNat = false := covers_eq_false_of_apart (by decide) h
  have hdigit : ¬ c.isDigit = true := fun hd => by
    have hc := isDigit_iff.1 hd
    simp [covers] at hbasic
    omega
  unfold isNumeral
  split
  · simpa using hdigit
  · exact covers_eq_false_of_apart (by decide +kernel) h

end Text

open Text

/-! ## Identifiers -/

theorem startsIdentifier_iff {c : Char} :
    startsIdentifier c = true ↔ isLetter c = true ∨ c = '_' := by
  simp [startsIdentifier]

theorem continuesIdentifier_iff {c : Char} :
    continuesIdentifier c = true ↔
      isLetter c = true ∨ isNumeral c = true ∨ c = '_' ∨ c = '-' := by
  simp [continuesIdentifier, or_assoc]

theorem continuesIdentifier_of_starts {c : Char} (h : startsIdentifier c = true) :
    continuesIdentifier c = true := by
  rcases startsIdentifier_iff.1 h with h | h
  · exact continuesIdentifier_iff.2 (.inl h)
  · exact continuesIdentifier_iff.2 (.inr (.inr (.inl h)))

theorem continuesIdentifier_of_isDigit {c : Char} (h : c.isDigit = true) :
    continuesIdentifier c = true :=
  continuesIdentifier_iff.2 (.inr (.inl (isNumeral_of_isDigit h)))

theorem startsIdentifier_of_isDigit {c : Char} (h : c.isDigit = true) :
    startsIdentifier c = false := by
  have hne : c ≠ '_' := by rintro rfl; exact absurd h (by decide)
  simp [startsIdentifier, isLetter_eq_false_of_isDigit h, hne]

theorem isDigit_of_startsIdentifier {c : Char} (h : startsIdentifier c = true) :
    c.isDigit = false := by
  cases hd : c.isDigit with
  | false => rfl
  | true => rw [← h, startsIdentifier_of_isDigit hd]

/-- A blank ends an identifier. -/
theorem continuesIdentifier_of_isBlank {c : Char} (h : isBlank c = true) :
    continuesIdentifier c = false := by
  have hunderscore : c ≠ '_' := by rintro rfl; exact absurd h (by decide)
  have hdash : c ≠ '-' := by rintro rfl; exact absurd h (by decide)
  simp [continuesIdentifier, isLetter_eq_false_of_isBlank h, isNumeral_eq_false_of_isBlank h,
    hunderscore, hdash]

theorem isBlank_of_continuesIdentifier {c : Char} (h : continuesIdentifier c = true) :
    isBlank c = false := by
  cases hb : isBlank c with
  | false => rfl
  | true => rw [← h, continuesIdentifier_of_isBlank hb]

end VerbNoun
