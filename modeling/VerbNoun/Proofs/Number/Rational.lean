import Mathlib.Algebra.Order.Field.Basic
import Mathlib.Algebra.Order.Field.Rat
import Mathlib.Algebra.Order.Ring.Abs
import Mathlib.Data.Rat.Cast.Order
import Mathlib.Tactic.FieldSimp
import Mathlib.Tactic.Push
import VerbNoun.Proofs.Number.Exact
set_option autoImplicit false

/-!
# Number: exact values (SPEC §11)

The exact rational that a finite number is, and the nearest integer to a rational with ties to
even, said without any rounding.  Taking a number as an integer gives just that integer.
-/

namespace VerbNoun.Number

/-! ## The nearest integer -/

/-- An integer is nearest to a rational, and even where another one is as near. -/
structure NearestEven (x : ℚ) (n : ℤ) : Prop where
  nearest : ∀ m : ℤ, |x - n| ≤ |x - m|
  even_of_tie : ∀ m : ℤ, m ≠ n → |x - m| = |x - n| → Even n

theorem one_le_abs_sub {m n : ℤ} (h : m ≠ n) : (1 : ℚ) ≤ |(m : ℚ) - n| := by
  have hint : 1 ≤ |m - n| := Int.one_le_abs (sub_ne_zero.2 h)
  exact_mod_cast hint

/-- The nearest integer is at most a half away, and a half only if it is even. -/
theorem nearestEven_iff {x : ℚ} {n : ℤ} :
    NearestEven x n ↔ |x - n| ≤ 1 / 2 ∧ (|x - n| = 1 / 2 → Even n) := by
  constructor
  · intro h
    have hup := h.nearest (n + 1)
    have hdown := h.nearest (n - 1)
    push_cast at hup hdown
    have hle : x - n ≤ 1 / 2 := by
      by_contra hlt
      rw [abs_of_nonneg (by linarith), le_abs] at hup
      rcases hup with hup | hup <;> linarith
    have hge : -(1 / 2) ≤ x - n := by
      by_contra hlt
      rw [abs_of_nonpos (by linarith), le_abs] at hdown
      rcases hdown with hdown | hdown <;> linarith
    refine ⟨abs_le.2 ⟨hge, hle⟩, fun htie => ?_⟩
    rcases (abs_eq (by norm_num)).1 htie with heq | heq
    · refine h.even_of_tie (n + 1) (by omega) ?_
      push_cast
      rw [htie, abs_eq (by norm_num)]
      exact .inr (by linarith)
    · refine h.even_of_tie (n - 1) (by omega) ?_
      push_cast
      rw [htie, abs_eq (by norm_num)]
      exact .inl (by linarith)
  · rintro ⟨hhalf, htie⟩
    have hapart : ∀ m : ℤ, m ≠ n → 1 ≤ |x - m| + |x - n| := by
      intro m hm
      have htriangle := abs_sub_le (m : ℚ) x n
      rw [abs_sub_comm (m : ℚ) x] at htriangle
      exact (one_le_abs_sub hm).trans htriangle
    constructor
    · intro m
      by_cases hm : m = n
      · rw [hm]
      · have := hapart m hm
        linarith
    · intro m hm heq
      have := hapart m hm
      exact htie (by linarith)

theorem NearestEven.unique {x : ℚ} {m n : ℤ} (hm : NearestEven x m) (hn : NearestEven x n) :
    m = n := by
  by_contra hne
  have heq : |x - m| = |x - n| := le_antisymm (hm.nearest n) (hn.nearest m)
  have heven := hm.even_of_tie n (Ne.symm hne) heq.symm
  have heven' := hn.even_of_tie m hne heq
  -- Two even integers are two apart, too far for both to be within a half.
  have htwo : 2 ≤ |m - n| := by
    obtain ⟨a, rfl⟩ := heven
    obtain ⟨b, rfl⟩ := heven'
    rw [le_abs]
    omega
  have htwo' : (2 : ℚ) ≤ |(m : ℚ) - n| := by exact_mod_cast htwo
  have htriangle := abs_sub_le (m : ℚ) x n
  rw [abs_sub_comm (m : ℚ) x] at htriangle
  have := (nearestEven_iff.1 hm).1
  have := (nearestEven_iff.1 hn).1
  linarith

theorem nearestEven_intCast (n : ℤ) : NearestEven n n := by
  rw [nearestEven_iff, sub_self, abs_zero]
  exact ⟨by norm_num, fun h => absurd h (by norm_num)⟩

theorem NearestEven.neg {x : ℚ} {n : ℤ} (h : NearestEven x n) : NearestEven (-x) (-n) := by
  have habs : |-x - ((-n : ℤ) : ℚ)| = |x - n| := by
    push_cast
    rw [← abs_neg]
    congr 1
    ring
  rw [nearestEven_iff] at h ⊢
  rwa [habs, even_neg]

/-- The nearest integer to a quotient, by what is left over. -/
theorem nearestEven_div {a d n t : ℤ} (hd : 0 < d) (ha : a = n * d + t) (ht : |2 * t| ≤ d)
    (htie : |2 * t| = d → Even n) : NearestEven ((a : ℚ) / d) n := by
  have hd' : (0 : ℚ) < d := by exact_mod_cast hd
  have habs : |(a : ℚ) / d - n| = ((|2 * t| : ℤ) : ℚ) / (2 * d) := by
    have hquot : (a : ℚ) / d - n = (2 * t) / (2 * d) := by
      rw [ha]
      push_cast
      field_simp
      ring
    rw [hquot, abs_div, abs_of_pos (by linarith : (0 : ℚ) < 2 * d)]
    push_cast
    rfl
  have hhalf : (1 / 2 : ℚ) = d / (2 * d) := by field_simp
  rw [nearestEven_iff, habs, hhalf, div_le_div_iff_of_pos_right (by linarith),
    div_left_inj' (by linarith)]
  exact ⟨by exact_mod_cast ht, fun h => htie (by exact_mod_cast h)⟩

theorem nearestEven_roundHalfEven (n : Nat) {d : Nat} (hd : 0 < d) :
    NearestEven ((n : ℚ) / d) (roundHalfEven n d) := by
  have hd' : (0 : ℤ) < d := by exact_mod_cast hd
  have hrest : n % d < d := Nat.mod_lt n hd
  have hsplit : (n : ℤ) = (n / d : Nat) * d + (n % d : Nat) := by
    exact_mod_cast (Nat.div_add_mod' n d).symm
  -- Rounding up leaves one divisor less over.
  have hsplit' : (n : ℤ) = ((n / d : Nat) + 1) * d + ((n % d : Nat) - d) := by
    rw [hsplit]
    ring
  have hup : |2 * (((n % d : Nat) : ℤ) - d)| = 2 * (d - (n % d : Nat)) := by
    rw [abs_of_nonpos (by omega)]
    ring
  have hdown : |2 * ((n % d : Nat) : ℤ)| = 2 * (n % d : Nat) := abs_of_nonneg (by omega)
  unfold roundHalfEven
  dsimp only
  split
  · exact nearestEven_div hd' hsplit (by omega) (by omega)
  · split
    · push_cast
      exact nearestEven_div hd' hsplit' (by omega) (by omega)
    · rcases Nat.mod_two_eq_zero_or_one (n / d) with heven | hodd
      · rw [heven, Nat.add_zero]
        refine nearestEven_div hd' hsplit (by omega) fun _ => ?_
        exact_mod_cast Nat.even_iff.2 heven
      · rw [hodd]
        push_cast
        refine nearestEven_div hd' hsplit' (by omega) fun _ => ?_
        exact_mod_cast Nat.even_add_one.2 (Nat.not_even_iff.2 hodd)

/-! ## Exact values -/

theorem signed_mul (negative : Bool) (m n : Nat) :
    signed negative (m * n) = signed negative m * n := by
  cases negative <;> simp [signed]

theorem signed_natAbs (n : ℤ) : signed (decide (n < 0)) n.natAbs = n := by
  unfold signed
  split
  · rename_i hsign
    have := of_decide_eq_true hsign
    omega
  · rename_i hsign
    have := of_decide_eq_false (Bool.eq_false_iff.2 hsign)
    omega

theorem natAbs_signed (negative : Bool) (n : Nat) : (signed negative n).natAbs = n := by
  cases negative <;> simp [signed]

/-- The nearest integers to a quotient and to its negative differ in sign only. -/
theorem nearestEven_signed (negative : Bool) (n : Nat) {d : Nat} (hd : 0 < d) :
    NearestEven ((signed negative n : ℚ) / d) (signed negative (roundHalfEven n d)) := by
  have h := nearestEven_roundHalfEven n hd
  cases negative with
  | false => simpa [signed] using h
  | true => simpa [signed, neg_div] using h.neg

/-- Every rational has one nearest integer with ties to even. -/
theorem existsUnique_nearestEven (x : ℚ) : ∃! n : ℤ, NearestEven x n := by
  have h := nearestEven_signed (decide (x.num < 0)) x.num.natAbs x.den_pos
  rw [signed_natAbs, x.num_div_den] at h
  exact ⟨_, h, fun m hm => hm.unique h⟩

namespace Binary

/-- The exact value of a finite number. -/
def toRat? {f : Format} : Binary f → Option ℚ
  | .nan => none
  | .infinite _ => none
  | .finite negative rank => some ((signed negative (f.units rank) : ℚ) / f.unitsInOne)

theorem toRat?_eq_none_iff {f : Format} {x : Binary f} :
    x.toRat? = none ↔ x.isFinite = false := by
  cases x <;> simp [toRat?, isFinite]

theorem toRat?_finite {f : Format} (negative : Bool) {rank : Fin f.finiteCount} {n d : Nat}
    (hd : 0 < d) (h : f.units rank * d = n * f.unitsInOne) :
    toRat? (.finite negative rank) = some ((signed negative n : ℚ) / d) := by
  have hunits : (f.unitsInOne : ℚ) ≠ 0 := by exact_mod_cast f.unitsInOne_pos.ne'
  have hd' : (d : ℚ) ≠ 0 := by exact_mod_cast hd.ne'
  have hsigned : signed negative (f.units rank) * d = signed negative n * f.unitsInOne := by
    rw [← signed_mul, ← signed_mul, h]
  rw [toRat?, Option.some_inj, div_eq_div_iff hunits hd']
  exact_mod_cast hsigned

/-- The integers up to the first power of two beyond the significands keep their value. -/
theorem toRat?_ofInt {f : Format} (hf : f.Roomy) {n : ℤ} (hn : n.natAbs ≤ 2 * f.binade) :
    (ofInt f n).toRat? = some (n : ℚ) := by
  obtain ⟨rank, hnearest, hunits⟩ := nearest_of_le hf (decide (n < 0)) hn
  rw [ofInt, hnearest, toRat?_finite _ Nat.one_pos (by rw [hunits, Nat.mul_one]), signed_natAbs,
    Nat.cast_one, div_one]

/-- Numbers are taken as integers just where the nearest integer is below the bound. -/
theorem toInt?_eq_some_iff {x : Double} {n : ℤ} :
    x.toInt? = some n ↔ ∃ q, x.toRat? = some q ∧ NearestEven q n ∧ n.natAbs < wideBoundInt := by
  cases hfinite : x.isFinite with
  | false =>
      rw [toInt?_of_not_isFinite hfinite, toRat?_eq_none_iff.2 hfinite]
      simp
  | true =>
      cases x with
      | nan => cases hfinite
      | infinite negative => cases hfinite
      | finite negative rank =>
          have hnearest := nearestEven_signed negative (Format.binary64.units rank)
            Format.binary64.unitsInOne_pos
          rw [toInt?_finite negative rank rfl]
          constructor
          · intro h
            split at h
            · rename_i hlt
              cases h
              exact ⟨_, rfl, hnearest, by rwa [natAbs_signed]⟩
            · cases h
          · rintro ⟨q, hq, hn, hlt⟩
            cases hq
            obtain rfl := hn.unique hnearest
            rw [natAbs_signed] at hlt
            rw [if_pos hlt]

end Binary

end VerbNoun.Number

namespace VerbNoun.FloatKind

open Number

theorem toRat?_widen (k : FloatKind) (x : Binary k.format) : (k.widen x).toRat? = x.toRat? := by
  cases x with
  | nan => cases k <;> rfl
  | infinite negative => cases k <;> rfl
  | finite negative rank =>
      obtain ⟨rank', hwiden, hunits⟩ := k.widen_finite negative rank
      rw [hwiden, Binary.toRat?_finite negative k.format.unitsInOne_pos hunits, Binary.toRat?]

end VerbNoun.FloatKind
