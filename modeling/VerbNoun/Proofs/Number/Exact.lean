import Mathlib.Order.Monotone.Basic
import Mathlib.Tactic.Ring
import Mathlib.Tactic.Linarith
import VerbNoun.Value.Kind
set_option autoImplicit false

/-!
# Number: the numbers of a format (SPEC §11)

Which counts of the least unit are numbers of a format, and that rounding leaves those as they are.
So rounding a quotient changes nothing where the quotient is a number already: integers that are
not too large, numbers of a narrower format, and integral numbers.
-/

namespace VerbNoun.Number

theorem roundHalfEven_mul_left (m : Nat) {d : Nat} (hd : 0 < d) : roundHalfEven (d * m) d = m := by
  unfold roundHalfEven
  rw [Nat.mul_mod_right, Nat.mul_div_cancel_left m hd, if_pos (by omega)]

theorem roundHalfEven_mul_mul (n d : Nat) {c : Nat} (hc : 0 < c) :
    roundHalfEven (n * c) (d * c) = roundHalfEven n d := by
  have hrest : 2 * (n % d * c) = 2 * (n % d) * c := (Nat.mul_assoc 2 _ c).symm
  unfold roundHalfEven
  dsimp only
  rw [Nat.mul_div_mul_right n d hc, Nat.mul_mod_mul_right, hrest]
  simp only [Nat.mul_lt_mul_right hc]

namespace Format

variable (f : Format)

theorem binade_pos : 0 < f.binade := Nat.two_pow_pos f.fractionBits

theorem unitsInOne_pos : 0 < f.unitsInOne := Nat.two_pow_pos f.scale

/-! ## Ranks -/

/-- The number of significand `m` in the binade `k`.  The lowest binade is the only one in which
significands start at zero. -/
theorem units_of_split {m k : Nat} (hm : m < 2 * f.binade) (hk : k = 0 ∨ f.binade ≤ m) :
    f.units (k * f.binade + m) = m * 2 ^ k := by
  have hpos := f.binade_pos
  unfold units
  by_cases hlow : m < f.binade
  · obtain rfl : k = 0 := by omega
    rw [if_pos (by omega)]
    ring
  · have hrank : k * f.binade + m = (m - f.binade) + f.binade * (k + 1) := by
      rw [Nat.mul_succ, Nat.mul_comm f.binade k]
      omega
    have hrest : m - f.binade < f.binade := by omega
    rw [hrank, if_neg (by rw [Nat.mul_succ]; omega), Nat.add_mul_mod_self_left,
      Nat.mod_eq_of_lt hrest, Nat.add_mul_div_left _ _ hpos, Nat.div_eq_of_lt hrest]
    have hsum : f.binade + (m - f.binade) = m := by omega
    rw [hsum, Nat.zero_add, Nat.add_sub_cancel]
    rfl

/-- Every rank is that of a significand in a binade. -/
theorem exists_split_rank (rank : Nat) :
    ∃ m k, m < 2 * f.binade ∧ (k = 0 ∨ f.binade ≤ m) ∧ rank = k * f.binade + m := by
  have hpos := f.binade_pos
  have hrest := Nat.mod_lt rank hpos
  have hrank := Nat.div_add_mod rank f.binade
  rcases Nat.eq_zero_or_pos (rank / f.binade) with hzero | hquot
  · refine ⟨rank, 0, ?_, .inl rfl, by omega⟩
    rw [hzero] at hrank
    omega
  · refine ⟨f.binade + rank % f.binade, rank / f.binade - 1, by omega, .inr (by omega), ?_⟩
    obtain ⟨q, hq⟩ : ∃ q, rank / f.binade = q + 1 := ⟨rank / f.binade - 1, by omega⟩
    rw [hq, Nat.mul_succ, Nat.mul_comm f.binade q] at hrank
    rw [hq, Nat.add_sub_cancel]
    omega

/-- Numbers grow with their ranks. -/
theorem units_strictMono : StrictMono f.units := by
  refine strictMono_nat_of_lt_succ fun rank => ?_
  obtain ⟨m, k, hm, hk, rfl⟩ := f.exists_split_rank rank
  rw [f.units_of_split hm hk, Nat.add_assoc]
  have hpow : 0 < 2 ^ k := Nat.two_pow_pos k
  by_cases hnext : m + 1 < 2 * f.binade
  · rw [f.units_of_split hnext (by omega)]
    exact Nat.mul_lt_mul_of_pos_right (Nat.lt_succ_self m) hpow
  · -- The last number of a binade is followed by the first of the next one.
    have hfirst : k * f.binade + (m + 1) = (k + 1) * f.binade + f.binade := by
      rw [Nat.succ_mul]
      omega
    rw [hfirst, f.units_of_split (by have := f.binade_pos; omega) (.inr (Nat.le_refl _)), pow_succ]
    nlinarith

/-! ## Counts that are numbers -/

/-- A count of least units is a number of the format, as if there were no largest one: its bits
fit. -/
def Holds (w : Nat) : Prop := ∃ m k, m < 2 * f.binade ∧ w = m * 2 ^ k

theorem holds_units (rank : Nat) : f.Holds (f.units rank) := by
  obtain ⟨m, k, hm, hk, rfl⟩ := f.exists_split_rank rank
  exact ⟨m, k, hm, f.units_of_split hm hk⟩

variable {f}

theorem Holds.mul_two_pow {w : Nat} (h : f.Holds w) (j : Nat) : f.Holds (w * 2 ^ j) := by
  obtain ⟨m, k, hm, rfl⟩ := h
  exact ⟨m, k + j, hm, by rw [pow_add]; ring⟩

theorem Holds.mono {g : Format} {w : Nat} (h : f.Holds w) (hbinade : f.binade ≤ g.binade) :
    g.Holds w := by
  obtain ⟨m, k, hm, rfl⟩ := h
  exact ⟨m, k, by omega, rfl⟩

/-- The integers up to the first power of two beyond the significands are numbers. -/
theorem holds_of_le {n : Nat} (h : n ≤ 2 * f.binade) : f.Holds (n * f.unitsInOne) := by
  rcases Nat.lt_or_eq_of_le h with hlt | rfl
  · exact ⟨n, f.scale, hlt, rfl⟩
  · refine ⟨1, f.fractionBits + 1 + f.scale, by have := f.binade_pos; omega, ?_⟩
    have hbinade : f.binade = 2 ^ f.fractionBits := rfl
    have hunits : f.unitsInOne = 2 ^ f.scale := rfl
    rw [hbinade, hunits, pow_add, pow_add]
    ring

/-- What a format holds has a significand that starts with a one, or is in the lowest binade. -/
theorem Holds.exists_split {w : Nat} (h : f.Holds w) :
    ∃ m k, m < 2 * f.binade ∧ (k = 0 ∨ f.binade ≤ m) ∧ w = m * 2 ^ k := by
  obtain ⟨m, k, hm, rfl⟩ := h
  -- Doubling a significand that is too small takes one from the exponent.
  induction k generalizing m with
  | zero => exact ⟨m, 0, hm, .inl rfl, rfl⟩
  | succ k ih =>
      by_cases hlow : m < f.binade
      · obtain ⟨m', k', hm', hk', heq⟩ := ih (2 * m) (by omega)
        exact ⟨m', k', hm', hk', by rw [← heq, pow_succ]; ring⟩
      · exact ⟨m, k + 1, hm, .inr (by omega), rfl⟩

theorem log2_sub_fractionBits {m k : Nat} (hm : m < 2 * f.binade) (hk : k = 0 ∨ f.binade ≤ m) :
    (m * 2 ^ k).log2 - f.fractionBits = k := by
  have hbinade : f.binade = 2 ^ f.fractionBits := rfl
  have hupper : m < 2 ^ (f.fractionBits + 1) := by
    rw [pow_succ, ← hbinade]
    omega
  rcases hk with rfl | hlow
  · rw [pow_zero, Nat.mul_one]
    rcases Nat.eq_zero_or_pos m with rfl | hpos
    · rw [Nat.log2_zero, Nat.zero_sub]
    · have := (Nat.log2_lt (by omega)).2 hupper
      omega
  · have hpow : 0 < 2 ^ k := Nat.two_pow_pos k
    have hpos : 0 < m := Nat.lt_of_lt_of_le f.binade_pos hlow
    have hne : m * 2 ^ k ≠ 0 := Nat.ne_of_gt (Nat.mul_pos hpos hpow)
    have hlog : (m * 2 ^ k).log2 = f.fractionBits + k := by
      rw [Nat.log2_eq_iff hne, Nat.add_right_comm, pow_add, pow_add, ← hbinade]
      exact ⟨Nat.mul_le_mul_right _ hlow, Nat.mul_lt_mul_of_pos_right hupper hpow⟩
    rw [hlog, Nat.add_sub_cancel_left]

/-- A quotient that is a number is rounded to that number. -/
theorem units_nearestRank {num den w : Nat} (hden : 0 < den) (hw : f.Holds w)
    (heq : num * f.unitsInOne = den * w) : f.units (f.nearestRank num den) = w := by
  obtain ⟨m, k, hm, hk, rfl⟩ := hw.exists_split
  have hrank : f.nearestRank num den = k * f.binade + m := by
    have hstep : den * (m * 2 ^ k) = den * 2 ^ k * m := by ring
    have hpos : 0 < den * 2 ^ k := Nat.mul_pos hden (Nat.two_pow_pos k)
    unfold nearestRank
    simp only [heq, Nat.mul_div_cancel_left _ hden, log2_sub_fractionBits hm hk]
    rw [hstep]
    exact congrArg _ (roundHalfEven_mul_left m hpos)
  rw [hrank, f.units_of_split hm hk]

/-- What a quotient is rounded to does not change when it is expanded. -/
theorem nearestRank_mul_mul (num den : Nat) {c : Nat} (hc : 0 < c) :
    f.nearestRank (num * c) (den * c) = f.nearestRank num den := by
  unfold nearestRank
  simp only [Nat.mul_right_comm num c, Nat.mul_right_comm den c, Nat.mul_div_mul_right _ _ hc,
    roundHalfEven_mul_mul _ _ hc]

/-- There are finite numbers beyond the integers that are all numbers. -/
def Roomy (f : Format) : Prop := 2 * f.binade * f.unitsInOne < f.units f.finiteCount

instance (f : Format) : Decidable f.Roomy := Nat.decLt _ _

theorem roomy_binary32 : binary32.Roomy := by decide +kernel

theorem roomy_binary64 : binary64.Roomy := by decide +kernel

end Format

theorem roundHalfEven_le {n d a : Nat} (h : n < d * a) : roundHalfEven n d ≤ a := by
  have hquot : n / d < a := Nat.div_lt_of_lt_mul h
  have hparity : n / d % 2 < 2 := Nat.mod_lt _ (by omega)
  unfold roundHalfEven
  dsimp only
  split
  · omega
  · split <;> omega

namespace Binary

/-! ## Rounding what is a number -/

section

variable {f : Format}

/-- A quotient that is a finite number of the format is rounded to that number. -/
theorem nearest_of_holds {num den w : Nat} (negative : Bool) (hden : 0 < den) (hw : f.Holds w)
    (hlt : w < f.units f.finiteCount) (heq : num * f.unitsInOne = den * w) :
    ∃ rank : Fin f.finiteCount,
      nearest f negative num den = .finite negative rank ∧ f.units rank = w := by
  have hunits := Format.units_nearestRank hden hw heq
  have hrank : f.nearestRank num den < f.finiteCount := by
    rwa [← f.units_strictMono.lt_iff_lt, hunits]
  refine ⟨⟨_, hrank⟩, ?_, hunits⟩
  unfold nearest
  rw [dif_pos hrank]

/-- The integers up to the first power of two beyond the significands are not rounded. -/
theorem nearest_of_le (hf : f.Roomy) (negative : Bool) {n : Nat} (hn : n ≤ 2 * f.binade) :
    ∃ rank : Fin f.finiteCount,
      nearest f negative n 1 = .finite negative rank ∧ f.units rank = n * f.unitsInOne := by
  have hlt : n * f.unitsInOne < f.units f.finiteCount :=
    Nat.lt_of_le_of_lt (Nat.mul_le_mul_right _ hn) hf
  exact nearest_of_holds negative Nat.one_pos (Format.holds_of_le hn) hlt (Nat.one_mul _).symm

/-- An integer that is a number of one format goes to another as if it came there at once. -/
theorem convert_ofInt (hf : f.Roomy) {n : Int} (hn : n.natAbs ≤ 2 * f.binade) (g : Format) :
    (ofInt f n).convert g = ofInt g n := by
  obtain ⟨rank, hnearest, hunits⟩ := nearest_of_le hf (decide (n < 0)) hn
  have hrank := g.nearestRank_mul_mul n.natAbs 1 f.unitsInOne_pos
  rw [Nat.one_mul] at hrank
  rw [ofInt, hnearest, convert, hunits]
  unfold ofInt nearest
  simp only [hrank]

/-- A format with as many bits, a unit as small and a range as large holds the finite numbers. -/
theorem convert_finite {g : Format} {j : Nat} (hscale : g.unitsInOne = f.unitsInOne * 2 ^ j)
    (hbinade : f.binade ≤ g.binade)
    (hrange : f.units f.finiteCount * 2 ^ j ≤ g.units g.finiteCount) (negative : Bool)
    (rank : Fin f.finiteCount) :
    ∃ rank' : Fin g.finiteCount, convert g (.finite negative rank) = .finite negative rank' ∧
      g.units rank' * f.unitsInOne = f.units rank * g.unitsInOne := by
  have hholds : g.Holds (f.units rank * 2 ^ j) := ((f.holds_units rank).mono hbinade).mul_two_pow j
  have hlt : f.units rank * 2 ^ j < g.units g.finiteCount :=
    Nat.lt_of_lt_of_le
      (Nat.mul_lt_mul_of_pos_right (f.units_strictMono rank.isLt) (Nat.two_pow_pos j)) hrange
  have heq : f.units rank * g.unitsInOne = f.unitsInOne * (f.units rank * 2 ^ j) := by
    rw [hscale]
    ring
  obtain ⟨rank', hnearest, hunits⟩ := nearest_of_holds negative f.unitsInOne_pos hholds hlt heq
  exact ⟨rank', hnearest, by rw [heq, hunits, Nat.mul_comm]⟩

/-- The integral number nearest to a finite number is the nearest integer. -/
theorem rounded_finite (hf : f.Roomy) (negative : Bool) (rank : Fin f.finiteCount) :
    ∃ rank' : Fin f.finiteCount, rounded (.finite negative rank) = .finite negative rank' ∧
      f.units rank' = roundHalfEven (f.units rank) f.unitsInOne * f.unitsInOne := by
  by_cases hsmall : f.units rank < f.unitsInOne * (2 * f.binade)
  · exact nearest_of_le hf negative (roundHalfEven_le hsmall)
  · -- Numbers beyond the significands are integers already.
    obtain ⟨m, k, hm, hunits⟩ := f.holds_units rank
    have hscale : f.scale ≤ k := by
      have hlt : f.unitsInOne * (2 * f.binade) < 2 ^ k * (2 * f.binade) := by
        have := Nat.mul_lt_mul_of_pos_right hm (Nat.two_pow_pos k)
        rw [← hunits, Nat.mul_comm] at this
        omega
      exact ((Nat.pow_lt_pow_iff_right Nat.one_lt_two).1 (Nat.lt_of_mul_lt_mul_right hlt)).le
    obtain ⟨q, hq⟩ : f.unitsInOne ∣ f.units rank := by
      rw [hunits]
      exact Nat.dvd_mul_left_of_dvd (Nat.pow_dvd_pow 2 hscale) m
    have hround : roundHalfEven (f.units rank) f.unitsInOne * f.unitsInOne = f.units rank := by
      rw [hq, roundHalfEven_mul_left q f.unitsInOne_pos, Nat.mul_comm]
    have hlt : f.units rank < f.units f.finiteCount := f.units_strictMono rank.isLt
    rw [hround]
    have heq := hround.trans (Nat.one_mul _).symm
    exact nearest_of_holds negative Nat.one_pos (f.holds_units rank) hlt heq

end

/-! ## The wide cast -/

/-- The bound of the wide cast as an integer. -/
def wideBoundInt : Nat := 99999999999999997748809823456034029568

theorem wideBound_eq :
    ∃ rank, wideBound = .finite false rank ∧
      Format.binary64.units rank = wideBoundInt * Format.binary64.unitsInOne :=
  ⟨⟨Format.binary64.nearestRank (Nat.pow 10 38) 1, by decide +kernel⟩, by decide +kernel,
    by decide +kernel⟩

/-- A finite number is taken as the nearest integer if that is below the bound. -/
theorem toInt?_finite (negative : Bool) (rank : Fin Format.binary64.finiteCount) {n : Nat}
    (hn : roundHalfEven (Format.binary64.units rank) Format.binary64.unitsInOne = n) :
    toInt? (.finite negative rank) =
      if n < wideBoundInt then some (signed negative n) else none := by
  obtain ⟨rank', hrounded, hunits⟩ := rounded_finite Format.roomy_binary64 negative rank
  obtain ⟨bound, hbound, hboundUnits⟩ := wideBound_eq
  have hpos := Format.binary64.unitsInOne_pos
  rw [hn] at hunits
  unfold toInt?
  rw [hrounded]
  simp only [isBelowWideBound, hbound, isFinite, absLess, hunits, hboundUnits, Bool.true_and,
    decide_eq_true_eq, Nat.mul_lt_mul_right hpos]
  split
  · rename_i hlt
    -- Below the bound the cast does not reach the ends of its range.
    have hleast : ¬ signed negative n < wideLeast := by
      unfold signed wideLeast
      unfold wideBoundInt at hlt
      split <;> omega
    have hgreatest : ¬ wideGreatest < signed negative n := by
      unfold signed wideGreatest
      unfold wideBoundInt at hlt
      split <;> omega
    simp only [toWide, hunits, Nat.mul_div_cancel n hpos, hleast, hgreatest, if_false]
  · rfl

theorem toInt?_of_not_isFinite {x : Double} (h : x.isFinite = false) : x.toInt? = none := by
  cases x with
  | nan => rfl
  | infinite negative => rfl
  | finite negative rank => cases h

end Binary

end VerbNoun.Number

namespace VerbNoun.FloatKind

open Number

theorem roomy (k : FloatKind) : k.format.Roomy := by
  cases k with
  | f32 => exact Format.roomy_binary32
  | f64 => exact Format.roomy_binary64

/-- Eight bytes hold every number of both kinds. -/
theorem widen_finite (k : FloatKind) (negative : Bool) (rank : Fin k.format.finiteCount) :
    ∃ rank' : Fin Format.binary64.finiteCount,
      k.widen (.finite negative rank) = .finite negative rank' ∧
        Format.binary64.units rank' * k.format.unitsInOne =
          k.format.units rank * Format.binary64.unitsInOne := by
  cases k with
  | f64 => exact ⟨rank, rfl, rfl⟩
  | f32 =>
      have hscale : Format.binary64.unitsInOne = Format.binary32.unitsInOne * 2 ^ 925 := by
        decide +kernel
      have hbinade : Format.binary32.binade ≤ Format.binary64.binade := by decide +kernel
      have hrange : Format.binary32.units Format.binary32.finiteCount * 2 ^ 925 ≤
          Format.binary64.units Format.binary64.finiteCount := by decide +kernel
      exact Binary.convert_finite hscale hbinade hrange negative rank

end VerbNoun.FloatKind
