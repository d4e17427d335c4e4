import VerbNoun.Value.Basic
import VerbNoun.Proofs.Number.Rational
set_option autoImplicit false

/-!
# Value: the table of coercions (SPEC §11)

What coercing a value to a kind gives, said by the kinds and by the exact number that the value is.
On the way to an integer a number is widened, rounded, held against a bound and cut to sixteen
bytes; none of this shows in what comes out.
-/

namespace VerbNoun

open Number Number.Binary

namespace IntKind

/-- An integer is one of the kind. -/
def Contains (t : IntKind) (n : ℤ) : Prop := t.least ≤ n ∧ n ≤ t.greatest

instance (t : IntKind) (n : ℤ) : Decidable (t.Contains n) := inferInstanceAs (Decidable (_ ∧ _))

theorem ofInt?_eq_some_iff {t : IntKind} {n : ℤ} {m : t.Number} :
    t.ofInt? n = some m ↔ m.val = n := by
  unfold ofInt?
  split
  · simp [Subtype.ext_iff, eq_comm]
  · rename_i hout
    refine ⟨fun h => (by cases h), fun h => ?_⟩
    exact absurd (h ▸ m.property) hout

/-- The integers of all kinds are below the bound of the wide cast. -/
theorem Contains.natAbs_lt {t : IntKind} {n : ℤ} (h : t.Contains n) : n.natAbs < wideBoundInt := by
  unfold Contains at h
  unfold wideBoundInt
  cases t <;> simp only [least, greatest] at h <;> omega

end IntKind

/-! ## The bound of the wide cast -/

namespace FloatKind

variable {k : FloatKind} {x : Binary k.format} {q : ℚ} {n : ℤ}

/-- Below the bound the wide cast gives the nearest integer. -/
theorem toWide_rounded (hq : x.toRat? = some q) (hn : NearestEven q n)
    (h : (k.widen x).rounded.isBelowWideBound = true) : (k.widen x).rounded.toWide = n := by
  have hint : (k.widen x).toInt? = some (k.widen x).rounded.toWide := if_pos h
  obtain ⟨q', hq', hnearest, -⟩ := toInt?_eq_some_iff.1 hint
  rw [k.toRat?_widen, hq] at hq'
  cases hq'
  exact hnearest.unique hn

/-- From the bound on the nearest integer is one of no kind. -/
theorem not_contains_of_bound (hq : x.toRat? = some q) (hn : NearestEven q n)
    (h : (k.widen x).rounded.isBelowWideBound = false) (t : IntKind) : ¬ t.Contains n := by
  intro hcontains
  have hint : (k.widen x).toInt? = some n :=
    toInt?_eq_some_iff.2 ⟨q, by rw [k.toRat?_widen, hq], hn, hcontains.natAbs_lt⟩
  have hnone : (k.widen x).toInt? = none := if_neg (Bool.eq_false_iff.1 h)
  rw [hnone] at hint
  cases hint

end FloatKind

namespace Value

/-- The exact number that a value is, if it is a finite number. -/
def number? : Value → Option ℚ
  | .null => none
  | .of .bool _ => none
  | .of .string _ => none
  | .of (.int _) n => some n.val
  | .of (.float _) x => x.toRat?

/-! ## To integers -/

theorem coerce?_int_of_int {s t : IntKind} (n : s.Number) {w : Value} :
    (Value.of (.int s) n).coerce? (.int t) = some w ↔
      ∃ m : t.Number, m.val = n.val ∧ w = .of (.int t) m := by
  simp only [coerce?, Kind.convert?, Option.map_eq_some_iff, IntKind.ofInt?_eq_some_iff]
  constructor
  · rintro ⟨m, hm, rfl⟩
    exact ⟨m, hm, rfl⟩
  · rintro ⟨m, hm, rfl⟩
    exact ⟨m, hm, rfl⟩

theorem coerce?_int_of_float {k : FloatKind} {t : IntKind} (x : Binary k.format) {w : Value} :
    (Value.of (.float k) x).coerce? (.int t) = some w ↔
      ∃ (q : ℚ) (m : t.Number), x.toRat? = some q ∧ NearestEven q m.val ∧ w = .of (.int t) m := by
  simp only [coerce?, Kind.convert?, Option.map_eq_some_iff, Option.bind_eq_some_iff,
    toInt?_eq_some_iff, k.toRat?_widen, IntKind.ofInt?_eq_some_iff]
  constructor
  · rintro ⟨m, ⟨n, ⟨q, hq, hn, -⟩, rfl⟩, rfl⟩
    exact ⟨q, m, hq, hn, rfl⟩
  · rintro ⟨q, m, hq, hm, rfl⟩
    exact ⟨m, ⟨m.val, ⟨q, hq, hm, IntKind.Contains.natAbs_lt m.property⟩, rfl⟩, rfl⟩

/-- A value becomes an integer of a kind if and only if it is a finite number whose nearest integer
is one of the kind, and then it becomes that integer. -/
theorem coerce?_int_iff {v w : Value} {t : IntKind} :
    v.coerce? (.int t) = some w ↔
      ∃ (x : ℚ) (m : t.Number), v.number? = some x ∧ NearestEven x m.val ∧ w = .of (.int t) m := by
  cases v with
  | null => simp [coerce?, number?]
  | of k x =>
      cases k with
      | bool => simp [coerce?, Kind.convert?, number?]
      | string => simp [coerce?, Kind.convert?, number?]
      | float k => exact coerce?_int_of_float x
      | int s =>
          rw [coerce?_int_of_int]
          constructor
          · rintro ⟨m, hm, rfl⟩
            exact ⟨_, m, rfl, hm ▸ nearestEven_intCast _, rfl⟩
          · rintro ⟨_, m, hx, hm, rfl⟩
            cases hx
            exact ⟨m, hm.unique (nearestEven_intCast _), rfl⟩

/-! ## The table -/

theorem coerce?_eq_none_of_refused {k j : Kind} (x : j.Content) (h : k.accepts j = false) :
    (Value.of j x).coerce? k = none := by
  cases j with
  | bool =>
      cases k with
      | bool => cases h
      | _ => rfl
  | string =>
      cases k with
      | string => cases h
      | _ => rfl
  | int s =>
      cases k with
      | bool => rfl
      | string => rfl
      | _ => simp [Kind.accepts, Kind.isNumeric] at h
  | float s =>
      cases k with
      | bool => rfl
      | string => rfl
      | _ => simp [Kind.accepts, Kind.isNumeric] at h

theorem coerce?_float {j : Kind} (x : j.Content) (hj : j.isNumeric = true) (t : FloatKind) :
    ∃ y, (Value.of j x).coerce? (.float t) = some (.of (.float t) y) := by
  cases j with
  | bool => cases hj
  | string => cases hj
  | int s => exact ⟨_, rfl⟩
  | float s => exact ⟨_, rfl⟩

theorem number?_eq_none_of_isFinite {k : FloatKind} {x : Binary k.format} (h : x.isFinite = false) :
    (Value.of (.float k) x).number? = none := toRat?_eq_none_iff.2 h

/-- What coercing a value to a kind gives. -/
structure CoercesByTable (v : Value) (k : Kind) : Prop where
  null : v.kind? = none → v.coerce? k = none
  refused : ∀ j, v.kind? = some j → k.accepts j = false → v.coerce? k = none
  same : v.kind? = some k → v.coerce? k = some v
  toFloat : ∀ j t, v.kind? = some j → j.isNumeric = true → k = .float t →
    ∃ y, v.coerce? k = some (.of (.float t) y)
  /-- A finite number has one nearest integer. -/
  nearest : ∀ x, v.number? = some x → ∃! r : ℤ, NearestEven x r
  /-- A finite number becomes the nearest integer if that is one of the kind, and nothing else
  becomes an integer. -/
  toInt : ∀ t w, k = .int t →
    (v.coerce? k = some w ↔
      ∃ (x : ℚ) (r : ℤ) (h : t.Contains r),
        v.number? = some x ∧ NearestEven x r ∧ w = .of (.int t) ⟨r, h⟩)
  /-- Not-a-number and the infinities become no integers. -/
  notFinite : ∀ (j : FloatKind) (x : Binary j.format) t, v = .of (.float j) x →
    x.isFinite = false → k = .int t → v.coerce? k = none
  /-- The bound lets a number pass only to be cut to the nearest integer, and stops it only where
  the nearest integer is out of range for every kind. -/
  bound : ∀ (j : FloatKind) (x : Binary j.format) (q : ℚ) (r : ℤ), v = .of (.float j) x →
    v.number? = some q → NearestEven q r →
    if (j.widen x).rounded.isBelowWideBound then (j.widen x).rounded.toWide = r
    else ∀ t : IntKind, ¬ t.Contains r

end Value

/-- Every value is coerced to every kind by the table. -/
theorem coercion_by_table (v : Value) (k : Kind) : v.CoercesByTable k where
  null := by
    intro h
    cases v with
    | null => rfl
    | of j x => cases h
  refused := by
    intro j h hrefused
    cases v with
    | null => cases h
    | of j' x =>
        cases h
        exact Value.coerce?_eq_none_of_refused x hrefused
  same := by
    intro h
    cases v with
    | null => cases h
    | of j x =>
        cases h
        exact Value.coerce?_self k x
  toFloat := by
    rintro j t h hnumeric rfl
    cases v with
    | null => cases h
    | of j' x =>
        cases h
        exact Value.coerce?_float x hnumeric t
  nearest := fun x _ => existsUnique_nearestEven x
  toInt := by
    rintro t w rfl
    rw [Value.coerce?_int_iff]
    constructor
    · rintro ⟨x, m, hx, hm, rfl⟩
      exact ⟨x, m.val, m.property, hx, hm, rfl⟩
    · rintro ⟨x, r, h, hx, hr, rfl⟩
      exact ⟨x, ⟨r, h⟩, hx, hr, rfl⟩
  notFinite := by
    rintro j x t rfl hfinite rfl
    rw [Option.eq_none_iff_forall_ne_some]
    intro w hw
    obtain ⟨q, -, hq, -⟩ := Value.coerce?_int_iff.1 hw
    rw [Value.number?_eq_none_of_isFinite hfinite] at hq
    cases hq
  bound := by
    rintro j x q r rfl hq hr
    split
    · rename_i hbelow
      exact FloatKind.toWide_rounded hq hr hbelow
    · rename_i hbelow
      exact FloatKind.not_contains_of_bound hq hr (Bool.eq_false_iff.2 hbelow)

-- A half below zero goes to zero, which an unsigned byte has; a half above its greatest does not.
example : (Value.ofDouble (Binary.nearest .binary64 true 1 2)).coerce? (.int .u8) =
    some (.of (.int .u8) ⟨0, by decide⟩) := by decide +kernel

example : (Value.ofDouble (Binary.nearest .binary64 false 511 2)).coerce? (.int .u8) = none := by
  decide +kernel

end VerbNoun
