import VerbNoun.Proofs.Value.Coercion
set_option autoImplicit false

/-!
# Value: integers on the way through other kinds (SPEC §11)

A value can pass through many kinds before it is used: a pipe, a variable and a parameter each may
have their own.  An integer comes through unchanged as long as every kind on the way has it, so the
way does not matter.
-/

namespace VerbNoun

open Number Number.Binary

/-- The integers that contents of a kind keep exactly.  Floating-point numbers keep them up to the
first power of two beyond their significands. -/
def Kind.Keeps (n : ℤ) : Kind → Prop
  | .bool => False
  | .string => False
  | .int t => t.Contains n
  | .float k => n.natAbs ≤ 2 * k.format.binade

/-- Whether a kind is one of integers and does not have an integer. -/
def Kind.excludes (n : ℤ) : Kind → Bool
  | .int t => !decide (t.Contains n)
  | _ => false

namespace Value

/-- A value moved to kinds one after the other. -/
def coerceAlong? : List Kind → Value → Option Value
  | [], v => some v
  | k :: ks, v => (v.coerce? k).bind (coerceAlong? ks)

theorem coerceAlong?_append (ks ks' : List Kind) (v : Value) :
    coerceAlong? (ks ++ ks') v = (coerceAlong? ks v).bind (coerceAlong? ks') := by
  induction ks generalizing v with
  | nil => rfl
  | cons k ks ih =>
      rw [List.cons_append, coerceAlong?, coerceAlong?, Option.bind_assoc]
      exact congrArg _ (funext ih)

/-! ## One kind -/

/-- A value is a stand-in for an integer: it is the same number and becomes the same everywhere. -/
structure StandsFor {s : IntKind} (n : s.Number) (w : Value) : Prop where
  number_eq : w.number? = some (n.val : ℚ)
  coerce_eq : ∀ k, w.coerce? k = (Value.of (.int s) n).coerce? k

theorem StandsFor.refl {s : IntKind} (n : s.Number) : StandsFor n (.of (.int s) n) :=
  ⟨rfl, fun _ => rfl⟩

variable {s : IntKind} {n : s.Number}

theorem standsFor_int {t : IntKind} {m : t.Number} (h : m.val = n.val) :
    StandsFor n (.of (.int t) m) := by
  refine ⟨by rw [number?, h], fun k => ?_⟩
  cases k with
  | bool => rfl
  | string => rfl
  | int u => simp only [coerce?, Kind.convert?, h]
  | float k => simp only [coerce?, Kind.convert?, h]

theorem standsFor_float {k : FloatKind} (h : n.val.natAbs ≤ 2 * k.format.binade) :
    StandsFor n (.of (.float k) (ofInt k.format n.val)) := by
  have hnumber := toRat?_ofInt k.roomy h
  refine ⟨hnumber, fun k' => ?_⟩
  cases k' with
  | bool => rfl
  | string => rfl
  | int t =>
      -- Both sides are the nearest integer to the same number.
      apply Option.ext
      intro w
      rw [coerce?_int_iff, coerce?_int_iff]
      simp only [number?, hnumber]
  | float g =>
      simp only [coerce?, Kind.convert?]
      split
      · rename_i hkind
        subst hkind
        rfl
      · rw [convert_ofInt k.roomy h]

/-- A kind that keeps an integer takes it from any stand-in, and what it takes is a stand-in. -/
theorem StandsFor.step {w : Value} (h : StandsFor n w) {k : Kind} (hk : k.Keeps n.val) :
    ∃ w', w.coerce? k = some w' ∧ StandsFor n w' := by
  rw [h.coerce_eq]
  cases k with
  | bool => cases hk
  | string => cases hk
  | int t =>
      have hcoerce := coerce?_int_of_int n (t := t).2 ⟨⟨n.val, hk⟩, rfl, rfl⟩
      exact ⟨_, hcoerce, standsFor_int rfl⟩
  | float g => exact ⟨_, rfl, standsFor_float hk⟩

theorem StandsFor.coerce?_eq_none {w : Value} (h : StandsFor n w) {t : IntKind}
    (ht : ¬ t.Contains n.val) : w.coerce? (.int t) = none := by
  rw [h.coerce_eq, Option.eq_none_iff_forall_ne_some]
  intro w' hw'
  obtain ⟨m, hm, -⟩ := (coerce?_int_of_int n).1 hw'
  exact ht (hm ▸ m.property)

theorem StandsFor.coerce?_self {w : Value} (h : StandsFor n w) :
    w.coerce? (.int s) = some (.of (.int s) n) := by
  rw [h.coerce_eq, Value.coerce?_self]

/-! ## Many kinds -/

/-- An integer comes through kinds that all keep it, and arrives as if it had come at once. -/
theorem StandsFor.along {w : Value} (h : StandsFor n w) {ks : List Kind}
    (hks : ∀ k ∈ ks, k.Keeps n.val) :
    ∃ w', coerceAlong? ks w = some w' ∧ StandsFor n w' ∧
      ∀ k, ks.getLast? = some k → (Value.of (.int s) n).coerce? k = some w' := by
  induction ks generalizing w with
  | nil => exact ⟨w, rfl, h, fun k hk => (by cases hk)⟩
  | cons k ks ih =>
      obtain ⟨hk, hrest⟩ := List.forall_mem_cons.1 hks
      obtain ⟨w', hstep, hw'⟩ := h.step hk
      obtain ⟨w'', halong, hw'', hlast⟩ := ih hw' hrest
      refine ⟨w'', by rw [coerceAlong?, hstep]; exact halong, hw'', ?_⟩
      intro last hlast'
      cases ks with
      | nil =>
          cases hlast'
          cases halong
          rw [← h.coerce_eq]
          exact hstep
      | cons k' ks' => exact hlast last (by rwa [List.getLast?_cons_cons] at hlast')

/-- An integer is stopped by a kind that does not have it. -/
theorem StandsFor.along_stops {w : Value} (h : StandsFor n w) {before : List Kind}
    (hbefore : ∀ k ∈ before, k.Keeps n.val) {t : IntKind} (ht : ¬ t.Contains n.val)
    (after : List Kind) :
    ∃ w', coerceAlong? before w = some w' ∧ w'.coerce? (.int t) = none ∧
      coerceAlong? (before ++ .int t :: after) w = none := by
  obtain ⟨w', halong, hw', -⟩ := h.along hbefore
  have hnone := hw'.coerce?_eq_none ht
  refine ⟨w', halong, hnone, ?_⟩
  rw [coerceAlong?_append, halong, Option.bind_some, coerceAlong?, hnone, Option.bind_none]

end Value

/-! ## Which kinds keep an integer -/

theorem FloatKind.natAbs_le {k : FloatKind} {n : ℤ} (h64 : k = .f64 → |n| ≤ 2 ^ 53)
    (h32 : k = .f32 → |n| ≤ 2 ^ 24) : n.natAbs ≤ 2 * k.format.binade := by
  rw [Int.abs_eq_natAbs] at h64 h32
  cases k with
  | f32 =>
      have hbinade : 2 * FloatKind.f32.format.binade = 2 ^ 24 := rfl
      rw [hbinade]
      exact_mod_cast h32 rfl
  | f64 =>
      have hbinade : 2 * FloatKind.f64.format.binade = 2 ^ 53 := rfl
      rw [hbinade]
      exact_mod_cast h64 rfl

namespace Kind

theorem keeps_of_bounds {n : ℤ} {k : Kind} (hnumeric : k.isNumeric = true)
    (hint : ∀ t, k = .int t → t.Contains n) (h64 : k = .float .f64 → |n| ≤ 2 ^ 53)
    (h32 : k = .float .f32 → |n| ≤ 2 ^ 24) : k.Keeps n := by
  cases k with
  | bool => cases hnumeric
  | string => cases hnumeric
  | int t => exact hint t rfl
  | float k =>
      exact FloatKind.natAbs_le (fun hk => h64 (congrArg Kind.float hk))
        (fun hk => h32 (congrArg Kind.float hk))

theorem excludes_eq_true_iff {n : ℤ} {k : Kind} :
    k.excludes n = true ↔ ∃ t, k = .int t ∧ ¬ t.Contains n := by
  cases k <;> simp [excludes]

/-- Among kinds one of which excludes an integer there is a first that does. -/
theorem exists_first_excludes {n : ℤ} {ks : List Kind} {t : IntKind} (hmem : .int t ∈ ks)
    (ht : ¬ t.Contains n) :
    ∃ before u after, ks = before ++ .int u :: after ∧
      (∀ u', .int u' ∈ before → u'.Contains n) ∧ ¬ u.Contains n := by
  have hsome : (ks.find? (·.excludes n)).isSome = true :=
    List.find?_isSome.2 ⟨_, hmem, excludes_eq_true_iff.2 ⟨t, rfl, ht⟩⟩
  obtain ⟨k, hfind⟩ := Option.isSome_iff_exists.1 hsome
  obtain ⟨hk, before, after, heq, hbefore⟩ := List.find?_eq_some_iff_append.1 hfind
  obtain ⟨u, rfl, hu⟩ := excludes_eq_true_iff.1 hk
  refine ⟨before, u, after, heq, fun u' hu' => ?_, hu⟩
  by_contra hout
  have hnot := hbefore _ hu'
  rw [excludes_eq_true_iff.2 ⟨u', rfl, hout⟩] at hnot
  cases hnot

end Kind

/-- An integer that passes through numeric kinds, floating-point ones only where they are exact, is
kept as long as the integer kinds have it, and is stopped by the first one that does not. -/
theorem integers_survive_coercions {s : IntKind} (n : s.Number) (ks : List Kind)
    (hnumeric : ∀ k ∈ ks, k.isNumeric = true)
    (h64 : .float .f64 ∈ ks → |n.val| ≤ 2 ^ 53) (h32 : .float .f32 ∈ ks → |n.val| ≤ 2 ^ 24) :
    ((∀ t, .int t ∈ ks → t.Contains n.val) →
      (∀ before, before <+: ks → ((Value.of (.int s) n).coerceAlong? before).isSome = true) ∧
      ∃ w, (Value.of (.int s) n).coerceAlong? ks = some w ∧ w.number? = some (n.val : ℚ) ∧
        (∀ k, ks.getLast? = some k → (Value.of (.int s) n).coerce? k = some w) ∧
        w.coerce? (.int s) = some (.of (.int s) n)) ∧
    ((∃ t, .int t ∈ ks ∧ ¬ t.Contains n.val) →
      ∃ before t after w, ks = before ++ .int t :: after ∧
        (∀ u, .int u ∈ before → u.Contains n.val) ∧ ¬ t.Contains n.val ∧
        (Value.of (.int s) n).coerceAlong? before = some w ∧ w.coerce? (.int t) = none ∧
        (Value.of (.int s) n).coerceAlong? ks = none) := by
  have hkeeps : ∀ ks', ks' ⊆ ks → (∀ t, .int t ∈ ks' → t.Contains n.val) →
      ∀ k ∈ ks', k.Keeps n.val := by
    intro ks' hsub hints k hk
    exact Kind.keeps_of_bounds (hnumeric k (hsub hk)) (fun t ht => hints t (ht ▸ hk))
      (fun hkind => h64 (hkind ▸ hsub hk)) (fun hkind => h32 (hkind ▸ hsub hk))
  have hself := Value.StandsFor.refl n
  constructor
  · intro hints
    constructor
    · intro before hbefore
      obtain ⟨w, halong, -⟩ := hself.along
        (hkeeps before hbefore.subset fun t ht => hints t (hbefore.subset ht))
      rw [halong]
      rfl
    · obtain ⟨w, halong, hw, hlast⟩ := hself.along (hkeeps ks (List.Subset.refl ks) hints)
      exact ⟨w, halong, hw.number_eq, hlast, hw.coerce?_self⟩
  · rintro ⟨t, hmem, hout⟩
    obtain ⟨before, u, after, rfl, hbefore, hu⟩ := Kind.exists_first_excludes hmem hout
    obtain ⟨w, halong, hnone, hall⟩ :=
      hself.along_stops (hkeeps before (List.subset_append_left _ _) hbefore) hu after
    exact ⟨before, u, after, w, rfl, hbefore, hu, halong, hnone, hall⟩

/-- Two hundred as an unsigned byte comes through numbers of four and eight bytes and goes back, but
not through a signed byte. -/
theorem integers_survive_coercions_byte :
    (∃ w, (Value.of (.int .u8) ⟨200, by decide⟩).coerceAlong?
        [.float .f32, .int .i16, .float .f64] = some w ∧
      (Value.of (.int .u8) ⟨200, by decide⟩).coerce? (.float .f64) = some w ∧
      w.coerce? (.int .u8) = some (.of (.int .u8) ⟨200, by decide⟩)) ∧
    (Value.of (.int .u8) ⟨200, by decide⟩).coerceAlong?
      [.float .f32, .int .i16, .int .i8, .float .f64] = none := by
  constructor
  · obtain ⟨-, w, halong, -, hlast, hback⟩ :=
      (integers_survive_coercions (s := .u8) ⟨200, by decide⟩ [.float .f32, .int .i16, .float .f64]
        (by decide) (fun _ => by decide) (fun _ => by decide)).1 (by
          intro t ht
          simp only [List.mem_cons, reduceCtorEq, List.not_mem_nil, Kind.int.injEq] at ht
          obtain rfl : t = .i16 := by simpa using ht
          decide)
    exact ⟨w, halong, hlast _ rfl, hback⟩
  · obtain ⟨-, -, -, -, -, -, -, -, -, hnone⟩ :=
      (integers_survive_coercions (s := .u8) ⟨200, by decide⟩
        [.float .f32, .int .i16, .int .i8, .float .f64] (by decide) (fun _ => by decide)
        (fun _ => by decide)).2 ⟨.i8, by decide, by decide⟩
    exact hnone

end VerbNoun
