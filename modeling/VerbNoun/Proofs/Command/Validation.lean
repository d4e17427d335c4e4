import VerbNoun.Proofs.Reader
import VerbNoun.Proofs.Command.Registry
set_option autoImplicit false

/-!
# Command: which declarations are accepted (SPEC §4.2, §8)

A declaration is accepted if it is named, its name is free, its positions are 0, 1, 2 and so on in
any order, and no switch is mandatory.  Positions are checked one by one along the sorted
parameters.  That accepts exactly the rearrangements of 0, 1, 2 and so on, and the first place that
fails is where a position is repeated or left out.
-/

namespace VerbNoun

open Text

/-! ## Parameters in order -/

namespace Slot

/-- One parameter has a lower position than another, or the same and was declared before it. -/
def Before (p q : Slot) : Prop :=
  p.position < q.position ∨ p.position = q.position ∧ p.index < q.index

/-- The parameters in the order of their positions, equal positions in the order of
declaration. -/
structure SortedFrom (ps sorted : List Slot) : Prop where
  perm : sorted.Perm ps
  ordered : sorted.Pairwise Before

theorem Before.position_le {p q : Slot} (h : Before p q) : p.position ≤ q.position := by
  rcases h with h | h <;> omega

theorem Before.asymm {p q : Slot} (h : Before p q) : ¬ Before q p := by
  rintro (h' | h') <;> rcases h with h | h <;> omega

/-- There is one such order only. -/
theorem SortedFrom.unique {ps sorted sorted' : List Slot} (h : SortedFrom ps sorted)
    (h' : SortedFrom ps sorted') : sorted = sorted' :=
  List.Perm.eq_of_pairwise (fun _ _ _ _ hp hq => absurd hq hp.asymm) h.ordered h'.ordered
    (h.perm.trans h'.perm.symm)

/-- A parameter that was declared before all others goes before those of the same position. -/
theorem insertByPosition_ordered {p : Slot} {qs : List Slot} (hqs : qs.Pairwise Before)
    (hp : ∀ q ∈ qs, p.index < q.index) : (p.insertByPosition qs).Pairwise Before := by
  induction qs with
  | nil => exact List.pairwise_singleton _ _
  | cons q qs ih =>
      obtain ⟨hq, hqs'⟩ := List.pairwise_cons.1 hqs
      obtain ⟨hpq, hp'⟩ := List.forall_mem_cons.1 hp
      unfold insertByPosition
      split
      · rename_i hle
        have hbefore : Before p q := by
          unfold Before
          omega
        refine List.pairwise_cons.2 ⟨List.forall_mem_cons.2 ⟨hbefore, fun t ht => ?_⟩, hqs⟩
        have hle' := (hq t ht).position_le
        have hlt := hp' t ht
        unfold Before
        omega
      · rename_i hgt
        refine List.pairwise_cons.2 ⟨fun t ht => ?_, ih hqs' hp'⟩
        rcases List.mem_cons.1 ((insertByPosition_perm p qs).mem_iff.1 ht) with rfl | ht
        · exact .inl (by omega)
        · exact hq t ht

theorem sortByPosition_sortedFrom {ps : List Slot} (h : ps.Pairwise (·.index < ·.index)) :
    SortedFrom ps (sortByPosition ps) := by
  refine ⟨sortByPosition_perm ps, ?_⟩
  induction ps with
  | nil => exact List.Pairwise.nil
  | cons p ps ih =>
      obtain ⟨hp, hps⟩ := List.pairwise_cons.1 h
      refine insertByPosition_ordered (ih hps) fun q hq => ?_
      exact hp q ((sortByPosition_perm ps).mem_iff.1 hq)

/-- Parameters of one position stay in the order of declaration. -/
theorem SortedFrom.filter_eq {ps sorted : List Slot} (h : SortedFrom ps sorted)
    (hps : ps.Pairwise (·.index < ·.index)) (k : Int) :
    sorted.filter (·.position = k) = ps.filter (·.position = k) := by
  have hsorted : SortedFrom (ps.filter (·.position = k)) (sorted.filter (·.position = k)) :=
    ⟨h.perm.filter _, h.ordered.filter _⟩
  refine hsorted.unique ⟨List.Perm.refl _, ?_⟩
  refine (hps.filter _).imp_of_mem fun {p q} hp hq hlt => ?_
  have hp' := of_decide_eq_true (List.mem_filter.1 hp).2
  have hq' := of_decide_eq_true (List.mem_filter.1 hq).2
  exact .inr ⟨hp'.trans hq'.symm, hlt⟩

/-- Parameters in order are those below a position and then those that are not. -/
theorem below_append {sorted : List Slot} (h : sorted.Pairwise Before) (k : Int) :
    sorted.filter (·.position < k) ++ sorted.filter (k ≤ ·.position) = sorted := by
  induction sorted with
  | nil => rfl
  | cons q sorted ih =>
      obtain ⟨hq, hsorted⟩ := List.pairwise_cons.1 h
      by_cases hlt : q.position < k
      · have hnle : ¬ k ≤ q.position := by omega
        rw [List.filter_cons_of_pos (by simpa using hlt),
          List.filter_cons_of_neg (by simpa using hnle), List.cons_append, ih hsorted]
      · -- All that come after are no lower.
        have hall : ∀ t ∈ q :: sorted, k ≤ t.position := by
          refine List.forall_mem_cons.2 ⟨by omega, fun t ht => ?_⟩
          have hle := (hq t ht).position_le
          omega
        rw [List.filter_eq_nil_iff.2, List.filter_eq_self.2, List.nil_append]
        · exact fun t ht => decide_eq_true (hall t ht)
        · intro t ht
          have hle := hall t ht
          simpa using hle

theorem below_succ {sorted : List Slot} (h : sorted.Pairwise Before) (k : Int) :
    sorted.filter (·.position < k + 1) =
      sorted.filter (·.position < k) ++ sorted.filter (·.position = k) := by
  rw [← below_append (h.filter (·.position < k + 1)) k, List.filter_filter, List.filter_filter]
  congr 1
  · refine List.filter_congr fun t _ => ?_
    rw [← Bool.decide_and, decide_eq_decide]
    omega
  · refine List.filter_congr fun t _ => ?_
    rw [← Bool.decide_and, decide_eq_decide]
    omega

/-- Where each position below some number is held once, the parameters below it have just these
positions, in order. -/
theorem positions_below {sorted : List Slot} (h : sorted.Pairwise Before)
    (hnonneg : ∀ p ∈ sorted, 0 ≤ p.position) {k : Nat}
    (honce : ∀ j : Nat, j < k → (sorted.filter (·.position = (j : Int))).length = 1) :
    (sorted.filter (·.position < (k : Int))).map (·.position) =
      (List.range k).map fun j : Nat => (j : Int) := by
  induction k with
  | zero =>
      rw [List.filter_eq_nil_iff.2]
      · rfl
      · intro p hp
        have hle := hnonneg p hp
        simpa using hle
  | succ k ih =>
      obtain ⟨p, hp⟩ := List.length_eq_one_iff.1 (honce k (Nat.lt_succ_self k))
      have hposition : p.position = k := by
        have hmem : p ∈ sorted.filter (·.position = (k : Int)) := by
          rw [hp]
          exact List.mem_cons_self
        exact of_decide_eq_true (List.mem_filter.1 hmem).2
      have hsucc := below_succ h k
      rw [Int.natCast_succ, hsucc, List.map_append, ih fun j hj => honce j (by omega), hp,
        List.range_succ, List.map_append]
      simp only [List.map_cons, List.map_nil, hposition]

/-- Each parameter stands at its position if the positions are 0, 1, 2 and so on in order. -/
theorem placed_iff {sorted : List Slot} :
    (∀ (i : Nat) (p : Slot), sorted[i]? = some p → p.position = i) ↔
      sorted.map (·.position) = (List.range sorted.length).map fun i : Nat => (i : Int) := by
  constructor
  · intro h
    apply List.ext_getElem
    · simp
    · intro i hi hi'
      have hlt : i < sorted.length := by simpa using hi
      simpa using h i _ (List.getElem?_eq_getElem hlt)
  · intro h i p hp
    obtain ⟨hlt, rfl⟩ := List.getElem?_eq_some_iff.1 hp
    have hget := congrArg (·[i]?) h
    simpa [hlt] using hget

end Slot

/-! ## Places -/

/-- The first place in a list where a parameter stands that has another position. -/
structure FirstMisplaced (sorted : List Slot) (i : Nat) (p : Slot) : Prop where
  there : sorted[i]? = some p
  position_ne : p.position ≠ i
  placed_before : ∀ (j : Nat) (q : Slot), j < i → sorted[j]? = some q → q.position = j

namespace Descriptor

variable {d : Descriptor}

theorem misplaced?_eq_none_iff :
    d.misplaced? = none ↔ ∀ (i : Nat) (p : Slot), d.positional[i]? = some p → p.position = i := by
  refine ⟨fun h _ _ => position_eq_of_misplaced? h, fun h => ?_⟩
  rw [misplaced?, Option.map_eq_none_iff, List.find?_eq_none]
  intro e he
  have hplaced := h e.2 e.1 (List.mem_zipIdx_iff_getElem?.1 he)
  simpa using hplaced

theorem misplaced?_eq_some_iff {p : Slot} :
    d.misplaced? = some p ↔ ∃ i, FirstMisplaced d.positional i p := by
  have hget : ∀ {i : Nat} {e : Slot × Nat}, d.positional.zipIdx[i]? = some e ↔
      d.positional[i]? = some e.1 ∧ e.2 = i := by
    intro i e
    rw [List.getElem?_zipIdx, Option.map_eq_some_iff]
    constructor
    · rintro ⟨q, hq, rfl⟩
      exact ⟨hq, Nat.zero_add i⟩
    · rintro ⟨hq, rfl⟩
      exact ⟨e.1, hq, by rw [Nat.zero_add]⟩
  unfold misplaced?
  simp only [Option.map_eq_some_iff, List.find?_eq_some_iff_getElem]
  constructor
  · rintro ⟨e, ⟨hne, i, hi, he, hbefore⟩, rfl⟩
    obtain ⟨hthere, hplace⟩ := hget.1 (List.getElem?_eq_some_iff.2 ⟨hi, he⟩)
    refine ⟨i, hthere, ?_, fun j q hj hq => ?_⟩
    · simpa [hplace] using hne
    · obtain ⟨hlt, he'⟩ := List.getElem?_eq_some_iff.1 ((hget (e := (q, j))).2 ⟨hq, rfl⟩)
      have hplaced := hbefore j hj
      rw [he'] at hplaced
      simpa using hplaced
  · rintro ⟨i, hthere, hne, hbefore⟩
    obtain ⟨hi, he⟩ := List.getElem?_eq_some_iff.1 ((hget (e := (p, i))).2 ⟨hthere, rfl⟩)
    refine ⟨(p, i), ⟨by simpa using hne, i, hi, he, fun j hj => ?_⟩, rfl⟩
    have hlt : j < d.positional.length := Nat.lt_trans hj (by simpa using hi)
    have hplaced := hbefore j _ hj (List.getElem?_eq_getElem hlt)
    simpa using hplaced

/-- The first mandatory switch stands behind parameters that are none. -/
theorem mandatorySwitch?_eq_some_iff {p : Slot} :
    d.mandatorySwitch? = some p ↔ (p.kind = .bool ∧ p.mandatory = true) ∧
      ∃ before after, d.parameters = before ++ p :: after ∧
        ∀ q ∈ before, ¬ (q.kind = .bool ∧ q.mandatory = true) := by
  have hswitch : ∀ q : Slot, (q.isSwitch && q.mandatory) = true ↔
      q.kind = .bool ∧ q.mandatory = true := by
    intro q
    simp [Parameter.isSwitch]
  rw [mandatorySwitch?, List.find?_eq_some_iff_append]
  simp only [Bool.not_eq_true', ← Bool.not_eq_true, hswitch]

theorem check_error_iff {fault : Fault} :
    d.check = .error fault ↔
      (∃ p, d.misplaced? = some p ∧ fault = .invalidPosition d.displayName p.name p.position) ∨
      d.misplaced? = none ∧
        ∃ p, d.mandatorySwitch? = some p ∧ fault = .mandatorySwitch d.displayName p.name := by
  unfold check
  cases d.misplaced? with
  | some p => simp [eq_comm]
  | none => cases d.mandatorySwitch? <;> simp [eq_comm]

end Descriptor

/-! ## Declared parameters -/

namespace Declaration

/-- The parameters by position with their slots, in the order of declaration. -/
def byPosition (decl : Declaration) : List Slot :=
  (Slot.number decl.parameters).filter (0 ≤ ·.position)

/-- The parameters by name alone with their slots, in the order of declaration. -/
def byName (decl : Declaration) : List Slot :=
  (Slot.number decl.parameters).filter (·.position < 0)

/-- Verb and noun are given, and neither is blank. -/
structure NamedBy (decl : Declaration) (verb noun : String) : Prop where
  given : decl.name? = some (verb, noun)
  verb_not_blank : ¬ Blanks verb.toList
  noun_not_blank : ¬ Blanks noun.toList

/-- The positions are 0, 1, 2 and so on, each of them once, in any order. -/
def WellPlaced (decl : Declaration) : Prop :=
  ((decl.parameters.map (·.position)).filter (0 ≤ ·)).Perm
    ((List.range ((decl.parameters.map (·.position)).filter (0 ≤ ·)).length).map
      fun i : Nat => (i : Int))

variable {decl : Declaration} {verb noun : String}

theorem names_ok_iff : decl.names = .ok (verb, noun) ↔ decl.NamedBy verb noun := by
  have hblank : ∀ s : String, isAllBlank s = true ↔ Blanks s.toList := fun s => List.all_eq_true
  unfold names
  cases hname : decl.name? with
  | none =>
      constructor
      · intro h
        cases h
      · rintro ⟨hgiven, -, -⟩
        rw [hname] at hgiven
        cases hgiven
  | some pair =>
      obtain ⟨verb', noun'⟩ := pair
      simp only
      split
      · rename_i hor
        simp only [Bool.or_eq_true, hblank] at hor
        constructor
        · intro h
          cases h
        · rintro ⟨hgiven, hverb, hnoun⟩
          rw [hname] at hgiven
          cases hgiven
          exact (hor.elim hverb hnoun).elim
      · rename_i hor
        simp only [Bool.or_eq_true, hblank, not_or] at hor
        constructor
        · intro h
          cases h
          exact ⟨hname, hor.1, hor.2⟩
        · rintro ⟨hgiven, -, -⟩
          rw [hname] at hgiven
          cases hgiven
          rfl

theorem names_error_iff {fault : Fault} :
    decl.names = .error fault ↔
      fault = .unnamedCommand decl.typeName ∧ ∀ verb noun, ¬ decl.NamedBy verb noun := by
  cases hnames : decl.names with
  | ok pair =>
      constructor
      · intro h
        cases h
      · rintro ⟨-, hnot⟩
        exact (hnot pair.1 pair.2 (names_ok_iff.1 hnames)).elim
  | error fault' =>
      have hfault : fault' = .unnamedCommand decl.typeName := by
        unfold names at hnames
        split at hnames
        · cases hnames
          rfl
        · split at hnames <;> cases hnames
          rfl
      constructor
      · intro h
        cases h
        refine ⟨hfault, fun verb noun hnamed => ?_⟩
        rw [names_ok_iff.2 hnamed] at hnames
        cases hnames
      · rintro ⟨rfl, -⟩
        rw [hfault]

end Declaration

theorem Slot.number_toParameter (parameters : List Parameter) :
    (Slot.number parameters).map (·.toParameter) = parameters := by
  rw [number, List.map_map]
  exact List.zipIdx_map_fst 0 parameters

theorem Slot.number_ordered (parameters : List Parameter) :
    (Slot.number parameters).Pairwise (·.index < ·.index) := by
  have hrange := List.pairwise_lt_range (n := parameters.length)
  rw [← map_index_number] at hrange
  exact List.pairwise_map.1 hrange

/-- What holds of some of the parameters holds of the same ones with their slots. -/
theorem Slot.filter_number (parameters : List Parameter) (P : Parameter → Bool) :
    ((Slot.number parameters).filter fun p => P p.toParameter).map (·.toParameter) =
      parameters.filter P := by
  have hfilter := List.filter_map (f := Slot.toParameter) (p := P) (l := Slot.number parameters)
  rw [number_toParameter] at hfilter
  exact hfilter.symm

namespace Declaration

variable (decl : Declaration) (verb noun : String)

theorem byPosition_ordered : decl.byPosition.Pairwise (·.index < ·.index) :=
  (Slot.number_ordered decl.parameters).filter _

theorem positional_sortedFrom :
    Slot.SortedFrom decl.byPosition
      (Descriptor.ofParameters verb noun decl.parameters).positional := by
  simp only [Descriptor.ofParameters, List.partition_eq_filter_filter]
  exact Slot.sortByPosition_sortedFrom decl.byPosition_ordered

theorem named_eq : (Descriptor.ofParameters verb noun decl.parameters).named = decl.byName := by
  simp only [Descriptor.ofParameters, List.partition_eq_filter_filter]
  refine List.filter_congr fun p _ => ?_
  simp only [Function.comp_apply, Parameter.isPositional, ← decide_not, Int.not_le]

theorem byPosition_positions :
    decl.byPosition.map (·.position) = (decl.parameters.map (·.position)).filter (0 ≤ ·) := by
  calc decl.byPosition.map (·.position)
      = (decl.byPosition.map (·.toParameter)).map (·.position) := by rw [List.map_map]; rfl
    _ = (decl.parameters.filter (0 ≤ ·.position)).map (·.position) := by
        rw [byPosition, ← Slot.filter_number]
    _ = (decl.parameters.map (·.position)).filter (0 ≤ ·) := by rw [List.filter_map]; rfl

/-- Along the sorted parameters each stands at its position if and only if the positions are 0, 1,
2 and so on. -/
theorem misplaced?_eq_none_iff_wellPlaced :
    (Descriptor.ofParameters verb noun decl.parameters).misplaced? = none ↔ decl.WellPlaced := by
  obtain ⟨hperm, hordered⟩ := decl.positional_sortedFrom verb noun
  have hpositions := hperm.map (·.position)
  rw [decl.byPosition_positions] at hpositions
  have hlength := hpositions.length_eq
  rw [List.length_map] at hlength
  rw [Descriptor.misplaced?_eq_none_iff, Slot.placed_iff, WellPlaced, ← hlength]
  constructor
  · intro hplaced
    exact hpositions.symm.trans (List.Perm.of_eq hplaced)
  · -- Both lists ascend, so the one is the other.
    intro hrange
    refine List.Perm.eq_of_pairwise (fun _ _ _ _ => Int.le_antisymm) ?_ ?_ (hpositions.trans hrange)
    · exact List.pairwise_map.2 (hordered.imp Slot.Before.position_le)
    · refine List.pairwise_map.2 (List.pairwise_lt_range.imp fun hlt => ?_)
      exact Int.ofNat_le.2 (Nat.le_of_lt hlt)

/-- The parameters of a position stand in the sorted list as they are declared. -/
theorem holders_eq {sorted : List Slot} (hsorted : Slot.SortedFrom decl.byPosition sorted)
    (k : Nat) : (sorted.filter (·.position = (k : Int))).map (·.toParameter) =
      decl.parameters.filter (·.position = (k : Int)) := by
  rw [hsorted.filter_eq decl.byPosition_ordered, byPosition, List.filter_filter,
    ← Slot.filter_number]
  congr 1
  refine List.filter_congr fun p _ => ?_
  rw [← Bool.decide_and, decide_eq_decide]
  omega

/-- A position that is held twice, with each lower one held once, is found at its second holder. -/
theorem firstMisplaced_of_repeated {sorted : List Slot}
    (hsorted : Slot.SortedFrom decl.byPosition sorted) {k : Nat} {p₁ p₂ : Parameter}
    {others : List Parameter}
    (hbelow : ∀ j : Nat, j < k → (decl.parameters.filter (·.position = (j : Int))).length = 1)
    (hholders : decl.parameters.filter (·.position = (k : Int)) = p₁ :: p₂ :: others) :
    ∃ p, FirstMisplaced sorted (k + 1) p ∧ p.toParameter = p₂ := by
  have hnonneg : ∀ p ∈ sorted, 0 ≤ p.position := fun p hp =>
    of_decide_eq_true (List.mem_filter.1 (hsorted.perm.mem_iff.1 hp)).2
  have honce : ∀ j : Nat, j < k → (sorted.filter (·.position = (j : Int))).length = 1 := by
    intro j hj
    rw [← hbelow j hj, ← decl.holders_eq hsorted, List.length_map]
  have hlow := Slot.positions_below hsorted.ordered hnonneg honce
  rw [← decl.holders_eq hsorted] at hholders
  obtain ⟨s₁, tail, hsame, -, htail⟩ := List.map_eq_cons_iff.1 hholders
  obtain ⟨s₂, rest, rfl, hs₂, -⟩ := List.map_eq_cons_iff.1 htail
  have hposition : ∀ s ∈ sorted.filter (·.position = (k : Int)), s.position = k :=
    fun s hs => of_decide_eq_true (List.mem_filter.1 hs).2
  rw [hsame] at hposition
  have hsplit := Slot.below_append hsorted.ordered (k + 1)
  rw [Slot.below_succ hsorted.ordered, hsame, List.append_assoc] at hsplit
  generalize sorted.filter (·.position < (k : Int)) = low at hlow hsplit
  generalize sorted.filter ((k : Int) + 1 ≤ ·.position) = high at hsplit
  have hlength : low.length = k := by
    have hlength := congrArg List.length hlow
    simpa using hlength
  refine ⟨s₂, ⟨?_, ?_, ?_⟩, hs₂⟩
  · rw [← hsplit, List.getElem?_append_right (by omega), hlength, Nat.add_sub_cancel_left]
    rfl
  · rw [hposition s₂ (by simp)]
    omega
  · intro j q hj hq
    rw [← hsplit] at hq
    by_cases hjk : j < k
    · rw [List.getElem?_append_left (by omega)] at hq
      have hget := congrArg (·[j]?) hlow
      simpa [hq, hjk] using hget
    · have hjk' : j = k := by omega
      rw [hjk', List.getElem?_append_right (by omega), hlength, Nat.sub_self] at hq
      cases hq
      rw [hposition s₁ (by simp), hjk']

/-- No parameter is a mandatory switch if none of those with slots is. -/
theorem mandatorySwitch?_eq_none_iff :
    (Descriptor.ofParameters verb noun decl.parameters).mandatorySwitch? = none ↔
      ∀ p ∈ decl.parameters, ¬ (p.kind = .bool ∧ p.mandatory = true) := by
  have hmem : ∀ P : Parameter → Prop,
      (∀ p ∈ (Descriptor.ofParameters verb noun decl.parameters).parameters, P p.toParameter) ↔
        ∀ p ∈ decl.parameters, P p := by
    intro P
    rw [← List.forall_mem_map (f := Slot.toParameter)]
    have hperm := (Descriptor.parameters_perm verb noun decl.parameters).map (·.toParameter)
    rw [Slot.number_toParameter] at hperm
    simp only [hperm.mem_iff]
  rw [← hmem fun p => ¬ (p.kind = .bool ∧ p.mandatory = true), Descriptor.mandatorySwitch?,
    List.find?_eq_none]
  simp [Parameter.isSwitch]

end Declaration

/-! ## Accepted and refused -/

namespace Registry

/-- No command has the canonical name. -/
def Free (r : Registry) (name : String) : Prop :=
  ∀ c ∈ r.commands.values, c.descriptor.canonicalName ≠ name

theorem contains_eq_false_iff_free {r : Registry}
    (hkeys : ∀ e ∈ r.commands.entries, e.1 = e.2.descriptor.canonicalName) {name : String} :
    r.commands.contains name = false ↔ r.Free name := by
  rw [Table.contains_eq_false_iff]
  constructor
  · rintro hnone c hc rfl
    rw [(mem_values_iff hkeys).1 hc] at hnone
    cases hnone
  · intro hfree
    cases hfind : r.commands.find? name with
    | none => rfl
    | some c =>
        have hmem := Table.find?_eq_some_iff.1 hfind
        exact absurd (hkeys _ hmem).symm (hfree c (List.mem_map.2 ⟨_, hmem, rfl⟩))

end Registry

namespace Declaration

/-- A declaration that may be added to a registry under a verb and a noun. -/
structure Acceptable (decl : Declaration) (r : Registry) (verb noun : String) : Prop where
  named : decl.NamedBy verb noun
  free : r.Free (upper verb ++ "-" ++ upper noun)
  placed : decl.WellPlaced
  not_mandatory_switch : ∀ p ∈ decl.parameters, ¬ (p.kind = .bool ∧ p.mandatory = true)

/-- Why a declaration may not be added to a registry, where the first reason of these counts. -/
inductive Refused (decl : Declaration) (r : Registry) : Fault → Prop
  /-- It has no name. -/
  | unnamed (h : ∀ verb noun, ¬ decl.NamedBy verb noun) :
      Refused decl r (.unnamedCommand decl.typeName)
  /-- Its name is taken. -/
  | duplicate {verb noun : String} (hnamed : decl.NamedBy verb noun)
      (htaken : ¬ r.Free (upper verb ++ "-" ++ upper noun)) :
      Refused decl r (.duplicateCommand (verb ++ "-" ++ noun))
  /-- The first of the sorted parameters whose place is not its position. -/
  | misplaced {verb noun : String} {sorted : List Slot} {i : Nat} {p : Slot}
      (hnamed : decl.NamedBy verb noun) (hfree : r.Free (upper verb ++ "-" ++ upper noun))
      (hsorted : Slot.SortedFrom decl.byPosition sorted) (hp : FirstMisplaced sorted i p) :
      Refused decl r (.invalidPosition (verb ++ "-" ++ noun) p.name p.position)
  /-- The first mandatory switch, by position and then by name. -/
  | mandatorySwitch {verb noun : String} {sorted before after : List Slot} {p : Slot}
      (hnamed : decl.NamedBy verb noun) (hfree : r.Free (upper verb ++ "-" ++ upper noun))
      (hplaced : decl.WellPlaced) (hsorted : Slot.SortedFrom decl.byPosition sorted)
      (hp : p.kind = .bool ∧ p.mandatory = true)
      (hsplit : sorted ++ decl.byName = before ++ p :: after)
      (hbefore : ∀ q ∈ before, ¬ (q.kind = .bool ∧ q.mandatory = true)) :
      Refused decl r (.mandatorySwitch (verb ++ "-" ++ noun) p.name)

end Declaration

namespace Registry

variable {r : Registry} {decl : Declaration}

theorem register_error_iff {fault : Fault} :
    (r.register decl).2 = .error fault ↔ decl.names = .error fault ∨
      ∃ verb noun, decl.names = .ok (verb, noun) ∧
        let d := Descriptor.ofParameters verb noun decl.parameters
        (r.commands.contains d.canonicalName = true ∧ fault = .duplicateCommand d.displayName) ∨
          r.commands.contains d.canonicalName = false ∧ d.check = .error fault := by
  unfold register
  cases hnames : decl.names with
  | error fault' => simp
  | ok names =>
      obtain ⟨verb, noun⟩ := names
      simp only [reduceCtorEq, false_or, Except.ok.injEq, Prod.mk.injEq]
      constructor
      · intro h
        refine ⟨verb, noun, ⟨rfl, rfl⟩, ?_⟩
        split at h
        · rename_i htaken
          exact .inl ⟨htaken, (Except.error.inj h).symm⟩
        · rename_i hfree
          refine .inr ⟨Bool.eq_false_iff.2 hfree, ?_⟩
          split at h
          · rename_i hcheck
            rw [hcheck, Except.error.inj h]
          · cases h
      · rintro ⟨_, _, ⟨rfl, rfl⟩, ⟨htaken, rfl⟩ | ⟨hfree, hcheck⟩⟩
        · rw [if_pos htaken]
        · rw [if_neg (Bool.eq_false_iff.1 hfree), hcheck]

/-- A declaration that is not added leaves the registry as it was. -/
theorem register_of_error {fault : Fault} (h : (r.register decl).2 = .error fault) :
    r.register decl = (r, .error fault) := by
  obtain ⟨fault', hregister⟩ | ⟨r', d, hregister⟩ := r.register_cases decl
  · rw [hregister] at h ⊢
    rw [← h]
  · rw [hregister] at h
    cases h

/-- A declaration is refused for the first reason that there is. -/
theorem register_error_iff_refused
    (hkeys : ∀ e ∈ r.commands.entries, e.1 = e.2.descriptor.canonicalName) {fault : Fault} :
    (r.register decl).2 = .error fault ↔ decl.Refused r fault := by
  rw [register_error_iff]
  constructor
  · rintro (hnames | ⟨verb, noun, hnames, h⟩)
    · obtain ⟨rfl, hnot⟩ := Declaration.names_error_iff.1 hnames
      exact .unnamed hnot
    · have hnamed := Declaration.names_ok_iff.1 hnames
      have hsorted := decl.positional_sortedFrom verb noun
      rcases h with ⟨htaken, rfl⟩ | ⟨hfree, hcheck⟩
      · refine .duplicate hnamed fun hfree => ?_
        have hnone := (contains_eq_false_iff_free hkeys).2 hfree
        exact Bool.eq_false_iff.1 hnone htaken
      · have hfree := (contains_eq_false_iff_free hkeys).1 hfree
        rcases Descriptor.check_error_iff.1 hcheck with ⟨p, hp, rfl⟩ | ⟨hnone, p, hp, rfl⟩
        · obtain ⟨i, hi⟩ := Descriptor.misplaced?_eq_some_iff.1 hp
          exact .misplaced hnamed hfree hsorted hi
        · have hplaced := (decl.misplaced?_eq_none_iff_wellPlaced verb noun).1 hnone
          obtain ⟨hswitch, before, after, hsplit, hbefore⟩ :=
            Descriptor.mandatorySwitch?_eq_some_iff.1 hp
          rw [Descriptor.parameters, decl.named_eq] at hsplit
          exact .mandatorySwitch hnamed hfree hplaced hsorted hswitch hsplit hbefore
  · intro h
    cases h with
    | unnamed hnot => exact .inl (Declaration.names_error_iff.2 ⟨rfl, hnot⟩)
    | @duplicate verb noun hnamed htaken =>
        refine .inr ⟨verb, noun, Declaration.names_ok_iff.2 hnamed, .inl ⟨?_, rfl⟩⟩
        rw [← Bool.not_eq_false, contains_eq_false_iff_free hkeys]
        exact htaken
    | @misplaced verb noun sorted i p hnamed hfree hsorted hp =>
        have hfree := (contains_eq_false_iff_free hkeys).2 hfree
        rw [hsorted.unique (decl.positional_sortedFrom verb noun)] at hp
        refine .inr ⟨verb, noun, Declaration.names_ok_iff.2 hnamed, .inr ⟨hfree, ?_⟩⟩
        exact Descriptor.check_error_iff.2
          (.inl ⟨p, Descriptor.misplaced?_eq_some_iff.2 ⟨i, hp⟩, rfl⟩)
    | @mandatorySwitch verb noun sorted before after p hnamed hfree hplaced hsorted hp hsplit
        hbefore =>
        have hfree := (contains_eq_false_iff_free hkeys).2 hfree
        have hnone := (decl.misplaced?_eq_none_iff_wellPlaced verb noun).2 hplaced
        rw [hsorted.unique (decl.positional_sortedFrom verb noun), ← decl.named_eq verb noun]
          at hsplit
        refine .inr ⟨verb, noun, Declaration.names_ok_iff.2 hnamed, .inr ⟨hfree, ?_⟩⟩
        exact Descriptor.check_error_iff.2 (.inr ⟨hnone, p,
          Descriptor.mandatorySwitch?_eq_some_iff.2 ⟨hp, before, after, hsplit, hbefore⟩, rfl⟩)

/-- A declaration is added if it may be, under its canonical name. -/
theorem register_ok_iff_acceptable
    (hkeys : ∀ e ∈ r.commands.entries, e.1 = e.2.descriptor.canonicalName) {r' : Registry}
    {d : Descriptor} :
    r.register decl = (r', .ok d) ↔ ∃ verb noun, decl.Acceptable r verb noun ∧
      d = .ofParameters verb noun decl.parameters ∧
      r' = ⟨r.commands.insert (upper verb ++ "-" ++ upper noun) ⟨d, decl⟩⟩ := by
  rw [register_ok_iff]
  constructor
  · rintro ⟨verb, noun, hnames, rfl, hfree, hcheck, rfl⟩
    obtain ⟨hplaced, hswitch⟩ := Descriptor.check_ok_iff.1 hcheck
    exact ⟨verb, noun, ⟨Declaration.names_ok_iff.1 hnames,
      (contains_eq_false_iff_free hkeys).1 hfree,
      (decl.misplaced?_eq_none_iff_wellPlaced verb noun).1 hplaced,
      (decl.mandatorySwitch?_eq_none_iff verb noun).1 hswitch⟩, rfl, rfl⟩
  · rintro ⟨verb, noun, h, rfl, rfl⟩
    refine ⟨verb, noun, Declaration.names_ok_iff.2 h.named, rfl,
      (contains_eq_false_iff_free hkeys).2 h.free, Descriptor.check_ok_iff.2 ⟨?_, ?_⟩, rfl⟩
    · exact (decl.misplaced?_eq_none_iff_wellPlaced verb noun).2 h.placed
    · exact (decl.mandatorySwitch?_eq_none_iff verb noun).2 h.not_mandatory_switch

end Registry

/-- Whatever a registry has come to, a declaration can be added to it exactly if it is named, its
name is free, its positions are 0, 1, 2 and so on and no switch is mandatory.  Otherwise the
registry stays as it is, and the fault is the first of these that there is; where a position is
held twice and each lower one once, it is the fault of the second that was declared. -/
theorem register_accepts_exactly_acceptable (additions : List Addition) (decl : Declaration) :
    let r := Registry.reached additions
    ((r.register decl).2.isOk = true ↔ ∃ verb noun, decl.Acceptable r verb noun) ∧
    (∀ verb noun, decl.Acceptable r verb noun →
      let d := Descriptor.ofParameters verb noun decl.parameters
      r.register decl =
        (⟨r.commands.insert (upper verb ++ "-" ++ upper noun) ⟨d, decl⟩⟩, .ok d)) ∧
    (∀ fault, (r.register decl).2 = .error fault ↔ decl.Refused r fault) ∧
    (∀ fault decls, (r.register decl).2 = .error fault →
      (r.register decl).1 = r ∧ r.add (.command decl) = r ∧
      r.registerAll (decl :: decls) = (r, .error fault)) ∧
    ∀ verb noun (k : Nat) p₁ p₂ others, decl.NamedBy verb noun →
      r.Free (upper verb ++ "-" ++ upper noun) →
      (∀ j : Nat, j < k → (decl.parameters.filter (·.position = (j : Int))).length = 1) →
      decl.parameters.filter (·.position = (k : Int)) = p₁ :: p₂ :: others →
      r.register decl = (r, .error (.invalidPosition (verb ++ "-" ++ noun) p₂.name k)) := by
  intro r
  have hkeys : ∀ e ∈ r.commands.entries, e.1 = e.2.descriptor.canonicalName :=
    fun e he => (Registry.accepted_of_mem_reached additions e he).key_eq
  refine ⟨?_, ?_, fun fault => Registry.register_error_iff_refused hkeys, ?_, ?_⟩
  · constructor
    · intro hok
      obtain ⟨fault, hregister⟩ | ⟨r', d, hregister⟩ := r.register_cases decl
      · rw [hregister] at hok
        cases hok
      · obtain ⟨verb, noun, h, -⟩ := (Registry.register_ok_iff_acceptable hkeys).1 hregister
        exact ⟨verb, noun, h⟩
    · rintro ⟨verb, noun, h⟩
      rw [(Registry.register_ok_iff_acceptable hkeys).2 ⟨verb, noun, h, rfl, rfl⟩]
      rfl
  · intro verb noun h
    exact (Registry.register_ok_iff_acceptable hkeys).2 ⟨verb, noun, h, rfl, rfl⟩
  · intro fault decls h
    have hregister := Registry.register_of_error h
    refine ⟨congrArg Prod.fst hregister, Registry.add_of_register hregister, ?_⟩
    rw [Registry.registerAll, hregister]
  · intro verb noun k p₁ p₂ others hnamed hfree hbelow hholders
    have hsorted := decl.positional_sortedFrom verb noun
    obtain ⟨p, hp, rfl⟩ := decl.firstMisplaced_of_repeated hsorted hbelow hholders
    have hposition : p.position = k := by
      have hmem : p.toParameter ∈ decl.parameters.filter (·.position = (k : Int)) := by
        rw [hholders]
        exact List.mem_cons_of_mem _ List.mem_cons_self
      exact of_decide_eq_true (List.mem_filter.1 hmem).2
    rw [← hposition]
    exact Registry.register_of_error
      ((Registry.register_error_iff_refused hkeys).2 (.misplaced hnamed hfree hsorted hp))

/-- A text, whether it is forced, and two more texts. -/
structure Copying where
  last : String := ""
  second : String := ""
  force : Bool := false
  first : String := ""

/-- A command with many faults: two parameters share a position, another position is left out and a
switch is mandatory. -/
def copyText : Declaration where
  typeName := "CopyText"
  name? := some ("Copy", "Text")
  State := Copying
  initial := {}
  fields :=
    [{ name := "Last", kind := .string, position := 4,
       reach := fun s => (s.last, fun last => { s with last }) },
     { name := "Second", kind := .string, position := 1,
       reach := fun s => (s.second, fun second => { s with second }) },
     { name := "Force", kind := .bool, position := 0, mandatory := true,
       reach := fun s => (s.force, fun force => { s with force }) },
     { name := "First", kind := .string, position := 1,
       reach := fun s => (s.first, fun first => { s with first }) }]
  process := fun _ _ => { result := .ok .null }

/-- The fault is that of the second parameter that was declared for the position. -/
theorem register_copyText_refused :
    (Registry.reached [.stock]).register copyText =
      (Registry.reached [.stock], .error (.invalidPosition "Copy-Text" "First" 1)) := by
  have hnamed : copyText.NamedBy "Copy" "Text" :=
    ⟨rfl, fun h => absurd (h 'C' (by decide)) (by decide),
      fun h => absurd (h 'T' (by decide)) (by decide)⟩
  have hfree : (Registry.reached [.stock]).Free (upper "Copy" ++ "-" ++ upper "Text") := by
    rw [← Registry.contains_eq_false_iff_free fun e he =>
      (Registry.accepted_of_mem_reached [.stock] e he).key_eq]
    decide +kernel
  refine (register_accepts_exactly_acceptable [.stock] copyText).2.2.2.2 "Copy" "Text" 1 _ _ []
    hnamed hfree ?_ rfl
  intro j hj
  obtain rfl : j = 0 := by omega
  rfl

end VerbNoun
