import VerbNoun.Proofs.Statement.LongestPrefix
set_option autoImplicit false

/-!
# LongestMatch: the order of trial makes no difference (SPEC §4.1)

The sorts of statement are tried in a fixed order and the first that reads something is taken.
Some of them start alike: a chain starts with a whole command, and an assignment and a reflection
start with a variable.  But where two sorts read something, the earlier one goes further, so
a choice by length alone, without an order, reads the same.  Of the sorts of argument no two ever
read something at one place.
-/

namespace VerbNoun

open Lang Number Reader Text

namespace Reader

variable {α β : Type}

/-! ## Choices -/

/-- What the first of the readers that reads something reads. -/
def first : List (Reader α) → Reader α
  | [] => fun _ => none
  | r :: rs => r.orElse (first rs)

/-- The place of the reader that a choice in order selects. -/
def selected? (rs : List (Reader α)) (cs : List Char) : Option Nat :=
  rs.findIdx? fun r => (r cs).isSome

/-- How many characters a reader takes, if it reads something. -/
def taken? (r : Reader α) (cs : List Char) : Option Nat :=
  (r cs).map fun result => cs.length - result.2.length

/-- How many characters the reader at a place takes, if it is there and reads something. -/
def takenAt? (rs : List (Reader α)) (cs : List Char) (i : Nat) : Option Nat :=
  rs[i]?.bind fun r => taken? r cs

/-- The reader that a choice in order selects takes more characters than every other that reads
something. -/
def SelectsLongest (rs : List (Reader α)) : Prop :=
  ∀ cs i, selected? rs cs = some i → ∃ r m, rs[i]? = some r ∧ first rs cs = r cs ∧
    taken? r cs = some m ∧ ∀ j n, j ≠ i → takenAt? rs cs j = some n → n < m

/-- No two of the readers read something at one place. -/
def OneReads (rs : List (Reader α)) : Prop :=
  ∀ cs i j m n, takenAt? rs cs i = some m → takenAt? rs cs j = some n → i = j

/-- A choice among readers by length, whatever their order: it reads nothing only where none of
them does, and else it reads what one of them does that takes no fewer characters than any. -/
structure IsLongest (rs : List (Reader α)) (r : Reader α) : Prop where
  reads : ∀ cs, r cs = none → ∀ s ∈ rs, s cs = none
  longest : ∀ cs result, r cs = some result → ∃ s ∈ rs, s cs = some result ∧
    ∀ t ∈ rs, ∀ n, t.taken? cs = some n → ∃ m, s.taken? cs = some m ∧ n ≤ m

/-- A rule of choice: in order, or by length in any way. -/
inductive IsRule (choose : List (Reader α) → Reader α) : Prop
  | inOrder (h : choose = first)
  | byLength (h : ∀ rs, IsLongest rs (choose rs))

theorem orElse_assoc (r s t : Reader α) : (r.orElse s).orElse t = r.orElse (s.orElse t) := by
  funext cs
  cases h : r cs <;> simp [orElse, h]

theorem orElse_nothing (r : Reader α) : r.orElse (fun _ => none) = r := by
  funext cs
  cases h : r cs <;> simp [orElse, h]

theorem first_eq_none_iff {rs : List (Reader α)} {cs : List Char} :
    first rs cs = none ↔ ∀ r ∈ rs, r cs = none := by
  induction rs with
  | nil => simp [first]
  | cons r rs ih =>
      rw [first, List.forall_mem_cons, ← ih]
      cases h : r cs <;> simp [orElse, h]

theorem first_append {before : List (Reader α)} {cs : List Char} (h : ∀ r ∈ before, r cs = none)
    (after : List (Reader α)) : first (before ++ after) cs = first after cs := by
  induction before with
  | nil => rfl
  | cons r before ih =>
      obtain ⟨hr, hbefore⟩ := List.forall_mem_cons.1 h
      rw [List.cons_append, first, orElse_of_none hr, ih hbefore]

/-- What is read in order is read by the first of the readers that reads something. -/
theorem exists_split_of_first {rs : List (Reader α)} {cs : List Char}
    {result : α × List Char} (h : first rs cs = some result) :
    ∃ before r after, rs = before ++ r :: after ∧ (∀ s ∈ before, s cs = none) ∧
      r cs = some result := by
  induction rs with
  | nil => cases h
  | cons r rs ih =>
      rw [first] at h
      cases hr : r cs with
      | some result' =>
          rw [orElse_of_some hr, ← hr] at h
          exact ⟨[], r, rs, rfl, by simp, h⟩
      | none =>
          rw [orElse_of_none hr] at h
          obtain ⟨before, s, after, rfl, hbefore, hs⟩ := ih h
          refine ⟨r :: before, s, after, rfl, ?_, hs⟩
          exact List.forall_mem_cons.2 ⟨hr, hbefore⟩

/-! ## Readers side by side -/

/-- Where both readers read something, the first takes more characters. -/
def Outreads (r s : Reader α) : Prop :=
  ∀ cs m n, r.taken? cs = some m → s.taken? cs = some n → n < m

/-- The two readers read nothing at the same place. -/
def Apart (r : Reader α) (s : Reader β) : Prop := ∀ cs, r cs = none ∨ s cs = none

theorem taken?_eq_none_iff {r : Reader α} {cs : List Char} : r.taken? cs = none ↔ r cs = none :=
  Option.map_eq_none_iff

theorem taken?_of_some {r : Reader α} {cs : List Char} {result : α × List Char}
    (h : r cs = some result) : r.taken? cs = some (cs.length - result.2.length) := by
  rw [taken?, h, Option.map_some]

theorem Apart.symm {r : Reader α} {s : Reader β} (h : Apart r s) : Apart s r :=
  fun cs => (h cs).symm

theorem Apart.outreads {r s : Reader α} (h : Apart r s) : Outreads r s := by
  intro cs m n hr hs
  rcases h cs with hnone | hnone
  · rw [taken?_eq_none_iff.2 hnone] at hr
    cases hr
  · rw [taken?_eq_none_iff.2 hnone] at hs
    cases hs

theorem Apart.map {r : Reader α} {s : Reader β} {γ : Type} (h : Apart r s) (g : α → γ) :
    Apart (r.map g) s :=
  fun cs => (h cs).imp_left map_of_none

theorem takenAt?_eq_some_iff {rs : List (Reader α)} {cs : List Char} {i n : Nat} :
    takenAt? rs cs i = some n ↔ ∃ h : i < rs.length, taken? rs[i] cs = some n := by
  rw [takenAt?, Option.bind_eq_some_iff]
  constructor
  · rintro ⟨r, hr, hn⟩
    obtain ⟨hlt, rfl⟩ := List.getElem?_eq_some_iff.1 hr
    exact ⟨hlt, hn⟩
  · rintro ⟨hlt, hn⟩
    exact ⟨rs[i], List.getElem?_eq_getElem hlt, hn⟩

/-- Where each reader goes further than the later ones, the one that is selected goes furthest. -/
theorem selectsLongest_of_pairwise {rs : List (Reader α)} (h : rs.Pairwise Outreads) :
    SelectsLongest rs := by
  intro cs i hi
  obtain ⟨hlt, hsome, hbefore⟩ := List.findIdx?_eq_some_iff_getElem.1 hi
  have hnone : ∀ j (hj : j < i), rs[j] cs = none := fun j hj => by simpa using hbefore j hj
  obtain ⟨result, hresult⟩ := Option.isSome_iff_exists.1 hsome
  have htaken := taken?_of_some hresult
  have hfirst : first rs cs = rs[i] cs := by
    have hsplit : rs = rs.take i ++ rs[i] :: rs.drop (i + 1) := by
      rw [← List.drop_eq_getElem_cons hlt, List.take_append_drop]
    rw [hresult, hsplit, first_append, first, orElse_of_some hresult]
    intro r hr
    obtain ⟨j, hj, rfl⟩ := List.mem_take_iff_getElem.1 hr
    exact hnone j (by omega)
  refine ⟨rs[i], _, List.getElem?_eq_getElem hlt, hfirst, htaken, fun j n hne hj => ?_⟩
  obtain ⟨hltj, hn⟩ := takenAt?_eq_some_iff.1 hj
  rcases Nat.lt_or_gt_of_ne hne with hji | hij
  · rw [taken?_eq_none_iff.2 (hnone j hji)] at hn
    cases hn
  · exact List.pairwise_iff_getElem.1 h i j hlt hltj hij cs _ n htaken hn

theorem oneReads_of_pairwise {rs : List (Reader α)} (h : rs.Pairwise Apart) : OneReads rs := by
  have hnot : ∀ cs i j m n, i < j → takenAt? rs cs i = some m → takenAt? rs cs j ≠ some n := by
    intro cs i j m n hij hi hj
    obtain ⟨hlti, hm⟩ := takenAt?_eq_some_iff.1 hi
    obtain ⟨hltj, hn⟩ := takenAt?_eq_some_iff.1 hj
    have hapart := List.pairwise_iff_getElem.1 h i j hlti hltj hij
    exact Nat.lt_asymm (hapart.outreads cs m n hm hn) (hapart.symm.outreads cs n m hn hm)
  intro cs i j m n hi hj
  rcases Nat.lt_trichotomy i j with hij | rfl | hji
  · exact absurd hj (hnot cs i j m n hij hi)
  · rfl
  · exact absurd hi (hnot cs j i n m hji hj)

/-! ## One choice in the stead of another -/

theorem IsLongest.perm {rs rs' : List (Reader α)} {r : Reader α} (h : IsLongest rs r)
    (hperm : rs.Perm rs') : IsLongest rs' r := by
  constructor
  · intro cs hnone s hs
    exact h.reads cs hnone s (hperm.mem_iff.2 hs)
  · intro cs result hread
    obtain ⟨s, hs, hresult, hlongest⟩ := h.longest cs result hread
    exact ⟨s, hperm.mem_iff.1 hs, hresult, fun t ht => hlongest t (hperm.mem_iff.2 ht)⟩

/-- Where each reader goes further than the later ones, the choice in order is one by length. -/
theorem isLongest_first {rs : List (Reader α)} (h : rs.Pairwise Outreads) :
    IsLongest rs (first rs) := by
  constructor
  · intro cs hnone
    exact first_eq_none_iff.1 hnone
  · intro cs result hread
    obtain ⟨before, s, after, rfl, hbefore, hs⟩ := exists_split_of_first hread
    have hafter := (List.pairwise_cons.1 (List.pairwise_append.1 h).2.1).1
    refine ⟨s, List.mem_append_right _ List.mem_cons_self, hs, fun t ht n hn => ?_⟩
    refine ⟨_, taken?_of_some hs, ?_⟩
    rcases List.mem_append.1 ht with ht | ht
    · rw [taken?_eq_none_iff.2 (hbefore t ht)] at hn
      cases hn
    · rcases List.mem_cons.1 ht with rfl | ht
      · rw [taken?_of_some hs] at hn
        exact Nat.le_of_eq (Option.some.inj hn).symm
      · exact Nat.le_of_lt (hafter t ht cs _ n (taken?_of_some hs) hn)

/-- Where each reader goes further than the later ones, only one choice by length is there. -/
theorem IsLongest.eq_first {rs : List (Reader α)} {r : Reader α} (hr : IsLongest rs r)
    (h : rs.Pairwise Outreads) : r = first rs := by
  funext cs
  cases hread : r cs with
  | none => exact (first_eq_none_iff.2 (hr.reads cs hread)).symm
  | some result =>
      obtain ⟨t, ht, hresult, hlongest⟩ := hr.longest cs result hread
      cases hfirst : first rs cs with
      | none =>
          rw [first_eq_none_iff.1 hfirst t ht] at hresult
          cases hresult
      | some result' =>
          obtain ⟨before, s, after, rfl, hbefore, hs⟩ := exists_split_of_first hfirst
          have hafter := (List.pairwise_cons.1 (List.pairwise_append.1 h).2.1).1
          have hmem : s ∈ before ++ s :: after := List.mem_append_right _ List.mem_cons_self
          rcases List.mem_append.1 ht with ht | ht
          · rw [hbefore t ht] at hresult
            cases hresult
          · rcases List.mem_cons.1 ht with rfl | ht
            · rw [← hresult, hs]
            · -- A later reader takes fewer characters, so it is not the longest.
              obtain ⟨m, hm, hle⟩ := hlongest s hmem _ (taken?_of_some hs)
              have hlt := hafter t ht cs _ m (taken?_of_some hs) hm
              omega

theorem IsRule.eq_first {choose : List (Reader α) → Reader α} (hchoose : IsRule choose)
    {rs : List (Reader α)} (h : rs.Pairwise Outreads) : choose rs = first rs := by
  cases hchoose with
  | inOrder hfirst => rw [hfirst]
  | byLength hlongest => exact (hlongest rs).eq_first h

/-- Where no two of the readers read something at one place, their order does not count. -/
theorem IsRule.eq_first_of_perm {choose : List (Reader α) → Reader α} (hchoose : IsRule choose)
    {rs rs' : List (Reader α)} (hperm : rs'.Perm rs) (h : rs.Pairwise Apart) :
    choose rs' = first rs := by
  have h' : rs'.Pairwise Apart := h.perm hperm.symm fun hapart => hapart.symm
  have houtread : ∀ ts : List (Reader α), ts.Pairwise Apart → ts.Pairwise Outreads :=
    fun ts hts => hts.imp fun hapart => hapart.outreads
  rw [hchoose.eq_first (houtread rs' h')]
  exact ((isLongest_first (houtread rs' h')).perm hperm).eq_first (houtread rs h)

/-! ## The longest choice -/

/-- Of two results the one that leaves less, the second if both leave the same. -/
def furthest (a b : α × List Char) : α × List Char := if a.2.length < b.2.length then a else b

/-- What the reader that takes most characters reads, the last if there are several. -/
def longest : List (Reader α) → Reader α
  | [] => fun _ => none
  | r :: rs => fun cs => (r cs).merge furthest (longest rs cs)

theorem furthest_spec (a b : α × List Char) : (furthest a b = a ∨ furthest a b = b) ∧
    (furthest a b).2.length ≤ a.2.length ∧ (furthest a b).2.length ≤ b.2.length := by
  unfold furthest
  split
  · exact ⟨.inl rfl, Nat.le_refl _, by omega⟩
  · exact ⟨.inr rfl, by omega, Nat.le_refl _⟩

theorem longest_eq_none {rs : List (Reader α)} {cs : List Char} (h : longest rs cs = none) :
    ∀ r ∈ rs, r cs = none := by
  induction rs with
  | nil => simp
  | cons r rs ih =>
      simp only [longest] at h
      cases hr : r cs with
      | none =>
          rw [hr, Option.merge_none_left] at h
          exact List.forall_mem_cons.2 ⟨hr, ih h⟩
      | some a =>
          rw [hr] at h
          cases hrs : longest rs cs <;> rw [hrs] at h <;> cases h

/-- What the longest choice reads one of the readers reads, and none leaves less. -/
theorem longest_eq_some {rs : List (Reader α)} {cs : List Char} {result : α × List Char}
    (h : longest rs cs = some result) : (∃ r ∈ rs, r cs = some result) ∧
      ∀ r ∈ rs, ∀ other, r cs = some other → result.2.length ≤ other.2.length := by
  induction rs generalizing result with
  | nil => cases h
  | cons r rs ih =>
      simp only [longest] at h
      cases hr : r cs with
      | none =>
          rw [hr, Option.merge_none_left] at h
          obtain ⟨⟨s, hs, hread⟩, hleast⟩ := ih h
          refine ⟨⟨s, List.mem_cons_of_mem r hs, hread⟩, List.forall_mem_cons.2 ⟨?_, hleast⟩⟩
          intro other hother
          rw [hr] at hother
          cases hother
      | some a =>
          cases hrs : longest rs cs with
          | none =>
              rw [hr, hrs] at h
              obtain rfl := Option.some.inj h
              refine ⟨⟨r, List.mem_cons_self, hr⟩, List.forall_mem_cons.2 ⟨?_, ?_⟩⟩
              · intro other hother
                rw [hr] at hother
                cases hother
                exact Nat.le_refl _
              · intro s hs other hother
                rw [longest_eq_none hrs s hs] at hother
                cases hother
          | some b =>
              rw [hr, hrs] at h
              obtain rfl := Option.some.inj h
              obtain ⟨⟨s, hs, hread⟩, hleast⟩ := ih hrs
              obtain ⟨hone, ha, hb⟩ := furthest_spec a b
              refine ⟨?_, List.forall_mem_cons.2 ⟨?_, ?_⟩⟩
              · rcases hone with hone | hone
                · exact ⟨r, List.mem_cons_self, by rw [hone, hr]⟩
                · exact ⟨s, List.mem_cons_of_mem r hs, by rw [hone, hread]⟩
              · intro other hother
                rw [hr] at hother
                cases hother
                exact ha
              · intro t ht other hother
                exact Nat.le_trans hb (hleast t ht other hother)

theorem longest_isLongest (rs : List (Reader α)) : IsLongest rs (longest rs) := by
  constructor
  · intro cs hnone
    exact longest_eq_none hnone
  · intro cs result hread
    obtain ⟨⟨s, hs, hresult⟩, hleast⟩ := longest_eq_some hread
    refine ⟨s, hs, hresult, fun t ht n hn => ⟨_, taken?_of_some hresult, ?_⟩⟩
    obtain ⟨other, hother, rfl⟩ := Option.map_eq_some_iff.1 hn
    have hle := hleast t ht other hother
    omega

/-! ## Reading in two parts -/

/-- Reads one part and then, depending on it, another. -/
def andThen (r : Reader α) (k : α → Reader β) : Reader β := fun cs =>
  (r cs).bind fun part => k part.1 part.2

theorem Consumes.map {r : Reader α} (h : Consumes r) (g : α → β) : Consumes (r.map g) := by
  intro cs b rest hread
  obtain ⟨result, hr, heq⟩ := Option.map_eq_some_iff.1 hread
  obtain ⟨-, rfl⟩ := Prod.mk.inj heq
  exact h cs result.1 result.2 hr

theorem Consumes.many1 {r : Reader α} (h : Consumes r) (g : List α → β) :
    Consumes (r.many1 g) := by
  intro cs b rest hread
  cases hr : r cs with
  | none =>
      rw [many1_of_none hr] at hread
      cases hread
  | some result =>
      rw [many1_of_some h hr, many_of_some h hr] at hread
      cases hread
      exact Nat.lt_of_le_of_lt (length_many_le h _) (h cs result.1 result.2 hr)

/-- A reader that reads on where another stops takes more characters than that one. -/
theorem andThen_outreads {r : Reader α} {k : α → Reader β} (hr : Consumes r)
    (hk : ∀ a, Consumes (k a)) (g : α → β) : Outreads (r.andThen k) (r.map g) := by
  intro cs m n hm hn
  obtain ⟨⟨b, rest⟩, hread, rfl⟩ := Option.map_eq_some_iff.1 hm
  obtain ⟨⟨a, middle⟩, hpart, hrest⟩ := Option.bind_eq_some_iff.1 hread
  rw [taken?_of_some (map_of_some hpart)] at hn
  cases hn
  have hlt := hr cs a middle hpart
  have hlt' := hk a middle b rest hrest
  simp only
  omega

theorem andThen_apart {γ : Type} (r : Reader α) {k : α → Reader β} {k' : α → Reader γ}
    (h : ∀ a, Apart (k a) (k' a)) : Apart (r.andThen k) (r.andThen k') := by
  intro cs
  unfold andThen
  cases r cs with
  | none => exact .inl rfl
  | some part => exact h part.1 part.2

theorem Apart.many1 {r : Reader α} {s : Reader β} {γ : Type} (h : Apart r s) (g : List β → γ) :
    Apart r (s.many1 g) :=
  fun cs => (h cs).imp_right many1_of_none

/-- Behind two different marks nothing is read at the same place. -/
theorem marked_apart {mark mark' : Char} (hne : mark ≠ mark') (r : Reader α) (s : Reader β) :
    Apart (r.marked mark) (s.marked mark') := by
  intro cs
  rw [marked, marked, spaced, spaced]
  cases skipBlanks cs with
  | nil => exact .inl rfl
  | cons c tail =>
      by_cases hc : c = mark
      · exact .inr (after_of_ne (by rwa [hc]) tail)
      · exact .inl (after_of_ne hc tail)

end Reader

/-! ## First characters -/

/-- What the sorts of statement and argument are told apart by. -/
inductive Start where
  | letter
  | dollar
  | quote
  | number
  deriving DecidableEq

/-- The characters of a start. -/
def Start.Includes : Start → Char → Prop
  | .letter, c => startsIdentifier c = true
  | .dollar, c => c = '$'
  | .quote, c => isQuote c = true
  | .number, c => StartsNumber c

theorem Start.unique {k l : Start} {c : Char} (hk : k.Includes c) (hl : l.Includes c) : k = l := by
  have hletter : ∀ l : Start, startsIdentifier c = true → l.Includes c → l = .letter := by
    intro l hc hl
    cases l with
    | letter => rfl
    | dollar => exact absurd hl (startsIdentifier_ne_dollar hc)
    | quote =>
        rw [startsIdentifier_of_isQuote hl] at hc
        cases hc
    | number =>
        rw [StartsNumber.startsIdentifier_eq_false hl] at hc
        cases hc
  have hnumber : ∀ l : Start, StartsNumber c → l.Includes c → l = .number := by
    intro l hc hl
    cases l with
    | letter => exact hletter .number hl hc ▸ rfl
    | dollar => exact absurd hl hc.ne_dollar
    | quote =>
        have hquote : isQuote c = true := hl
        rw [hc.isQuote_eq_false] at hquote
        cases hquote
    | number => rfl
  have hdollar : c = '$' → isQuote c = true → False := by
    rintro rfl hq
    revert hq
    decide
  cases k with
  | letter => exact (hletter l hk hl).symm
  | number => exact (hnumber l hk hl).symm
  | dollar =>
      cases l with
      | letter => exact hletter _ hl hk
      | dollar => rfl
      | quote => exact (hdollar hk hl).elim
      | number => exact hnumber _ hl hk
  | quote =>
      cases l with
      | letter => exact hletter _ hl hk
      | dollar => exact (hdollar hl hk).elim
      | quote => rfl
      | number => exact hnumber _ hl hk

section

variable {α β : Type} {k l : Start}

/-- Whatever the reader reads starts with a character of the start. -/
def Begins (k : Start) (r : Reader α) : Prop :=
  ∀ cs result, r cs = some result → ∃ c ds, cs = c :: ds ∧ k.Includes c

theorem begins_of_sound {L : Lang α} {r : Reader α} (h : Sound L r)
    (hL : ∀ cs a, L cs a → ∃ c ds, cs = c :: ds ∧ k.Includes c) : Begins k r := by
  intro cs result hread
  obtain ⟨front, hfront, ha⟩ := h cs result.1 result.2 hread
  obtain ⟨c, ds, rfl, hc⟩ := hL _ _ ha
  exact ⟨c, ds ++ result.2, hfront, hc⟩

theorem Begins.map {r : Reader α} (h : Begins k r) (g : α → β) : Begins k (r.map g) := by
  intro cs result hread
  obtain ⟨result', hread', -⟩ := Option.map_eq_some_iff.1 hread
  exact h cs result' hread'

theorem Begins.apart {r : Reader α} {s : Reader β} (hr : Begins k r) (hs : Begins l s)
    (hne : k ≠ l) : Apart r s := by
  intro cs
  cases hread : r cs with
  | none => exact .inl rfl
  | some result =>
      right
      cases hread' : s cs with
      | none => rfl
      | some result' =>
          obtain ⟨c, ds, rfl, hc⟩ := hr cs result hread
          obtain ⟨d, ds', heq, hd⟩ := hs _ result' hread'
          cases heq
          exact absurd (Start.unique hc hd) hne

end

theorem identifier_begins : Begins .letter identifier :=
  begins_of_sound identifier_sound fun _ _ => exists_cons_of_identifier

theorem variableName_begins : Begins .dollar variableName := by
  refine begins_of_sound variableName_sound fun cs name h => ?_
  cases h with
  | mk h => exact ⟨'$', _, rfl, rfl⟩

theorem quotedText_begins : Begins .quote quotedText := by
  refine begins_of_sound quotedText_sound fun cs text h => ?_
  obtain ⟨q, body, hq, -, rfl, -⟩ := quotedString_iff.1 h
  exact ⟨q, _, rfl, hq⟩

theorem signedNumber_begins : Begins .number signedNumber :=
  begins_of_sound signedNumber_sound fun _ _ h => exists_cons_of_numberLiteral h.literal

theorem call_begins : Begins .letter call :=
  begins_of_sound call_sound fun _ _ => exists_cons_of_command

/-! ## The sorts of argument -/

/-- The sorts of argument in the order of their trial. -/
def argumentSorts : List (Reader Statement) :=
  [identifier.map .word, flagName.map .flag, variableName.map .var, quotedText.map .quoted,
    signedNumber.map .number]

theorem argument_eq_first : argument = first argumentSorts := by
  simp only [argument, argumentSorts, first, orElse_assoc, orElse_nothing]

/-- A dash starts a flag or a number, and the character behind it tells which. -/
theorem flagName_apart_signedNumber : Apart flagName signedNumber := by
  intro cs
  cases hread : signedNumber cs with
  | none => exact .inr rfl
  | some result =>
      obtain ⟨front, rfl, hfront⟩ := signedNumber_sound cs result.1 result.2 hread
      exact .inl (flagName_literal_eq_none hfront.literal result.2)

theorem flagName_begins : Begins .number flagName := by
  refine begins_of_sound flagName_sound fun cs name h => ?_
  cases h with
  | mk h => exact ⟨'-', _, rfl, .inl rfl⟩

theorem argumentSorts_apart : argumentSorts.Pairwise Apart := by
  have hword := identifier_begins.map Statement.word
  have hflag := flagName_begins.map Statement.flag
  have hvar := variableName_begins.map Statement.var
  have hquoted := quotedText_begins.map Statement.quoted
  have hnumber := signedNumber_begins.map Statement.number
  simp only [argumentSorts, List.pairwise_cons, List.forall_mem_cons, List.not_mem_nil,
    List.Pairwise.nil, false_imp_iff, implies_true, and_true]
  refine ⟨⟨hword.apart hflag ?_, hword.apart hvar ?_, hword.apart hquoted ?_,
      hword.apart hnumber ?_⟩,
    ⟨hflag.apart hvar ?_, hflag.apart hquoted ?_,
      ((flagName_apart_signedNumber.map _).symm.map _).symm⟩,
    ⟨hvar.apart hquoted ?_, hvar.apart hnumber ?_⟩, hquoted.apart hnumber ?_⟩
  all_goals decide

/-! ## The sorts of statement -/

/-- The sorts of operand in the order of their trial, with given readers of chains and commands. -/
def operandSorts (chain : Reader Statement) (command : Reader Call) : List (Reader Statement) :=
  [chain, reflection, command.map .command, variableName.map .var, quotedText.map .quoted,
    signedNumber.map .number]

/-- The sorts of statement in the order of their trial. -/
def statementSorts (assignment chain : Reader Statement) (command : Reader Call) :
    List (Reader Statement) :=
  assignment :: operandSorts chain command

theorem operand_eq_first : operand = first (operandSorts pipeChain call) := by
  simp only [operand, operandSorts, first, orElse_assoc, orElse_nothing]

theorem statement_eq_first : statement = first (statementSorts assignment pipeChain call) := by
  rw [statement, statementSorts, first, ← operand_eq_first]

/-! ## Lines by other rules of choice -/

/-- A command whose arguments are read by a given reader. -/
def commandOf (argument : Reader Statement) : Reader Call :=
  identifier.andThen fun name cs =>
    some (⟨name, (argument.spaced.many cs).1⟩, (argument.spaced.many cs).2)

/-- A chain of commands that are read by a given reader. -/
def chainOf (command : Reader Call) : Reader Statement :=
  command.andThen fun first => (command.marked '|').many1 fun calls => .pipe (first :: calls)

/-- An assignment whose right side is read by a given reader. -/
def assignmentOf (operand : Reader Statement) : Reader Statement :=
  variableName.andThen fun name => (operand.marked '=').map (.assign name)

/-- The statement that a line holds, where statements are read by a given reader. -/
def lineOf (statement : Reader Statement) (line : String) : Except Fault Statement :=
  if line.toList.all isBlank then .error .emptyInput
  else
    (statement (skipBlanks line.toList)).elim
      (.error (stoppedAt line.toList (skipBlanks line.toList)))
      fun result =>
        if skipBlanks result.2 = [] then .ok result.1
        else .error (stoppedAt line.toList (skipBlanks result.2))

theorem call_eq_commandOf : call = commandOf argument := by
  funext cs
  unfold call commandOf andThen
  cases identifier cs <;> rfl

theorem pipeChain_eq_chainOf : pipeChain = chainOf call := by
  funext cs
  unfold pipeChain chainOf andThen
  cases call cs with
  | none => rfl
  | some part =>
      simp only [Option.bind_some, many1]
      cases (call.marked '|').many part.2 with
      | mk calls rest => cases calls <;> rfl

theorem reflection_eq_andThen :
    reflection = variableName.andThen fun name => member.many1 (.reflect name) := by
  funext cs
  unfold reflection andThen
  cases variableName cs with
  | none => rfl
  | some part =>
      simp only [Option.bind_some, many1]
      cases (identifier.marked '.').many part.2 with
      | mk members rest => cases members <;> rfl

theorem assignment_eq_assignmentOf : assignment = assignmentOf operand := by
  funext cs
  unfold assignment assignmentOf andThen
  cases variableName cs <;> rfl

theorem parse_eq_lineOf (line : String) : Statement.parse line = lineOf statement line := by
  unfold Statement.parse lineOf
  simp only
  split
  · rfl
  · cases statement (skipBlanks line.toList) with
    | none => rfl
    | some result =>
        simp only [Option.elim_some]
        cases skipBlanks result.2 <;> rfl

/-- How the choices of the grammar are made. -/
structure ChoiceRules where
  argument : List (Reader Statement) → Reader Statement
  operand : List (Reader Statement) → Reader Statement
  statement : List (Reader Statement) → Reader Statement

namespace ChoiceRules

/-- Each choice is made in order or by length. -/
structure Proper (rules : ChoiceRules) : Prop where
  argument : IsRule rules.argument
  operand : IsRule rules.operand
  statement : IsRule rules.statement

/-- The statement that a line holds if choices are made by the rules and the sorts of argument are
given in some order. -/
def parse (rules : ChoiceRules) (sorts : List (Reader Statement)) (line : String) :
    Except Fault Statement :=
  let command := commandOf (rules.argument sorts)
  let chain := chainOf command
  let assignment := assignmentOf (rules.operand (operandSorts chain command))
  lineOf (rules.statement (statementSorts assignment chain command)) line

end ChoiceRules

/-! ## Which sort goes further -/

theorem Begins.andThen {α β : Type} {k : Start} {r : Reader α} (h : Begins k r)
    (next : α → Reader β) : Begins k (r.andThen next) := by
  intro cs result hread
  obtain ⟨part, hpart, -⟩ := Option.bind_eq_some_iff.1 hread
  exact h cs part hpart

theorem variableName_consumes : Consumes variableName := identifier_consumes.after '$'

theorem pipeChain_begins : Begins .letter pipeChain := by
  rw [pipeChain_eq_chainOf]
  exact call_begins.andThen _

theorem reflection_begins : Begins .dollar reflection := by
  rw [reflection_eq_andThen]
  exact variableName_begins.andThen _

theorem assignment_begins : Begins .dollar assignment := by
  rw [assignment_eq_assignmentOf]
  exact variableName_begins.andThen _

/-- A chain goes on where its first command ends. -/
theorem pipeChain_outreads_call : Outreads pipeChain (call.map .command) := by
  rw [pipeChain_eq_chainOf]
  exact andThen_outreads call_consumes (fun _ => stage_consumes.many1 _) _

theorem reflection_outreads_variable : Outreads reflection (variableName.map .var) := by
  rw [reflection_eq_andThen]
  exact andThen_outreads variableName_consumes (fun _ => member_consumes.many1 _) _

theorem assignment_outreads_variable : Outreads assignment (variableName.map .var) := by
  have hmarked : Consumes (operand.marked '=') := (operand_consumes.spaced.after '=').spaced
  rw [assignment_eq_assignmentOf]
  exact andThen_outreads variableName_consumes (fun _ => hmarked.map _) _

/-- Behind the variable there is an equals sign or a point. -/
theorem assignment_apart_reflection : Apart assignment reflection := by
  rw [assignment_eq_assignmentOf, reflection_eq_andThen]
  refine andThen_apart variableName fun name => ?_
  have hmarks : Apart (operand.marked '=') member := marked_apart (by decide) _ _
  exact (hmarks.map _).many1 _

theorem operandSorts_outread : (operandSorts pipeChain call).Pairwise Outreads := by
  have hpipe := pipeChain_begins
  have hreflection := reflection_begins
  have hcall := call_begins.map Statement.command
  have hvar := variableName_begins.map Statement.var
  have hquoted := quotedText_begins.map Statement.quoted
  have hnumber := signedNumber_begins.map Statement.number
  simp only [operandSorts, List.pairwise_cons, List.forall_mem_cons, List.not_mem_nil,
    List.Pairwise.nil, false_imp_iff, implies_true, and_true]
  refine ⟨⟨(hpipe.apart hreflection ?_).outreads, pipeChain_outreads_call,
      (hpipe.apart hvar ?_).outreads, (hpipe.apart hquoted ?_).outreads,
      (hpipe.apart hnumber ?_).outreads⟩,
    ⟨(hreflection.apart hcall ?_).outreads, reflection_outreads_variable,
      (hreflection.apart hquoted ?_).outreads, (hreflection.apart hnumber ?_).outreads⟩,
    ⟨(hcall.apart hvar ?_).outreads, (hcall.apart hquoted ?_).outreads,
      (hcall.apart hnumber ?_).outreads⟩,
    ⟨(hvar.apart hquoted ?_).outreads, (hvar.apart hnumber ?_).outreads⟩,
    (hquoted.apart hnumber ?_).outreads⟩
  all_goals decide

theorem statementSorts_outread :
    (statementSorts assignment pipeChain call).Pairwise Outreads := by
  have hassignment := assignment_begins
  refine List.pairwise_cons.2 ⟨?_, operandSorts_outread⟩
  simp only [operandSorts, List.forall_mem_cons, List.not_mem_nil, false_imp_iff, implies_true,
    and_true]
  refine ⟨(hassignment.apart pipeChain_begins ?_).outreads, assignment_apart_reflection.outreads,
    (hassignment.apart (call_begins.map _) ?_).outreads, assignment_outreads_variable,
    (hassignment.apart (quotedText_begins.map _) ?_).outreads,
    (hassignment.apart (signedNumber_begins.map _) ?_).outreads⟩
  all_goals decide

/-- Of the sorts of statement and of operand that read something, the choice in order selects the
one that goes furthest, and of the sorts of argument at most one reads something.  So lines are
read the same, with the same faults, if any of the choices is made by length instead and the sorts
of argument are put in any order. -/
theorem ordered_choice_is_longest_match :
    (statement = first (statementSorts assignment pipeChain call) ∧
      SelectsLongest (statementSorts assignment pipeChain call)) ∧
    (operand = first (operandSorts pipeChain call) ∧
      SelectsLongest (operandSorts pipeChain call)) ∧
    (argument = first argumentSorts ∧ OneReads argumentSorts) ∧
    ∀ (rules : ChoiceRules) (sorts : List (Reader Statement)), rules.Proper →
      sorts.Perm argumentSorts → ∀ line, rules.parse sorts line = Statement.parse line := by
  refine ⟨⟨statement_eq_first, selectsLongest_of_pairwise statementSorts_outread⟩,
    ⟨operand_eq_first, selectsLongest_of_pairwise operandSorts_outread⟩,
    ⟨argument_eq_first, oneReads_of_pairwise argumentSorts_apart⟩, ?_⟩
  intro rules sorts hrules hperm line
  -- From the inside out each choice is the one in order, so the next one chooses among the same.
  have hargument : rules.argument sorts = argument := by
    rw [hrules.argument.eq_first_of_perm hperm argumentSorts_apart, argument_eq_first]
  have hoperand : rules.operand (operandSorts pipeChain call) = operand := by
    rw [hrules.operand.eq_first operandSorts_outread, operand_eq_first]
  have hstatement : rules.statement (statementSorts assignment pipeChain call) = statement := by
    rw [hrules.statement.eq_first statementSorts_outread, statement_eq_first]
  simp only [ChoiceRules.parse]
  rw [hargument, ← call_eq_commandOf, ← pipeChain_eq_chainOf, hoperand,
    ← assignment_eq_assignmentOf, hstatement, parse_eq_lineOf]

/-- Choices by length that prefer the last where they may, with the sorts of argument in reverse,
stop at the same place: a flag, a negative number and a second command are told apart. -/
theorem ordered_choice_is_longest_match_reversed :
    ChoiceRules.parse ⟨longest, longest, longest⟩ argumentSorts.reverse "$a = b -c -1 | d $e | =" =
      .error (.incompleteParse "| =" 20) := by
  have hrule : IsRule (longest (α := Statement)) := .byLength longest_isLongest
  rw [ordered_choice_is_longest_match.2.2.2 _ _ ⟨hrule, hrule, hrule⟩
    (List.reverse_perm argumentSorts)]
  rfl

end VerbNoun
